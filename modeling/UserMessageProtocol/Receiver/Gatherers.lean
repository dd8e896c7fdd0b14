import UserMessageProtocol.Receiver.Gathering

/-!
Contract: receive lists that hold what a socket got.

Owns: what the flow of data asks of receive lists (`Gatherer`), and that the plain and the
linked lists give it: the linked ones as long as packets are inserted safely.

Does not own: the packets that come (`Network.Flow`).
-/

set_option autoImplicit false

namespace UserMessageProtocol

open Serial

/-- Nothing was received yet. -/
structure Unstarted {Lists : Type} [ReceiveLists Lists] (u : UMPSocket Lists) (r : Reception) :
    Prop where
  lists : u.lists = ReceiveLists.new
  idle : u.core.rcv.rcvPacketsMsgNum = 0
  delivered : u.core.deliveries = []
  got : r.got = []
  waiting : r.waiting = []

theorem Unstarted.congr {Lists : Type} [ReceiveLists Lists] {u w : UMPSocket Lists} {r : Reception}
    (unstarted : Unstarted u r) (lists : w.lists = u.lists)
    (msgNum : w.core.rcv.rcvPacketsMsgNum = u.core.rcv.rcvPacketsMsgNum)
    (deliveries : w.core.deliveries = u.core.deliveries) : Unstarted w r :=
  ⟨lists.trans unstarted.lists, msgNum.trans unstarted.idle, deliveries.trans unstarted.delivered,
    unstarted.got, unstarted.waiting⟩

/-- What a socket got, seen through its lists, and the packets these can take. -/
structure Gatherer (Lists : Type) [ReceiveLists Lists] where
  gathers : UMPSocket Lists → Reception → Prop
  safely : UMPSocket Lists → UMPPacket → Prop
  nothing : ReceiveLists.recMsgPackets (ReceiveLists.new : Lists) = none
  base : ∀ {u r}, gathers u r → u.core.rcv.theirDataSeqBase = r.base
  ascending : ∀ {u r}, gathers u r → Ascending r.base (r.waiting.map (·.seqNum))
  start : ∀ {u r}, Unstarted u r → u.core.rcv.theirDataSeqBase = r.base → gathers u r
  congr : ∀ {u w r}, gathers u r → w.lists = u.lists → w.core.received = u.core.received →
    gathers w r
  safely_congr : ∀ {u w p}, safely u p → w.lists = u.lists → w.core.rcv = u.core.rcv → safely w p
  receive : ∀ {u r}, gathers u r → (ReceiveLists.recMsgPackets u.lists).isSome →
    gathers (finishReceive u) r
  store : ∀ {u r p}, gathers u r → inReceiveRange u.core.rcv p = true → safely u p →
    (p.seqNum = r.base → r.OneEnd p) → ∃ r', gathers (storePacket u p) r' ∧ r.Takes p r'

/-- Plain lists take every packet. -/
def plainGatherer : Gatherer PlainLists where
  gathers v r := InOrder v ∧ Gathered [] v r
  safely _ _ := True
  nothing := rfl
  base gathers := gathers.2.base
  ascending gathers := gathers.2.ascending
  start := by
    rintro ⟨s, lists⟩ ⟨base, got, waiting⟩ ⟨isNew, idle, delivered, none, nobody⟩ same
    obtain rfl : lists = ReceiveLists.new := isNew
    obtain rfl : got = [] := none
    obtain rfl : waiting = [] := nobody
    exact ⟨inOrder_new idle, same, rfl, .nil _, ⟨Nat.le_refl 0, idle, rfl⟩, .inl rfl, [], delivered,
      by simp, rfl⟩
  congr := by
    rintro u w r ⟨inOrder, gathered⟩ lists received
    have base : w.core.rcv.theirDataSeqBase = u.core.rcv.theirDataSeqBase :=
      congrArg ReceivePart.theirDataSeqBase received
    have msgNum : w.core.rcv.rcvPacketsMsgNum = u.core.rcv.rcvPacketsMsgNum :=
      congrArg ReceivePart.rcvPacketsMsgNum received
    refine ⟨⟨?_, ?_⟩, gathered.congr lists received⟩
    · unfold Arranged
      rw [lists, base, msgNum]
      exact inOrder.arranged
    · rw [lists, msgNum]
      exact inOrder.waiting
  safely_congr _ _ _ := trivial
  receive := by
    rintro u r ⟨inOrder, gathered⟩ user
    refine ⟨finishReceive_inOrder inOrder.arranged, gathered.finish fun none => ?_⟩
    have isNone := (recMsgPackets_isNone u.lists).mpr none
    rw [Option.isNone_iff_eq_none.mp isNone] at user
    cases user
  store := by
    rintro u r p ⟨inOrder, gathered⟩ inRange - oneEnd
    have notBefore := (inReceiveRange_iff.mp inRange).2
    have ahead : 0 ≤ offset r.base p.seqNum := by
      rw [umpCmpInRcvbase_eq, offset_self, gathered.base] at notBefore
      omega
    obtain ⟨r', after, takes⟩ := gathered.store inOrder ahead oneEnd
    exact ⟨r', ⟨storePacket_inOrder inOrder notBefore, after⟩, takes⟩

/-- Linked lists take the packets that are inserted safely. -/
def linkedGatherer : Gatherer GLists where
  gathers := Gathers []
  safely := insertsSafely
  nothing := rfl
  base gathers := gathers.base
  ascending gathers := gathers.ascending
  start := by
    rintro u ⟨base, got, waiting⟩ ⟨isNew, idle, delivered, none, nobody⟩ same
    obtain rfl : got = [] := none
    obtain rfl : waiting = [] := nobody
    obtain rfl : u.core.rcv.theirDataSeqBase = base := same
    have gathers := gathers_new isNew idle
    rwa [delivered] at gathers
  congr gathers := gathers.congr
  safely_congr := by
    intro u w p safely lists rcv
    unfold insertsSafely
    rw [lists, rcv]
    exact safely
  receive gathers := gathers.receive
  store := by
    intro u r p gathers inRange safely oneEnd
    apply gathers.store inRange safely
    intro here
    have passes := oneEnd (here.trans gathers.base)
    unfold Reception.OneEnd Reception.following at passes ⊢
    rw [← gathers.waiting] at passes
    exact passes

end UserMessageProtocol
