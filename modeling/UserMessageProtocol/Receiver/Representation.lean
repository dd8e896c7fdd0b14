import Mathlib.Data.List.Chain
import UserMessageProtocol.Receiver.Heads
import UserMessageProtocol.Receiver.Reassembly

/-!
Contract: what the lists of received packets are between two handlers.

Owns: what well-formed lists are (`WellFormedLists`), the numbers of the packets taken in order
(`Lined`, `InTurn`), the events that keep the lists well formed (`keepsLists`), and the
theorem `wellFormedLists_of_run`.

Does not own: the heads' links (`Receiver.Heads`).
-/

set_option autoImplicit false

namespace UserMessageProtocol

open Serial PlainLists

/-! ### Numbers of the packets taken in order -/

/-- Packets with consecutive numbers up to the one before `base`. -/
def Lined (base : UInt16) (taken : List UMPPacket) : Prop :=
  ∀ (i : Nat) (q : UMPPacket), taken[i]? = some q → q.seqNum = place base ((i : Int) - taken.length)

section Lined

variable {base : UInt16} {taken waiting : List UMPPacket} {p : UMPPacket}

theorem Lined.drop (lined : Lined base taken) (count : Nat) : Lined base (taken.drop count) := by
  intro i q found
  rw [List.getElem?_drop] at found
  have inside : count + i < taken.length := (List.getElem?_eq_some_iff.mp found).1
  rw [lined _ _ found, List.length_drop]
  congr 1
  omega

/-- The packet of the base and those that follow it go on behind. -/
theorem Lined.fill (lined : Lined base taken) (here : p.seqNum = base) :
    Lined (place p.seqNum (consecutive p waiting + 1))
      (taken ++ p :: waiting.take (consecutive p waiting)) := by
  intro i q found
  have bounded := GLists.consecutive_le p waiting
  have length : (taken ++ p :: waiting.take (consecutive p waiting)).length =
      taken.length + (consecutive p waiting + 1) := by
    rw [List.length_append, List.length_cons, List.length_take, Nat.min_eq_left bounded]
  have number : q.seqNum = place base ((i : Int) - taken.length) := by
    by_cases before : i < taken.length
    · rw [List.getElem?_append_left before] at found
      exact lined i q found
    · obtain ⟨j, rfl⟩ : ∃ j, i = taken.length + j := ⟨i - taken.length, by omega⟩
      rw [List.getElem?_append_right (Nat.le_add_right _ _), Nat.add_sub_cancel_left] at found
      have there : ((taken.length + j : Nat) : Int) - taken.length = j := by omega
      rw [there, ← here]
      cases j with
      | zero =>
          rw [List.getElem?_cons_zero] at found
          rw [← Option.some.inj found]
          exact (place_zero _).symm
      | succ j =>
          rw [List.getElem?_cons_succ, List.getElem?_take] at found
          split at found
          · rename_i within
            obtain ⟨inside, same⟩ := List.getElem?_eq_some_iff.mp found
            rw [consecutive_eq] at within
            have next := successors_getElem
              (by rw [List.length_map]; exact inside) within
            rw [List.getElem_map, same] at next
            exact next
          · cases found
  rw [number, here, place_place, length]
  congr 1
  omega

end Lined

section Numbers

variable {v w : UMPSocket PlainLists} {p : UMPPacket}

/-- The packets of a socket in the order of their numbers: those that wait ahead of the
base, those taken right before it, and no more of these than half of all numbers. -/
structure InTurn (v : UMPSocket PlainLists) : Prop where
  waits : Waits v
  lined : Lined v.core.rcv.theirDataSeqBase v.lists.taken
  short : v.lists.taken.length ≤ 32768

/-- Packets at the front are taken away. -/
theorem InTurn.behind (inTurn : InTurn v) (count : Nat)
    (base : w.core.rcv.theirDataSeqBase = v.core.rcv.theirDataSeqBase)
    (taken : w.lists.taken = v.lists.taken.drop count)
    (waiting : w.lists.waiting = v.lists.waiting) : InTurn w := by
  refine ⟨?_, ?_, ?_⟩
  · unfold Waits
    rw [base, waiting]
    exact inTurn.waits
  · rw [base, taken]
    exact inTurn.lined.drop count
  · have short := inTurn.short
    rw [taken, List.length_drop]
    omega

theorem harvest_parts {m : PlainLists} (another : Bool)
    (ordered : m.rcvFirstMsgEnd ≤ m.rcvDataSoFar) :
    (ReceiveLists.harvest another m).taken = m.taken.drop m.rcvFirstMsgEnd ∧
      (ReceiveLists.harvest another m).waiting = m.waiting := by
  by_cases none : m.rcvFirstMsgEnd = 0
  · have same : ReceiveLists.harvest another m = m := if_pos none
    rw [same, none]
    exact ⟨rfl, rfl⟩
  · have plain : ReceiveLists.harvest another m = _ := if_neg none
    rw [plain]
    constructor
    · show (m.rcvDataPackets.drop m.rcvFirstMsgEnd).take (m.rcvDataSoFar - m.rcvFirstMsgEnd) = _
      rw [PlainLists.taken, List.drop_take]
    · show (m.rcvDataPackets.drop m.rcvFirstMsgEnd).drop (m.rcvDataSoFar - m.rcvFirstMsgEnd) = _
      rw [PlainLists.waiting, List.drop_drop]
      congr 1
      omega

theorem finishReceive_inTurn (inTurn : InTurn v)
    (ordered : v.lists.rcvFirstMsgEnd ≤ v.lists.rcvDataSoFar) : InTurn (finishReceive v) := by
  rcases finishReceive_cases v with ⟨-, lists, base, -⟩ | ⟨-, lists, base, -⟩
  · have ⟨taken, waiting⟩ := harvest_parts (m := (joinMessage v).lists)
      (!(v.core.rcv.rcvPacketsMsgNum - 1 < 1)) ordered
    apply inTurn.behind _ base
    · rw [lists]
      exact taken
    · rw [lists]
      exact waiting
  · apply inTurn.behind 0 base
    · rw [lists]
      rfl
    · rw [lists]
      rfl

theorem umpEndReceive_inTurn (inTurn : InTurn v)
    (ordered : v.lists.rcvFirstMsgEnd ≤ v.lists.rcvDataSoFar) : InTurn (umpEndReceive v) := by
  unfold umpEndReceive
  split
  · exact inTurn
  · exact finishReceive_inTurn (v := unlockReceive v) ⟨inTurn.waits, inTurn.lined, inTurn.short⟩
      ordered

theorem countMessage_parts (w : UMPSocket PlainLists) :
    (countMessage w).lists.taken = w.lists.taken ∧
      (countMessage w).lists.waiting = w.lists.waiting ∧
      ReceiveLists.recMsgPackets (countMessage w).lists = ReceiveLists.recMsgPackets w.lists := by
  unfold countMessage
  dsimp only
  split <;> exact ⟨rfl, rfl, rfl⟩

/-- A message is taken for the user with all packets taken in order, or none of these goes
away. -/
theorem umpCheckRcvDataSoFar_inTurn {index : Nat} (arranged : Arranged w index)
    (moved : w.lists.rcvDataSoFar = index + 1)
    (idle : w.lists.recMsgPackets = [] → w.core.rcv.rcvPacketsMsgNum = 0) (waits : Waits w)
    (lined : Lined w.core.rcv.theirDataSeqBase w.lists.taken)
    (short : ¬ (w.lists.recMsgPackets = [] ∧
      (ReceiveLists.soFarPacket w.lists).any endsMessage = true) →
        w.lists.taken.length ≤ 32768) : InTurn (umpCheckRcvDataSoFar w) := by
  obtain ⟨taken, waiting, user⟩ := countMessage_parts w
  have waits' : Waits (countMessage w) := by
    unfold Waits
    rw [waiting]
    exact waits
  rw [umpCheckRcvDataSoFar_eq, user]
  split
  · rename_i ends
    have counting := countMessage_arranged arranged moved ends
    split
    · rename_i user
      have first := idle ((recMsgPackets_isNone _).mp user)
      have harvested := (umpHarvestMessages_inOrder counting.1 counting.2).1
      have marked : (countMessage w).lists.rcvFirstMsgEnd = w.lists.rcvDataSoFar := by
        unfold countMessage
        dsimp only
        rw [first, if_pos (by rfl)]
        rfl
      have parts := harvest_parts (m := (countMessage w).lists)
        (!((countMessage w).core.rcv.rcvPacketsMsgNum - 1 < 1)) counting.1.counted.firstEnd
      have empty : (umpHarvestMessages (countMessage w)).lists.taken = [] := by
        apply parts.1.trans
        rw [marked, taken]
        apply List.drop_eq_nil_of_le
        exact List.length_take_le _ _
      apply umpEndReceive_inTurn _ harvested.arranged.counted.firstEnd
      refine ⟨?_, ?_, ?_⟩
      · unfold Waits
        have same : (umpHarvestMessages (countMessage w)).lists.waiting =
          (countMessage w).lists.waiting := parts.2
        rw [same]
        exact waits'
      · rw [empty]
        intro i q found
        cases found
      · rw [empty]
        exact Nat.zero_le _
    · rename_i some
      refine ⟨waits', ?_, ?_⟩
      · rw [taken]
        exact lined
      · rw [taken]
        exact short fun both => some ((recMsgPackets_isNone _).mpr both.1)
  · rename_i open_
    exact ⟨waits, lined, short fun both => open_ both.2⟩

/-- `rcv_data_so_far` moves to a packet behind those that were counted. -/
theorem moves_arranged (inOrder : InOrder v) (moves : movesSoFar v = true) :
    ∃ index, Arranged (moveSoFar (startMoving v)) index ∧
      (moveSoFar (startMoving v)).lists.rcvDataSoFar = index + 1 := by
  unfold movesSoFar at moves
  unfold startMoving
  cases soFar : ReceiveLists.soFarPacket v.lists with
  | some q =>
      simp only [soFar] at moves ⊢
      exact (inOrder.moving soFar).moved (by rw [moves]; rfl)
  | none =>
      simp only [soFar] at moves ⊢
      exact (inOrder.starting soFar moves).moved rfl

theorem await_parts (inOrder : InOrder v) (packets : List UMPPacket) :
    (v.lists.await packets).taken = v.lists.taken ∧
      (v.lists.await packets).waiting = packets := by
  have length := inOrder.arranged.taken_length
  constructor
  · show (v.lists.taken ++ packets).take v.lists.rcvDataSoFar = _
    rw [← length, List.take_left]
  · show (v.lists.taken ++ packets).drop v.lists.rcvDataSoFar = _
    rw [← length, List.drop_left]

/-- A packet is stored in its turn, if no more than half of all numbers stay in the list. -/
theorem storePacket_inTurn (inOrder : InOrder v) (inTurn : InTurn v)
    (inRange : ¬ umpCmpInRcvbase v.core.rcv p.seqNum v.core.rcv.theirDataSeqBase < 0)
    (short : p.seqNum = v.core.rcv.theirDataSeqBase →
      ¬ (v.lists.recMsgPackets = [] ∧
        (p :: v.lists.waiting)[consecutive p v.lists.waiting]?.any endsMessage = true) →
          v.lists.taken.length + (consecutive p v.lists.waiting + 1) ≤ 32768) :
    InTurn (storePacket v p) := by
  have ahead : 0 ≤ offset v.core.rcv.theirDataSeqBase p.seqNum := by
    rw [umpCmpInRcvbase_eq, offset_self] at inRange
    omega
  have placed := insertPacket_placed (p := p) inOrder inTurn.waits ahead
  generalize inserted : ReceiveLists.insertPacket (circleCompare v.core.rcv.theirDataSeqBase) p
    v.lists = lists at placed
  cases placed with
  | again q waits same =>
      rw [storePacket_none inserted]
      exact inTurn
  | ahead left right waits far ascending =>
      rw [storePacket_some inserted,
        takeInOrder_stays inOrder fun q first => ascending_missing ascending first]
      obtain ⟨taken, waiting⟩ := await_parts inOrder (left ++ p :: right)
      refine ⟨?_, ?_, ?_⟩
      · unfold Waits
        dsimp only
        rw [waiting]
        exact ascending
      · dsimp only
        rw [taken]
        exact inTurn.lined
      · dsimp only
        rw [taken]
        exact inTurn.short
  | next here =>
      rw [storePacket_some inserted, takeInOrder_fills inOrder here]
      obtain ⟨taken, waiting, -⟩ := filled_parts (p := p) inOrder.arranged.within
      have inOrder' : InOrder { v with lists := v.lists.await (p :: v.lists.waiting) } := by
        obtain ⟨ordered, -, sameRec⟩ := inOrder.arranged.insert inRange inserted
        exact ⟨ordered, inOrder.waiting⟩
      obtain ⟨index, arranged, moved⟩ := moves_arranged inOrder' (await_moves inOrder here)
      rw [moveSoFar_fills inOrder here] at arranged moved
      apply umpCheckRcvDataSoFar_inTurn arranged moved inOrder.waiting
      · unfold Waits
        rw [waiting, List.map_drop, consecutive_eq]
        show Ascending (place p.seqNum (consecutive p v.lists.waiting + 1)) _
        rw [consecutive_eq, here]
        exact inTurn.waits.after
      · rw [taken]
        exact inTurn.lined.fill here
      · rw [filled_soFarPacket inOrder p v.lists.waiting, taken, List.length_append,
          List.length_cons, List.length_take,
          Nat.min_eq_left (GLists.consecutive_le p v.lists.waiting)]
        exact short here

end Numbers

/-! ### Well-formed lists -/

open GLists in
/-- The two lists of a socket are `cells` and `recCells`: doubly linked from a head
without `prev`, without a common node; the first in the order of `ump_cmp_in_rcvbase`, with
`rcv_data_so_far` at the packet before `their_data_seq_base`, up to which the numbers are
consecutive, or `NULL` when no packet lies before that base. -/
structure Represents (u : UMPSocket GLists) (cells recCells : List Cell) : Prop where
  chain : Linked u.lists.heap none u.lists.rcvDataPackets cells
  recChain : Linked u.lists.heap none u.lists.recMsgPackets recCells
  apart : ((recCells ++ cells).map Prod.fst).Nodup
  increasing : cells.Pairwise fun x y => umpCmpInRcvbase u.core.rcv x.2.seqNum y.2.seqNum < 0
  soFar :
    (u.lists.rcvDataSoFar = none ∧ ∀ cell ∈ cells,
        ¬ umpCmpInRcvbase u.core.rcv cell.2.seqNum u.core.rcv.theirDataSeqBase < 0) ∨
      ∃ left last right, cells = left ++ last :: right ∧
        u.lists.rcvDataSoFar = some last.1 ∧
        last.2.seqNum = u.core.rcv.theirDataSeqBase - 1 ∧
        (left ++ [last]).IsChain fun x y => x.2.seqNum + 1 = y.2.seqNum

/-- The lists are well formed. -/
def WellFormedLists (u : UMPSocket GLists) : Prop := ∃ cells recCells, Represents u cells recCells

/-- The last packet that is in order with one of the base ends a message, and that is taken
for the user. -/
def handsOver (u : UMPSocket GLists) (p : UMPPacket) : Prop :=
  u.lists.recMsgPackets = none ∧
    (p :: u.lists.waiting)[consecutive p u.lists.waiting]?.any endsMessage = true

/-- A harvest takes all there is, and otherwise no more than half of all numbers stay in
order in the list. -/
def keepsLists (u : UMPSocket GLists) : SockEvent → Prop
  | .handleReceive =>
      u.core.rcv.recLocked = .unlocked → u.core.rcv.recParaLock = false →
        u.core.rcv.receiveCalled = true → u.lists.recMsgPackets ≠ none →
          1 ≤ u.core.rcv.rcvPacketsMsgNum →
            GLists.nextOf u.lists.heap u.lists.rcvFirstMsgEnd = none
  | .dataPacket p =>
      u.core.ctrl.state = .established → inReceiveRange u.core.rcv p = true →
        p.seqNum = u.core.rcv.theirDataSeqBase →
          (handsOver u p → consecutive p u.lists.waiting = u.lists.waiting.length) ∧
            (¬ handsOver u p →
              u.lists.taken.length + (consecutive p u.lists.waiting + 1) ≤ 32768)
  | _ => True

instance (u : UMPSocket GLists) (p : UMPPacket) : Decidable (handsOver u p) := by
  unfold handsOver
  infer_instance

instance (u : UMPSocket GLists) (event : SockEvent) : Decidable (keepsLists u event) :=
  match event with
  | .dataPacket _ => by unfold keepsLists; infer_instance
  | .handleReceive => by unfold keepsLists; infer_instance
  | .userCtrl .. | .userSend .. | .userReceive | .handleCtrl | .handleSend |
    .bufferLoad .. | .ctrlPacket .. | .dataTimeout | .refreshRwnd | .refreshAck | .actReqWnd |
    .ctrlTimeout | .sendCtrlPacket | .heartbeat | .sendData | .sendReset => instDecidableTrue

/-! ### The invariant -/

/-- The lists stand for plain ones in order and in turn, with free heads. -/
def Tidied (u : UMPSocket GLists) : Prop :=
  GLists.HeadsFree u.lists ∧
    ∃ m, GLists.Refines u.lists m ∧ InOrder ⟨u.core, m⟩ ∧ InTurn ⟨u.core, m⟩

section Tidied

variable {u w : UMPSocket GLists} {p : UMPPacket} {event : SockEvent}

theorem Tidied.congr (tidied : Tidied u) (lists : w.lists = u.lists)
    (received : w.core.received = u.core.received) : Tidied w := by
  obtain ⟨free, m, refines, inOrder, inTurn⟩ := tidied
  have base : w.core.rcv.theirDataSeqBase = u.core.rcv.theirDataSeqBase :=
    congrArg ReceivePart.theirDataSeqBase received
  have msgNum : w.core.rcv.rcvPacketsMsgNum = u.core.rcv.rcvPacketsMsgNum :=
    congrArg ReceivePart.rcvPacketsMsgNum received
  refine ⟨lists ▸ free, m, lists ▸ refines, ⟨?_, ?_⟩, inTurn.behind 0 base rfl rfl⟩
  · show PlainLists.Ordered m w.core.rcv.theirDataSeqBase w.core.rcv.rcvPacketsMsgNum _
    rw [base, msgNum]
    exact inOrder.arranged
  · show _ → w.core.rcv.rcvPacketsMsgNum = 0
    rw [msgNum]
    exact inOrder.waiting

/-- Empty lists. -/
theorem tidied_new (lists : u.lists = ReceiveLists.new) (idle : u.core.rcv.rcvPacketsMsgNum = 0) :
    Tidied u := by
  refine ⟨?_, ReceiveLists.new, ?_, inOrder_new idle, .nil _, ?_, Nat.zero_le _⟩
  · rw [lists]
    exact ⟨rfl, rfl⟩
  · rw [lists]
    exact GLists.new_refines
  · intro i q found
    cases found

theorem Tidied.idle (tidied : Tidied u) (none : ReceiveLists.recMsgPackets u.lists = none) :
    u.core.rcv.rcvPacketsMsgNum = 0 := by
  obtain ⟨-, m, refines, inOrder, -⟩ := tidied
  apply inOrder.waiting
  rw [GLists.recMsgPackets_refines refines] at none
  exact (recMsgPackets_isNone m).mp (Option.isNone_iff_eq_none.mpr none)

theorem Tidied.store (tidied : Tidied u) (inRange : inReceiveRange u.core.rcv p = true)
    (kept : p.seqNum = u.core.rcv.theirDataSeqBase →
      (handsOver u p → consecutive p u.lists.waiting = u.lists.waiting.length) ∧
        (¬ handsOver u p →
          u.lists.taken.length + (consecutive p u.lists.waiting + 1) ≤ 32768)) :
    Tidied (storePacket u p) := by
  obtain ⟨free, m, refines, inOrder, inTurn⟩ := tidied
  have notBefore := (inReceiveRange_iff.mp inRange).2
  have follows : Follows u ⟨u.core, m⟩ := ⟨rfl, refines⟩
  have stored := storePacket_follows (p := p) follows inOrder notBefore (.inl free.data)
  have user : u.lists.recMsgPackets = none ↔ m.recMsgPackets = [] := by
    rw [← recMsgPackets_isNone, ← GLists.recMsgPackets_refines refines]
    show _ ↔ (u.lists.recMsgPackets.map _).isNone = true
    rw [Option.isNone_map, Option.isNone_iff_eq_none]
  rw [refines.waiting, refines.taken inOrder.arranged.within] at kept
  unfold handsOver at kept
  rw [refines.waiting, user] at kept
  refine ⟨?_, (storePacket ⟨u.core, m⟩ p).lists, stored.lists, ?_, ?_⟩
  · apply storePacket_headsFree follows free inOrder inTurn.waits notBefore
    intro here none ends
    apply (kept here).1
    rw [GLists.recMsgPackets_refines refines, ← Option.isNone_iff_eq_none, recMsgPackets_isNone]
      at none
    exact ⟨none, ends⟩
  · rw [stored.core]
    exact storePacket_inOrder inOrder notBefore
  · rw [stored.core]
    exact storePacket_inTurn inOrder inTurn notBefore fun here => (kept here).2

theorem Tidied.receive (tidied : Tidied u)
    (all : 1 ≤ u.core.rcv.rcvPacketsMsgNum →
      GLists.nextOf u.lists.heap u.lists.rcvFirstMsgEnd = none) : Tidied (finishReceive u) := by
  obtain ⟨free, m, refines, inOrder, inTurn⟩ := tidied
  have ordered := inOrder.arranged.counted.firstEnd
  have follows : Follows u ⟨u.core, m⟩ := ⟨rfl, refines⟩
  have finished := finishReceive_follows follows ordered
  refine ⟨finishReceive_headsFree free all, (finishReceive ⟨u.core, m⟩).lists, finished.lists, ?_, ?_⟩
  · rw [finished.core]
    exact finishReceive_inOrder inOrder.arranged
  · rw [finished.core]
    exact finishReceive_inTurn inTurn ordered

/-- What a receive call does when the socket picks it up. -/
theorem umpHandleReceive_cases (u : UMPSocket GLists) :
    (u.core.rcv.recLocked = .unlocked ∧ u.core.rcv.recParaLock = false ∧
        u.core.rcv.receiveCalled = true ∧ u.lists.recMsgPackets ≠ none ∧
        umpHandleReceive u = finishReceive u) ∨
      (umpHandleReceive u).lists = u.lists ∧
        (umpHandleReceive u).core.received = u.core.received := by
  unfold umpHandleReceive
  cases locked : u.core.rcv.recLocked with
  | locked => exact .inr ⟨rfl, rfl⟩
  | unlocked =>
      dsimp only
      split
      · exact .inr ⟨rfl, rfl⟩
      · rename_i ready
        split
        · exact .inr ⟨rfl, rfl⟩
        · rename_i called
          split
          · rename_i user
            refine .inl ⟨rfl, (Bool.not_eq_true _).mp ready, (Bool.not_eq_false _).mp called, ?_, rfl⟩
            intro none
            have isSome : (u.lists.recMsgPackets.map fun head =>
              GLists.packetsFrom u.lists.heap u.lists.fresh (some head)).isSome = true := user
            rw [none] at isSome
            cases isSome
          · split
            · exact .inr ⟨rfl, act_received _ rfl⟩
            · exact .inr ⟨rfl, rfl⟩

theorem Tidied.step (tidied : Tidied u) (kept : keepsLists u event)
    (fresh : ∀ p, event = .ctrlPacket p → TakesSyn u.core.handshake p →
      u.lists = ReceiveLists.new) : Tidied (sockStep u event) := by
  have step := receive_step u event
  generalize after : sockStep u event = w at step ⊢
  cases step with
  | idle event unheard untaken same acks => exact tidied.congr same.lists same.received
  | syn p taken lists received acks =>
      have empty := fresh p rfl taken
      apply tidied_new (lists.trans empty)
      have msgNum : w.core.rcv.rcvPacketsMsgNum = u.core.rcv.rcvPacketsMsgNum :=
        congrArg ReceivePart.rcvPacketsMsgNum received
      rw [msgNum]
      exact tidied.idle (by rw [empty]; rfl)
  | tell owed same acks => exact tidied.congr same.lists same.received
  | told same acks => exact tidied.congr same.lists same.received
  | beat established same acks => exact tidied.congr same.lists same.received
  | receive user finished =>
      have after' : umpHandleReceive u = w := after
      rcases umpHandleReceive_cases u with ⟨unlocked, ready, called, some, -⟩ | ⟨lists, received⟩
      · rw [finished]
        exact tidied.receive (kept unlocked ready called some)
      · rw [after'] at lists received
        exact tidied.congr lists received
  | dropped p outside same acks => exact tidied.congr same.lists same.received
  | stored p established inRange v same rcv acks stored =>
      have before : Tidied v := tidied.congr same.lists same.received
      rw [stored]
      apply before.store
      · rw [rcv]
        exact inRange
      · unfold handsOver
        rw [rcv, same.lists]
        exact kept established inRange

theorem tidied_of_run {seq : UInt16} {clock : Clock} {events : List SockEvent}
    (run : (sockMachine GLists).RunWhere keepsLists (umpSockNew GLists seq clock) events u) :
    Tidied u := by
  induction run with
  | stay => exact tidied_new rfl rfl
  | go run _ kept inductionHypothesis =>
      have serving := (serving_of_run run.toRun).2
      exact inductionHypothesis.step kept fun p _ taken => (serving.fresh taken.fresh).1

/-- How far behind the base a packet taken in order lies. -/
theorem InTurn.taken_offset {v : UMPSocket PlainLists} (inTurn : InTurn v) {i : Nat} {q : UMPPacket}
    (found : v.lists.taken[i]? = some q) :
    offset v.core.rcv.theirDataSeqBase q.seqNum = (i : Int) - v.lists.taken.length := by
  have inside : i < v.lists.taken.length := (List.getElem?_eq_some_iff.mp found).1
  have short := inTurn.short
  rw [inTurn.lined i q found]
  exact offset_place _ (by omega) (by omega)

theorem InTurn.increasing {v : UMPSocket PlainLists} (inTurn : InTurn v) :
    v.lists.rcvDataPackets.Pairwise fun x y =>
      umpCmpInRcvbase v.core.rcv x.seqNum y.seqNum < 0 := by
  rw [← taken_append_waiting, List.pairwise_append]
  refine ⟨?_, ?_, ?_⟩
  · rw [List.pairwise_iff_getElem]
    intro i j first second before
    have here := inTurn.taken_offset (List.getElem?_eq_getElem first)
    have there := inTurn.taken_offset (List.getElem?_eq_getElem second)
    rw [umpCmpInRcvbase_eq]
    omega
  · have grows := inTurn.waits.increasing
    rw [List.pairwise_map] at grows
    apply grows.imp
    intro x y before
    rw [umpCmpInRcvbase_eq]
    omega
  · intro x inTaken y waits
    obtain ⟨i, inside, found⟩ := List.getElem_of_mem inTaken
    have here := inTurn.taken_offset (List.getElem?_eq_some_iff.mpr ⟨inside, found⟩)
    have ahead := inTurn.waits.ahead _ (List.mem_map_of_mem waits)
    rw [umpCmpInRcvbase_eq]
    omega

open GLists in
theorem Tidied.wellFormed (tidied : Tidied u) : WellFormedLists u := by
  obtain ⟨free, m, refines, inOrder, inTurn⟩ := tidied
  obtain ⟨cells, recCells, shape⟩ := refines.shape free
  refine ⟨cells, recCells, shape.chain, shape.recChain, shape.apart, ?_, ?_⟩
  · have increasing := inTurn.increasing
    rw [shape.packets, List.pairwise_map] at increasing
    exact increasing
  · cases count : m.rcvDataSoFar with
    | zero =>
        left
        have soFar := shape.soFar
        rw [count] at soFar
        refine ⟨soFar, ?_⟩
        intro cell member
        have waits : cell.2 ∈ m.waiting := by
          rw [PlainLists.waiting, count, List.drop_zero, shape.packets]
          exact List.mem_map_of_mem member
        have ahead := inTurn.waits.ahead _ (List.mem_map_of_mem waits)
        rw [umpCmpInRcvbase_eq, offset_self]
        dsimp only at ahead
        omega
    | succ index =>
        right
        have inside := shape.soFarIn
        have soFar := shape.soFar
        have packets := shape.packets
        rw [count] at inside soFar
        obtain ⟨left, last, right, split, atIndex⟩ := exists_place inside
        subst split atIndex
        rw [pointerAt_left] at soFar
        have taken : m.taken = (left ++ [last]).map Prod.snd := by
          rw [PlainLists.taken, packets, count, ← List.map_take]
          congr 1
          rw [← List.singleton_append, ← List.append_assoc]
          exact List.take_left' (by simp)
        refine ⟨left, last, right, rfl, soFar, ?_, ?_⟩
        · have next : last.2.seqNum + 1 = u.core.rcv.theirDataSeqBase := by
            apply inOrder.arranged.taken_last
            rw [taken]
            simp
          rw [← next, UInt16.add_sub_cancel]
        · have chain : m.taken.IsChain fun x y => x.seqNum + 1 = y.seqNum := by
            rw [List.isChain_iff_getElem]
            intro i further
            have inside : i < m.taken.length := by omega
            rw [inTurn.lined i _ (List.getElem?_eq_getElem inside),
              inTurn.lined (i + 1) _ (List.getElem?_eq_getElem further), place_add_one]
            congr 1
            push_cast
            ring
          rw [taken, List.isChain_map] at chain
          exact chain

end Tidied

/-- The lists are well formed in every state of a run in which every harvest takes all there
is. -/
theorem wellFormedLists_of_run {seq : UInt16} {clock : Clock} {events : List SockEvent}
    {u : UMPSocket GLists}
    (run : (sockMachine GLists).RunWhere keepsLists (umpSockNew GLists seq clock) events u) :
    WellFormedLists u := (tidied_of_run run).wellFormed

/-- The theorem holds of two messages out of order, the first of two packets; the second one
stays for the next call. -/
theorem wellFormedLists_shortStream :
    WellFormedLists ((sockMachine GLists).after (umpSockNew GLists 100 ⟨fun _ => ⟨0, 0⟩, 0⟩)
      (passiveOpen 7 100 ++ shortStreamRun)) :=
  wellFormedLists_of_run (Machine.runWhere_of_check (by decide +kernel))

/-- Data packets and receive calls. -/
def isReceiving : SockEvent → Bool
  | .dataPacket _ | .userReceive | .handleReceive => true
  | _ => false

/-- The third message comes before the first one. -/
def aheadRun : List SockEvent := [.dataPacket (dataMessage 9), .dataPacket (dataMessage 7)]

/-- The first message is taken for the user, and `prev` of the third one's node still points
to it. -/
theorem wellFormedLists_fails :
    ¬ ∀ (seq : UInt16) (clock : Clock) (opening events : List SockEvent)
      (start u : UMPSocket GLists),
      (sockMachine GLists).Run (umpSockNew GLists seq clock) opening start →
        start.core.ctrl.state = .established →
          (sockMachine GLists).RunWhere (fun _ event => isReceiving event = true) start events u →
            WellFormedLists u := by
  intro always
  have opened : (sockMachine GLists).Run (umpSockNew GLists 100 ⟨fun _ => ⟨0, 0⟩, 0⟩)
      (passiveOpen 7 100) openedReceiver := Machine.runWhere_of_check (by decide +kernel)
  have run : (sockMachine GLists).RunWhere (fun _ event => isReceiving event = true)
      openedReceiver aheadRun _ := Machine.runWhere_of_check (by decide +kernel)
  obtain ⟨cells, recCells, represents⟩ := always _ _ _ _ _ _ opened (by decide) run
  have free := represents.chain.prevOf_head rfl
  exact absurd free (by decide +kernel)

end UserMessageProtocol
