import UserMessageProtocol.Foundation.Cuts
import UserMessageProtocol.Receiver.Deliveries
import UserMessageProtocol.Receiver.Storing

/-!
Contract: complete messages are counted and taken apart exactly while no end of a
message is passed over.

Owns: the exact count (`Exact`), what a receiver has got in order (`Gathered`), the
condition under which a gap fill passes over no end (`OneEnd`), and what each operation
makes of them.

Does not own: which packets come (`Receiver.Reassembly`).
-/

set_option autoImplicit false

namespace UserMessageProtocol

open Serial Cuts

/-- The packet ends a message. -/
def endsMessage (p : UMPPacket) : Bool := uPacketGetFlag p UP_DATA_BDR

namespace PlainLists

/-! ### First ends -/

section Ends

variable {packets more : List UMPPacket}

theorem messageEnds_append (packets more : List UMPPacket) :
    messageEnds (packets ++ more) = messageEnds packets + messageEnds more := List.countP_append

theorem messageEnds_eq_zero : messageEnds packets = 0 ↔ ∀ p ∈ packets, endsMessage p = false := by
  unfold messageEnds
  rw [List.countP_eq_zero]
  simp [endsMessage]

theorem firstBdr_of_none (none : messageEnds packets = 0) : firstBdr packets = 0 := by
  induction packets with
  | nil => rfl
  | cons p rest inductionHypothesis =>
      rw [messageEnds_eq_zero] at none
      have plain : uPacketGetFlag p UP_DATA_BDR = false := none p List.mem_cons_self
      rw [firstBdr_cons, plain, if_neg (by decide), if_pos]
      apply inductionHypothesis
      exact messageEnds_eq_zero.mpr fun q member => none q (List.mem_cons_of_mem _ member)

theorem firstBdr_append (some : 0 < messageEnds packets) :
    firstBdr (packets ++ more) = firstBdr packets := by
  induction packets with
  | nil => cases some
  | cons p rest inductionHypothesis =>
      rw [List.cons_append, firstBdr_cons, firstBdr_cons]
      by_cases bdr : uPacketGetFlag p UP_DATA_BDR = true
      · rw [if_pos bdr, if_pos bdr]
      · rw [if_neg bdr, if_neg bdr, inductionHypothesis]
        rw [messageEnds, List.countP_cons, if_neg bdr] at some
        exact some

/-- The first end of a list lies in it, and the others behind it. -/
theorem firstBdr_within (some : 0 < messageEnds packets) :
    1 ≤ firstBdr packets ∧ firstBdr packets ≤ packets.length ∧
      messageEnds packets = 1 + messageEnds (packets.drop (firstBdr packets)) := by
  have all : packets.take packets.length = packets := List.take_length
  have some' : 0 < messageEnds (packets.take packets.length) := by
    rw [all]
    exact some
  have counts := firstBdr_counts some'
  rw [all, ← List.length_drop, List.take_length] at counts
  exact counts

/-- The packets up to the first end are one message. -/
theorem take_firstBdr (some : 0 < messageEnds packets) :
    Closed endsMessage (packets.take (firstBdr packets)) := by
  induction packets with
  | nil => cases some
  | cons p rest inductionHypothesis =>
      rw [firstBdr_cons]
      by_cases bdr : uPacketGetFlag p UP_DATA_BDR = true
      · rw [if_pos bdr]
        exact ⟨[], p, rfl, bdr, by simp⟩
      · rw [messageEnds, List.countP_cons, if_neg bdr] at some
        have later : 0 < messageEnds rest := some
        have first := (firstBdr_within later).1
        rw [if_neg bdr, if_neg (Nat.ne_of_gt first), List.take_succ_cons]
        obtain ⟨front, last, split, ended, others⟩ := inductionHypothesis later
        refine ⟨p :: front, last, by rw [split]; rfl, ended, ?_⟩
        intro q member
        rcases List.mem_cons.mp member with rfl | member
        · exact (Bool.not_eq_true _).mp bdr
        · exact others q member

theorem firstBdr_single {last : UMPPacket} (none : messageEnds packets = 0)
    (ended : endsMessage last = true) : firstBdr (packets ++ [last]) = packets.length + 1 := by
  induction packets with
  | nil =>
      have bdr : uPacketGetFlag last UP_DATA_BDR = true := ended
      rw [List.nil_append, firstBdr_cons, if_pos bdr]
      rfl
  | cons p rest inductionHypothesis =>
      rw [messageEnds_eq_zero] at none
      have plain : uPacketGetFlag p UP_DATA_BDR = false := none p List.mem_cons_self
      have later := inductionHypothesis
        (messageEnds_eq_zero.mpr fun q member => none q (List.mem_cons_of_mem _ member))
      rw [List.cons_append, firstBdr_cons, plain, if_neg (by decide), later,
        if_neg (Nat.succ_ne_zero _)]
      rfl

/-- What has no end behind a list does not move its first end. -/
theorem firstBdr_append_none (none : messageEnds more = 0) :
    firstBdr (packets ++ more) = firstBdr packets := by
  by_cases some : 0 < messageEnds packets
  · exact firstBdr_append some
  · have none' : messageEnds packets = 0 := by omega
    rw [firstBdr_of_none none', firstBdr_of_none]
    rw [messageEnds_append]
    omega

theorem messageEnds_single (p : UMPPacket) :
    messageEnds [p] = if endsMessage p = true then 1 else 0 := List.countP_singleton

end Ends

/-! ### The count -/

/-- All ends among the packets taken in order are counted, and the first one is known. -/
structure Exact (m : PlainLists) (msgNum : Int) : Prop where
  within : m.rcvDataSoFar ≤ m.rcvDataPackets.length
  counted : msgNum = messageEnds m.taken
  firstEnd : m.rcvFirstMsgEnd = firstBdr m.taken

section Exact

variable {m : PlainLists} {msgNum : Int}

/-- A harvest takes the first message, and what is behind it is still counted. -/
theorem Exact.harvest (exact : Exact m msgNum) (positive : 0 < msgNum) :
    Exact (ReceiveLists.harvest (!(msgNum - 1 < 1)) m) (msgNum - 1) ∧
      Closed endsMessage (ReceiveLists.harvest (!(msgNum - 1 < 1)) m).recMsgPackets ∧
      (ReceiveLists.harvest (!(msgNum - 1 < 1)) m).recMsgPackets ++
          (ReceiveLists.harvest (!(msgNum - 1 < 1)) m).taken = m.taken ∧
      (ReceiveLists.harvest (!(msgNum - 1 < 1)) m).waiting = m.waiting := by
  have counted := exact.counted
  have some : 0 < messageEnds m.taken := by omega
  have length : m.taken.length = m.rcvDataSoFar := List.length_take_of_le exact.within
  obtain ⟨first, inside, counts⟩ := firstBdr_within some
  rw [← exact.firstEnd] at first inside counts
  have plain : ReceiveLists.harvest (!(msgNum - 1 < 1)) m = _ :=
    if_neg (Nat.ne_of_gt (Nat.lt_of_succ_le first))
  rw [plain]
  have behind : (m.rcvDataPackets.drop m.rcvFirstMsgEnd).take (m.rcvDataSoFar - m.rcvFirstMsgEnd) =
      m.taken.drop m.rcvFirstMsgEnd := by
    rw [PlainLists.taken, List.drop_take]
  have front : m.rcvDataPackets.take m.rcvFirstMsgEnd = m.taken.take m.rcvFirstMsgEnd := by
    rw [PlainLists.taken, List.take_take, Nat.min_eq_left (length ▸ inside)]
  refine ⟨⟨?_, ?_, ?_⟩, ?_, ?_, ?_⟩
  · show m.rcvDataSoFar - m.rcvFirstMsgEnd ≤ (m.rcvDataPackets.drop m.rcvFirstMsgEnd).length
    rw [List.length_drop]
    have within := exact.within
    omega
  · show msgNum - 1 = messageEnds (List.take _ (List.drop _ _))
    rw [behind]
    omega
  · show (if !decide (msgNum - 1 < 1) then firstBdr (m.rcvDataPackets.drop m.rcvFirstMsgEnd) else 0) =
      firstBdr (List.take _ (List.drop _ _))
    rw [behind]
    by_cases alone : msgNum - 1 < 1
    · rw [decide_eq_true alone, Bool.not_true, if_neg (by decide), firstBdr_of_none]
      omega
    · rw [decide_eq_false alone, Bool.not_false, if_pos rfl]
      have whole : m.rcvDataPackets.drop m.rcvFirstMsgEnd =
          m.taken.drop m.rcvFirstMsgEnd ++ m.waiting := by
        rw [← List.drop_append_of_le_length inside, taken_append_waiting]
      rw [whole, firstBdr_append]
      omega
  · show Closed endsMessage (m.rcvDataPackets.take m.rcvFirstMsgEnd)
    rw [front, exact.firstEnd]
    exact take_firstBdr some
  · show m.rcvDataPackets.take m.rcvFirstMsgEnd ++ List.take _ (List.drop _ _) = m.taken
    rw [behind, front, List.take_append_drop]
  · show (m.rcvDataPackets.drop m.rcvFirstMsgEnd).drop (m.rcvDataSoFar - m.rcvFirstMsgEnd) =
      m.rcvDataPackets.drop m.rcvDataSoFar
    rw [List.drop_drop]
    congr 1
    omega

end Exact

end PlainLists

/-! ### What was got in order -/

section Sockets

open PlainLists

/-- A receiver as its peer sees it: the number it waits for, the packets it got in order
and those it got ahead of their turn. -/
structure Reception where
  base : UInt16
  got : List UMPPacket
  waiting : List UMPPacket

namespace Reception

variable (r : Reception) (p : UMPPacket)

/-- How many of the packets that wait follow a packet. -/
def following : Nat := consecutive p r.waiting

/-- The packet of the base came. -/
def fill : Reception where
  base := place r.base (r.following p + 1)
  got := r.got ++ p :: r.waiting.take (r.following p)
  waiting := r.waiting.drop (r.following p)

/-- None of the packets that become in order with a packet, but perhaps the last one, ends
a message. -/
def OneEnd : Prop := ∀ q ∈ (p :: r.waiting.take (r.following p)).dropLast, endsMessage q = false

/-- What a packet at or ahead of the base does. -/
inductive Takes : Reception → Prop where
  | again (q : UMPPacket) (waits : q ∈ r.waiting) (same : q.seqNum = p.seqNum) : Takes r
  | ahead (left right : List UMPPacket) (waits : r.waiting = left ++ right)
      (far : 0 < offset r.base p.seqNum) : Takes { r with waiting := left ++ p :: right }
  | next (here : p.seqNum = r.base) : Takes (r.fill p)

end Reception

variable {v : UMPSocket PlainLists} {p : UMPPacket} {old : List (List UMPPacket)} {r : Reception}

/-- The messages delivered since `old`, the one for the user and the packets taken in
order are those that `r` got. -/
structure Gathered (old : List (List UMPPacket)) (v : UMPSocket PlainLists) (r : Reception) :
    Prop where
  base : v.core.rcv.theirDataSeqBase = r.base
  waiting : v.lists.waiting = r.waiting
  ascending : Ascending r.base (r.waiting.map (·.seqNum))
  exact : Exact v.lists v.core.rcv.rcvPacketsMsgNum
  user : v.lists.recMsgPackets = [] ∨ Closed endsMessage v.lists.recMsgPackets
  delivered : ∃ delivered, v.core.deliveries = delivered ++ old ∧
    (∀ message ∈ delivered, Closed endsMessage message) ∧
    r.got = delivered.reverse.flatten ++ (v.lists.recMsgPackets ++ v.lists.taken)

theorem Gathered.waits (gathered : Gathered old v r) : Waits v := by
  unfold Waits
  rw [gathered.base, gathered.waiting]
  exact gathered.ascending

/-- What is the same in two sockets that gathered the same. -/
theorem Gathered.congr {w : UMPSocket PlainLists} (gathered : Gathered old v r)
    (lists : w.lists = v.lists) (received : w.core.received = v.core.received) :
    Gathered old w r := by
  have base : w.core.rcv.theirDataSeqBase = v.core.rcv.theirDataSeqBase :=
    congrArg ReceivePart.theirDataSeqBase received
  have msgNum : w.core.rcv.rcvPacketsMsgNum = v.core.rcv.rcvPacketsMsgNum :=
    congrArg ReceivePart.rcvPacketsMsgNum received
  have deliveries : w.core.deliveries = v.core.deliveries :=
    congrArg ReceivePart.deliveries received
  refine ⟨base.trans gathered.base, ?_, gathered.ascending, ?_, ?_, ?_⟩
  · rw [lists]
    exact gathered.waiting
  · rw [lists, msgNum]
    exact gathered.exact
  · rw [lists]
    exact gathered.user
  · rw [lists, deliveries]
    exact gathered.delivered

theorem Gathered.harvest (gathered : Gathered old v r) (positive : 0 < v.core.rcv.rcvPacketsMsgNum)
    (none : v.lists.recMsgPackets = []) : Gathered old (umpHarvestMessages v) r := by
  have ⟨exact, closed, same, waiting⟩ := gathered.exact.harvest positive
  obtain ⟨delivered, deliveries, messages, all⟩ := gathered.delivered
  rw [none, List.nil_append] at all
  refine ⟨gathered.base, waiting.trans gathered.waiting, gathered.ascending, exact, .inr closed,
    delivered, deliveries, messages, ?_⟩
  rw [all]
  exact congrArg _ same.symm

/-- The lists and numbers behind the delivery of a message. -/
theorem finishReceive_cases (v : UMPSocket PlainLists) :
    v.core.rcv.rcvPacketsMsgNum ≥ 1 ∧
        (finishReceive v).lists = (umpHarvestMessages (joinMessage v)).lists ∧
        (finishReceive v).core.rcv.theirDataSeqBase = v.core.rcv.theirDataSeqBase ∧
        (finishReceive v).core.rcv.rcvPacketsMsgNum = v.core.rcv.rcvPacketsMsgNum - 1 ∨
      v.core.rcv.rcvPacketsMsgNum < 1 ∧ (finishReceive v).lists = (joinMessage v).lists ∧
        (finishReceive v).core.rcv.theirDataSeqBase = v.core.rcv.theirDataSeqBase ∧
        (finishReceive v).core.rcv.rcvPacketsMsgNum = v.core.rcv.rcvPacketsMsgNum := by
  show _ ∧ (umpEndReceiveInternal v).lists = _ ∧
      (umpEndReceiveInternal v).core.rcv.theirDataSeqBase = _ ∧
      (umpEndReceiveInternal v).core.rcv.rcvPacketsMsgNum = _ ∨
    _ ∧ (umpEndReceiveInternal v).lists = _ ∧
      (umpEndReceiveInternal v).core.rcv.theirDataSeqBase = _ ∧
      (umpEndReceiveInternal v).core.rcv.rcvPacketsMsgNum = _
  rw [umpEndReceiveInternal_eq]
  by_cases positive : v.core.rcv.rcvPacketsMsgNum ≥ 1
  · rw [if_pos positive]
    exact .inl ⟨positive, rfl, rfl, rfl⟩
  · rw [if_neg positive]
    exact .inr ⟨Int.not_le.mp positive, rfl, rfl, rfl⟩

/-- The message for the user is delivered, and the next one takes its place. -/
theorem Gathered.finish (gathered : Gathered old v r) (some : v.lists.recMsgPackets ≠ []) :
    Gathered old (finishReceive v) r := by
  have message := gathered.user.resolve_left some
  obtain ⟨delivered, deliveries, messages, all⟩ := gathered.delivered
  have longer : (finishReceive v).core.deliveries = (v.lists.recMsgPackets :: delivered) ++ old := by
    rw [finishReceive_deliveries (recMsgPackets_some some), deliveries]
    rfl
  have closed : ∀ group ∈ v.lists.recMsgPackets :: delivered, Closed endsMessage group :=
    List.forall_mem_cons.mpr ⟨message, messages⟩
  have split : r.got =
      (v.lists.recMsgPackets :: delivered).reverse.flatten ++ v.lists.taken := by
    rw [all, List.reverse_cons, List.flatten_append, List.flatten_singleton, List.append_assoc]
  have joined : Exact (joinMessage v).lists v.core.rcv.rcvPacketsMsgNum :=
    ⟨gathered.exact.within, gathered.exact.counted, gathered.exact.firstEnd⟩
  rcases finishReceive_cases v with ⟨positive, lists, base, msgNum⟩ | ⟨-, lists, base, msgNum⟩
  · have ⟨exact, next, same, waiting⟩ := joined.harvest (by omega)
    refine ⟨base.trans gathered.base, ?_, gathered.ascending, ?_, ?_, _, longer, closed, ?_⟩
    · rw [lists]
      exact waiting.trans gathered.waiting
    · rw [lists, msgNum]
      exact exact
    · rw [lists]
      exact .inr next
    · rw [split, lists]
      exact congrArg _ same.symm
  · refine ⟨base.trans gathered.base, ?_, gathered.ascending, ?_, ?_, _, longer, closed, ?_⟩
    · rw [lists]
      exact gathered.waiting
    · rw [lists, msgNum]
      exact joined
    · rw [lists]
      exact .inl rfl
    · rw [split, lists]
      rfl

theorem Gathered.endReceive (gathered : Gathered old v r) (some : v.lists.recMsgPackets ≠ []) :
    Gathered old (umpEndReceive v) r := by
  unfold umpEndReceive
  split
  · exact gathered
  · exact Gathered.finish (gathered.congr rfl rfl) some

/-- A message that ends with the last packet taken is counted. -/
theorem countMessage_exact {w : UMPSocket PlainLists} {before : List UMPPacket} {last : UMPPacket}
    (within : w.lists.rcvDataSoFar ≤ w.lists.rcvDataPackets.length)
    (taken : w.lists.taken = before ++ [last])
    (counted : w.core.rcv.rcvPacketsMsgNum = messageEnds before)
    (firstEnd : w.lists.rcvFirstMsgEnd = firstBdr before) (bdr : endsMessage last = true) :
    Exact (countMessage w).lists (w.core.rcv.rcvPacketsMsgNum + 1) ∧
      (countMessage w).lists.taken = w.lists.taken ∧
      (countMessage w).lists.waiting = w.lists.waiting ∧
      (countMessage w).lists.recMsgPackets = w.lists.recMsgPackets := by
  have ends : (w.core.rcv.rcvPacketsMsgNum + 1 : Int) = messageEnds w.lists.taken := by
    rw [taken, messageEnds_append, messageEnds_single, if_pos bdr]
    omega
  unfold countMessage
  dsimp only
  split
  · rename_i first
    have none : messageEnds before = 0 := by omega
    refine ⟨⟨within, ends, ?_⟩, rfl, rfl, rfl⟩
    show w.lists.rcvDataSoFar = firstBdr w.lists.taken
    have length : w.lists.taken.length = w.lists.rcvDataSoFar := List.length_take_of_le within
    rw [← length, taken, firstBdr_single none bdr, List.length_append, List.length_singleton]
  · refine ⟨⟨within, ends, ?_⟩, rfl, rfl, rfl⟩
    show w.lists.rcvFirstMsgEnd = firstBdr w.lists.taken
    rw [taken, firstBdr_append (by omega)]
    exact firstEnd

/-- Where the packets of a gap fill are. -/
theorem filled_parts (within : v.lists.rcvDataSoFar ≤ v.lists.rcvDataPackets.length) :
    (filled v p v.lists.waiting).lists.taken =
        v.lists.taken ++ p :: v.lists.waiting.take (consecutive p v.lists.waiting) ∧
      (filled v p v.lists.waiting).lists.waiting =
        v.lists.waiting.drop (consecutive p v.lists.waiting) ∧
      (filled v p v.lists.waiting).lists.rcvDataSoFar ≤
        (filled v p v.lists.waiting).lists.rcvDataPackets.length := by
  have length : v.lists.taken.length = v.lists.rcvDataSoFar := List.length_take_of_le within
  have bounded := GLists.consecutive_le p v.lists.waiting
  refine ⟨?_, ?_, ?_⟩
  · show (v.lists.taken ++ p :: v.lists.waiting).take
      (v.lists.rcvDataSoFar + (consecutive p v.lists.waiting + 1)) = _
    rw [← length, List.take_length_add_append, List.take_succ_cons]
  · show (v.lists.taken ++ p :: v.lists.waiting).drop
      (v.lists.rcvDataSoFar + (consecutive p v.lists.waiting + 1)) = _
    rw [← length, List.drop_length_add_append, List.drop_succ_cons]
  · show v.lists.rcvDataSoFar + (consecutive p v.lists.waiting + 1) ≤
      (v.lists.taken ++ p :: v.lists.waiting).length
    rw [List.length_append, List.length_cons, length]
    omega

/-- A gap is filled and the message that ends there, if any, is counted. -/
theorem Gathered.fill (gathered : Gathered old v r) (here : p.seqNum = r.base)
    (oneEnd : r.OneEnd p) :
    Gathered old (umpCheckRcvDataSoFar (filled v p v.lists.waiting)) (r.fill p) := by
  obtain ⟨taken, waiting, within⟩ := filled_parts (p := p) gathered.exact.within
  have isWaiting : (filled v p v.lists.waiting).lists.waiting = (r.fill p).waiting := by
    rw [waiting, gathered.waiting]
    rfl
  have base : (filled v p v.lists.waiting).core.rcv.theirDataSeqBase = (r.fill p).base := by
    show place p.seqNum (consecutive p v.lists.waiting + 1) = _
    rw [here, gathered.waiting]
    rfl
  have ascending : Ascending (r.fill p).base ((r.fill p).waiting.map (·.seqNum)) := by
    have after := gathered.ascending.after
    unfold Reception.fill Reception.following
    dsimp only
    rw [List.map_drop, consecutive_eq, here]
    exact after
  rw [gathered.waiting] at taken
  have delivered : ∃ delivered, v.core.deliveries = delivered ++ old ∧
      (∀ message ∈ delivered, Closed endsMessage message) ∧
      (r.fill p).got = delivered.reverse.flatten ++
        (v.lists.recMsgPackets ++ (filled v p v.lists.waiting).lists.taken) := by
    obtain ⟨delivered, deliveries, messages, all⟩ := gathered.delivered
    refine ⟨delivered, deliveries, messages, ?_⟩
    rw [gathered.waiting, taken]
    unfold Reception.fill Reception.following
    dsimp only
    rw [all]
    simp only [List.append_assoc]
  obtain ⟨front, last, run⟩ : ∃ front last,
      p :: r.waiting.take (consecutive p r.waiting) = front ++ [last] :=
    ⟨_, _, (List.dropLast_append_getLast (List.cons_ne_nil _ _)).symm⟩
  unfold Reception.OneEnd Reception.following at oneEnd
  rw [run, List.dropLast_concat] at oneEnd
  rw [run, ← List.append_assoc] at taken
  have none := messageEnds_eq_zero.mpr oneEnd
  have counted : v.core.rcv.rcvPacketsMsgNum = messageEnds (v.lists.taken ++ front) := by
    rw [messageEnds_append, none, Nat.add_zero]
    exact gathered.exact.counted
  have firstEnd : v.lists.rcvFirstMsgEnd = firstBdr (v.lists.taken ++ front) := by
    rw [firstBdr_append_none none]
    exact gathered.exact.firstEnd
  rw [gathered.waiting] at isWaiting base within delivered ⊢
  have soFar : ReceiveLists.soFarPacket (filled v p r.waiting).lists = some last := by
    rw [soFarPacket_taken within, taken, List.getLast?_concat]
  rw [umpCheckRcvDataSoFar_eq, soFar]
  by_cases bdr : endsMessage last = true
  · have ends : Option.any (uPacketGetFlag · UP_DATA_BDR) (some last) = true := bdr
    have ⟨exact, sameTaken, sameWaiting, sameRec⟩ := countMessage_exact (w := filled v p r.waiting)
      within taken counted firstEnd bdr
    have still : Gathered old (countMessage (filled v p r.waiting)) (r.fill p) := by
      refine ⟨base, sameWaiting.trans isWaiting, ascending, exact, ?_, ?_⟩
      · rw [sameRec]
        exact gathered.user
      · rw [sameRec, sameTaken]
        exact delivered
    rw [if_pos ends]
    split
    · rename_i user
      have positive : 0 < (countMessage (filled v p r.waiting)).core.rcv.rcvPacketsMsgNum := by
        show 0 < v.core.rcv.rcvPacketsMsgNum + 1
        omega
      have harvested := still.harvest positive ((recMsgPackets_isNone _).mp user)
      apply harvested.endReceive
      have closed := (still.exact.harvest positive).2.1
      exact closed.ne_nil
    · exact still
  · have open_ : ¬ Option.any (uPacketGetFlag · UP_DATA_BDR) (some last) = true := bdr
    rw [if_neg open_]
    refine ⟨base, isWaiting, ascending, ⟨within, ?_, ?_⟩, gathered.user, delivered⟩
    · rw [taken, messageEnds_append, messageEnds_single, if_neg bdr, Nat.add_zero]
      exact counted
    · rw [taken, firstBdr_append_none]
      · exact firstEnd
      · rw [messageEnds_single, if_neg bdr]

/-- A packet goes between those that wait. -/
theorem Gathered.await (gathered : Gathered old v r) {packets : List UMPPacket}
    (ascending : Ascending r.base (packets.map (·.seqNum))) :
    Gathered old { v with lists := v.lists.await packets } { r with waiting := packets } := by
  have within := gathered.exact.within
  have length : v.lists.taken.length = v.lists.rcvDataSoFar := List.length_take_of_le within
  have taken : (v.lists.await packets).taken = v.lists.taken := by
    show (v.lists.taken ++ packets).take v.lists.rcvDataSoFar = _
    rw [← length, List.take_left]
  refine ⟨gathered.base, ?_, ascending, ⟨?_, ?_, ?_⟩, gathered.user, ?_⟩
  · show (v.lists.taken ++ packets).drop v.lists.rcvDataSoFar = packets
    rw [← length, List.drop_left]
  · show v.lists.rcvDataSoFar ≤ (v.lists.taken ++ packets).length
    rw [List.length_append, length]
    exact Nat.le_add_right _ _
  · rw [taken]
    exact gathered.exact.counted
  · rw [taken]
    exact gathered.exact.firstEnd
  · rw [taken]
    exact gathered.delivered

/-- A packet that passes over no end of a message keeps the count exact. -/
theorem Gathered.store (gathered : Gathered old v r) (inOrder : InOrder v)
    (inRange : 0 ≤ offset r.base p.seqNum) (oneEnd : p.seqNum = r.base → r.OneEnd p) :
    ∃ r', Gathered old (storePacket v p) r' ∧ r.Takes p r' := by
  rw [← gathered.base] at inRange
  have stored := storePacket_stored inOrder gathered.waits inRange
  generalize storePacket v p = w at stored ⊢
  cases stored with
  | again q waits same =>
      rw [gathered.waiting] at waits
      exact ⟨r, gathered, .again q waits same⟩
  | ahead left right waits far ascending =>
      rw [gathered.base] at far ascending
      rw [gathered.waiting] at waits
      exact ⟨_, gathered.await ascending, .ahead left right waits far⟩
  | next here =>
      rw [gathered.base] at here
      exact ⟨_, gathered.fill here (oneEnd here), .next here⟩

end Sockets

end UserMessageProtocol
