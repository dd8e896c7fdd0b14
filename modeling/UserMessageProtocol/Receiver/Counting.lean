import UserMessageProtocol.Receiver.Refinement
import UserMessageProtocol.Sender.Sequence
import UserMessageProtocol.Socket.Frames

/-!
Contract: `rcv_packets_msg_num` counts complete messages.

Owns: what the counter says about the packets in order (`Counted`), the invariant of
the plain lists with the numbers of a socket (`Ordered`, `InOrder`), and that every
operation keeps it.

Does not own: linked lists (`Receiver.Refinement`).
-/

set_option autoImplicit false

namespace UserMessageProtocol

open Serial

namespace PlainLists

/-- How many packets end a message. -/
def messageEnds (packets : List UMPPacket) : Nat :=
  packets.countP fun p => uPacketGetFlag p UP_DATA_BDR

/-- The first of `msgNum` messages ends at `rcv_first_msg_end`, and the packets behind
it up to `bound` end the others. -/
structure Counted (m : PlainLists) (msgNum : Int) (bound : Nat) : Prop where
  natural : 0 ≤ msgNum
  idle : msgNum = 0 → m.rcvFirstMsgEnd = 0
  starts : 0 < msgNum → 1 ≤ m.rcvFirstMsgEnd
  inside : 0 < msgNum → m.rcvFirstMsgEnd ≤ bound
  others : 0 < msgNum → msgNum ≤ 1 +
    messageEnds ((m.rcvDataPackets.drop m.rcvFirstMsgEnd).take (bound - m.rcvFirstMsgEnd))

/-- The packets up to `rcv_data_so_far` are those before `base`, and up to `bound` they are
counted. -/
structure Ordered (m : PlainLists) (base : UInt16) (msgNum : Int) (bound : Nat) : Prop where
  counted : Counted m msgNum bound
  within : m.rcvDataSoFar ≤ m.rcvDataPackets.length
  last : ∀ q, ReceiveLists.soFarPacket m = some q → q.seqNum + 1 = base
  taken : m.rcvDataSoFar = 0 → ∀ q, m.recMsgPackets.getLast? = some q → q.seqNum + 1 = base

section Counting

variable {m : PlainLists} {msgNum : Int} {bound more : Nat} {base : UInt16}

/-- Nothing is counted while nothing is in order. -/
theorem Counted.nothing (counted : Counted m msgNum 0) : msgNum = 0 := by
  have natural := counted.natural
  by_contra some
  have starts := counted.starts (by omega)
  have inside := counted.inside (by omega)
  omega

theorem Counted.firstEnd (counted : Counted m msgNum bound) : m.rcvFirstMsgEnd ≤ bound := by
  rcases Int.lt_or_eq_of_le counted.natural with positive | zero
  · exact counted.inside positive
  · rw [counted.idle zero.symm]
    exact Nat.zero_le bound

theorem messageEnds_take (packets : List UMPPacket) (further : bound ≤ more) :
    messageEnds (packets.take bound) ≤ messageEnds (packets.take more) :=
  (List.take_prefix_take_left further).sublist.countP_le

theorem Counted.zero (none : m.rcvFirstMsgEnd = 0) (bound : Nat) : Counted m 0 bound := by
  constructor <;> simp [none]

theorem Counted.mono (counted : Counted m msgNum bound) (further : bound ≤ more) :
    Counted m msgNum more := by
  refine ⟨counted.natural, counted.idle, counted.starts, ?_, ?_⟩
  · intro positive
    exact Nat.le_trans (counted.inside positive) further
  · intro positive
    have before := counted.others positive
    have counts := messageEnds_take (m.rcvDataPackets.drop m.rcvFirstMsgEnd)
      (Nat.sub_le_sub_right further m.rcvFirstMsgEnd)
    omega

theorem firstBdr_cons (p : UMPPacket) (rest : List UMPPacket) :
    firstBdr (p :: rest) =
      if uPacketGetFlag p UP_DATA_BDR then 1
      else if firstBdr rest = 0 then 0 else firstBdr rest + 1 := by
  rw [firstBdr, List.findIdx?_cons, firstBdr]
  cases uPacketGetFlag p UP_DATA_BDR with
  | true => rfl
  | false => cases rest.findIdx? fun p => uPacketGetFlag p UP_DATA_BDR <;> rfl

/-- The first end of a message among some packets, and the ends behind it. -/
theorem firstBdr_counts {packets : List UMPPacket} {bound : Nat}
    (some : 0 < messageEnds (packets.take bound)) :
    1 ≤ firstBdr packets ∧ firstBdr packets ≤ bound ∧
      messageEnds (packets.take bound) =
        1 + messageEnds ((packets.drop (firstBdr packets)).take (bound - firstBdr packets)) := by
  induction packets generalizing bound with
  | nil => simp [messageEnds] at some
  | cons p rest inductionHypothesis =>
      cases bound with
      | zero => simp [messageEnds] at some
      | succ bound =>
          rw [firstBdr_cons]
          rw [List.take_succ_cons, messageEnds, List.countP_cons] at some ⊢
          by_cases bdr : uPacketGetFlag p UP_DATA_BDR = true
          · rw [if_pos bdr, if_pos bdr]
            refine ⟨Nat.le_refl 1, by omega, ?_⟩
            rw [Nat.add_comm]
            rfl
          · rw [if_neg bdr, Nat.add_zero] at some
            have tail := inductionHypothesis some
            rw [if_neg bdr, if_neg bdr, if_neg (by omega)]
            refine ⟨by omega, by omega, ?_⟩
            rw [Nat.add_zero, List.drop_succ_cons, Nat.add_sub_add_right]
            exact tail.2.2

/-- A harvest takes one message. -/
theorem Counted.harvest (counted : Counted m msgNum bound) (positive : 0 < msgNum) :
    Counted (ReceiveLists.harvest (!(msgNum - 1 < 1)) m) (msgNum - 1)
      (bound - m.rcvFirstMsgEnd) := by
  have starts := counted.starts positive
  have others := counted.others positive
  have plain : ReceiveLists.harvest (!(msgNum - 1 < 1)) m = _ :=
    if_neg (Nat.ne_of_gt (Nat.lt_of_succ_le starts))
  rw [plain]
  by_cases alone : msgNum = 1
  · rw [alone]
    exact Counted.zero rfl _
  · have another : (!(decide (msgNum - 1 < 1))) = true := by simp; omega
    have rest : 0 < messageEnds
        ((m.rcvDataPackets.drop m.rcvFirstMsgEnd).take (bound - m.rcvFirstMsgEnd)) := by omega
    obtain ⟨first, inside, counts⟩ := firstBdr_counts rest
    rw [another]
    constructor
    · omega
    · omega
    · exact fun _ => first
    · exact fun _ => inside
    · intro _
      show msgNum - 1 ≤ 1 + _
      rw [counts] at others
      simp only [if_true]
      omega

/-- Another message ends right behind the bound. -/
theorem Counted.another {p : UMPPacket} (counted : Counted m msgNum bound) (positive : 0 < msgNum)
    (next : m.rcvDataPackets[bound]? = some p) (bdr : uPacketGetFlag p UP_DATA_BDR) :
    Counted m (msgNum + 1) (bound + 1) := by
  have inside := counted.inside positive
  refine ⟨by omega, by omega, fun _ => counted.starts positive, by omega, fun _ => ?_⟩
  have before := counted.others positive
  have found : (m.rcvDataPackets.drop m.rcvFirstMsgEnd)[bound - m.rcvFirstMsgEnd]? =
      some p := by
    rw [List.getElem?_drop, Nat.add_sub_cancel' inside, next]
  have longer : bound + 1 - m.rcvFirstMsgEnd = bound - m.rcvFirstMsgEnd + 1 := by omega
  have counts : messageEnds
      ((m.rcvDataPackets.drop m.rcvFirstMsgEnd).take (bound + 1 - m.rcvFirstMsgEnd)) =
        messageEnds ((m.rcvDataPackets.drop m.rcvFirstMsgEnd).take (bound - m.rcvFirstMsgEnd)) +
          1 := by
    rw [longer, List.take_add_one, found, messageEnds, messageEnds, List.countP_append]
    simp [bdr]
  omega

/-- The lists behind an insertion. -/
theorem insertPacket_some {lists : PlainLists} {compare : UInt16 → UInt16 → Int} {p : UMPPacket}
    (inserted : ReceiveLists.insertPacket compare p m = some lists) :
    lists =
      { m with
        rcvDataPackets := (splitAtPlace compare p.seqNum m.rcvDataPackets).1 ++
          p :: (splitAtPlace compare p.seqNum m.rcvDataPackets).2
        rcvDataSoFar :=
          shift (splitAtPlace compare p.seqNum m.rcvDataPackets).1.length m.rcvDataSoFar
        rcvFirstMsgEnd :=
          shift (splitAtPlace compare p.seqNum m.rcvDataPackets).1.length m.rcvFirstMsgEnd } := by
  unfold ReceiveLists.insertPacket instReceiveListsPlainLists at inserted
  dsimp only at inserted
  split at inserted
  · cases inserted
  · exact (Option.some.inj inserted).symm

theorem splitAtPlace_append (compare : UInt16 → UInt16 → Int) (seq : UInt16)
    (packets : List UMPPacket) :
    (splitAtPlace compare seq packets).1 ++ (splitAtPlace compare seq packets).2 = packets := by
  rw [splitAtPlace, List.rdropWhile, List.rtakeWhile, ← List.reverse_append,
    List.takeWhile_append_dropWhile, List.reverse_reverse]

theorem shift_of_le {place count : Nat} (inside : count ≤ place) : shift place count = count :=
  if_neg (Nat.not_lt.mpr inside)

/-- The packets up to a place stay when one is put in there. -/
theorem insertPacket_take {lists : PlainLists} {compare : UInt16 → UInt16 → Int} {p : UMPPacket}
    (behind : bound ≤ (splitAtPlace compare p.seqNum m.rcvDataPackets).1.length)
    (inserted : ReceiveLists.insertPacket compare p m = some lists) :
    lists.rcvDataPackets.take bound = m.rcvDataPackets.take bound := by
  have whole := splitAtPlace_append compare p.seqNum m.rcvDataPackets
  rw [insertPacket_some inserted]
  dsimp only
  rw [List.take_append_of_le_length behind, ← List.take_append_of_le_length behind, whole]

theorem Counted.insert {lists : PlainLists} {compare : UInt16 → UInt16 → Int} {p : UMPPacket}
    (counted : Counted m msgNum bound)
    (behind : bound ≤ (splitAtPlace compare p.seqNum m.rcvDataPackets).1.length)
    (inserted : ReceiveLists.insertPacket compare p m = some lists) :
    Counted lists msgNum bound := by
  have firstEnd := counted.firstEnd
  have same : lists.rcvFirstMsgEnd = m.rcvFirstMsgEnd := by
    rw [insertPacket_some inserted]
    exact shift_of_le (Nat.le_trans firstEnd behind)
  refine ⟨counted.natural, ?_, ?_, ?_, ?_⟩
  · rw [same]
    exact counted.idle
  · rw [same]
    exact counted.starts
  · rw [same]
    exact counted.inside
  · rw [same, ← List.drop_take, insertPacket_take behind inserted, List.drop_take]
    exact counted.others

/-- The number before the base is one place before it. -/
theorem offset_of_next {base seq : UInt16} (next : seq + 1 = base) : offset base seq = -1 := by
  have lower := offset_lower base seq
  have upper := offset_upper base seq
  have here := place_offset base seq
  have there : place base (offset base seq + 1) = place base 0 := by
    rw [← place_add_one, here, next, place_zero]
  have equal := place_inj base (by omega) (by omega) there
  omega

/-- The search from the tail does not go beyond a packet that it does not pass. -/
theorem splitAtPlace_stops {compare : UInt16 → UInt16 → Int} {seq : UInt16}
    (left right : List UMPPacket) {q : UMPPacket} (stops : ¬ compare seq q.seqNum < 0) :
    left.length + 1 ≤ (splitAtPlace compare seq (left ++ q :: right)).1.length := by
  rw [splitAtPlace, List.rdropWhile, List.length_reverse, List.reverse_append, List.reverse_cons,
    List.append_assoc, List.dropWhile_append]
  split
  · rw [List.singleton_append, List.dropWhile_cons_of_neg (by simpa using stops)]
    simp
  · simp

/-- A packet that is not before the base goes behind `rcv_data_so_far`. -/
theorem Ordered.behind (ordered : Ordered m base msgNum bound) {p : UMPPacket}
    (inRange : ¬ circleCompare base p.seqNum base < 0) :
    m.rcvDataSoFar ≤
      (splitAtPlace (circleCompare base) p.seqNum m.rcvDataPackets).1.length := by
  cases count : m.rcvDataSoFar with
  | zero => exact Nat.zero_le _
  | succ index =>
      have within := ordered.within
      rw [count] at within
      have split : m.rcvDataPackets = m.rcvDataPackets.take index ++
          m.rcvDataPackets[index] :: m.rcvDataPackets.drop (index + 1) := by
        rw [List.getElem_cons_drop, List.take_append_drop]
      have there : ReceiveLists.soFarPacket m = some m.rcvDataPackets[index] := by
        show (if m.rcvDataSoFar = 0 then none else m.rcvDataPackets[m.rcvDataSoFar - 1]?) = _
        rw [count, if_neg (Nat.succ_ne_zero index)]
        exact List.getElem?_eq_getElem within
      have before := offset_of_next (ordered.last _ there)
      rw [circleCompare_eq, offset_self] at inRange
      have stops : ¬ circleCompare base p.seqNum m.rcvDataPackets[index].seqNum < 0 := by
        rw [circleCompare_eq, before]
        omega
      have length := splitAtPlace_stops (m.rcvDataPackets.take index)
        (m.rcvDataPackets.drop (index + 1)) stops
      rw [← split, List.length_take_of_le (Nat.le_of_succ_le within)] at length
      exact length

theorem soFarPacket_eq (m : PlainLists) : ReceiveLists.soFarPacket m =
    if m.rcvDataSoFar = 0 then none else m.rcvDataPackets[m.rcvDataSoFar - 1]? := rfl

theorem soFarPacket_eq_none (within : m.rcvDataSoFar ≤ m.rcvDataPackets.length)
    (none : ReceiveLists.soFarPacket m = none) : m.rcvDataSoFar = 0 := by
  rw [soFarPacket_eq] at none
  split at none
  · assumption
  · rw [List.getElem?_eq_none_iff] at none
    omega

/-- A packet that is not before the base leaves the packets in order as they are. -/
theorem Ordered.insert {lists : PlainLists} {p : UMPPacket}
    (ordered : Ordered m base msgNum m.rcvDataSoFar)
    (inRange : ¬ circleCompare base p.seqNum base < 0)
    (inserted : ReceiveLists.insertPacket (circleCompare base) p m = some lists) :
    Ordered lists base msgNum lists.rcvDataSoFar ∧ lists.rcvDataSoFar = m.rcvDataSoFar ∧
      lists.recMsgPackets = m.recMsgPackets := by
  have behind := ordered.behind inRange
  have same : lists.rcvDataSoFar = m.rcvDataSoFar := by
    rw [insertPacket_some inserted]
    exact shift_of_le behind
  have sameRec : lists.recMsgPackets = m.recMsgPackets := by
    rw [insertPacket_some inserted]
  have front := insertPacket_take behind inserted
  have samePacket : ReceiveLists.soFarPacket lists = ReceiveLists.soFarPacket m := by
    rw [soFarPacket_eq, soFarPacket_eq, same]
    cases count : m.rcvDataSoFar with
    | zero => rfl
    | succ index =>
        rw [count] at front
        have there := congrArg (·[index]?) front
        simpa [List.getElem?_take] using there
  refine ⟨⟨?_, ?_, ?_, ?_⟩, same, sameRec⟩
  · rw [same]
    exact ordered.counted.insert behind inserted
  · have within := congrArg List.length front
    have length := ordered.within
    rw [List.length_take, List.length_take] at within
    omega
  · rw [samePacket]
    exact ordered.last
  · rw [same, sameRec]
    exact ordered.taken

/-- A harvest of the first of some complete messages. -/
theorem Ordered.harvest (ordered : Ordered m base msgNum m.rcvDataSoFar)
    (positive : 0 < msgNum) :
    Ordered (ReceiveLists.harvest (!(msgNum - 1 < 1)) m) base (msgNum - 1)
        (ReceiveLists.harvest (!(msgNum - 1 < 1)) m).rcvDataSoFar ∧
      (ReceiveLists.harvest (!(msgNum - 1 < 1)) m).recMsgPackets ≠ [] := by
  have counted := ordered.counted.harvest positive
  have starts := ordered.counted.starts positive
  have inside := ordered.counted.inside positive
  have within := ordered.within
  have plain : ReceiveLists.harvest (!(msgNum - 1 < 1)) m = _ :=
    if_neg (Nat.ne_of_gt (Nat.lt_of_succ_le starts))
  rw [plain] at counted ⊢
  have there : m.rcvDataPackets[m.rcvDataSoFar - 1]? = ReceiveLists.soFarPacket m := by
    rw [soFarPacket_eq, if_neg (by omega)]
  refine ⟨⟨counted, ?_, ?_, ?_⟩, ?_⟩
  · show m.rcvDataSoFar - m.rcvFirstMsgEnd ≤ (m.rcvDataPackets.drop m.rcvFirstMsgEnd).length
    rw [List.length_drop]
    omega
  · intro q found
    apply ordered.last
    rw [soFarPacket_eq] at found
    dsimp only at found
    split at found
    · cases found
    · rw [List.getElem?_drop] at found
      have index : m.rcvFirstMsgEnd + (m.rcvDataSoFar - m.rcvFirstMsgEnd - 1) =
          m.rcvDataSoFar - 1 := by omega
      rwa [index, there] at found
  · intro all q found
    apply ordered.last
    dsimp only at all found
    have index : m.rcvFirstMsgEnd = m.rcvDataSoFar := by omega
    rw [List.getLast?_take, if_neg (by omega), index, there] at found
    cases known : ReceiveLists.soFarPacket m with
    | none =>
        rw [← there, List.getElem?_eq_none_iff] at known
        omega
    | some r =>
        rw [known] at found
        exact found
  · show m.rcvDataPackets.take m.rcvFirstMsgEnd ≠ []
    rw [Ne, List.take_eq_nil_iff]
    rintro (none | none)
    · omega
    · rw [none] at within
      simp at within
      omega

/-- `rcv_data_so_far` only moves on, stays in the list, and has a packet. -/
theorem advanceSoFar_cases (some : 1 ≤ m.rcvDataSoFar)
    (within : m.rcvDataSoFar ≤ m.rcvDataPackets.length) :
    ∃ count, (ReceiveLists.advanceSoFar m).1 = { m with rcvDataSoFar := m.rcvDataSoFar + count } ∧
      m.rcvDataSoFar + count ≤ m.rcvDataPackets.length ∧
      (ReceiveLists.advanceSoFar m).2 = decide (0 < count) := by
  have length := congrArg List.length
    (List.take_append_drop (m.rcvDataSoFar - 1) m.rcvDataPackets)
  rw [List.length_append, List.length_take] at length
  unfold ReceiveLists.advanceSoFar instReceiveListsPlainLists
  dsimp only
  rw [if_neg (Nat.ne_of_gt some)]
  cases left : m.rcvDataPackets.drop (m.rcvDataSoFar - 1) with
  | nil => exact ⟨0, rfl, within, rfl⟩
  | cons last rest =>
      have bounded := GLists.consecutive_le last rest
      rw [left, List.length_cons] at length
      exact ⟨consecutive last rest, rfl, by omega, rfl⟩

end Counting

end PlainLists

/-! ### Sockets with plain lists -/

section Counting

variable {Lists : Type} [ReceiveLists Lists]

/-- The first part of `ump_end_receive_internal`: the packets become one message. -/
def joinMessage (u : UMPSocket Lists) : UMPSocket Lists where
  core :=
    { u.core with
      rcv :=
        { u.core.rcv with
          recMsg := ((ReceiveLists.recMsgPackets u.lists).getD []).flatMap (·.userData) } }
  lists := ReceiveLists.freeRecMsgPackets u.lists

/-- The last part: an ack is due at once. -/
def pushAck (u : UMPSocket Lists) : UMPSocket Lists :=
  { u with core := { u.core with ackInfo := umpSetOurAckInfo u.core.ackInfo true } }

theorem umpEndReceiveInternal_eq (u : UMPSocket Lists) : umpEndReceiveInternal u =
    pushAck
      (if u.core.rcv.rcvPacketsMsgNum ≥ 1 then umpHarvestMessages (joinMessage u)
      else joinMessage u) := rfl

/-- The first part of `ump_reclocked_end_rec`. -/
def unlockReceive (u : UMPSocket Lists) : UMPSocket Lists :=
  { u with core := { u.core with rcv := { u.core.rcv with recLocked := .unlocked } } }

/-- The first part of `ump_check_rcv_data_so_far`: another message is complete. -/
def countMessage (u : UMPSocket Lists) : UMPSocket Lists where
  core :=
    { u.core with
      rcv := { u.core.rcv with rcvPacketsMsgNum := u.core.rcv.rcvPacketsMsgNum + 1 } }
  lists :=
    if u.core.rcv.rcvPacketsMsgNum + 1 = 1 then ReceiveLists.markFirstMsgEnd u.lists else u.lists

theorem umpCheckRcvDataSoFar_eq (u : UMPSocket Lists) : umpCheckRcvDataSoFar u =
    if (ReceiveLists.soFarPacket u.lists).any (uPacketGetFlag · UP_DATA_BDR) then
      if (ReceiveLists.recMsgPackets (countMessage u).lists).isNone then
        umpEndReceive (umpHarvestMessages (countMessage u))
      else countMessage u
    else u := rfl

/-- What `rcv_data_so_far` and `their_data_seq_base` are behind the loop. -/
def moveSoFar (u : UMPSocket Lists) : UMPSocket Lists where
  core :=
    { u.core with
      rcv :=
        { u.core.rcv with
          theirDataSeqBase :=
            match ReceiveLists.soFarPacket (ReceiveLists.advanceSoFar u.lists).1 with
            | some last => last.seqNum + 1
            | none => u.core.rcv.theirDataSeqBase } }
  lists := (ReceiveLists.advanceSoFar u.lists).1

theorem advanceTheirBase_eq (u : UMPSocket Lists) (check : Bool) : advanceTheirBase u check =
    if check || (ReceiveLists.advanceSoFar u.lists).2 then umpCheckRcvDataSoFar (moveSoFar u)
    else moveSoFar u := rfl

/-- `rcv_data_so_far` before the loop: the head of the list where it was `NULL`. -/
def startMoving (u : UMPSocket Lists) : UMPSocket Lists :=
  match ReceiveLists.soFarPacket u.lists with
  | some _ => u
  | none => { u with lists := ReceiveLists.startSoFar u.lists }

/-- `rcv_data_so_far` moves, or is set to a head with the number of the base. -/
def movesSoFar (u : UMPSocket Lists) : Bool :=
  match ReceiveLists.soFarPacket u.lists with
  | some _ => (ReceiveLists.advanceSoFar u.lists).2
  | none => (ReceiveLists.firstPacket u.lists).any (·.seqNum = u.core.rcv.theirDataSeqBase)

theorem takeInOrder_moves (u : UMPSocket Lists) (moves : movesSoFar u = true) :
    takeInOrder u = umpCheckRcvDataSoFar (moveSoFar (startMoving u)) := by
  unfold movesSoFar at moves
  unfold takeInOrder startMoving
  cases soFar : ReceiveLists.soFarPacket u.lists with
  | some q =>
      simp only [soFar] at moves ⊢
      rw [advanceTheirBase_eq, moves]
      rfl
  | none =>
      simp only [soFar] at moves ⊢
      rw [if_pos moves, advanceTheirBase_eq]
      rfl

theorem takeInOrder_rests (u : UMPSocket Lists) (rests : movesSoFar u = false) :
    takeInOrder u =
      if (ReceiveLists.soFarPacket u.lists).isSome then moveSoFar u else u := by
  unfold movesSoFar at rests
  unfold takeInOrder
  cases soFar : ReceiveLists.soFarPacket u.lists with
  | some q =>
      simp only [soFar] at rests ⊢
      rw [advanceTheirBase_eq, rests]
      rfl
  | none =>
      simp only [soFar] at rests ⊢
      rw [if_neg (by rw [rests]; decide)]
      rfl

end Counting

section Sockets

open PlainLists

variable {v : UMPSocket PlainLists} {p : UMPPacket}

/-- The lists of a socket fit its numbers, counted up to `bound`. -/
def Arranged (v : UMPSocket PlainLists) (bound : Nat) : Prop :=
  Ordered v.lists v.core.rcv.theirDataSeqBase v.core.rcv.rcvPacketsMsgNum bound

/-- Between two handlers: no complete message waits while nothing was taken for the user. -/
structure InOrder (v : UMPSocket PlainLists) : Prop where
  arranged : Arranged v v.lists.rcvDataSoFar
  waiting : v.lists.recMsgPackets = [] → v.core.rcv.rcvPacketsMsgNum = 0

theorem recMsgPackets_isNone (m : PlainLists) :
    (ReceiveLists.recMsgPackets m).isNone ↔ m.recMsgPackets = [] := by
  show (if m.recMsgPackets = [] then none else some m.recMsgPackets).isNone ↔ _
  split <;> simp [*]

theorem umpHarvestMessages_inOrder (arranged : Arranged v v.lists.rcvDataSoFar)
    (positive : 0 < v.core.rcv.rcvPacketsMsgNum) :
    InOrder (umpHarvestMessages v) ∧ (umpHarvestMessages v).lists.recMsgPackets ≠ [] := by
  have harvested := arranged.harvest positive
  exact ⟨⟨harvested.1, fun none => absurd none harvested.2⟩, harvested.2⟩

theorem joinMessage_arranged (arranged : Arranged v v.lists.rcvDataSoFar) :
    Arranged (joinMessage v) v.lists.rcvDataSoFar := by
  have counted := arranged.counted
  refine ⟨⟨counted.natural, counted.idle, counted.starts, counted.inside, counted.others⟩,
    arranged.within, arranged.last, ?_⟩
  intro _ q found
  cases found

theorem umpEndReceiveInternal_inOrder (arranged : Arranged v v.lists.rcvDataSoFar) :
    InOrder (umpEndReceiveInternal v) := by
  have joined := joinMessage_arranged arranged
  rw [umpEndReceiveInternal_eq]
  split
  · rename_i positive
    have harvested := (umpHarvestMessages_inOrder joined (Int.lt_of_lt_of_le Int.zero_lt_one
      positive)).1
    exact ⟨harvested.arranged, harvested.waiting⟩
  · rename_i idle
    refine ⟨joined, fun _ => ?_⟩
    have natural := arranged.counted.natural
    show v.core.rcv.rcvPacketsMsgNum = 0
    omega

theorem finishReceive_inOrder (arranged : Arranged v v.lists.rcvDataSoFar) :
    InOrder (finishReceive v) := by
  have ended := umpEndReceiveInternal_inOrder arranged
  exact ⟨ended.arranged, ended.waiting⟩

theorem umpEndReceive_inOrder (inOrder : InOrder v) : InOrder (umpEndReceive v) := by
  unfold umpEndReceive
  split
  · exact inOrder
  · exact finishReceive_inOrder inOrder.arranged

theorem umpHandleReceive_inOrder (inOrder : InOrder v) : InOrder (umpHandleReceive v) := by
  unfold umpHandleReceive
  dsimp only
  repeat' split
  all_goals
    first
    | exact inOrder
    | exact finishReceive_inOrder inOrder.arranged
    | exact ⟨inOrder.arranged, inOrder.waiting⟩

/-- A message that ends at `rcv_data_so_far` is counted. -/
theorem countMessage_arranged {index : Nat} (arranged : Arranged v index)
    (moved : v.lists.rcvDataSoFar = index + 1)
    (ends : (ReceiveLists.soFarPacket v.lists).any (uPacketGetFlag · UP_DATA_BDR)) :
    Arranged (countMessage v) (countMessage v).lists.rcvDataSoFar ∧
      0 < (countMessage v).core.rcv.rcvPacketsMsgNum := by
  have natural := arranged.counted.natural
  obtain ⟨p, found, bdr⟩ := (Option.any_eq_true _ _).mp ends
  rw [soFarPacket_eq, moved, if_neg (Nat.succ_ne_zero index)] at found
  have counted : Counted (countMessage v).lists (v.core.rcv.rcvPacketsMsgNum + 1) (index + 1) := by
    unfold countMessage
    dsimp only
    split
    · rename_i first
      rw [first]
      refine ⟨by omega, by omega, fun _ => ?_, fun _ => ?_, fun _ => by omega⟩
      · show 1 ≤ v.lists.rcvDataSoFar
        omega
      · show v.lists.rcvDataSoFar ≤ index + 1
        omega
    · rename_i later
      exact arranged.counted.another (by omega) found bdr
  have sameSoFar : (countMessage v).lists.rcvDataSoFar = index + 1 := by
    unfold countMessage
    dsimp only
    split <;> exact moved
  constructor
  · rw [sameSoFar]
    refine ⟨counted, ?_, ?_, ?_⟩ <;> unfold countMessage <;> dsimp only
    · split <;> exact arranged.within
    · split <;> exact arranged.last
    · split <;> exact arranged.taken
  · show 0 < v.core.rcv.rcvPacketsMsgNum + 1
    omega

/-- It is taken for the user if nothing is. -/
theorem umpCheckRcvDataSoFar_inOrder {index : Nat} (arranged : Arranged v index)
    (moved : v.lists.rcvDataSoFar = index + 1)
    (waiting : v.lists.recMsgPackets = [] → v.core.rcv.rcvPacketsMsgNum = 0) :
    InOrder (umpCheckRcvDataSoFar v) := by
  rw [umpCheckRcvDataSoFar_eq]
  split
  · rename_i ends
    have counting := countMessage_arranged arranged moved ends
    split
    · apply umpEndReceive_inOrder
      exact (umpHarvestMessages_inOrder counting.1 counting.2).1
    · rename_i some
      rw [recMsgPackets_isNone] at some
      exact ⟨counting.1, fun none => absurd none some⟩
  · refine ⟨?_, waiting⟩
    rw [moved]
    exact ⟨arranged.counted.mono (Nat.le_succ index), arranged.within, arranged.last,
      arranged.taken⟩

/-- Where `rcv_data_so_far` moved, the packets before its last one are still counted. -/
theorem moveSoFar_arranged {bound : Nat}
    (counted : Counted v.lists v.core.rcv.rcvPacketsMsgNum bound) (some : 1 ≤ v.lists.rcvDataSoFar)
    (within : v.lists.rcvDataSoFar ≤ v.lists.rcvDataPackets.length) :
    ∃ index, Arranged (moveSoFar v) bound ∧ (moveSoFar v).lists.rcvDataSoFar = index + 1 ∧
      v.lists.rcvDataSoFar ≤ index + 1 ∧
      (ReceiveLists.advanceSoFar v.lists).2 = decide (v.lists.rcvDataSoFar < index + 1) := by
  obtain ⟨count, lists, reach, moved⟩ := advanceSoFar_cases some within
  obtain ⟨index, atIndex⟩ : ∃ index, v.lists.rcvDataSoFar + count = index + 1 :=
    ⟨v.lists.rcvDataSoFar + count - 1, by omega⟩
  rw [atIndex] at lists reach
  have there : ReceiveLists.soFarPacket (ReceiveLists.advanceSoFar v.lists).1 =
      .some v.lists.rcvDataPackets[index] := by
    rw [lists, soFarPacket_eq, if_neg (Nat.succ_ne_zero index)]
    exact List.getElem?_eq_getElem reach
  refine ⟨index, ⟨?_, ?_, ?_, ?_⟩, ?_, by omega, ?_⟩
  · show Counted (ReceiveLists.advanceSoFar v.lists).1 _ _
    rw [lists]
    exact ⟨counted.natural, counted.idle, counted.starts, counted.inside, counted.others⟩
  · rw [moveSoFar, lists]
    exact reach
  · intro q found
    have same : q = v.lists.rcvDataPackets[index] := by
      rw [moveSoFar, there] at found
      exact (Option.some.inj found).symm
    rw [same, moveSoFar, there]
  · intro none
    rw [moveSoFar, lists] at none
    cases none
  · rw [moveSoFar, lists]
  · rw [moved, decide_eq_decide]
    omega

theorem moveSoFar_recMsgPackets (v : UMPSocket PlainLists) :
    (moveSoFar v).lists.recMsgPackets = v.lists.recMsgPackets := by
  show (ReceiveLists.advanceSoFar v.lists).1.recMsgPackets = _
  unfold ReceiveLists.advanceSoFar instReceiveListsPlainLists
  dsimp only
  repeat' split
  all_goals rfl

/-- What holds where `rcv_data_so_far` is about to move; `check` says that it was just
set. -/
structure Moving (v : UMPSocket PlainLists) (check : Bool) (bound : Nat) : Prop where
  counted : Counted v.lists v.core.rcv.rcvPacketsMsgNum bound
  some : 1 ≤ v.lists.rcvDataSoFar
  within : v.lists.rcvDataSoFar ≤ v.lists.rcvDataPackets.length
  fresh : check = true → v.core.rcv.rcvPacketsMsgNum = 0
  known : check = false → bound = v.lists.rcvDataSoFar
  waiting : v.lists.recMsgPackets = [] → v.core.rcv.rcvPacketsMsgNum = 0

/-- The arrangement that `ump_check_rcv_data_so_far` finds. -/
theorem Moving.moved {check : Bool} {bound : Nat} (moving : Moving v check bound)
    (changed : (check || (ReceiveLists.advanceSoFar v.lists).2) = true) :
    ∃ index, Arranged (moveSoFar v) index ∧ (moveSoFar v).lists.rcvDataSoFar = index + 1 := by
  obtain ⟨index, arranged, atIndex, -, moved⟩ :=
    moveSoFar_arranged moving.counted moving.some moving.within
  refine ⟨index, ⟨?_, arranged.within, arranged.last, arranged.taken⟩, atIndex⟩
  cases check with
  | true =>
      have none : (moveSoFar v).core.rcv.rcvPacketsMsgNum = 0 := moving.fresh rfl
      have counted := arranged.counted
      rw [none] at counted ⊢
      exact Counted.zero (counted.idle rfl) index
  | false =>
      apply arranged.counted.mono
      rw [moved, Bool.false_or, decide_eq_true_eq] at changed
      rw [moving.known rfl]
      omega

theorem advanceTheirBase_inOrder {check : Bool} {bound : Nat} (moving : Moving v check bound) :
    InOrder (advanceTheirBase v check) := by
  have waiting : (moveSoFar v).lists.recMsgPackets = [] →
      (moveSoFar v).core.rcv.rcvPacketsMsgNum = 0 := by
    rw [moveSoFar_recMsgPackets]
    exact moving.waiting
  rw [advanceTheirBase_eq]
  split
  · rename_i changed
    obtain ⟨index, arranged, atIndex⟩ := moving.moved changed
    exact umpCheckRcvDataSoFar_inOrder arranged atIndex waiting
  · rename_i same
    obtain ⟨index, arranged, atIndex, further, -⟩ :=
      moveSoFar_arranged moving.counted moving.some moving.within
    refine ⟨⟨?_, arranged.within, arranged.last, arranged.taken⟩, waiting⟩
    apply arranged.counted.mono
    rw [Bool.or_eq_true, not_or] at same
    rw [moving.known ((Bool.not_eq_true _).mp same.1), atIndex]
    exact further

/-- `rcv_data_so_far` moves on from where it is. -/
theorem InOrder.moving {q : UMPPacket} (inOrder : InOrder v)
    (found : ReceiveLists.soFarPacket v.lists = some q) :
    Moving v false v.lists.rcvDataSoFar := by
  have arranged := inOrder.arranged
  refine ⟨arranged.counted, ?_, arranged.within, by simp, fun _ => rfl, inOrder.waiting⟩
  rw [soFarPacket_eq] at found
  split at found
  · cases found
  · omega

/-- `rcv_data_so_far` is set to the first packet. -/
theorem InOrder.starting (inOrder : InOrder v) (none : ReceiveLists.soFarPacket v.lists = none)
    (first : (ReceiveLists.firstPacket v.lists).any (·.seqNum = v.core.rcv.theirDataSeqBase)) :
    Moving { v with lists := ReceiveLists.startSoFar v.lists } true 0 := by
  have arranged := inOrder.arranged
  have some : v.lists.rcvDataPackets ≠ [] := by
    intro empty
    have head : ReceiveLists.firstPacket v.lists = v.lists.rcvDataPackets.head? := rfl
    rw [head, empty] at first
    cases first
  have idle : v.core.rcv.rcvPacketsMsgNum = 0 := by
    have counted := arranged.counted
    rw [soFarPacket_eq_none arranged.within none] at counted
    exact counted.nothing
  have started : (ReceiveLists.startSoFar v.lists).rcvDataSoFar = 1 := if_neg some
  refine ⟨?_, Nat.le_of_eq started.symm, ?_, fun _ => idle, by simp, inOrder.waiting⟩
  · dsimp only
    rw [idle]
    apply Counted.zero
    exact arranged.counted.idle idle
  · rw [started]
    exact List.length_pos_iff.mpr some

theorem takeInOrder_inOrder (inOrder : InOrder v) : InOrder (takeInOrder v) := by
  unfold takeInOrder
  split
  · rename_i q found
    exact advanceTheirBase_inOrder (inOrder.moving found)
  · rename_i none
    split
    · rename_i first
      exact advanceTheirBase_inOrder (inOrder.starting none first)
    · exact inOrder

/-- A packet that is not before the base is taken into the lists. -/
theorem storePacket_inOrder (inOrder : InOrder v)
    (inRange : ¬ umpCmpInRcvbase v.core.rcv p.seqNum v.core.rcv.theirDataSeqBase < 0) :
    InOrder (storePacket v p) := by
  unfold storePacket
  split
  · exact inOrder
  · rename_i lists inserted
    obtain ⟨ordered, -, sameRec⟩ := inOrder.arranged.insert inRange inserted
    apply takeInOrder_inOrder
    exact ⟨ordered, by rw [sameRec]; exact inOrder.waiting⟩

end Sockets

end UserMessageProtocol
