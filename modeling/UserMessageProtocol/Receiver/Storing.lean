import UserMessageProtocol.Foundation.Ascending
import UserMessageProtocol.Receiver.Counting

/-!
Contract: where a data packet goes when those that wait are in ascending order.

Owns: the packets taken in order and those that wait (`PlainLists.taken`,
`PlainLists.waiting`), the socket in which the gap is filled (`filled`), and the three
outcomes of `storePacket` (`Stored`).

Does not own: complete messages (`Receiver.Exact`).
-/

set_option autoImplicit false

namespace UserMessageProtocol

open Serial

namespace PlainLists

/-- The packets up to `rcv_data_so_far`. -/
def taken (m : PlainLists) : List UMPPacket := m.rcvDataPackets.take m.rcvDataSoFar

/-- The packets behind `rcv_data_so_far`. -/
def waiting (m : PlainLists) : List UMPPacket := m.rcvDataPackets.drop m.rcvDataSoFar

theorem taken_append_waiting (m : PlainLists) : m.taken ++ m.waiting = m.rcvDataPackets :=
  List.take_append_drop _ _

theorem consecutive_eq (last : UMPPacket) (packets : List UMPPacket) :
    consecutive last packets = successors last.seqNum (packets.map (·.seqNum)) := by
  induction packets generalizing last with
  | nil => rfl
  | cons p rest inductionHypothesis =>
      rw [List.map_cons, consecutive, successors, inductionHypothesis]

/-- The search from the tail stops before the packets it passes. -/
theorem splitAtPlace_eq {compare : UInt16 → UInt16 → Int} {seq : UInt16}
    {before behind : List UMPPacket} (passed : ∀ q ∈ behind, compare seq q.seqNum < 0)
    (stops : ∀ q, before.getLast? = some q → ¬ compare seq q.seqNum < 0) :
    splitAtPlace compare seq (before ++ behind) = (before, behind) := by
  induction behind using List.reverseRecOn with
  | nil =>
      rw [List.append_nil]
      rcases List.eq_nil_or_concat before with rfl | ⟨front, last, rfl⟩
      · rfl
      · rw [List.concat_eq_append] at stops ⊢
        have kept := stops last (by simp)
        unfold splitAtPlace
        rw [List.rdropWhile_concat_neg _ _ _ (by simpa using kept),
          List.rtakeWhile_concat_neg _ _ _ (by simpa using kept)]
  | append_singleton behind last inductionHypothesis =>
      have first := inductionHypothesis fun q member => passed q (List.mem_append_left _ member)
      have go := passed last (List.mem_append_right _ List.mem_cons_self)
      obtain ⟨left, right⟩ := Prod.mk.inj first
      unfold splitAtPlace
      rw [← List.append_assoc, List.rdropWhile_concat_pos _ _ _ (by simpa using go),
        List.rtakeWhile_concat_pos _ _ _ (by simpa using go), left, right]

/-- The number of the last of some consecutive packets. -/
theorem consecutive_last {p last : UMPPacket} {rest : List UMPPacket}
    (found : (p :: rest)[consecutive p rest]? = some last) :
    last.seqNum = place p.seqNum (consecutive p rest) := by
  cases count : consecutive p rest with
  | zero =>
      rw [count, List.getElem?_cons_zero] at found
      rw [← Option.some.inj found]
      exact (place_zero _).symm
  | succ index =>
      rw [count, List.getElem?_cons_succ] at found
      have within : index < successors p.seqNum (rest.map (·.seqNum)) := by
        rw [← consecutive_eq, count]
        exact Nat.lt_succ_self index
      have bounded := successors_le p.seqNum (rest.map (·.seqNum))
      have number := successors_getElem (Nat.lt_of_lt_of_le within bounded) within
      obtain ⟨inside, same⟩ := List.getElem?_eq_some_iff.mp found
      rw [List.getElem_map, same] at number
      exact number

variable {m : PlainLists} {base : UInt16} {msgNum : Int} {bound : Nat}

theorem Ordered.taken_length (ordered : Ordered m base msgNum bound) :
    m.taken.length = m.rcvDataSoFar := List.length_take_of_le ordered.within

/-- `rcv_data_so_far` points to the last packet taken in order. -/
theorem soFarPacket_taken (within : m.rcvDataSoFar ≤ m.rcvDataPackets.length) :
    ReceiveLists.soFarPacket m = m.taken.getLast? := by
  rw [soFarPacket_eq, taken, List.getLast?_take]
  split
  · rfl
  · rw [List.getElem?_eq_getElem (by omega)]
    rfl

/-- The last packet taken in order has the number before the base. -/
theorem Ordered.taken_last (ordered : Ordered m base msgNum bound) {q : UMPPacket}
    (last : m.taken.getLast? = some q) : q.seqNum + 1 = base := by
  apply ordered.last
  rw [soFarPacket_taken ordered.within]
  exact last

/-- A place in the lists for a packet at or ahead of the base. -/
theorem Ordered.split (ordered : Ordered m base msgNum bound) {left right : List UMPPacket}
    {seq : UInt16} (ahead : 0 ≤ offset base seq) (waits : m.waiting = left ++ right)
    (before : ∀ q ∈ left, offset base q.seqNum ≤ offset base seq)
    (after : ∀ q ∈ right, offset base seq < offset base q.seqNum) :
    splitAtPlace (circleCompare base) seq m.rcvDataPackets = (m.taken ++ left, right) := by
  rw [← taken_append_waiting, waits, ← List.append_assoc]
  apply splitAtPlace_eq
  · intro q member
    rw [circleCompare_eq]
    have far := after q member
    omega
  · intro q last
    rw [circleCompare_eq]
    rw [List.getLast?_append] at last
    cases inLeft : left.getLast? with
    | some r =>
        rw [inLeft, Option.some_or] at last
        rw [← Option.some.inj last]
        have near := before r (List.mem_of_getLast? inLeft)
        omega
    | none =>
        rw [inLeft, Option.none_or] at last
        have near := offset_of_next (ordered.taken_last last)
        omega

end PlainLists

section Sockets

open PlainLists

variable {v : UMPSocket PlainLists} {p : UMPPacket} {rest : List UMPPacket}

/-- The lists with other packets behind `rcv_data_so_far`. -/
def PlainLists.await (m : PlainLists) (packets : List UMPPacket) : PlainLists :=
  { m with rcvDataPackets := m.taken ++ packets }

/-- The packet with the number of the base came; it and those that follow it are taken in
order. -/
def filled (v : UMPSocket PlainLists) (p : UMPPacket) (rest : List UMPPacket) :
    UMPSocket PlainLists where
  core :=
    { v.core with
      rcv :=
        { v.core.rcv with
          theirDataSeqBase := place p.seqNum (consecutive p rest + 1) } }
  lists :=
    { v.lists.await (p :: rest) with
      rcvDataSoFar := v.lists.rcvDataSoFar + (consecutive p rest + 1) }

theorem await_soFarPacket (inOrder : InOrder v) (packets : List UMPPacket) :
    ReceiveLists.soFarPacket (v.lists.await packets) = v.lists.taken.getLast? := by
  have length := inOrder.arranged.taken_length
  rw [soFarPacket_eq]
  show (if v.lists.rcvDataSoFar = 0 then none
    else (v.lists.taken ++ packets)[v.lists.rcvDataSoFar - 1]?) = _
  split
  · rename_i none
    rw [none] at length
    rw [List.eq_nil_of_length_eq_zero length]
    rfl
  · rw [List.getElem?_append_left (by omega), List.getLast?_eq_getElem?, length]

/-- What `rcv_data_so_far` becomes. -/
theorem advanceSoFar_of_drop {m : PlainLists} {last : UMPPacket} {packets : List UMPPacket}
    (some : m.rcvDataSoFar ≠ 0)
    (here : m.rcvDataPackets.drop (m.rcvDataSoFar - 1) = last :: packets) :
    ReceiveLists.advanceSoFar m =
      ({ m with rcvDataSoFar := m.rcvDataSoFar + consecutive last packets },
        decide (0 < consecutive last packets)) := by
  unfold ReceiveLists.advanceSoFar instReceiveListsPlainLists
  dsimp only
  rw [if_neg some]
  cases left : m.rcvDataPackets.drop (m.rcvDataSoFar - 1) with
  | nil => cases left.symm.trans here
  | cons first rest =>
      obtain ⟨rfl, rfl⟩ := List.cons.inj (left.symm.trans here)
      rfl

theorem await_drop {last : UMPPacket} (inOrder : InOrder v) (packets : List UMPPacket)
    (found : v.lists.taken.getLast? = some last) :
    v.lists.rcvDataSoFar ≠ 0 ∧
      (v.lists.await packets).rcvDataPackets.drop (v.lists.rcvDataSoFar - 1) = last :: packets := by
  have length := inOrder.arranged.taken_length
  obtain ⟨front, split⟩ := List.getLast?_eq_some_iff.mp found
  have count : v.lists.rcvDataSoFar = front.length + 1 := by
    rw [← length, split, List.length_append, List.length_singleton]
  refine ⟨by omega, ?_⟩
  show (v.lists.taken ++ packets).drop (v.lists.rcvDataSoFar - 1) = _
  rw [split, count, Nat.add_sub_cancel, List.append_assoc, List.drop_left]
  rfl

theorem moveSoFar_eq {w : UMPSocket PlainLists} {lists : PlainLists} {moved : Bool}
    {last : UMPPacket} (advanced : ReceiveLists.advanceSoFar w.lists = (lists, moved))
    (found : ReceiveLists.soFarPacket lists = some last) :
    moveSoFar w =
      { core :=
          { w.core with rcv := { w.core.rcv with theirDataSeqBase := last.seqNum + 1 } }
        lists := lists } := by
  unfold moveSoFar
  rw [advanced]
  dsimp only
  rw [found]

/-- No packet follows the last one that was taken while that of the base is missing. -/
theorem consecutive_missing {base : UInt16} {last : UMPPacket} (next : last.seqNum + 1 = base)
    (missing : ∀ q, rest.head? = some q → q.seqNum ≠ base) : consecutive last rest = 0 := by
  cases rest with
  | nil => rfl
  | cons q rest =>
      rw [consecutive, if_neg]
      rw [next]
      exact (missing q rfl).symm

/-- While the packet of the base is missing, `rcv_data_so_far` stays where it is. -/
theorem await_rests (inOrder : InOrder v)
    (missing : ∀ q, rest.head? = some q → q.seqNum ≠ v.core.rcv.theirDataSeqBase) :
    movesSoFar { v with lists := v.lists.await rest } = false := by
  unfold movesSoFar
  dsimp only
  have soFar := await_soFarPacket inOrder rest
  cases found : v.lists.taken.getLast? with
  | some last =>
      rw [found] at soFar
      have none := consecutive_missing (inOrder.arranged.taken_last found) missing
      have ⟨nonzero, here⟩ := await_drop inOrder rest found
      have advanced := advanceSoFar_of_drop (m := v.lists.await rest) nonzero here
      rw [none] at advanced
      rw [soFar]
      dsimp only
      rw [advanced]
      rfl
  | none =>
      rw [found] at soFar
      have empty : v.lists.taken = [] := List.getLast?_eq_none_iff.mp found
      rw [soFar]
      dsimp only
      rw [Bool.eq_false_iff]
      intro first
      obtain ⟨q, head, number⟩ := (Option.any_eq_true _ _).mp first
      have behind : rest.head? = some q := by
        have same : (v.lists.taken ++ rest).head? = some q := head
        rw [empty] at same
        exact same
      exact missing q behind (of_decide_eq_true number)

/-- Nothing else is taken then. -/
theorem takeInOrder_stays (inOrder : InOrder v)
    (missing : ∀ q, rest.head? = some q → q.seqNum ≠ v.core.rcv.theirDataSeqBase) :
    takeInOrder { v with lists := v.lists.await rest } =
      { v with lists := v.lists.await rest } := by
  have soFar := await_soFarPacket inOrder rest
  rw [takeInOrder_rests _ (await_rests inOrder missing)]
  dsimp only
  rw [soFar]
  cases found : v.lists.taken.getLast? with
  | none => rfl
  | some last =>
      rw [found] at soFar
      have next := inOrder.arranged.taken_last found
      have ⟨nonzero, here⟩ := await_drop inOrder rest found
      have advanced := advanceSoFar_of_drop (m := v.lists.await rest) nonzero here
      have none := consecutive_missing next missing
      rw [none] at advanced
      rw [if_pos (by rfl), moveSoFar_eq advanced soFar, next]

/-- The packet of the base moves it. -/
theorem await_moves (inOrder : InOrder v) (next : p.seqNum = v.core.rcv.theirDataSeqBase) :
    movesSoFar { v with lists := v.lists.await (p :: rest) } = true := by
  unfold movesSoFar
  dsimp only
  have soFar := await_soFarPacket inOrder (p :: rest)
  rw [soFar]
  cases taken : v.lists.taken.getLast? with
  | some before =>
      dsimp only
      have ⟨nonzero, here⟩ := await_drop inOrder (p :: rest) taken
      have advanced := advanceSoFar_of_drop (m := v.lists.await (p :: rest)) nonzero here
      rw [consecutive, if_pos (by rw [inOrder.arranged.taken_last taken, next])] at advanced
      rw [advanced]
      exact decide_eq_true (Nat.succ_pos (consecutive p rest))
  | none =>
      have empty : v.lists.taken = [] := List.getLast?_eq_none_iff.mp taken
      apply (Option.any_eq_true _ _).mpr
      refine ⟨p, ?_, decide_eq_true next⟩
      show (v.lists.taken ++ p :: rest).head? = some p
      rw [empty, List.nil_append]
      rfl

/-- The last packet that becomes in order. -/
theorem filled_soFarPacket (inOrder : InOrder v) (p : UMPPacket) (rest : List UMPPacket) :
    ReceiveLists.soFarPacket (filled v p rest).lists = (p :: rest)[consecutive p rest]? := by
  have length := inOrder.arranged.taken_length
  rw [soFarPacket_eq]
  show (if v.lists.rcvDataSoFar + (consecutive p rest + 1) = 0 then none
    else (v.lists.taken ++ p :: rest)[v.lists.rcvDataSoFar + (consecutive p rest + 1) - 1]?) = _
  rw [if_neg (by omega), List.getElem?_append_right (by omega), length]
  congr 1
  omega

/-- Where the loop ends that the packet of the base starts. -/
theorem moveSoFar_fills (inOrder : InOrder v) (next : p.seqNum = v.core.rcv.theirDataSeqBase) :
    moveSoFar (startMoving { v with lists := v.lists.await (p :: rest) }) = filled v p rest := by
  have length := inOrder.arranged.taken_length
  have ends := filled_soFarPacket inOrder p rest
  have bounded := GLists.consecutive_le p rest
  obtain ⟨last, found⟩ : ∃ last, (p :: rest)[consecutive p rest]? = some last :=
    ⟨_, List.getElem?_eq_getElem (by rw [List.length_cons]; omega)⟩
  have number : last.seqNum + 1 = place p.seqNum (consecutive p rest + 1) := by
    rw [consecutive_last found, place_add_one]
  rw [found] at ends
  have moved {w : UMPSocket PlainLists} {changed : Bool} (core : w.core = v.core)
      (advanced : ReceiveLists.advanceSoFar w.lists = ((filled v p rest).lists, changed)) :
      moveSoFar w = filled v p rest := by
    rw [moveSoFar_eq advanced ends, number, core]
    rfl
  unfold startMoving
  dsimp only
  have soFar := await_soFarPacket inOrder (p :: rest)
  rw [soFar]
  cases taken : v.lists.taken.getLast? with
  | some before =>
      have ⟨nonzero, here⟩ := await_drop inOrder (p :: rest) taken
      have advanced := advanceSoFar_of_drop (m := v.lists.await (p :: rest)) nonzero here
      have follows : consecutive before (p :: rest) = consecutive p rest + 1 := by
        rw [consecutive, if_pos]
        rw [inOrder.arranged.taken_last taken, next]
      rw [follows] at advanced
      exact moved rfl advanced
  | none =>
      have empty : v.lists.taken = [] := List.getLast?_eq_none_iff.mp taken
      have none : v.lists.rcvDataSoFar = 0 := by
        rw [← length, empty]
        rfl
      have started : ReceiveLists.startSoFar (v.lists.await (p :: rest)) =
          { v.lists.await (p :: rest) with rcvDataSoFar := 1 } := by
        show PlainLists.mk _ (if v.lists.taken ++ p :: rest = [] then 0 else 1) _ _ = _
        rw [if_neg (by simp)]
      have here : ({ v.lists.await (p :: rest) with rcvDataSoFar := 1 } :
          PlainLists).rcvDataPackets.drop 0 = p :: rest := by
        rw [PlainLists.await, empty]
        rfl
      have advanced := advanceSoFar_of_drop
        (m := { v.lists.await (p :: rest) with rcvDataSoFar := 1 }) Nat.one_ne_zero here
      have same : ({ v.lists.await (p :: rest) with
          rcvDataSoFar := 1 + consecutive p rest } : PlainLists) = (filled v p rest).lists := by
        unfold filled
        rw [none, Nat.zero_add, Nat.add_comm 1]
      dsimp only at advanced
      rw [same] at advanced
      dsimp only
      rw [started]
      exact moved rfl advanced

/-- The packet of the base is taken, with those that follow it. -/
theorem takeInOrder_fills (inOrder : InOrder v) (next : p.seqNum = v.core.rcv.theirDataSeqBase) :
    takeInOrder { v with lists := v.lists.await (p :: rest) } =
      umpCheckRcvDataSoFar (filled v p rest) := by
  rw [takeInOrder_moves _ (await_moves inOrder next), moveSoFar_fills inOrder next]

/-! ### A packet is stored -/

/-- The packets that wait are ascending ahead of the base. -/
def Waits (v : UMPSocket PlainLists) : Prop :=
  Ascending v.core.rcv.theirDataSeqBase (v.lists.waiting.map (·.seqNum))

/-- Where a packet at or ahead of the base goes. -/
inductive Placed (v : UMPSocket PlainLists) (p : UMPPacket) : Option PlainLists → Prop where
  | again (q : UMPPacket) (waits : q ∈ v.lists.waiting) (same : q.seqNum = p.seqNum) :
      Placed v p none
  | ahead (left right : List UMPPacket) (waits : v.lists.waiting = left ++ right)
      (far : 0 < offset v.core.rcv.theirDataSeqBase p.seqNum)
      (ascending : Ascending v.core.rcv.theirDataSeqBase
        ((left ++ p :: right).map (·.seqNum))) :
      Placed v p (some (v.lists.await (left ++ p :: right)))
  | next (here : p.seqNum = v.core.rcv.theirDataSeqBase) :
      Placed v p (some (v.lists.await (p :: v.lists.waiting)))

/-- What a packet at or ahead of the base does to a socket. -/
inductive Stored (v : UMPSocket PlainLists) (p : UMPPacket) : UMPSocket PlainLists → Prop where
  | again (q : UMPPacket) (waits : q ∈ v.lists.waiting) (same : q.seqNum = p.seqNum) :
      Stored v p v
  | ahead (left right : List UMPPacket) (waits : v.lists.waiting = left ++ right)
      (far : 0 < offset v.core.rcv.theirDataSeqBase p.seqNum)
      (ascending : Ascending v.core.rcv.theirDataSeqBase
        ((left ++ p :: right).map (·.seqNum))) :
      Stored v p { v with lists := v.lists.await (left ++ p :: right) }
  | next (here : p.seqNum = v.core.rcv.theirDataSeqBase) :
      Stored v p (umpCheckRcvDataSoFar (filled v p v.lists.waiting))

theorem insertPacket_eq {m : PlainLists} {before behind : List UMPPacket}
    {compare : UInt16 → UInt16 → Int}
    (split : splitAtPlace compare p.seqNum m.rcvDataPackets = (before, behind)) :
    ReceiveLists.insertPacket compare p m =
      if before.getLast?.any fun q => p.seqNum = q.seqNum then none
      else
        some
          { m with
            rcvDataPackets := before ++ p :: behind
            rcvDataSoFar := shift before.length m.rcvDataSoFar
            rcvFirstMsgEnd := shift before.length m.rcvFirstMsgEnd } := by
  unfold ReceiveLists.insertPacket instReceiveListsPlainLists
  dsimp only
  rw [split]

/-- The packet before the place of a new one. -/
theorem InOrder.before_place (inOrder : InOrder v)
    (inRange : 0 ≤ offset v.core.rcv.theirDataSeqBase p.seqNum) {left : List UMPPacket}
    {q : UMPPacket} (last : (v.lists.taken ++ left).getLast? = some q)
    (same : p.seqNum = q.seqNum) : q ∈ left := by
  rw [List.getLast?_append] at last
  cases inLeft : left.getLast? with
  | some r =>
      rw [inLeft, Option.some_or] at last
      rw [← Option.some.inj last]
      exact List.mem_of_getLast? inLeft
  | none =>
      rw [inLeft, Option.none_or] at last
      have near := offset_of_next (inOrder.arranged.taken_last last)
      rw [same] at inRange
      omega

/-- What does not stop the search as the packet itself lies before it. -/
theorem ascending_before {base : UInt16} {left right : List UMPPacket}
    (waits : Ascending base ((left ++ right).map (·.seqNum)))
    (near : ∀ q ∈ left, offset base q.seqNum ≤ offset base p.seqNum)
    (fresh : ∀ q, left.getLast? = some q → p.seqNum ≠ q.seqNum) {q : UMPPacket}
    (member : q ∈ left) : offset base q.seqNum < offset base p.seqNum := by
  obtain ⟨front, last, rfl⟩ := (List.eq_nil_or_concat left).resolve_left (List.ne_nil_of_mem member)
  rw [List.concat_eq_append] at *
  have isLast : offset base last.seqNum < offset base p.seqNum := by
    have least := near last (by simp)
    have apart := fresh last (by simp)
    have other := mt (offset_eq_iff base last.seqNum p.seqNum).mp (Ne.symm apart)
    omega
  rcases List.mem_append.mp member with inFront | isIt
  · have grows := waits.increasing
    simp only [List.map_append, List.map_cons, List.map_nil] at grows
    have across := (List.pairwise_append.mp (List.pairwise_append.mp grows).1).2.2
    exact Int.lt_trans (across _ (List.mem_map_of_mem inFront) _ (by simp)) isLast
  · rw [List.mem_singleton.mp isIt]
    exact isLast

theorem storePacket_none (known : ReceiveLists.insertPacket
    (circleCompare v.core.rcv.theirDataSeqBase) p v.lists = none) : storePacket v p = v := by
  have same : ReceiveLists.insertPacket (umpCmpInRcvbase v.core.rcv) p v.lists = none := known
  unfold storePacket
  rw [same]

theorem storePacket_some {lists : PlainLists} (inserted : ReceiveLists.insertPacket
    (circleCompare v.core.rcv.theirDataSeqBase) p v.lists = some lists) :
    storePacket v p = takeInOrder { v with lists := lists } := by
  have same : ReceiveLists.insertPacket (umpCmpInRcvbase v.core.rcv) p v.lists = some lists :=
    inserted
  unfold storePacket
  rw [same]

theorem insertPacket_placed (inOrder : InOrder v) (waits : Waits v)
    (inRange : 0 ≤ offset v.core.rcv.theirDataSeqBase p.seqNum) :
    Placed v p
      (ReceiveLists.insertPacket (circleCompare v.core.rcv.theirDataSeqBase) p v.lists) := by
  obtain ⟨lefts, rights, numbers, before, after⟩ := waits.split p.seqNum
  obtain ⟨left, right, packets, isLeft, isRight⟩ := List.map_eq_append_iff.mp numbers
  have before' : ∀ q ∈ left, offset v.core.rcv.theirDataSeqBase q.seqNum ≤
      offset v.core.rcv.theirDataSeqBase p.seqNum := fun q member =>
    before _ (isLeft ▸ List.mem_map_of_mem member)
  have after' : ∀ q ∈ right, offset v.core.rcv.theirDataSeqBase p.seqNum <
      offset v.core.rcv.theirDataSeqBase q.seqNum := fun q member =>
    after _ (isRight ▸ List.mem_map_of_mem member)
  have split := inOrder.arranged.split inRange packets before' after'
  have inserted := insertPacket_eq split
  have behind : v.lists.rcvDataSoFar ≤ (v.lists.taken ++ left).length := by
    rw [List.length_append, inOrder.arranged.taken_length]
    exact Nat.le_add_right _ _
  have firstEnd : v.lists.rcvFirstMsgEnd ≤ (v.lists.taken ++ left).length :=
    Nat.le_trans inOrder.arranged.counted.firstEnd behind
  rw [shift_of_le behind, shift_of_le firstEnd, List.append_assoc] at inserted
  have isAwait : ({ v.lists with
      rcvDataPackets := v.lists.taken ++ (left ++ p :: right) } : PlainLists) =
      v.lists.await (left ++ p :: right) := rfl
  rw [isAwait] at inserted
  split at inserted
  · rename_i known
    obtain ⟨q, last, same⟩ := (Option.any_eq_true _ _).mp known
    have inLeft := inOrder.before_place inRange last (of_decide_eq_true same)
    rw [inserted]
    refine .again q ?_ (of_decide_eq_true same).symm
    rw [packets]
    exact List.mem_append_left _ inLeft
  · rename_i fresh
    rw [inserted]
    by_cases here : p.seqNum = v.core.rcv.theirDataSeqBase
    · -- everything that waits is farther
      have none : left = [] := by
        apply List.eq_nil_iff_forall_not_mem.mpr
        intro q member
        have near := before' q member
        have ahead := waits.ahead q.seqNum (by
          rw [packets, List.map_append]
          exact List.mem_append_left _ (List.mem_map_of_mem member))
        rw [here, offset_self] at near
        omega
      rw [none, List.nil_append] at packets ⊢
      rw [← packets]
      exact .next here
    · have far : 0 < offset v.core.rcv.theirDataSeqBase p.seqNum := by
        have apart := mt (offset_eq_zero_iff v.core.rcv.theirDataSeqBase p.seqNum).mp here
        omega
      have ascending : Ascending v.core.rcv.theirDataSeqBase
          ((left ++ p :: right).map (·.seqNum)) := by
        have parts : Ascending v.core.rcv.theirDataSeqBase ((left ++ right).map (·.seqNum)) :=
          packets ▸ waits
        have apart : ∀ q, left.getLast? = some q → p.seqNum ≠ q.seqNum := by
          intro q last same
          apply fresh
          rw [List.getLast?_append, last]
          exact decide_eq_true same
        rw [List.map_append, List.map_cons]
        rw [List.map_append] at parts
        apply parts.insert far
        · intro y member
          obtain ⟨q, inLeft, rfl⟩ := List.mem_map.mp member
          rw [← List.map_append] at parts
          exact ascending_before parts before' apart inLeft
        · intro y member
          obtain ⟨q, inRight, rfl⟩ := List.mem_map.mp member
          exact after' q inRight
      exact .ahead left right packets far ascending

/-- A number at the front of some that are ahead of the base is not the base's. -/
theorem ascending_missing {base : UInt16} {packets : List UMPPacket}
    (ascending : Ascending base (packets.map (·.seqNum))) {q : UMPPacket}
    (first : packets.head? = some q) : q.seqNum ≠ base := by
  intro equal
  have member : q.seqNum ∈ packets.map (·.seqNum) :=
    List.mem_map_of_mem (List.mem_of_head? first)
  have ahead := ascending.ahead _ member
  rw [equal, offset_self] at ahead
  omega

theorem storePacket_stored (inOrder : InOrder v) (waits : Waits v)
    (inRange : 0 ≤ offset v.core.rcv.theirDataSeqBase p.seqNum) :
    Stored v p (storePacket v p) := by
  have placed := insertPacket_placed inOrder waits inRange
  generalize inserted : ReceiveLists.insertPacket (circleCompare v.core.rcv.theirDataSeqBase) p
    v.lists = lists at placed
  cases placed with
  | again q waits same =>
      rw [storePacket_none inserted]
      exact .again q waits same
  | ahead left right waits far ascending =>
      rw [storePacket_some inserted,
        takeInOrder_stays inOrder fun q first => ascending_missing ascending first]
      exact .ahead left right waits far ascending
  | next here =>
      rw [storePacket_some inserted, takeInOrder_fills inOrder here]
      exact .next here

end Sockets

end UserMessageProtocol
