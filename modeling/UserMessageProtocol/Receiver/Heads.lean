import UserMessageProtocol.Receiver.Gathering

/-!
Contract: the heads of the received packets' lists have nothing before them.

Owns: that the heads' `prev` is `NULL` (`HeadsFree`), that every operation keeps this but
a harvest that leaves packets behind, and what the handlers of received data make of it.

Does not own: the numbers in the lists (`Receiver.Representation`).
-/

set_option autoImplicit false

namespace UserMessageProtocol

open Serial PlainLists

namespace GLists

/-- `prev` of neither head points to a node. -/
structure HeadsFree (l : GLists) : Prop where
  data : prevOf l.heap l.rcvDataPackets = none
  user : prevOf l.heap l.recMsgPackets = none

section Heads

variable {l lists : GLists} {m : PlainLists} {heap : Nat → Option GNode} {pointer : Option Nat}

theorem Linked.prevOf_head {before : Option Nat} {cells : List Cell}
    (linked : Linked heap before pointer cells) (open_ : before = none) :
    prevOf heap pointer = none := by
  cases linked with
  | nil => rfl
  | cons node rest => rw [prevOf_some node, open_]

theorem Linked.free_head {before : Option Nat} {cells : List Cell}
    (linked : Linked heap before pointer cells) (free : prevOf heap pointer = none) :
    Linked heap none pointer cells := by
  cases linked with
  | nil => exact .nil none
  | cons node rest =>
      have open_ : before = none := (prevOf_some node).symm.trans free
      rw [open_] at node
      exact .cons node rest

/-- With free heads both chains start at `NULL`. -/
theorem Refines.shape (refines : Refines l m) (free : HeadsFree l) :
    ∃ cells recCells, Shape l m cells recCells none none := by
  obtain ⟨cells, recCells, before, recBefore, shape⟩ := refines
  refine ⟨cells, recCells, { shape with chain := ?_, recChain := ?_, stale := trivial }⟩
  · exact shape.chain.free_head free.data
  · exact shape.recChain.free_head free.user

theorem Shape.headsFree {cells recCells : List Cell} {before recBefore : Option Nat}
    (shape : Shape l m cells recCells before recBefore) (data : before = none)
    (user : recBefore = none) : HeadsFree l :=
  ⟨shape.chain.prevOf_head data, shape.recChain.prevOf_head user⟩

/-- What a pointer led to is still there, or was released. -/
theorem freeRecMsgPackets_deref (l : GLists) (pointer : Option Nat) :
    deref (ReceiveLists.freeRecMsgPackets l).heap pointer = deref l.heap pointer ∨
      deref (ReceiveLists.freeRecMsgPackets l).heap pointer = none := by
  cases pointer with
  | none => exact .inl rfl
  | some address =>
      have there : deref (ReceiveLists.freeRecMsgPackets l).heap (some address) = _ :=
        freeRecMsgPackets_heap l address
      rw [there]
      split
      · exact .inr rfl
      · exact .inl rfl

theorem freeRecMsgPackets_nextOf (none : nextOf l.heap pointer = none) :
    nextOf (ReceiveLists.freeRecMsgPackets l).heap pointer = .none := by
  unfold nextOf at none ⊢
  rcases freeRecMsgPackets_deref l pointer with same | gone
  · rw [same]
    exact none
  · rw [gone]
    rfl

theorem HeadsFree.release (free : HeadsFree l) :
    HeadsFree (ReceiveLists.freeRecMsgPackets l) := by
  constructor
  · have data := free.data
    show prevOf (ReceiveLists.freeRecMsgPackets l).heap l.rcvDataPackets = none
    unfold prevOf at data ⊢
    rcases freeRecMsgPackets_deref l l.rcvDataPackets with same | gone
    · rw [same]
      exact data
    · rw [gone]
      rfl
  · rfl

theorem prevOf_modify (heap : Nat → Option GNode) (address : Nat) (change : GNode → GNode)
    (kept : ∀ node, (change node).prev = node.prev) (pointer : Option Nat) :
    prevOf (modify heap address change) pointer = prevOf heap pointer := by
  cases pointer with
  | none => rfl
  | some other =>
      by_cases here : other = address
      · subst here
        cases there : heap other with
        | none => simp [prevOf, deref, modify, there]
        | some node => simp [prevOf, deref, modify, there, kept]
      · simp [prevOf, deref, modify, here]

/-- A harvest that takes all there is leaves no head. -/
theorem HeadsFree.harvest (free : HeadsFree l) (another : Bool)
    (all : nextOf l.heap l.rcvFirstMsgEnd = none) :
    HeadsFree (ReceiveLists.harvest another l) := by
  unfold ReceiveLists.harvest instReceiveListsGLists
  dsimp only
  cases last : l.rcvFirstMsgEnd with
  | none => exact free
  | some address =>
      rw [last] at all
      constructor
      · show prevOf _ (nextOf l.heap (some address)) = none
        rw [all]
        rfl
      · show prevOf (modify l.heap address _) l.rcvDataPackets = none
        rw [prevOf_modify]
        · exact free.data
        · exact fun _ => rfl

/-- Nothing lies behind the last packet. -/
theorem Refines.nextOf_soFar (refines : Refines l m)
    (all : m.rcvDataSoFar = m.rcvDataPackets.length) : nextOf l.heap l.rcvDataSoFar = none := by
  obtain ⟨cells, recCells, before, recBefore, shape⟩ := refines
  have soFar := shape.soFar
  rw [shape.packets, List.length_map] at all
  rw [soFar]
  cases count : m.rcvDataSoFar with
  | zero => rfl
  | succ index =>
      rw [count] at all
      have inside : index < cells.length := by omega
      obtain ⟨left, cell, right, split, atIndex⟩ := exists_place inside
      subst split atIndex
      rw [List.length_append, List.length_cons] at all
      have none : right = [] := List.eq_nil_of_length_eq_zero (by omega)
      have node := shape.chain.node_at
      rw [none] at node ⊢
      rw [pointerAt_left]
      exact nextOf_some node

end Heads

end GLists

/-! ### The handlers -/

section Handlers

variable {u w : UMPSocket GLists} {v : UMPSocket PlainLists} {p : UMPPacket}

open GLists

theorem finishReceive_headsFree (free : HeadsFree u.lists)
    (all : 1 ≤ u.core.rcv.rcvPacketsMsgNum → nextOf u.lists.heap u.lists.rcvFirstMsgEnd = none) :
    HeadsFree (finishReceive u).lists := by
  show HeadsFree (umpEndReceiveInternal u).lists
  rw [umpEndReceiveInternal_eq]
  split
  · rename_i another
    apply HeadsFree.harvest free.release
    exact freeRecMsgPackets_nextOf (all another)
  · exact free.release

theorem umpEndReceive_headsFree (free : HeadsFree u.lists)
    (idle : u.core.rcv.rcvPacketsMsgNum < 1) : HeadsFree (umpEndReceive u).lists := by
  unfold umpEndReceive
  split
  · exact free
  · show HeadsFree (finishReceive (unlockReceive u)).lists
    apply finishReceive_headsFree (u := unlockReceive u) free
    intro another
    exact absurd another (Int.not_le.mpr idle)

/-- A message that ends at `rcv_data_so_far` is taken for the user, and is all there is. -/
theorem umpCheckRcvDataSoFar_headsFree (free : HeadsFree u.lists)
    (idle : ReceiveLists.recMsgPackets u.lists = none → u.core.rcv.rcvPacketsMsgNum = 0)
    (all : ReceiveLists.recMsgPackets u.lists = none →
      (ReceiveLists.soFarPacket u.lists).any endsMessage = true →
        nextOf u.lists.heap u.lists.rcvDataSoFar = none) :
    HeadsFree (umpCheckRcvDataSoFar u).lists := by
  have counted : HeadsFree (countMessage u).lists := by
    unfold countMessage
    dsimp only
    split
    · exact ⟨free.data, free.user⟩
    · exact free
  have same : ReceiveLists.recMsgPackets (countMessage u).lists =
      ReceiveLists.recMsgPackets u.lists := by
    unfold countMessage
    dsimp only
    split <;> rfl
  rw [umpCheckRcvDataSoFar_eq]
  split
  · rename_i ends
    split
    · rename_i user
      rw [same, Option.isNone_iff_eq_none] at user
      have first := idle user
      have lists : (countMessage u).lists = ReceiveLists.markFirstMsgEnd u.lists := by
        unfold countMessage
        dsimp only
        rw [first, if_pos (by rfl)]
      apply umpEndReceive_headsFree
      · apply counted.harvest
        rw [lists]
        exact all user ends
      · show u.core.rcv.rcvPacketsMsgNum + 1 - 1 < 1
        omega
    · exact counted
  · exact free

theorem moveSoFar_headsFree (free : HeadsFree u.lists) :
    HeadsFree (moveSoFar (startMoving u)).lists := by
  unfold moveSoFar startMoving
  split <;> exact ⟨free.data, free.user⟩

/-- A packet is inserted, and those that become in order are taken, with all that waits if a
message is taken for the user. -/
theorem storePacket_headsFree (follows : Follows u v) (free : HeadsFree u.lists)
    (inOrder : InOrder v) (waits : Waits v)
    (inRange : ¬ umpCmpInRcvbase v.core.rcv p.seqNum v.core.rcv.theirDataSeqBase < 0)
    (all : p.seqNum = v.core.rcv.theirDataSeqBase →
      ReceiveLists.recMsgPackets u.lists = none →
        (p :: v.lists.waiting)[consecutive p v.lists.waiting]?.any endsMessage = true →
          consecutive p v.lists.waiting = v.lists.waiting.length) :
    HeadsFree (storePacket u p).lists := by
  obtain ⟨cells, recCells, shape⟩ := follows.lists.shape free
  have ahead : 0 ≤ offset v.core.rcv.theirDataSeqBase p.seqNum := by
    rw [umpCmpInRcvbase_eq, offset_self] at inRange
    omega
  have placed := insertPacket_placed (p := p) inOrder waits ahead
  unfold storePacket
  rw [follows.core]
  rcases insertPacket_shape (umpCmpInRcvbase v.core.rcv) p shape (.inl free.data) with
    ⟨known, -⟩ | ⟨l, m, cells', before, linked, plain, shape', kept⟩
  · rw [known]
    exact free
  · have noneBefore : before = none := kept.elim id id
    have free' : HeadsFree l := shape'.headsFree noneBefore rfl
    have refines : Refines l m := ⟨cells', recCells, before, none, shape'⟩
    have follows' : Follows ⟨v.core, l⟩ ⟨v.core, m⟩ := ⟨rfl, refines⟩
    have inserted : ReceiveLists.insertPacket (circleCompare v.core.rcv.theirDataSeqBase) p
      v.lists = some m := plain
    rw [linked]
    rw [inserted] at placed
    dsimp only
    cases moves : movesSoFar (⟨v.core, l⟩ : UMPSocket GLists) with
    | false =>
        rw [takeInOrder_rests _ moves]
        split
        · exact ⟨free'.data, free'.user⟩
        · exact free'
    | true =>
        have moves' := (movesSoFar_follows follows').symm.trans moves
        rw [takeInOrder_moves _ moves]
        have moved := moveSoFar_follows (startMoving_follows follows')
        cases placed with
        | ahead left right waits far ascending =>
            have rests := await_rests inOrder fun q first => ascending_missing ascending first
            rw [rests] at moves'
            cases moves'
        | next here =>
            rw [moveSoFar_fills inOrder here] at moved
            apply umpCheckRcvDataSoFar_headsFree (moveSoFar_headsFree free')
            · rw [GLists.recMsgPackets_refines moved.lists, moved.core]
              intro none
              apply inOrder.waiting
              exact (recMsgPackets_isNone _).mp (Option.isNone_iff_eq_none.mpr none)
            · rw [GLists.recMsgPackets_refines moved.lists, GLists.soFarPacket_refines moved.lists,
                filled_soFarPacket inOrder p v.lists.waiting]
              intro none ends
              rw [GLists.recMsgPackets_refines follows.lists] at all
              apply moved.lists.nextOf_soFar
              show v.lists.rcvDataSoFar + (consecutive p v.lists.waiting + 1) =
                (v.lists.taken ++ p :: v.lists.waiting).length
              rw [all here none ends, List.length_append, List.length_cons,
                inOrder.arranged.taken_length]

end Handlers

end UserMessageProtocol
