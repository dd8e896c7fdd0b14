import UserMessageProtocol.Receiver.Links

/-!
Contract: the linked lists of received packets refine the plain ones.

Owns: when linked lists stand for plain ones (`GLists.Refines`), and that every
operation keeps that.

An insertion before the head needs a head without `prev`; everything else is
simulated as it is.

Does not own: linked lists behind such an insertion (`Receiver.Counting`).
-/

set_option autoImplicit false

namespace UserMessageProtocol

namespace GLists

/-- `prev` of the head: `NULL`, the last packet taken for the user, or a node that was
released. -/
def Stale (l : GLists) (recCells : List Cell) : Option Nat → Prop
  | none => True
  | some address =>
      lastOf recCells = some address ∨
        recCells = [] ∧ l.heap address = none ∧ address < l.fresh

/-- The cells a pointer of `l` leads to are those of `m`, each node is in one list
only, and the other pointers stand where the counts of `m` say. -/
structure Shape (l : GLists) (m : PlainLists) (cells recCells : List Cell)
    (before recBefore : Option Nat) : Prop where
  chain : Linked l.heap before l.rcvDataPackets cells
  recChain : Linked l.heap recBefore l.recMsgPackets recCells
  apart : ((recCells ++ cells).map Prod.fst).Nodup
  used : ∀ cell ∈ recCells ++ cells, cell.1 < l.fresh
  packets : m.rcvDataPackets = cells.map Prod.snd
  recPackets : m.recMsgPackets = recCells.map Prod.snd
  soFar : l.rcvDataSoFar = pointerAt cells m.rcvDataSoFar
  soFarIn : m.rcvDataSoFar ≤ cells.length
  firstMsgEnd : l.rcvFirstMsgEnd = pointerAt cells m.rcvFirstMsgEnd
  firstMsgEndIn : m.rcvFirstMsgEnd ≤ cells.length
  stale : Stale l recCells before

/-- The linked lists `l` stand for the plain lists `m`. -/
def Refines (l : GLists) (m : PlainLists) : Prop :=
  ∃ cells recCells before recBefore, Shape l m cells recCells before recBefore

/-! ### Places in a chain -/

/-- The place a count ends at. -/
theorem exists_place {cells : List Cell} {count : Nat} (inside : count < cells.length) :
    ∃ left cell right, cells = left ++ cell :: right ∧ left.length = count := by
  refine ⟨cells.take count, cells[count], cells.drop (count + 1), ?_, ?_⟩
  · rw [List.getElem_cons_drop, List.take_append_drop]
  · exact List.length_take_of_le (Nat.le_of_lt inside)

theorem pointerAt_left {left right : List Cell} {cell : Cell} :
    pointerAt (left ++ cell :: right) (left.length + 1) = some cell.1 := by
  simp [pointerAt]

/-- Behind a part of a chain the counts go on. -/
theorem pointerAt_behind (left right : List Cell) (count : Nat) :
    pointerAt (left ++ right) (left.length + (count + 1)) = pointerAt right (count + 1) := by
  rw [← Nat.add_assoc, pointerAt, pointerAt, List.getElem?_append_right (Nat.le_add_right _ _),
    Nat.add_sub_cancel_left]

/-- Within a part of a chain the counts are the part's. -/
theorem pointerAt_within {left : List Cell} (right : List Cell) {count : Nat}
    (inside : count ≤ left.length) : pointerAt (left ++ right) count = pointerAt left count := by
  cases count with
  | zero => rfl
  | succ count => rw [pointerAt, pointerAt, List.getElem?_append_left inside]

theorem pointerAt_mem {cells : List Cell} {count address : Nat}
    (there : pointerAt cells count = some address) : ∃ cell ∈ cells, cell.1 = address := by
  cases count with
  | zero => cases there
  | succ count =>
      rw [pointerAt, Option.map_eq_some_iff] at there
      obtain ⟨cell, found, same⟩ := there
      exact ⟨cell, List.mem_of_getElem? found, same⟩

section Shape

variable {l : GLists} {m : PlainLists} {cells recCells : List Cell} {before recBefore : Option Nat}

theorem Shape.cellsApart (shape : Shape l m cells recCells before recBefore) :
    (cells.map Prod.fst).Nodup := by
  have apart := shape.apart
  rw [List.map_append] at apart
  exact (List.nodup_append.mp apart).2.1

theorem Shape.room (shape : Shape l m cells recCells before recBefore) :
    cells.length ≤ l.fresh := by
  apply length_le_of_used shape.cellsApart
  intro cell member
  exact shape.used cell (List.mem_append_right _ member)

theorem Shape.recRoom (shape : Shape l m cells recCells before recBefore) :
    recCells.length ≤ l.fresh := by
  have apart := shape.apart
  rw [List.map_append] at apart
  apply length_le_of_used (List.nodup_append.mp apart).1
  intro cell member
  exact shape.used cell (List.mem_append_left _ member)

theorem Shape.beforeUsed (shape : Shape l m cells recCells before recBefore) :
    before ≠ some l.fresh := by
  rintro rfl
  rcases shape.stale with isLast | ⟨-, -, used⟩
  · obtain ⟨cell, member, same⟩ := lastOf_mem isLast
    exact absurd same (Nat.ne_of_lt (shape.used cell (List.mem_append_left _ member)))
  · exact absurd used (Nat.lt_irrefl _)

/-- The two lists share no node. -/
theorem Shape.disjoint (shape : Shape l m cells recCells before recBefore) {cell other : Cell}
    (first : cell ∈ recCells) (second : other ∈ cells) : cell.1 ≠ other.1 := by
  have apart := shape.apart
  rw [List.map_append] at apart
  exact (List.nodup_append.mp apart).2.2 _ (List.mem_map_of_mem first) _ (List.mem_map_of_mem second)

/-- The packet a pointer into the list points to. -/
theorem Shape.deref_pointerAt (shape : Shape l m cells recCells before recBefore) (count : Nat) :
    (deref l.heap (pointerAt cells (count + 1))).map GNode.data = m.rcvDataPackets[count]? := by
  rw [shape.packets, List.getElem?_map, pointerAt]
  by_cases inside : count < cells.length
  · obtain ⟨left, cell, right, rfl, rfl⟩ := exists_place inside
    have node := shape.chain.node_at
    simp [deref, node]
  · rw [List.getElem?_eq_none (by omega)]
    rfl

end Shape

/-! ### The operations -/

section Operations

variable {l : GLists} {m : PlainLists}

theorem new_refines : Refines ReceiveLists.new ReceiveLists.new := by
  refine ⟨[], [], none, none, .nil _, .nil _, List.nodup_nil, ?_, rfl, rfl, rfl, ?_, rfl, ?_, trivial⟩
  · simp
  · exact Nat.le_refl 0
  · exact Nat.le_refl 0

theorem recMsgPackets_refines (refines : Refines l m) :
    ReceiveLists.recMsgPackets l = ReceiveLists.recMsgPackets m := by
  obtain ⟨cells, recCells, before, recBefore, shape⟩ := refines
  have packets := packetsFrom_linked shape.recChain shape.recRoom
  have pointer := shape.recChain.pointer_eq
  show l.recMsgPackets.map _ = if m.recMsgPackets = [] then none else some m.recMsgPackets
  rw [shape.recPackets]
  cases recCells with
  | nil =>
      rw [pointer]
      rfl
  | cons cell rest =>
      rw [pointer] at packets ⊢
      rw [if_neg (by simp), ← packets]
      rfl

theorem freeRecMsgPackets_refines (refines : Refines l m) :
    Refines (ReceiveLists.freeRecMsgPackets l) (ReceiveLists.freeRecMsgPackets m) := by
  obtain ⟨cells, recCells, before, recBefore, shape⟩ := refines
  refine ⟨cells, [], before, none, ?_, .nil _, shape.cellsApart, ?_, shape.packets, rfl,
    shape.soFar, shape.soFarIn, shape.firstMsgEnd, shape.firstMsgEndIn, ?_⟩
  · apply shape.chain.congr
    intro cell member
    apply if_neg
    rw [addressesFrom_linked shape.recChain shape.recRoom]
    intro released
    obtain ⟨other, inRec, same⟩ := List.mem_map.mp released
    exact shape.disjoint inRec member same
  · intro cell member
    exact shape.used cell (List.mem_append_right _ member)
  · have stale := shape.stale
    cases before with
    | none => trivial
    | some address =>
        have released := addressesFrom_linked shape.recChain shape.recRoom
        rcases stale with isLast | ⟨-, gone, used⟩
        · obtain ⟨cell, member, rfl⟩ := lastOf_mem isLast
          refine .inr ⟨rfl, if_pos ?_, shape.used cell (List.mem_append_left _ member)⟩
          rw [released]
          exact List.mem_map_of_mem member
        · refine .inr ⟨rfl, ?_, used⟩
          show (if _ then none else l.heap address) = none
          rw [gone, ite_self]

theorem soFarPacket_refines (refines : Refines l m) :
    ReceiveLists.soFarPacket l = ReceiveLists.soFarPacket m := by
  obtain ⟨cells, recCells, before, recBefore, shape⟩ := refines
  show (deref l.heap l.rcvDataSoFar).map GNode.data =
    if m.rcvDataSoFar = 0 then none else m.rcvDataPackets[m.rcvDataSoFar - 1]?
  rw [shape.soFar]
  cases m.rcvDataSoFar with
  | zero => rfl
  | succ count =>
      rw [shape.deref_pointerAt, if_neg (Nat.succ_ne_zero count)]
      rfl

theorem firstPacket_refines (refines : Refines l m) :
    ReceiveLists.firstPacket l = ReceiveLists.firstPacket m := by
  obtain ⟨cells, recCells, before, recBefore, shape⟩ := refines
  have first := shape.deref_pointerAt 0
  have pointer : pointerAt cells 1 = l.rcvDataPackets := by
    rw [shape.chain.pointer_eq]
    cases cells <;> rfl
  show (deref l.heap l.rcvDataPackets).map GNode.data = m.rcvDataPackets.head?
  rw [← pointer, first, List.head?_eq_getElem?]

theorem startSoFar_refines (refines : Refines l m) :
    Refines (ReceiveLists.startSoFar l) (ReceiveLists.startSoFar m) := by
  obtain ⟨cells, recCells, before, recBefore, shape⟩ := refines
  refine ⟨cells, recCells, before, recBefore, { shape with soFar := ?_, soFarIn := ?_ }⟩
  · show l.rcvDataPackets = pointerAt cells (if m.rcvDataPackets = [] then 0 else 1)
    rw [shape.chain.pointer_eq, shape.packets]
    cases cells <;> rfl
  · show (if m.rcvDataPackets = [] then 0 else 1) ≤ cells.length
    rw [shape.packets]
    cases cells <;> simp

theorem markFirstMsgEnd_refines (refines : Refines l m) :
    Refines (ReceiveLists.markFirstMsgEnd l) (ReceiveLists.markFirstMsgEnd m) := by
  obtain ⟨cells, recCells, before, recBefore, shape⟩ := refines
  exact ⟨cells, recCells, before, recBefore, { shape with
    firstMsgEnd := shape.soFar
    firstMsgEndIn := shape.soFarIn }⟩

theorem consecutive_le (last : UMPPacket) (packets : List UMPPacket) :
    PlainLists.consecutive last packets ≤ packets.length := by
  induction packets generalizing last with
  | nil => exact Nat.le_refl 0
  | cons p rest inductionHypothesis =>
      rw [PlainLists.consecutive]
      split
      · exact Nat.succ_le_succ (inductionHypothesis p)
      · exact Nat.zero_le _

/-- Only the first cell of a chain has its address. -/
theorem first_iff {left right : List Cell} {cell : Cell}
    (apart : ((left ++ cell :: right).map Prod.fst).Nodup) {count : Nat}
    (inside : count ≤ right.length) :
    (cell :: right)[count]?.map Prod.fst = some cell.1 ↔ count = 0 := by
  constructor
  · intro same
    cases count with
    | zero => rfl
    | succ count =>
        rw [List.getElem?_cons_succ, Option.map_eq_some_iff] at same
        obtain ⟨other, found, same⟩ := same
        exact absurd same (cut_off apart (.inr (List.mem_of_getElem? found)))
  · rintro rfl
    rfl

/-- `rcv_data_so_far` moves over the same packets, and is seen to move alike. -/
theorem advanceSoFar_refines (refines : Refines l m) :
    Refines (ReceiveLists.advanceSoFar l).1 (ReceiveLists.advanceSoFar m).1 ∧
      (ReceiveLists.advanceSoFar l).2 = (ReceiveLists.advanceSoFar m).2 := by
  obtain ⟨cells, recCells, before, recBefore, shape⟩ := refines
  have start := shape.soFar
  cases count : m.rcvDataSoFar with
  | zero =>
      have stays : advanceFrom l.heap l.fresh l.rcvDataSoFar = l.rcvDataSoFar := by
        rw [start, count]
        cases l.fresh <;> rfl
      have plain : ReceiveLists.advanceSoFar m = (m, false) := if_pos count
      rw [plain]
      constructor
      · refine ⟨cells, recCells, before, recBefore, { shape with soFar := ?_ }⟩
        exact stays.trans start
      · show decide (advanceFrom l.heap l.fresh l.rcvDataSoFar ≠ l.rcvDataSoFar) = false
        simp [stays]
  | succ index =>
      have inside := shape.soFarIn
      rw [count] at inside
      obtain ⟨left, cell, right, split, atIndex⟩ := exists_place inside
      subst split atIndex
      rw [count, pointerAt_left] at start
      have room := shape.room
      rw [List.length_append, List.length_cons] at room
      have enough : right.length ≤ l.fresh := by omega
      have reached := advanceFrom_linked shape.chain enough
      rw [← start] at reached
      have bounded := consecutive_le cell.2 (right.map Prod.snd)
      rw [List.length_map] at bounded
      have dropped : m.rcvDataPackets.drop (m.rcvDataSoFar - 1) =
          cell.2 :: right.map Prod.snd := by
        rw [shape.packets, count]
        simp
      have plain : ReceiveLists.advanceSoFar m =
          ({ m with
            rcvDataSoFar := m.rcvDataSoFar +
              PlainLists.consecutive cell.2 (right.map Prod.snd) },
            decide (0 < PlainLists.consecutive cell.2 (right.map Prod.snd))) := by
        show (if m.rcvDataSoFar = 0 then _ else _) = _
        rw [if_neg (by omega), dropped]
      rw [plain]
      constructor
      · refine ⟨left ++ cell :: right, recCells, before, recBefore,
          { shape with soFar := ?_, soFarIn := ?_ }⟩
        · show advanceFrom l.heap l.fresh l.rcvDataSoFar = _
          rw [reached, count, Nat.add_right_comm, pointerAt,
            List.getElem?_append_right (Nat.le_add_right _ _), Nat.add_sub_cancel_left]
        · show m.rcvDataSoFar + _ ≤ _
          rw [count, List.length_append, List.length_cons]
          omega
      · show decide (advanceFrom l.heap l.fresh l.rcvDataSoFar ≠ l.rcvDataSoFar) = _
        rw [reached, start, decide_eq_decide, ne_eq, first_iff shape.cellsApart bounded,
          Nat.pos_iff_ne_zero]

theorem firstBdr_le (packets : List UMPPacket) : PlainLists.firstBdr packets ≤ packets.length := by
  unfold PlainLists.firstBdr
  cases found : packets.findIdx? fun p => uPacketGetFlag p UP_DATA_BDR with
  | none => exact Nat.zero_le _
  | some index => exact (List.findIdx?_eq_some_iff_getElem.mp found).1

/-- Where `rcv_data_so_far` stands once the first cells are cut off. -/
theorem soFar_cut {left right : List Cell} {last : Cell}
    (apart : ((left ++ last :: right).map Prod.fst).Nodup) {count : Nat}
    (behind : left.length + 1 ≤ count) :
    (if pointerAt (left ++ last :: right) count = some last.1 then none
      else pointerAt (left ++ last :: right) count) =
        pointerAt right (count - (left.length + 1)) := by
  obtain ⟨more, rfl⟩ : ∃ more, count = left.length + 1 + more :=
    ⟨count - (left.length + 1), by omega⟩
  rw [Nat.add_sub_cancel_left]
  cases more with
  | zero =>
      rw [Nat.add_zero, pointerAt_left, if_pos rfl]
      rfl
  | succ more =>
      have there : pointerAt (left ++ last :: right) (left.length + 1 + (more + 1)) =
          pointerAt right (more + 1) := by
        rw [Nat.add_assoc, Nat.add_comm 1, pointerAt_behind, pointerAt_cons,
          if_neg (Nat.succ_ne_zero more)]
      rw [there, if_neg]
      intro same
      obtain ⟨cell, member, here⟩ := pointerAt_mem same
      exact cut_off apart (.inr member) here

/-- A harvest takes the same packets, if the first message ends no later than
`rcv_data_so_far`. -/
theorem harvest_refines (refines : Refines l m) (inOrder : m.rcvFirstMsgEnd ≤ m.rcvDataSoFar)
    (another : Bool) :
    Refines (ReceiveLists.harvest another l) (ReceiveLists.harvest another m) := by
  obtain ⟨cells, recCells, before, recBefore, shape⟩ := refines
  have pointer := shape.firstMsgEnd
  cases count : m.rcvFirstMsgEnd with
  | zero =>
      rw [count] at pointer
      have stays : ReceiveLists.harvest another l = l := by
        show (match l.rcvFirstMsgEnd with | none => l | some last => _) = l
        rw [pointer]
        rfl
      have plain : ReceiveLists.harvest another m = m := if_pos count
      rw [stays, plain]
      exact ⟨cells, recCells, before, recBefore, shape⟩
  | succ index =>
      have inside := shape.firstMsgEndIn
      have apart := shape.cellsApart
      rw [count] at inside inOrder
      obtain ⟨left, last, right, split, atIndex⟩ := exists_place inside
      subst split atIndex
      rw [count, pointerAt_left] at pointer
      have node := shape.chain.node_at
      have next : nextOf l.heap (some last.1) = firstOf right := nextOf_some node
      have chain := shape.chain.rest apart fun node => { node with next := none }
      have cells : (left ++ [last]) ++ right = left ++ last :: right := by simp
      have plain : ReceiveLists.harvest another m =
          { recMsgPackets := m.rcvDataPackets.take m.rcvFirstMsgEnd
            rcvDataPackets := m.rcvDataPackets.drop m.rcvFirstMsgEnd
            rcvDataSoFar := m.rcvDataSoFar - m.rcvFirstMsgEnd
            rcvFirstMsgEnd :=
              if another then PlainLists.firstBdr (m.rcvDataPackets.drop m.rcvFirstMsgEnd) else 0 } :=
        if_neg (by omega)
      have parts : (left ++ last :: right).map Prod.snd =
          (left ++ [last]).map Prod.snd ++ right.map Prod.snd := by simp
      have dropped : m.rcvDataPackets.drop m.rcvFirstMsgEnd = right.map Prod.snd := by
        rw [shape.packets, count, parts]
        exact List.drop_left' (by simp)
      have room := shape.room
      rw [List.length_append, List.length_cons] at room
      rw [plain, dropped]
      show Refines (match l.rcvFirstMsgEnd with | none => l | some last => _) _
      rw [pointer]
      refine ⟨right, left ++ [last], some last.1, before, ?_⟩
      constructor
      · show Linked _ _ (nextOf l.heap (some last.1)) right
        rw [next]
        exact chain
      · exact shape.chain.cut apart
      · rw [cells]
        exact apart
      · intro cell member
        rw [cells] at member
        exact shape.used cell (List.mem_append_right _ member)
      · rfl
      · show m.rcvDataPackets.take m.rcvFirstMsgEnd = _
        rw [shape.packets, count, parts]
        exact List.take_left' (by simp)
      · show (if l.rcvDataSoFar = some last.1 then none else l.rcvDataSoFar) = _
        rw [shape.soFar, count]
        exact soFar_cut apart inOrder
      · have within := shape.soFarIn
        rw [List.length_append, List.length_cons] at within
        show m.rcvDataSoFar - m.rcvFirstMsgEnd ≤ right.length
        omega
      · show (if another then searchBdr _ l.fresh (nextOf l.heap (some last.1)) else none) =
          pointerAt right (if another then PlainLists.firstBdr (right.map Prod.snd) else 0)
        rw [next]
        cases another with
        | false => rfl
        | true => exact searchBdr_linked chain (by omega)
      · show (if another then PlainLists.firstBdr (right.map Prod.snd) else 0) ≤ right.length
        cases another with
        | false => exact Nat.zero_le _
        | true => simpa using firstBdr_le (right.map Prod.snd)
      · exact .inl (by simp [lastOf])

/-- A count up to a cell still ends there once another cell is put in. -/
theorem pointerAt_shift (left right : List Cell) (cell : Cell) (count : Nat) :
    pointerAt (left ++ cell :: right) (PlainLists.shift left.length count) =
      pointerAt (left ++ right) count := by
  by_cases behind : left.length < count
  · obtain ⟨more, rfl⟩ : ∃ more, count = left.length + (more + 1) :=
      ⟨count - left.length - 1, by omega⟩
    rw [PlainLists.shift, if_pos behind, Nat.add_assoc, pointerAt_behind, pointerAt_behind,
      pointerAt_cons, if_neg (Nat.succ_ne_zero more)]
  · have inside := Nat.le_of_not_lt behind
    rw [PlainLists.shift, if_neg behind, pointerAt_within _ inside, pointerAt_within _ inside]

theorem shift_le {left right : List Cell} (cell : Cell) {count : Nat}
    (inside : count ≤ (left ++ right).length) :
    PlainLists.shift left.length count ≤ (left ++ cell :: right).length := by
  rw [List.length_append] at inside
  rw [List.length_append, List.length_cons, PlainLists.shift]
  split <;> omega

/-- The place of a number among packets is its place among their cells. -/
theorem splitAtPlace_map (compare : UInt16 → UInt16 → Int) (seq : UInt16) (cells : List Cell) :
    PlainLists.splitAtPlace compare seq (cells.map Prod.snd) =
      ((cells.rdropWhile fun cell => compare seq cell.2.seqNum < 0).map Prod.snd,
        (cells.rtakeWhile fun cell => compare seq cell.2.seqNum < 0).map Prod.snd) := by
  simp [PlainLists.splitAtPlace, List.rdropWhile, List.rtakeWhile, ← List.map_reverse,
    List.dropWhile_map, List.takeWhile_map, Function.comp_def]

theorem rdropWhile_append_rtakeWhile (test : Cell → Bool) (cells : List Cell) :
    cells.rdropWhile test ++ cells.rtakeWhile test = cells := by
  rw [List.rdropWhile, List.rtakeWhile, ← List.reverse_append, List.takeWhile_append_dropWhile,
    List.reverse_reverse]

/-- The search for the place of a number does not go beyond the head. -/
def Inside (compare : UInt16 → UInt16 → Int) (seq : UInt16) (l : GLists) (m : PlainLists) : Prop :=
  prevOf l.heap l.rcvDataPackets = none ∨
    (PlainLists.splitAtPlace compare seq m.rcvDataPackets).1 ≠ []

/-- The packet before the gap. -/
theorem deref_lastOf {heap : Nat → Option GNode} {before pointer : Option Nat} {left right : List Cell}
    (linked : Linked heap before pointer (left ++ right)) :
    (deref heap (lastOf left)).map GNode.data = (left.map Prod.snd).getLast? := by
  cases left using List.reverseRecOn with
  | nil => rfl
  | append_singleton rest cell =>
      rw [List.append_assoc, List.singleton_append] at linked
      have node := linked.node_at
      simp [lastOf, deref, node]

/-- An insertion, given what the search found. -/
theorem insertPacket_found {compare : UInt16 → UInt16 → Int} {p : UMPPacket}
    {tail next : Option Nat}
    (search : searchFrom l.heap compare p.seqNum l.fresh
      (lastFrom l.heap l.fresh l.rcvDataPackets) none = (tail, next)) :
    ReceiveLists.insertPacket compare p l =
      if (deref l.heap tail).any fun node => p.seqNum = node.data.seqNum then none
      else
        some
          { l with
            heap := (insertBefore l.heap l.fresh l.rcvDataPackets next p).1
            fresh := l.fresh + 1
            rcvDataPackets := (insertBefore l.heap l.fresh l.rcvDataPackets next p).2 } := by
  unfold ReceiveLists.insertPacket instReceiveListsGLists
  dsimp only
  rw [search]

/-- An insertion between two parts of a chain that the list ends. -/
theorem insertPacket_between {cells left right : List Cell} {before pointer : Option Nat}
    (compare : UInt16 → UInt16 → Int) (p : UMPPacket) (linked : Linked l.heap before pointer cells)
    (apart : (cells.map Prod.fst).Nodup) (used : ∀ cell ∈ cells, cell.1 < l.fresh)
    (last : lastFrom l.heap l.fresh l.rcvDataPackets = lastOf cells) (split : left ++ right = cells)
    (isLeft : cells.rdropWhile (fun cell => compare p.seqNum cell.2.seqNum < 0) = left)
    (isRight : cells.rtakeWhile (fun cell => compare p.seqNum cell.2.seqNum < 0) = right)
    (wall : left = [] → ∀ node, deref l.heap before = some node →
      ¬ compare p.seqNum node.data.seqNum < 0)
    (outside : left = [] → ∀ cell ∈ right, before ≠ some cell.1)
    (usedBefore : left = [] → before ≠ some l.fresh) (bounded : cells = [] → before = none) :
    ReceiveLists.insertPacket compare p l =
      if (deref l.heap ((lastOf left).or before)).any fun node => p.seqNum = node.data.seqNum then none
      else
        some
          { l with
            heap := relinked l.heap l.fresh p ((lastOf left).or before) (firstOf right)
            fresh := l.fresh + 1
            rcvDataPackets :=
              if (lastOf left).or before = none then some l.fresh else l.rcvDataPackets } := by
  have whole : Linked l.heap before pointer (cells ++ []) := by simpa using linked
  have search := searchFrom_linked compare p.seqNum whole (length_le_of_used apart used)
    (by rwa [isLeft])
  have start : (lastOf cells).or before = lastOf cells := by
    cases cells with
    | nil => rw [bounded rfl]; rfl
    | cons cell rest => simp [lastOf, List.getLast?_eq_some_getLast]
  have nothing : firstOf [] = none := rfl
  rw [start, isLeft, isRight, List.append_nil, ← last, nothing] at search
  subst split
  rw [insertPacket_found search,
    insertBefore_linked p linked apart used last outside usedBefore bounded]

/-- An insertion that does not go beyond the head finds the same place, and leaves the ends
of the lists open as they were. -/
theorem insertPacket_shape {cells recCells : List Cell} {before recBefore : Option Nat}
    (compare : UInt16 → UInt16 → Int) (p : UMPPacket)
    (shape : Shape l m cells recCells before recBefore) (inside : Inside compare p.seqNum l m) :
    ReceiveLists.insertPacket compare p l = none ∧ ReceiveLists.insertPacket compare p m = none ∨
      ∃ l' m' cells' before', ReceiveLists.insertPacket compare p l = some l' ∧
        ReceiveLists.insertPacket compare p m = some m' ∧
        Shape l' m' cells' recCells before' recBefore ∧ (before' = before ∨ before' = none) := by
  have split := rdropWhile_append_rtakeWhile (fun cell => compare p.seqNum cell.2.seqNum < 0) cells
  have place := splitAtPlace_map compare p.seqNum cells
  generalize isLeft : cells.rdropWhile (fun cell => compare p.seqNum cell.2.seqNum < 0) = left
    at split place
  generalize isRight : cells.rtakeWhile (fun cell => compare p.seqNum cell.2.seqNum < 0) = right
    at split place
  -- an empty list has no first cell, and `prev` of the new one is `NULL`
  have bounded : ∃ before', Shape l m cells recCells before' recBefore ∧
      (left = [] → before' = none) ∧ (before' = before ∨ before' = none) := by
    by_cases empty : left = []
    · refine ⟨none, { shape with chain := ?_, stale := trivial }, fun _ => rfl, .inr rfl⟩
      subst empty
      cases right with
      | nil =>
          have pointer := shape.chain.pointer_eq
          rw [← split] at pointer ⊢
          rw [pointer]
          exact .nil none
      | cons first rest =>
          rw [List.nil_append] at split
          have chain := shape.chain
          rw [← split] at chain ⊢
          have node := chain.first
          have head := chain.pointer_eq
          have free : before = none := by
            rcases inside with free | passed
            · rw [head] at free
              exact (prevOf_some node).symm.trans free
            · rw [shape.packets, place] at passed
              exact absurd rfl passed
          rw [← free]
          exact chain
    · exact ⟨before, shape, fun nothing => absurd nothing empty, .inl rfl⟩
  obtain ⟨before, shape, open_, kept⟩ := bounded
  have leftEnd : (lastOf left).or before = lastOf left := by
    cases left with
    | nil => rw [open_ rfl]; rfl
    | cons cell rest => simp [lastOf, List.getLast?_eq_some_getLast]
  have outside : left = [] → ∀ cell ∈ right, before ≠ some cell.1 := by
    intro empty cell _
    rw [open_ empty]
    simp
  have linked := insertPacket_between compare p shape.chain shape.cellsApart
    (fun cell member => shape.used cell (List.mem_append_right _ member))
    (lastFrom_linked shape.chain shape.room) split isLeft isRight
    (fun empty node there => by rw [open_ empty] at there; cases there) outside
    (fun _ => shape.beforeUsed) (fun empty => open_ (by rw [← isLeft, empty]; rfl))
  have plain : ReceiveLists.insertPacket compare p m =
      if (left.map Prod.snd).getLast?.any fun q => p.seqNum = q.seqNum then none
      else
        some
          { m with
            rcvDataPackets := left.map Prod.snd ++ p :: right.map Prod.snd
            rcvDataSoFar := PlainLists.shift left.length m.rcvDataSoFar
            rcvFirstMsgEnd := PlainLists.shift left.length m.rcvFirstMsgEnd } := by
    unfold ReceiveLists.insertPacket instReceiveListsPlainLists
    dsimp only
    rw [shape.packets, place]
    dsimp only
    rw [List.length_map]
  subst split
  have found := deref_lastOf shape.chain
  rw [linked, plain, leftEnd, ← found, Option.any_map]
  by_cases known : (deref l.heap (lastOf left)).any fun node => p.seqNum = node.data.seqNum
  · rw [if_pos known]
    exact .inl ⟨rfl, if_pos known⟩
  · rw [if_neg known]
    refine .inr ⟨_, _, left ++ (l.fresh, p) :: right, before, rfl, if_neg known, ?_, kept⟩
    have old : ∀ cell ∈ recCells ++ (left ++ right), cell.1 ≠ l.fresh :=
      fun cell member => Nat.ne_of_lt (shape.used cell member)
    have inserted := relinked_inserted l.heap p shape.cellsApart
      (fun cell member => old cell (List.mem_append_right _ member)) outside
    rw [leftEnd] at inserted
    constructor
    · have head : (if lastOf left = none then some l.fresh else l.rcvDataPackets) =
          firstOf (left ++ (l.fresh, p) :: right) := by
        rw [shape.chain.pointer_eq]
        cases left with
        | nil => rfl
        | cons cell rest => exact if_neg (by simp [lastOf, List.getLast?_eq_some_getLast])
      show Linked _ _ (if lastOf left = none then some l.fresh else l.rcvDataPackets) _
      rw [head]
      exact shape.chain.insert shape.chain.behind inserted (fun _ => rfl) shape.cellsApart
    · apply shape.recChain.congr
      intro cell member
      apply relinked_other p (old cell (List.mem_append_left _ member))
      · intro isLast
        obtain ⟨other, inLeft, same⟩ := lastOf_mem isLast
        exact shape.disjoint member (List.mem_append_left _ inLeft) same.symm
      · intro isFirst
        obtain ⟨other, inRight, same⟩ := firstOf_mem isFirst
        exact shape.disjoint member (List.mem_append_right _ inRight) same.symm
    · have apart := shape.apart
      rw [← List.append_assoc] at apart ⊢
      apply apart_insert p apart
      rw [List.append_assoc]
      exact shape.used
    · have used := shape.used
      rw [← List.append_assoc] at used ⊢
      exact used_insert p used
    · simp
    · exact shape.recPackets
    · exact shape.soFar.trans (pointerAt_shift left right (l.fresh, p) m.rcvDataSoFar).symm
    · exact shift_le (l.fresh, p) shape.soFarIn
    · exact shape.firstMsgEnd.trans (pointerAt_shift left right (l.fresh, p) m.rcvFirstMsgEnd).symm
    · exact shift_le (l.fresh, p) shape.firstMsgEndIn
    · have stale := shape.stale
      cases before with
      | none => trivial
      | some address =>
          rcases stale with isLast | ⟨empty, gone, used⟩
          · exact .inl isLast
          · refine .inr ⟨empty, ?_, Nat.lt_succ_of_lt used⟩
            exact relinked_gone p (Nat.ne_of_lt used) gone

theorem insertPacket_refines (compare : UInt16 → UInt16 → Int) (p : UMPPacket)
    (refines : Refines l m) (inside : Inside compare p.seqNum l m) :
    ReceiveLists.insertPacket compare p l = none ∧ ReceiveLists.insertPacket compare p m = none ∨
      ∃ l' m', ReceiveLists.insertPacket compare p l = some l' ∧
        ReceiveLists.insertPacket compare p m = some m' ∧ Refines l' m' := by
  obtain ⟨cells, recCells, before, recBefore, shape⟩ := refines
  rcases insertPacket_shape compare p shape inside with
    known | ⟨l', m', cells', before', linked, plain, shape', -⟩
  · exact .inl known
  · exact .inr ⟨l', m', linked, plain, cells', recCells, before', recBefore, shape'⟩

end Operations

end GLists

end UserMessageProtocol
