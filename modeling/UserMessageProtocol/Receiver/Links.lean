import Mathlib.Data.List.Perm.Subperm
import UserMessageProtocol.Socket.ReceiveLists

/-!
Contract: doubly linked lists on a heap of `GList` nodes.

Owns: the chain of cells a pointer leads to (`Linked`), what the walks along `next`
return on it, and how it changes when a node is cut off or inserted.

The first cell's `prev` is left open: the code does not clear it when it takes
cells off the front.

Does not own: the four pointers of a socket (`Receiver.Refinement`).
-/

set_option autoImplicit false

namespace UserMessageProtocol

namespace GLists

/-- An address and the packet of the node there. -/
abbrev Cell : Type := Nat × UMPPacket

/-- From `pointer` on, along `next`, lie just these cells; `prev` of the first one is
`before`, that of any other the cell before it. -/
inductive Linked (heap : Nat → Option GNode) : Option Nat → Option Nat → List Cell → Prop where
  | nil (before : Option Nat) : Linked heap before none []
  | cons {before next : Option Nat} {address : Nat} {p : UMPPacket} {rest : List Cell}
      (node : heap address = some ⟨p, before, next⟩) (linked : Linked heap (some address) next rest) :
      Linked heap before (some address) ((address, p) :: rest)

/-- The address of the first cell. -/
def firstOf (cells : List Cell) : Option Nat := cells.head?.map Prod.fst

/-- The address of the last cell. -/
def lastOf (cells : List Cell) : Option Nat := cells.getLast?.map Prod.fst

/-- The address of the cell a count ends at; zero stands for `NULL`. -/
def pointerAt (cells : List Cell) : Nat → Option Nat
  | 0 => none
  | count + 1 => cells[count]?.map Prod.fst

/-- The last of some cells behind a first one. -/
theorem lastOf_cons (cell : Cell) (rest : List Cell) (before : Option Nat) :
    (lastOf (cell :: rest)).or before = (lastOf rest).or (some cell.1) := by
  cases rest with
  | nil => rfl
  | cons next rest => simp [lastOf, List.getLast?_eq_some_getLast]

theorem lastOf_mem {cells : List Cell} {address : Nat} (last : lastOf cells = some address) :
    ∃ cell ∈ cells, cell.1 = address := by
  rw [lastOf, Option.map_eq_some_iff] at last
  obtain ⟨cell, isLast, same⟩ := last
  exact ⟨cell, List.mem_of_getLast? isLast, same⟩

theorem firstOf_mem {cells : List Cell} {address : Nat} (first : firstOf cells = some address) :
    ∃ cell ∈ cells, cell.1 = address := by
  rw [firstOf, Option.map_eq_some_iff] at first
  obtain ⟨cell, isFirst, same⟩ := first
  exact ⟨cell, List.mem_of_head? isFirst, same⟩

/-- Different addresses below a bound are no more than the bound. -/
theorem length_le_of_used {cells : List Cell} {fresh : Nat} (apart : (cells.map Prod.fst).Nodup)
    (used : ∀ cell ∈ cells, cell.1 < fresh) : cells.length ≤ fresh := by
  have within : cells.map Prod.fst ⊆ List.range fresh := by
    intro address member
    obtain ⟨cell, inCells, rfl⟩ := List.mem_map.mp member
    exact List.mem_range.mpr (used cell inCells)
  have bounded := (List.subperm_of_subset apart within).length_le
  rwa [List.length_map, List.length_range] at bounded

/-- A new address is in no cell before. -/
theorem apart_insert {left right : List Cell} {fresh : Nat} (p : UMPPacket)
    (apart : ((left ++ right).map Prod.fst).Nodup) (used : ∀ cell ∈ left ++ right, cell.1 < fresh) :
    ((left ++ (fresh, p) :: right).map Prod.fst).Nodup := by
  rw [List.map_append, List.map_cons, List.perm_middle.nodup_iff, ← List.map_append,
    List.nodup_cons]
  refine ⟨?_, apart⟩
  intro reused
  obtain ⟨cell, member, same⟩ := List.mem_map.mp reused
  exact absurd same (Nat.ne_of_lt (used cell member))

theorem used_insert {left right : List Cell} {fresh : Nat} (p : UMPPacket)
    (used : ∀ cell ∈ left ++ right, cell.1 < fresh) :
    ∀ cell ∈ left ++ (fresh, p) :: right, cell.1 < fresh + 1 := by
  intro cell member
  rw [List.perm_middle.mem_iff, List.mem_cons] at member
  rcases member with rfl | old
  · exact Nat.lt_succ_self fresh
  · exact Nat.lt_succ_of_lt (used cell old)

section Chain

variable {heap heap' : Nat → Option GNode} {before pointer : Option Nat} {cells : List Cell}

theorem Linked.pointer_eq (linked : Linked heap before pointer cells) :
    pointer = firstOf cells := by
  cases linked with
  | nil before => rfl
  | cons node linked => rfl

/-- A chain depends on its own nodes only. -/
theorem Linked.congr (linked : Linked heap before pointer cells)
    (same : ∀ cell ∈ cells, heap' cell.1 = heap cell.1) : Linked heap' before pointer cells := by
  induction linked with
  | nil before => exact .nil before
  | cons node linked inductionHypothesis =>
      apply Linked.cons
      · rw [same _ List.mem_cons_self]
        exact node
      · apply inductionHypothesis
        intro cell member
        exact same cell (List.mem_cons_of_mem _ member)

/-- The cells behind a place in a chain are a chain. -/
theorem Linked.behind {left right : List Cell} (linked : Linked heap before pointer (left ++ right)) :
    Linked heap ((lastOf left).or before) (firstOf right) right := by
  induction left generalizing before pointer with
  | nil =>
      have first := linked.pointer_eq
      rw [List.nil_append] at first linked
      rw [← first]
      exact linked
  | cons cell rest inductionHypothesis =>
      obtain ⟨address, p⟩ := cell
      cases linked with
      | cons node linked =>
          rw [lastOf_cons]
          exact inductionHypothesis linked

/-- The node of the first cell. -/
theorem Linked.first {first : Cell} {rest : List Cell}
    (linked : Linked heap before pointer (first :: rest)) :
    heap first.1 = some ⟨first.2, before, firstOf rest⟩ := by
  obtain ⟨address, p⟩ := first
  cases linked with
  | cons node linked => rw [node, linked.pointer_eq]

/-- The node of a cell in a chain. -/
theorem Linked.node_at {left right : List Cell} {cell : Cell}
    (linked : Linked heap before pointer (left ++ cell :: right)) :
    heap cell.1 = some ⟨cell.2, (lastOf left).or before, firstOf right⟩ := by
  exact linked.behind.first

/-- Every cell of a chain has its node. -/
theorem Linked.node_of_mem {cell : Cell} (linked : Linked heap before pointer cells)
    (member : cell ∈ cells) : ∃ node, heap cell.1 = some node ∧ node.data = cell.2 := by
  obtain ⟨left, right, rfl⟩ := List.append_of_mem member
  exact ⟨_, linked.node_at, rfl⟩

/-! ### Walks -/

theorem nextOf_some {address : Nat} {node : GNode} (there : heap address = some node) :
    nextOf heap (some address) = node.next := by
  simp [nextOf, deref, there]

theorem prevOf_some {address : Nat} {node : GNode} (there : heap address = some node) :
    prevOf heap (some address) = node.prev := by
  simp [prevOf, deref, there]

theorem packetsFrom_linked (linked : Linked heap before pointer cells) {fuel : Nat}
    (enough : cells.length ≤ fuel) : packetsFrom heap fuel pointer = cells.map Prod.snd := by
  induction linked generalizing fuel with
  | nil before => cases fuel <;> rfl
  | cons node linked inductionHypothesis =>
      cases fuel with
      | zero => simp at enough
      | succ fuel =>
          rw [packetsFrom, deref, Option.bind_some, node]
          dsimp only
          rw [inductionHypothesis (by simpa using enough), List.map_cons]

theorem addressesFrom_linked (linked : Linked heap before pointer cells) {fuel : Nat}
    (enough : cells.length ≤ fuel) : addressesFrom heap fuel pointer = cells.map Prod.fst := by
  induction linked generalizing fuel with
  | nil before => cases fuel <;> rfl
  | cons node linked inductionHypothesis =>
      cases fuel with
      | zero => simp at enough
      | succ fuel =>
          rw [addressesFrom, nextOf_some node, inductionHypothesis (by simpa using enough),
            List.map_cons]

/-- Only an empty list has no last node. -/
theorem lastFrom_eq_none {fuel : Nat} {list : Option Nat} :
    lastFrom heap fuel list = none ↔ list = none := by
  induction fuel generalizing list with
  | zero => exact Iff.rfl
  | succ fuel inductionHypothesis =>
      rw [lastFrom]
      cases next : nextOf heap list with
      | none => exact Iff.rfl
      | some address =>
          rw [inductionHypothesis]
          cases list with
          | none => cases next
          | some head => simp

theorem lastFrom_linked (linked : Linked heap before pointer cells) {fuel : Nat}
    (enough : cells.length ≤ fuel) : lastFrom heap fuel pointer = lastOf cells := by
  induction linked generalizing fuel with
  | nil before => cases fuel <;> rfl
  | @cons before next address p rest node linked inductionHypothesis =>
      cases fuel with
      | zero => simp at enough
      | succ fuel =>
          have tail : lastFrom heap fuel next = lastOf rest :=
            inductionHypothesis (by simpa using enough)
          rw [lastFrom, nextOf_some node]
          cases linked with
          | nil before => rfl
          | cons node linked =>
              dsimp only
              rw [tail, lastOf, lastOf, List.getLast?_cons_cons]

/-- The search from the tail passes the cells behind the place; `prev` of the first cell
leads to nothing that it would pass. -/
theorem searchFrom_linked (compare : UInt16 → UInt16 → Int) (seq : UInt16)
    {left right : List Cell} {fuel : Nat}
    (linked : Linked heap before pointer (left ++ right)) (enough : left.length ≤ fuel)
    (wall : left.rdropWhile (fun cell => compare seq cell.2.seqNum < 0) = [] →
      ∀ node, deref heap before = some node → ¬ compare seq node.data.seqNum < 0) :
    searchFrom heap compare seq fuel ((lastOf left).or before) (firstOf right) =
      ((lastOf (left.rdropWhile fun cell => compare seq cell.2.seqNum < 0)).or before,
        firstOf (left.rtakeWhile (fun cell => compare seq cell.2.seqNum < 0) ++ right)) := by
  induction left using List.reverseRecOn generalizing right fuel with
  | nil =>
      have nothing : lastOf [] = none := rfl
      rw [List.rdropWhile_nil, List.rtakeWhile_nil, nothing, Option.none_or]
      cases fuel with
      | zero => rfl
      | succ fuel =>
          rw [searchFrom]
          cases there : deref heap before with
          | none => rfl
          | some node => exact if_neg (wall rfl node there)
  | append_singleton rest cell inductionHypothesis =>
      rw [List.length_append, List.length_singleton] at enough
      obtain ⟨fuel, rfl⟩ : ∃ less, fuel = less + 1 := ⟨fuel - 1, by omega⟩
      rw [List.append_assoc, List.singleton_append] at linked
      have node := linked.node_at
      have last : (lastOf (rest ++ [cell])).or before = some cell.1 := by simp [lastOf]
      rw [last, searchFrom, deref, Option.bind_some, node]
      dsimp only
      by_cases passes : compare seq cell.2.seqNum < 0
      · rw [if_pos passes, List.rdropWhile_concat_pos _ _ _ (by simpa using passes),
          List.rtakeWhile_concat_pos _ _ _ (by simpa using passes)]
        rw [List.rdropWhile_concat_pos _ _ _ (by simpa using passes)] at wall
        have next : some cell.1 = firstOf (cell :: right) := rfl
        rw [next, inductionHypothesis linked (by omega) wall]
        simp
      · rw [if_neg passes, List.rdropWhile_concat_neg _ _ _ (by simpa using passes),
          List.rtakeWhile_concat_neg _ _ _ (by simpa using passes), last]
        rfl

theorem advanceFrom_linked {left right : List Cell} {cell : Cell} {fuel : Nat}
    (linked : Linked heap before pointer (left ++ cell :: right)) (enough : right.length ≤ fuel) :
    advanceFrom heap fuel (some cell.1) =
      (cell :: right)[PlainLists.consecutive cell.2 (right.map Prod.snd)]?.map Prod.fst := by
  induction right generalizing left cell fuel with
  | nil =>
      cases fuel with
      | zero => rfl
      | succ fuel =>
          have node := linked.node_at
          rw [advanceFrom, nextOf_some node, deref, Option.bind_some, node]
          rfl
  | cons next right inductionHypothesis =>
      obtain ⟨fuel, rfl⟩ : ∃ less, fuel = less + 1 :=
        ⟨fuel - 1, by rw [List.length_cons] at enough; omega⟩
      have node := linked.node_at
      have shifted : Linked heap before pointer ((left ++ [cell]) ++ next :: right) := by
        simpa using linked
      have nextNode := shifted.node_at
      have nextAddress : firstOf (next :: right) = some next.1 := rfl
      rw [nextAddress] at node
      rw [advanceFrom, nextOf_some node, deref, deref, Option.bind_some, Option.bind_some, node,
        nextNode, List.map_cons, PlainLists.consecutive]
      dsimp only
      split
      · rw [inductionHypothesis shifted (by simpa using enough), List.getElem?_cons_succ]
      · rfl

theorem pointerAt_cons (cell : Cell) (rest : List Cell) (count : Nat) :
    pointerAt (cell :: rest) (count + 1) = if count = 0 then some cell.1 else pointerAt rest count := by
  cases count <;> rfl

theorem searchBdr_linked (linked : Linked heap before pointer cells) {fuel : Nat}
    (enough : cells.length ≤ fuel) :
    searchBdr heap fuel pointer = pointerAt cells (PlainLists.firstBdr (cells.map Prod.snd)) := by
  induction linked generalizing fuel with
  | nil before => cases fuel <;> rfl
  | @cons before next address p rest node linked inductionHypothesis =>
      cases fuel with
      | zero => simp at enough
      | succ fuel =>
          have tail : searchBdr heap fuel next =
              pointerAt rest (PlainLists.firstBdr (rest.map Prod.snd)) :=
            inductionHypothesis (by simpa using enough)
          rw [searchBdr, deref, Option.bind_some, node, PlainLists.firstBdr, List.map_cons,
            List.findIdx?_cons]
          dsimp only
          by_cases bdr : uPacketGetFlag p UP_DATA_BDR = true
          · rw [if_pos bdr, bdr]
            rfl
          · rw [if_neg bdr, tail, (Bool.not_eq_true _).mp bdr, PlainLists.firstBdr]
            cases found : List.findIdx? (fun p => uPacketGetFlag p UP_DATA_BDR)
              (rest.map Prod.snd) <;> rfl

/-! ### Cutting and inserting -/

/-- Nothing else lies where a node of a chain without repetitions is. -/
theorem cut_off {left right : List Cell} {last : Cell}
    (apart : ((left ++ last :: right).map Prod.fst).Nodup) {cell : Cell}
    (elsewhere : cell ∈ left ∨ cell ∈ right) : cell.1 ≠ last.1 := by
  rw [List.map_append, List.map_cons, List.perm_middle.nodup_iff, List.nodup_cons] at apart
  intro same
  apply apart.1
  rw [← same]
  rcases elsewhere with inLeft | inRight
  · exact List.mem_append_left _ (List.mem_map_of_mem inLeft)
  · exact List.mem_append_right _ (List.mem_map_of_mem inRight)

theorem modify_same (address : Nat) (change : GNode → GNode) {node : GNode}
    (there : heap address = some node) : modify heap address change address = some (change node) := by
  simp [modify, there]

theorem modify_other {address other : Nat} (change : GNode → GNode) (elsewhere : other ≠ address) :
    modify heap address change other = heap other := if_neg elsewhere

/-- Clearing `next` of a cell ends the chain there. -/
theorem Linked.cut {left right : List Cell} {last : Cell}
    (linked : Linked heap before pointer (left ++ last :: right))
    (apart : ((left ++ last :: right).map Prod.fst).Nodup) :
    Linked (modify heap last.1 fun node => { node with next := none }) before pointer
      (left ++ [last]) := by
  induction left generalizing before pointer with
  | nil =>
      obtain ⟨address, p⟩ := last
      cases linked with
      | cons node linked =>
          apply Linked.cons
          · exact modify_same _ _ node
          · exact .nil _
  | cons cell rest inductionHypothesis =>
      have elsewhere : cell.1 ≠ last.1 := cut_off apart (.inl List.mem_cons_self)
      obtain ⟨address, p⟩ := cell
      cases linked with
      | cons node linked =>
          apply Linked.cons
          · rw [modify_other _ elsewhere]
            exact node
          · apply inductionHypothesis linked
            exact (List.nodup_cons.mp apart).2

/-- The chain behind that cell stays. -/
theorem Linked.rest {left right : List Cell} {last : Cell}
    (linked : Linked heap before pointer (left ++ last :: right))
    (apart : ((left ++ last :: right).map Prod.fst).Nodup) (change : GNode → GNode) :
    Linked (modify heap last.1 change) (some last.1) (firstOf right) right := by
  have shifted : Linked heap before pointer ((left ++ [last]) ++ right) := by simpa using linked
  have behind := shifted.behind
  have end_ : lastOf (left ++ [last]) = some last.1 := by simp [lastOf]
  rw [end_, Option.some_or] at behind
  apply behind.congr
  intro cell member
  apply modify_other
  exact cut_off apart (.inr member)

/-- The heap `heap'` is `heap` with a new node between two parts of a chain. -/
structure Inserted (heap heap' : Nat → Option GNode) (fresh : Nat) (p : UMPPacket)
    (before : Option Nat) (left right : List Cell) : Prop where
  placed : heap' fresh = some ⟨p, (lastOf left).or before, firstOf right⟩
  leftEnd : ∀ address node, lastOf left = some address → heap address = some node →
    heap' address = some { node with next := some fresh }
  rightEnd : ∀ address node, firstOf right = some address → heap address = some node →
    heap' address = some { node with prev := some fresh }
  same : ∀ cell ∈ left ++ right, lastOf left ≠ some cell.1 → firstOf right ≠ some cell.1 →
    heap' cell.1 = heap cell.1

/-- A new node between two chains makes them one. -/
theorem Linked.insert {left right pad : List Cell} {fresh : Nat} {p : UMPPacket}
    {behind start middle : Option Nat} (leftLinked : Linked heap behind start (left ++ pad))
    (rightLinked : Linked heap middle (firstOf right) right)
    (inserted : Inserted heap heap' fresh p before left right) (kept : left ≠ [] → behind = before)
    (apart : ((left ++ right).map Prod.fst).Nodup) :
    Linked heap' before (firstOf (left ++ (fresh, p) :: right)) (left ++ (fresh, p) :: right) := by
  induction left generalizing before behind start with
  | nil =>
      apply Linked.cons
      · exact inserted.placed
      · cases right with
        | nil => exact .nil _
        | cons first rest =>
            obtain ⟨address, q⟩ := first
            cases rightLinked with
            | cons node linked =>
                apply Linked.cons
                · exact inserted.rightEnd _ _ rfl node
                · apply linked.congr
                  intro cell member
                  apply inserted.same cell (List.mem_cons_of_mem _ member)
                  · simp [lastOf]
                  · intro first
                    apply (List.nodup_cons.mp apart).1
                    rw [Option.some.inj first]
                    exact List.mem_map_of_mem member
  | cons cell rest inductionHypothesis =>
      obtain ⟨address, q⟩ := cell
      have outside := (List.nodup_cons.mp apart).1
      have away : ∀ cell ∈ rest ++ right, address ≠ cell.1 := by
        intro cell member here
        apply outside
        show address ∈ (rest ++ right).map Prod.fst
        rw [here]
        exact List.mem_map_of_mem member
      cases leftLinked with
      | @cons _ next _ _ _ node linked =>
          have smaller : Inserted heap heap' fresh p (some address) rest right := by
            constructor
            · rw [← lastOf_cons (address, q)]
              exact inserted.placed
            · intro last lastNode isLast there
              apply inserted.leftEnd last lastNode _ there
              have ends := lastOf_cons (address, q) rest none
              rw [isLast, Option.or_none] at ends
              exact ends
            · exact inserted.rightEnd
            · intro cell member notLast notFirst
              apply inserted.same cell (List.mem_cons_of_mem _ member) _ notFirst
              intro isLast
              have ends := lastOf_cons (address, q) rest none
              rw [Option.or_none, isLast] at ends
              cases last : lastOf rest with
              | none =>
                  rw [last] at ends
                  exact away cell member (Option.some.inj ends).symm
              | some other =>
                  rw [last] at ends notLast
                  exact notLast ends.symm
          have tail := inductionHypothesis linked smaller (fun _ => rfl) (List.nodup_cons.mp apart).2
          rw [← kept (by simp)]
          apply Linked.cons _ tail
          cases rest with
          | nil => exact inserted.leftEnd address _ rfl node
          | cons second rest =>
              have pointed := linked.pointer_eq
              rw [inserted.same (address, q) List.mem_cons_self, node, pointed]
              · rfl
              · intro isLast
                have ends := lastOf_cons (address, q) (second :: rest) none
                rw [isLast, Option.or_none] at ends
                have inRest : lastOf (second :: rest) = some address := by
                  simpa [lastOf, List.getLast?_eq_some_getLast] using ends.symm
                obtain ⟨last, member, same⟩ := lastOf_mem inRest
                exact away last (List.mem_append_left _ member) same.symm
              · intro isFirst
                obtain ⟨first, member, same⟩ := firstOf_mem isFirst
                exact away first (List.mem_append_right _ member) same.symm

/-- The heap with a new node at `fresh` that lies behind `leftEnd` and before
`rightEnd`. -/
def relinked (heap : Nat → Option GNode) (fresh : Nat) (p : UMPPacket)
    (leftEnd rightEnd : Option Nat) : Nat → Option GNode := fun other =>
  if other = fresh then some ⟨p, leftEnd, rightEnd⟩
  else if leftEnd = some other then (heap other).map fun node => { node with next := some fresh }
  else if rightEnd = some other then (heap other).map fun node => { node with prev := some fresh }
  else heap other

theorem relinked_inserted (heap : Nat → Option GNode) {left right : List Cell} {fresh : Nat}
    (p : UMPPacket)
    (apart : ((left ++ right).map Prod.fst).Nodup)
    (unused : ∀ cell ∈ left ++ right, cell.1 ≠ fresh)
    (outside : left = [] → ∀ cell ∈ right, before ≠ some cell.1) :
    Inserted heap (relinked heap fresh p ((lastOf left).or before) (firstOf right)) fresh p before
      left right := by
  have notLeftEnd : ∀ cell ∈ left ++ right, lastOf left ≠ some cell.1 →
      (lastOf left).or before ≠ some cell.1 := by
    intro cell member notLast
    cases last : lastOf left with
    | none =>
        have nothing : left = [] := by simpa [lastOf] using last
        rw [Option.none_or]
        apply outside nothing
        rwa [nothing] at member
    | some address =>
        rw [last] at notLast
        exact notLast
  constructor
  · exact if_pos rfl
  · intro address node isLast there
    obtain ⟨cell, member, rfl⟩ := lastOf_mem isLast
    rw [isLast, relinked, if_neg (unused cell (List.mem_append_left _ member)),
      if_pos (Option.some_or), there]
    rfl
  · intro address node isFirst there
    obtain ⟨cell, member, rfl⟩ := firstOf_mem isFirst
    have inside := List.mem_append_right left member
    have notLast : lastOf left ≠ some cell.1 := by
      intro isLast
      obtain ⟨other, inLeft, same⟩ := lastOf_mem isLast
      rw [List.map_append] at apart
      apply (List.nodup_append.mp apart).2.2 other.1 (List.mem_map_of_mem inLeft) cell.1
        (List.mem_map_of_mem member) same
    rw [relinked, if_neg (unused cell inside), if_neg (notLeftEnd cell inside notLast),
      if_pos isFirst, there]
    rfl
  · intro cell member notLast notFirst
    rw [relinked, if_neg (unused cell member), if_neg (notLeftEnd cell member notLast),
      if_neg notFirst]

/-- A node that is neither new nor at the gap is not touched. -/
theorem relinked_other {fresh other : Nat} (p : UMPPacket) {leftEnd rightEnd : Option Nat}
    (old : other ≠ fresh) (notLast : leftEnd ≠ some other) (notFirst : rightEnd ≠ some other) :
    relinked heap fresh p leftEnd rightEnd other = heap other := by
  rw [relinked, if_neg old, if_neg notLast, if_neg notFirst]

/-- A node that was released stays away. -/
theorem relinked_gone {fresh other : Nat} (p : UMPPacket) {leftEnd rightEnd : Option Nat}
    (old : other ≠ fresh) (gone : heap other = none) :
    relinked heap fresh p leftEnd rightEnd other = none := by
  rw [relinked, if_neg old, gone, Option.map_none, Option.map_none, ite_self, ite_self]

/-- `g_list_insert_before` before a node of the list. -/
theorem insertBefore_sibling {list : Option Nat} {address fresh : Nat} (p : UMPPacket)
    (siblingUsed : address ≠ fresh) (prevUsed : prevOf heap (some address) ≠ some fresh)
    (distinct : prevOf heap (some address) ≠ some address) :
    insertBefore heap fresh list (some address) p =
      (relinked heap fresh p (prevOf heap (some address)) (some address),
        if prevOf heap (some address) = none then some fresh else list) := by
  unfold insertBefore
  dsimp only
  cases before : prevOf heap (some address) with
  | none =>
      rw [if_pos rfl]
      refine congrArg (·, some fresh) (funext fun other => ?_)
      simp only [relinked, modify]
      grind
  | some previous =>
      rw [before] at prevUsed distinct
      rw [if_neg (by simp)]
      refine congrArg (·, list) (funext fun other => ?_)
      simp only [relinked, modify]
      grind

/-- `g_list_insert_before` at the end of a list. -/
theorem insertBefore_end {list : Option Nat} {fresh : Nat} (p : UMPPacket)
    (lastUsed : lastFrom heap fresh list ≠ some fresh) :
    insertBefore heap fresh list none p =
      (relinked heap fresh p (lastFrom heap fresh list) none,
        if list = none then some fresh else list) := by
  unfold insertBefore
  cases list with
  | none =>
      have nothing : lastFrom heap fresh none = none := by cases fresh <;> rfl
      rw [nothing, if_pos rfl]
      refine congrArg (·, some fresh) (funext fun other => ?_)
      simp [relinked]
  | some head =>
      dsimp only
      rw [if_neg (by simp)]
      cases last : lastFrom heap fresh (some head) with
      | none =>
          refine congrArg (·, some head) (funext fun other => ?_)
          simp [relinked]
      | some address =>
          rw [last] at lastUsed
          refine congrArg (·, some head) (funext fun other => ?_)
          simp only [relinked, modify]
          grind

/-- `g_list_insert_before` on a chain, of which the list may be a part. -/
theorem insertBefore_linked {left right : List Cell} {list : Option Nat} {fresh : Nat}
    (p : UMPPacket) (linked : Linked heap before pointer (left ++ right))
    (apart : ((left ++ right).map Prod.fst).Nodup) (used : ∀ cell ∈ left ++ right, cell.1 < fresh)
    (last : lastFrom heap fresh list = lastOf (left ++ right))
    (outside : left = [] → ∀ cell ∈ right, before ≠ some cell.1)
    (usedBefore : left = [] → before ≠ some fresh) (bounded : left ++ right = [] → before = none) :
    insertBefore heap fresh list (firstOf right) p =
      (relinked heap fresh p ((lastOf left).or before) (firstOf right),
        if (lastOf left).or before = none then some fresh else list) := by
  have leftEndUsed : (lastOf left).or before ≠ some fresh := by
    cases isLast : lastOf left with
    | none =>
        have empty : left = [] := by simpa [lastOf] using isLast
        exact usedBefore empty
    | some address =>
        obtain ⟨cell, member, rfl⟩ := lastOf_mem isLast
        intro same
        exact absurd (Option.some.inj same) (Nat.ne_of_lt (used cell (List.mem_append_left _ member)))
  cases right with
  | nil =>
      rw [List.append_nil] at last bounded
      have leftEnd : lastOf left = (lastOf left).or before := by
        cases left with
        | nil => exact (bounded rfl).symm
        | cons cell rest => simp [lastOf, List.getLast?_eq_some_getLast]
      rw [leftEnd] at last
      have nothing : list = none ↔ (lastOf left).or before = none := by
        rw [← last, lastFrom_eq_none]
      have next : firstOf [] = none := rfl
      rw [next, insertBefore_end p (by rw [last]; exact leftEndUsed), last]
      simp only [nothing]
  | cons first right =>
      have node := linked.node_at
      have prev : prevOf heap (some first.1) = (lastOf left).or before := prevOf_some node
      have inRight : first ∈ left ++ first :: right := by simp
      have distinct : (lastOf left).or before ≠ some first.1 := by
        cases isLast : lastOf left with
        | none =>
            have empty : left = [] := by simpa [lastOf] using isLast
            exact outside empty first List.mem_cons_self
        | some address =>
            obtain ⟨cell, member, rfl⟩ := lastOf_mem isLast
            intro same
            exact cut_off apart (.inl member) (Option.some.inj same)
      rw [firstOf, List.head?_cons, Option.map_some,
        insertBefore_sibling p (Nat.ne_of_lt (used first inRight)) (by rw [prev]; exact leftEndUsed)
          (by rw [prev]; exact distinct), prev]

end Chain

end GLists

end UserMessageProtocol
