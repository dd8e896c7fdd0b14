import UserMessageProtocol.Receiver.Simulation

/-!
Contract: linked lists behind an insertion before a head with `prev`.

`g_list_insert_before` then returns the old head, so the new packet is not in the list
but behind the last packet taken for the user. The head stays a packet that is not
the next one, until it is released with the packets of the user.

Owns: this state of the lists (`GLists.Trapped`), how they get into it, and that they
never leave it.

What the program does with a released node is not defined; here it finds none.

Does not own: lists before such an insertion (`Receiver.Simulation`).
-/

set_option autoImplicit false

namespace UserMessageProtocol

open Serial

namespace GLists

/-- The search for a place cannot leave the chain at its front: it meets the last packet
before `base`, or a released node. -/
inductive Wall (l : GLists) (base : UInt16) (lead : List Cell) : Option Nat → Prop where
  | taken {before : Option Nat} (cell : Cell) (member : cell ∈ lead)
      (last : cell.2.seqNum + 1 = base) (user : l.recMsgPackets = firstOf lead) :
      Wall l base lead before
  | released (address : Nat) (gone : l.heap address = none) (used : address < l.fresh)
      (user : l.recMsgPackets = none) : Wall l base lead (some address)

/-- The cells from the head on are behind `lead`, in one chain. -/
structure Behind (l : GLists) (base : UInt16) (lead cells : List Cell) (before : Option Nat) :
    Prop where
  chain : Linked l.heap before (firstOf (lead ++ cells)) (lead ++ cells)
  pointer : l.rcvDataPackets = firstOf cells
  some : cells ≠ []
  ahead : ∀ first rest, cells = first :: rest → first.2.seqNum ≠ base
  apart : ((lead ++ cells).map Prod.fst).Nodup
  used : ∀ cell ∈ lead ++ cells, cell.1 < l.fresh
  led : lead ≠ []
  wall : Wall l base lead before

/-- The head was released with the packets of the user. -/
structure Released (l : GLists) (head : Nat) : Prop where
  pointer : l.rcvDataPackets = some head
  gone : l.heap head = none
  used : head < l.fresh
  user : l.recMsgPackets = none

/-- No packet is in order, and none will be. -/
structure Trapped (l : GLists) (base : UInt16) : Prop where
  soFar : l.rcvDataSoFar = none
  firstMsgEnd : l.rcvFirstMsgEnd = none
  hung : (∃ lead cells before, Behind l base lead cells before) ∨ ∃ head, Released l head

variable {l lists : GLists} {base : UInt16} {p : UMPPacket}

/-! ### What the code reads -/

theorem Trapped.soFarPacket (trapped : Trapped l base) : ReceiveLists.soFarPacket l = none := by
  show (deref l.heap l.rcvDataSoFar).map GNode.data = none
  rw [trapped.soFar]
  rfl

/-- The head is not the next packet. -/
theorem Trapped.firstPacket (trapped : Trapped l base) :
    (ReceiveLists.firstPacket l).any (·.seqNum = base) = false := by
  show ((deref l.heap l.rcvDataPackets).map GNode.data).any _ = false
  rcases trapped.hung with ⟨lead, cells, before, behind⟩ | ⟨head, released⟩
  · rw [behind.pointer]
    cases cells with
    | nil => exact absurd rfl behind.some
    | cons first rest =>
        have node := behind.chain.node_at
        have ahead := behind.ahead first rest rfl
        simp [firstOf, deref, node, ahead]
  · rw [released.pointer, deref, Option.bind_some, released.gone]
    rfl

theorem Trapped.recMsgPackets (trapped : Trapped l base) {packets : List UMPPacket}
    (user : ReceiveLists.recMsgPackets l = some packets) : packets ≠ [] := by
  have unfolded : ReceiveLists.recMsgPackets l =
      l.recMsgPackets.map fun head => packetsFrom l.heap l.fresh (some head) := rfl
  rw [unfolded] at user
  rcases trapped.hung with ⟨lead, cells, before, behind⟩ | ⟨head, released⟩
  · cases behind.wall with
    | taken cell member last lead_ =>
        have enough := length_le_of_used behind.apart behind.used
        have whole := packetsFrom_linked behind.chain enough
        cases lead with
        | nil => cases member
        | cons first rest =>
            rw [lead_] at user
            rw [← Option.some.inj user]
            show packetsFrom l.heap l.fresh (firstOf (first :: rest ++ cells)) ≠ []
            rw [whole]
            simp
    | released address gone used none =>
        rw [none] at user
        cases user
  · rw [released.user] at user
    cases user

/-! ### Releasing the packets of the user -/

theorem freeRecMsgPackets_heap (l : GLists) (address : Nat) :
    (ReceiveLists.freeRecMsgPackets l).heap address =
      if address ∈ addressesFrom l.heap l.fresh l.recMsgPackets then none else l.heap address := rfl

/-- Nothing is released where nothing was taken. -/
theorem freeRecMsgPackets_none (none : l.recMsgPackets = none) :
    (ReceiveLists.freeRecMsgPackets l).heap = l.heap := by
  funext address
  rw [freeRecMsgPackets_heap, none]
  cases l.fresh <;> simp [addressesFrom]

theorem Trapped.free (trapped : Trapped l base) :
    Trapped (ReceiveLists.freeRecMsgPackets l) base := by
  refine ⟨trapped.soFar, trapped.firstMsgEnd, ?_⟩
  rcases trapped.hung with ⟨lead, cells, before, behind⟩ | ⟨head, released⟩
  · obtain ⟨chain, pointer, some, ahead, apart, used, led, wall⟩ := behind
    cases wall with
    | taken cell member last user =>
        right
        cases cells with
        | nil => exact absurd rfl some
        | cons first rest =>
            have inChain : first ∈ lead ++ first :: rest := by simp
            refine ⟨first.1, pointer, ?_, used first inChain, rfl⟩
            have start : firstOf (lead ++ first :: rest) = firstOf lead := by
              cases lead with
              | nil => cases member
              | cons => rfl
            have all := addressesFrom_linked chain (length_le_of_used apart used)
            rw [start, ← user] at all
            rw [freeRecMsgPackets_heap, all]
            exact if_pos (List.mem_map_of_mem inChain)
    | released address gone addressUsed user =>
        left
        have same := freeRecMsgPackets_none user
        refine ⟨lead, cells, .some address, ?_, pointer, some, ahead, apart, used, led, ?_⟩
        · rw [same]
          exact chain
        · rw [← same] at gone
          exact .released address gone addressUsed rfl
  · right
    refine ⟨head, released.pointer, ?_, released.used, rfl⟩
    rw [freeRecMsgPackets_heap, released.gone, ite_self]

/-! ### Insertions -/

/-- A chain that took in a packet, split where its head is. -/
theorem split_again {left right lead cells : List Cell} (fresh : Cell)
    (split : left ++ right = lead ++ cells) (led : lead ≠ []) :
    ∃ lead' cells', left ++ fresh :: right = lead' ++ cells' ∧ lead ⊆ lead' ∧ lead' ≠ [] ∧
      (cells ≠ [] → cells' ≠ [] ∧ cells'.head? = cells.head?) ∧
      (left ≠ [] → firstOf lead' = firstOf lead) := by
  rcases List.append_eq_append_iff.mp split with ⟨rest, front, back⟩ | ⟨rest, front, back⟩
  · refine ⟨left ++ fresh :: rest, cells, by simp [back], ?_, by simp, fun some => ⟨some, rfl⟩, ?_⟩
    · intro cell member
      rw [front] at member
      simp only [List.mem_append, List.mem_cons] at member ⊢
      tauto
    · intro some
      rw [front]
      cases left with
      | nil => exact absurd rfl some
      | cons => rfl
  · cases rest with
    | nil =>
        rw [List.append_nil] at front
        refine ⟨lead ++ [fresh], cells, by simp [front, back], by simp, by simp,
          fun some => ⟨some, rfl⟩, ?_⟩
        intro _
        cases lead with
        | nil => exact absurd rfl led
        | cons => rfl
    | cons first rest =>
        refine ⟨lead, first :: rest ++ fresh :: right, by simp [front], by simp, led, ?_,
          fun _ => rfl⟩
        intro _
        rw [back]
        exact ⟨by simp, rfl⟩

/-- The last cell of a chain whose last part is not empty. -/
theorem lastOf_append {lead cells : List Cell} (some : cells ≠ []) :
    lastOf (lead ++ cells) = lastOf cells := by
  rw [lastOf, lastOf, List.getLast?_append_of_ne_nil _ some]

/-- Cells in one chain take in another without leaving it. -/
theorem Behind.insert {lead cells : List Cell} {before : Option Nat}
    (behind : Behind l base lead cells before) (inRange : ¬ circleCompare base p.seqNum base < 0)
    (inserted : ReceiveLists.insertPacket (circleCompare base) p l = .some lists) :
    ∃ lead cells before, Behind lists base lead cells before := by
  obtain ⟨chain, pointer, some, ahead, apart, used, led, wall⟩ := behind
  have split := rdropWhile_append_rtakeWhile
    (fun cell => circleCompare base p.seqNum cell.2.seqNum < 0) (lead ++ cells)
  generalize isLeft : (lead ++ cells).rdropWhile
    (fun cell => circleCompare base p.seqNum cell.2.seqNum < 0) = left at split
  generalize isRight : (lead ++ cells).rtakeWhile
    (fun cell => circleCompare base p.seqNum cell.2.seqNum < 0) = right at split
  -- at the front of the chain there is only a released node
  have front : left = [] → ∃ address, before = .some address ∧ l.heap address = none ∧
      address < l.fresh ∧ l.recMsgPackets = none := by
    intro empty
    cases wall with
    | taken cell member last user =>
        have passed := List.rdropWhile_eq_nil_iff.mp (isLeft.trans empty) cell
          (List.mem_append_left _ member)
        rw [decide_eq_true_eq, circleCompare_eq, PlainLists.offset_of_next last] at passed
        rw [circleCompare_eq, offset_self] at inRange
        omega
    | released address gone addressUsed user => exact ⟨address, rfl, gone, addressUsed, user⟩
  have enough : cells.length ≤ l.fresh := by
    have whole := length_le_of_used apart used
    rw [List.length_append] at whole
    omega
  have last : lastFrom l.heap l.fresh l.rcvDataPackets = lastOf (lead ++ cells) := by
    rw [pointer, lastFrom_linked chain.behind enough, lastOf_append some]
  have outside : left = [] → ∀ cell ∈ right, before ≠ .some cell.1 := by
    intro empty cell member same
    obtain ⟨address, isBefore, gone, -⟩ := front empty
    rw [isBefore] at same
    obtain ⟨node, there, -⟩ := chain.node_of_mem (split ▸ List.mem_append_right left member)
    rw [← Option.some.inj same, gone] at there
    cases there
  have leftEnd : (lastOf left).or before ≠ none := by
    cases left with
    | nil =>
        obtain ⟨address, isBefore, -⟩ := front rfl
        rw [isBefore]
        simp
    | cons cell rest => simp [lastOf, List.getLast?_eq_some_getLast]
  have result := insertPacket_between (circleCompare base) p chain apart used last split isLeft
    isRight
    (by
      intro empty node there
      obtain ⟨address, isBefore, gone, -⟩ := front empty
      rw [isBefore, deref, Option.bind_some, gone] at there
      cases there)
    outside
    (by
      intro empty same
      obtain ⟨address, isBefore, -, addressUsed, -⟩ := front empty
      rw [isBefore] at same
      exact absurd (Option.some.inj same) (Nat.ne_of_lt addressUsed))
    (by
      intro none
      exact absurd (List.append_eq_nil_iff.mp none).2 some)
  rw [inserted, if_neg leftEnd] at result
  split at result
  · cases result
  · obtain rfl := Option.some.inj result
    obtain ⟨lead', cells', whole, kept, led', cellsKept, firstKept⟩ :=
      split_again (l.fresh, p) split led
    obtain ⟨some', headKept⟩ := cellsKept some
    have used' : ∀ cell ∈ left ++ right, cell.1 < l.fresh := by rwa [split]
    have apart' : ((left ++ right).map Prod.fst).Nodup := by rwa [split]
    have chain' : Linked l.heap before (firstOf (lead ++ cells)) (left ++ right) := by rwa [split]
    have unused : ∀ cell ∈ left ++ right, cell.1 ≠ l.fresh :=
      fun cell member => Nat.ne_of_lt (used' cell member)
    refine ⟨lead', cells', before, ?_, ?_, some', ?_, ?_, ?_, led', ?_⟩
    · rw [← whole]
      exact chain'.insert chain'.behind (relinked_inserted l.heap p apart' unused outside)
        (fun _ => rfl) apart'
    · show l.rcvDataPackets = firstOf cells'
      rw [pointer, firstOf, firstOf, headKept]
    · intro first rest isFirst
      rw [isFirst, List.head?_cons] at headKept
      cases cells with
      | nil => exact absurd rfl some
      | cons other cells =>
          rw [Option.some.inj headKept]
          exact ahead other cells rfl
    · rw [← whole]
      exact apart_insert p apart' used'
    · rw [← whole]
      exact used_insert p used'
    · cases wall with
      | taken cell member last user =>
          have notEmpty : left ≠ [] := by
            intro empty
            obtain ⟨-, -, -, -, nothing⟩ := front empty
            rw [nothing] at user
            cases lead with
            | nil => cases member
            | cons first rest => cases user
          apply Wall.taken cell (kept member) last
          rw [firstKept notEmpty]
          exact user
      | released address gone addressUsed user =>
          exact .released address (relinked_gone p (Nat.ne_of_lt addressUsed) gone)
            (Nat.lt_succ_of_lt addressUsed) user

/-- A released head stays where it is. -/
theorem Released.insert {compare : UInt16 → UInt16 → Int} {head : Nat} (released : Released l head)
    (inserted : ReceiveLists.insertPacket compare p l = some lists) : Released lists head := by
  have next : nextOf l.heap (some head) = none := by
    simp [nextOf, deref, released.gone]
  have last : lastFrom l.heap l.fresh l.rcvDataPackets = some head := by
    rw [released.pointer]
    cases l.fresh with
    | zero => rfl
    | succ fuel => rw [lastFrom, next]
  have search : searchFrom l.heap compare p.seqNum l.fresh
      (lastFrom l.heap l.fresh l.rcvDataPackets) none = (some head, none) := by
    rw [last]
    cases l.fresh with
    | zero => rfl
    | succ fuel => rw [searchFrom, deref, Option.bind_some, released.gone]
  have lastUsed : lastFrom l.heap l.fresh l.rcvDataPackets ≠ some l.fresh := by
    rw [last]
    intro same
    exact absurd (Option.some.inj same) (Nat.ne_of_lt released.used)
  rw [insertPacket_found search, insertBefore_end p lastUsed, deref, Option.bind_some,
    released.gone, if_neg (by simp)] at inserted
  rw [← Option.some.inj inserted]
  refine ⟨?_, ?_, Nat.lt_succ_of_lt released.used, released.user⟩
  · dsimp only
    rw [if_neg (by rw [released.pointer]; simp)]
    exact released.pointer
  · exact relinked_gone p (Nat.ne_of_lt released.used) released.gone

/-- An insertion leaves the other pointers where they are. -/
theorem insertPacket_pointers {compare : UInt16 → UInt16 → Int}
    (inserted : ReceiveLists.insertPacket compare p l = some lists) :
    lists.rcvDataSoFar = l.rcvDataSoFar ∧ lists.rcvFirstMsgEnd = l.rcvFirstMsgEnd := by
  obtain ⟨tail, next, search⟩ : ∃ tail next, searchFrom l.heap compare p.seqNum l.fresh
      (lastFrom l.heap l.fresh l.rcvDataPackets) none = (tail, next) := ⟨_, _, rfl⟩
  rw [insertPacket_found search] at inserted
  split at inserted
  · cases inserted
  · rw [← Option.some.inj inserted]
    exact ⟨rfl, rfl⟩

theorem insertPacket_user {compare : UInt16 → UInt16 → Int}
    (inserted : ReceiveLists.insertPacket compare p l = some lists) :
    lists.recMsgPackets = l.recMsgPackets := by
  obtain ⟨tail, next, search⟩ : ∃ tail next, searchFrom l.heap compare p.seqNum l.fresh
      (lastFrom l.heap l.fresh l.rcvDataPackets) none = (tail, next) := ⟨_, _, rfl⟩
  rw [insertPacket_found search] at inserted
  split at inserted
  · cases inserted
  · rw [← Option.some.inj inserted]

theorem Trapped.insert (trapped : Trapped l base) (inRange : ¬ circleCompare base p.seqNum base < 0)
    (inserted : ReceiveLists.insertPacket (circleCompare base) p l = some lists) :
    Trapped lists base := by
  have pointers := insertPacket_pointers inserted
  refine ⟨pointers.1.trans trapped.soFar, pointers.2.trans trapped.firstMsgEnd, ?_⟩
  rcases trapped.hung with ⟨lead, cells, before, behind⟩ | ⟨head, released⟩
  · exact .inl (behind.insert inRange inserted)
  · exact .inr ⟨head, released.insert inserted⟩

/-! ### Into the trap -/

/-- An insertion that goes before all cells of a list whose head has a `prev`. -/
theorem insertPacket_front {cells : List Cell} {address : Nat}
    (linked : Linked l.heap (some address) l.rcvDataPackets cells) (nonempty : cells ≠ [])
    (apart : (cells.map Prod.fst).Nodup) (used : ∀ cell ∈ cells, cell.1 < l.fresh)
    (passed : cells.rdropWhile (fun cell => circleCompare base p.seqNum cell.2.seqNum < 0) = [])
    (wall : ∀ node, l.heap address = some node → ¬ circleCompare base p.seqNum node.data.seqNum < 0)
    (outside : ∀ cell ∈ cells, cell.1 ≠ address) (usedBefore : address < l.fresh)
    (inserted : ReceiveLists.insertPacket (circleCompare base) p l = some lists) :
    lists =
      { l with
        heap := relinked l.heap l.fresh p (some address) (firstOf cells)
        fresh := l.fresh + 1 } := by
  have split := rdropWhile_append_rtakeWhile
    (fun cell => circleCompare base p.seqNum cell.2.seqNum < 0) cells
  rw [passed, List.nil_append] at split
  have result := insertPacket_between (circleCompare base) p linked apart used
    (lastFrom_linked linked (length_le_of_used apart used)) (List.nil_append cells) passed split
    (fun _ node there => wall node there)
    (fun _ cell member same => outside cell member (Option.some.inj same).symm)
    (fun _ same => absurd (Option.some.inj same) (Nat.ne_of_lt usedBefore))
    (fun none => absurd none nonempty)
  have leftEnd : (lastOf []).or (some address) = some address := rfl
  rw [inserted, leftEnd, if_neg (Option.some_ne_none address)] at result
  split at result
  · cases result
  · exact Option.some.inj result

/-- Behind a head whose `prev` is the last packet of the user, that packet's chain and the
list become one. -/
theorem Shape.trapped_taken {m : PlainLists} {cells recCells : List Cell} {address : Nat}
    {recBefore : Option Nat} {cell : Cell}
    (shape : Shape l m cells recCells (some address) recBefore) (isLast : lastOf recCells = some address)
    (member : cell ∈ recCells) (last : cell.2.seqNum + 1 = base) (nonempty : cells ≠ [])
    (ahead : ∀ first rest, cells = first :: rest → first.2.seqNum ≠ base) :
    Behind
      { l with
        heap := relinked l.heap l.fresh p (some address) (firstOf cells)
        fresh := l.fresh + 1 }
      base (recCells ++ [(l.fresh, p)]) cells recBefore := by
  have whole : recCells ++ [(l.fresh, p)] ++ cells = recCells ++ (l.fresh, p) :: cells := by simp
  have notEmpty : recCells ≠ [] := List.ne_nil_of_mem member
  have recChain : Linked l.heap recBefore l.recMsgPackets (recCells ++ []) := by
    rw [List.append_nil]
    exact shape.recChain
  have chain := shape.chain
  rw [chain.pointer_eq] at chain
  have inserted : Inserted l.heap
      (relinked l.heap l.fresh p ((lastOf recCells).or recBefore) (firstOf cells)) l.fresh p recBefore
      recCells cells :=
    relinked_inserted l.heap p shape.apart
      (fun cell member => Nat.ne_of_lt (shape.used cell member)) (fun empty => absurd empty notEmpty)
  rw [isLast, Option.some_or] at inserted
  refine ⟨?_, shape.chain.pointer_eq, nonempty, ahead, ?_, ?_, by simp, ?_⟩
  · rw [whole]
    exact recChain.insert chain inserted (fun _ => rfl) shape.apart
  · rw [whole]
    exact apart_insert p shape.apart shape.used
  · rw [whole]
    exact used_insert p shape.used
  · apply Wall.taken cell (List.mem_append_left _ member) last
    show l.recMsgPackets = _
    rw [shape.recChain.pointer_eq]
    cases recCells with
    | nil => cases member
    | cons => rfl

/-- Behind a head whose `prev` was released, the new packet is lost. -/
theorem Shape.trapped_released {m : PlainLists} {cells : List Cell} {address : Nat}
    {recBefore : Option Nat} (shape : Shape l m cells [] (some address) recBefore)
    (gone : l.heap address = none) (used : address < l.fresh)
    (outside : ∀ cell ∈ cells, cell.1 ≠ address) (nonempty : cells ≠ [])
    (ahead : ∀ first rest, cells = first :: rest → first.2.seqNum ≠ base) :
    Behind
      { l with
        heap := relinked l.heap l.fresh p (some address) (firstOf cells)
        fresh := l.fresh + 1 }
      base [(l.fresh, p)] cells (some address) := by
  have nothing : Linked l.heap none none ([] ++ []) := .nil none
  have chain := shape.chain
  rw [chain.pointer_eq] at chain
  have inserted : Inserted l.heap (relinked l.heap l.fresh p (some address) (firstOf cells)) l.fresh p
      (some address) [] cells :=
    relinked_inserted l.heap p shape.apart
      (fun cell member => Nat.ne_of_lt (shape.used cell member))
      (fun _ cell member same => outside cell member (Option.some.inj same).symm)
  refine ⟨?_, shape.chain.pointer_eq, nonempty, ahead, ?_, ?_, by simp, ?_⟩
  · exact nothing.insert chain inserted (fun some => absurd rfl some) shape.apart
  · exact apart_insert p shape.apart shape.used
  · exact used_insert p shape.used
  · exact .released address (relinked_gone p (Nat.ne_of_lt used) gone) (Nat.lt_succ_of_lt used)
      shape.recChain.pointer_eq

/-- Behind an insertion before a head with `prev` the lists are trapped. -/
theorem Refines.trapped {m : PlainLists} {msgNum : Int} (refines : Refines l m)
    (ordered : m.Ordered base msgNum m.rcvDataSoFar)
    (inRange : ¬ circleCompare base p.seqNum base < 0)
    (outside : ¬ Inside (circleCompare base) p.seqNum l m)
    (inserted : ReceiveLists.insertPacket (circleCompare base) p l = some lists) :
    Trapped lists base ∧ msgNum = 0 := by
  obtain ⟨cells, recCells, before, recBefore, shape⟩ := refines
  unfold Inside at outside
  rw [not_or, not_not] at outside
  obtain ⟨hasPrev, passedAll⟩ := outside
  -- no packet is in order, for such a packet would have stopped the search
  have nothing : m.rcvDataSoFar = 0 := by
    have behind := ordered.behind inRange
    rw [passedAll] at behind
    exact Nat.le_zero.mp behind
  have idle : msgNum = 0 := by
    have counted := ordered.counted
    rw [nothing] at counted
    exact counted.nothing
  have soFar := shape.soFar
  rw [nothing] at soFar
  have firstMsgEnd := shape.firstMsgEnd
  rw [ordered.counted.idle idle] at firstMsgEnd
  have pointers := insertPacket_pointers inserted
  refine ⟨⟨pointers.1.trans soFar, pointers.2.trans firstMsgEnd, .inl ?_⟩, idle⟩
  have nonempty : cells ≠ [] := by
    rintro rfl
    rw [shape.chain.pointer_eq] at hasPrev
    exact hasPrev rfl
  obtain ⟨address, rfl⟩ : ∃ address, before = some address := by
    apply Option.ne_none_iff_exists'.mp
    rintro rfl
    cases cells with
    | nil => exact nonempty rfl
    | cons first rest =>
        rw [shape.chain.pointer_eq] at hasPrev
        exact hasPrev (prevOf_some shape.chain.first)
  have passed : cells.rdropWhile (fun cell => circleCompare base p.seqNum cell.2.seqNum < 0) = [] := by
    have place := splitAtPlace_map (circleCompare base) p.seqNum cells
    rw [← shape.packets, Prod.ext_iff, passedAll] at place
    exact List.map_eq_nil_iff.mp place.1.symm
  have ahead : ∀ first rest, cells = first :: rest → first.2.seqNum ≠ base := by
    intro first rest isFirst next
    have passedFirst := List.rdropWhile_eq_nil_iff.mp passed first (by simp [isFirst])
    rw [decide_eq_true_eq, next] at passedFirst
    exact inRange passedFirst
  have used : ∀ cell ∈ cells, cell.1 < l.fresh :=
    fun cell member => shape.used cell (List.mem_append_right _ member)
  rcases shape.stale with isLast | ⟨rfl, gone, usedBefore⟩
  · obtain ⟨cell, lastCell, here⟩ := Option.map_eq_some_iff.mp isLast
    have member := List.mem_of_getLast? lastCell
    have last : cell.2.seqNum + 1 = base := by
      apply ordered.taken nothing
      rw [shape.recPackets, List.getLast?_map, lastCell]
      rfl
    obtain ⟨node, there, data⟩ := shape.recChain.node_of_mem member
    have usedBefore := shape.used cell (List.mem_append_left _ member)
    rw [here] at there usedBefore
    have wall : ∀ other, l.heap address = some other →
        ¬ circleCompare base p.seqNum other.data.seqNum < 0 := by
      intro other isOther
      rw [there] at isOther
      rw [← Option.some.inj isOther, data, circleCompare_eq, PlainLists.offset_of_next last]
      rw [circleCompare_eq, offset_self] at inRange
      omega
    have result := insertPacket_front shape.chain nonempty shape.cellsApart used passed wall
      (fun other inCells same => shape.disjoint member inCells (here.trans same.symm)) usedBefore
      inserted
    rw [result]
    exact ⟨_, cells, recBefore, shape.trapped_taken isLast member last nonempty ahead⟩
  · have apartFromIt : ∀ cell ∈ cells, cell.1 ≠ address := by
      rintro cell member rfl
      obtain ⟨node, there, -⟩ := shape.chain.node_of_mem member
      rw [gone] at there
      cases there
    have result := insertPacket_front shape.chain nonempty shape.cellsApart used passed
      (fun node there => by rw [gone] at there; cases there) apartFromIt usedBefore inserted
    rw [result]
    exact ⟨_, cells, some address,
      shape.trapped_released gone usedBefore apartFromIt nonempty ahead⟩

end GLists

end UserMessageProtocol
