import UserMessageProtocol.Receiver.CallLocks
import UserMessageProtocol.Receiver.Exact
import UserMessageProtocol.Receiver.Steps

/-!
Contract: what a socket with linked lists got, step by step.

Owns: the packets of linked lists (`GLists.packets`, `GLists.taken`, `GLists.waiting`),
the steps that keep links and counts (`takesOrderly`), the invariant `Gathers`, and its
step lemma.

Does not own: which packets come.
-/

set_option autoImplicit false

namespace UserMessageProtocol

open Serial Cuts

namespace GLists

variable (l : GLists)

/-- The packets of `rcv_data_packets`. -/
def packets : List UMPPacket := packetsFrom l.heap l.fresh l.rcvDataPackets

/-- The node behind `rcv_data_so_far`. -/
def behindSoFar : Option Nat :=
  match l.rcvDataSoFar with
  | none => l.rcvDataPackets
  | some address => nextOf l.heap (some address)

/-- The packets of `rcv_data_packets` behind `rcv_data_so_far`. -/
def waiting : List UMPPacket := packetsFrom l.heap l.fresh l.behindSoFar

/-- The packets of `rcv_data_packets` up to `rcv_data_so_far`. -/
def taken : List UMPPacket := l.packets.take (l.packets.length - l.waiting.length)

section Refines

variable {l} {m : PlainLists}

theorem Refines.packets (refines : Refines l m) : l.packets = m.rcvDataPackets := by
  obtain ⟨cells, recCells, before, recBefore, shape⟩ := refines
  rw [GLists.packets, packetsFrom_linked shape.chain shape.room, shape.packets]

theorem Refines.waiting (refines : Refines l m) : l.waiting = m.waiting := by
  obtain ⟨cells, recCells, before, recBefore, shape⟩ := refines
  rw [GLists.waiting, PlainLists.waiting, shape.packets]
  cases count : m.rcvDataSoFar with
  | zero =>
      have soFar := shape.soFar
      rw [count] at soFar
      have behind : l.behindSoFar = l.rcvDataPackets := by
        unfold behindSoFar
        rw [soFar]
        rfl
      rw [behind, packetsFrom_linked shape.chain shape.room]
      rfl
  | succ index =>
      have inside := shape.soFarIn
      rw [count] at inside
      obtain ⟨left, cell, right, split, length⟩ := exists_place inside
      have soFar := shape.soFar
      rw [count, split, ← length, pointerAt_left] at soFar
      have chain := shape.chain
      rw [split] at chain
      have behind : l.behindSoFar = firstOf right := by
        unfold behindSoFar
        rw [soFar]
        exact nextOf_some chain.node_at
      have rest : Linked l.heap ((lastOf (left ++ [cell])).or before) (firstOf right) right := by
        have whole : Linked l.heap before l.rcvDataPackets ((left ++ [cell]) ++ right) := by
          rw [List.append_assoc]
          exact chain
        exact whole.behind
      have room := shape.room
      rw [split, List.length_append, List.length_cons] at room
      rw [behind, packetsFrom_linked rest (by omega), split, List.map_append, List.map_cons]
      have place : (left.map Prod.snd).length = index := by rw [List.length_map, length]
      rw [← place, List.drop_length_add_append]
      rfl

theorem Refines.taken (refines : Refines l m) (within : m.rcvDataSoFar ≤ m.rcvDataPackets.length) :
    l.taken = m.taken := by
  unfold GLists.taken PlainLists.taken
  rw [refines.packets, refines.waiting]
  unfold PlainLists.waiting
  rw [List.length_drop]
  congr 1
  omega

end Refines

end GLists

/-! ### Steps that keep links and counts -/

/-- A packet goes before the head of `rcv_data_packets` only while that has no `prev`. -/
def insertsSafely (u : UMPSocket GLists) (p : UMPPacket) : Prop :=
  GLists.prevOf u.lists.heap u.lists.rcvDataPackets = none ∨
    ∃ q ∈ u.lists.packets, ¬ umpCmpInRcvbase u.core.rcv p.seqNum q.seqNum < 0

/-- A packet of the base makes no end of a message pass but the last one. -/
def passesNoEnd (u : UMPSocket GLists) (p : UMPPacket) : Prop :=
  p.seqNum = u.core.rcv.theirDataSeqBase →
    (Reception.mk u.core.rcv.theirDataSeqBase [] u.lists.waiting).OneEnd p

/-- A packet that is stored is inserted safely and passes no end. -/
def takesOrderly (u : UMPSocket GLists) : SockEvent → Prop
  | .dataPacket p =>
      u.core.ctrl.state = .established → inReceiveRange u.core.rcv p = true →
        insertsSafely u p ∧ passesNoEnd u p
  | _ => True

instance (u : UMPSocket GLists) (p : UMPPacket) : Decidable (insertsSafely u p) := by
  unfold insertsSafely
  infer_instance

instance (u : UMPSocket GLists) (p : UMPPacket) : Decidable (passesNoEnd u p) := by
  unfold passesNoEnd Reception.OneEnd
  infer_instance

instance (u : UMPSocket GLists) (event : SockEvent) : Decidable (takesOrderly u event) :=
  match event with
  | .dataPacket _ => by unfold takesOrderly; infer_instance
  | .userCtrl .. | .userSend .. | .userReceive | .handleCtrl | .handleSend | .handleReceive |
    .bufferLoad .. | .ctrlPacket .. | .dataTimeout | .refreshRwnd | .refreshAck | .actReqWnd |
    .ctrlTimeout | .sendCtrlPacket | .heartbeat | .sendData | .sendReset => instDecidableTrue

/-! ### The invariant -/

/-- The lists of a socket stand for lists in order, which gathered `r` since `old`. -/
def Gathers (old : List (List UMPPacket)) (u : UMPSocket GLists) (r : Reception) : Prop :=
  ∃ m, GLists.Refines u.lists m ∧ InOrder ⟨u.core, m⟩ ∧ Gathered old ⟨u.core, m⟩ r

section Gathers

variable {old : List (List UMPPacket)} {u w : UMPSocket GLists} {r : Reception} {p : UMPPacket}
  {event : SockEvent}

theorem Gathers.base (gathers : Gathers old u r) : u.core.rcv.theirDataSeqBase = r.base := by
  obtain ⟨m, -, -, gathered⟩ := gathers
  exact gathered.base

theorem Gathers.waiting (gathers : Gathers old u r) : u.lists.waiting = r.waiting := by
  obtain ⟨m, refines, -, gathered⟩ := gathers
  exact refines.waiting.trans gathered.waiting

theorem Gathers.ascending (gathers : Gathers old u r) :
    Ascending r.base (r.waiting.map (·.seqNum)) := by
  obtain ⟨m, -, -, gathered⟩ := gathers
  exact gathered.ascending

/-- All complete messages are counted. -/
theorem Gathers.counted (gathers : Gathers old u r) :
    u.core.rcv.rcvPacketsMsgNum = PlainLists.messageEnds u.lists.taken := by
  obtain ⟨m, refines, -, gathered⟩ := gathers
  rw [refines.taken gathered.exact.within]
  exact gathered.exact.counted

theorem recMsgPackets_getD (m : PlainLists) :
    (ReceiveLists.recMsgPackets m).getD [] = m.recMsgPackets := by
  show (if m.recMsgPackets = [] then none else some m.recMsgPackets).getD [] = _
  split
  · rename_i empty
    rw [empty]
    rfl
  · rfl

/-- What is for the user is a whole message. -/
theorem Gathers.user (gathers : Gathers old u r) {packets : List UMPPacket}
    (user : ReceiveLists.recMsgPackets u.lists = some packets) : Closed endsMessage packets := by
  obtain ⟨m, refines, -, gathered⟩ := gathers
  rw [GLists.recMsgPackets_refines refines] at user
  have same := recMsgPackets_getD m
  rw [user] at same
  rcases gathered.user with empty | closed
  · have isNone := (recMsgPackets_isNone m).mpr empty
    rw [user] at isNone
    cases isNone
  · rw [show packets = m.recMsgPackets from same]
    exact closed

/-- No complete message waits while nothing is taken for the user. -/
theorem Gathers.idle (gathers : Gathers old u r)
    (none : ReceiveLists.recMsgPackets u.lists = none) : u.core.rcv.rcvPacketsMsgNum = 0 := by
  obtain ⟨m, refines, inOrder, -⟩ := gathers
  apply inOrder.waiting
  rw [GLists.recMsgPackets_refines refines] at none
  exact (recMsgPackets_isNone m).mp (by rw [none]; rfl)

theorem Gathers.delivered (gathers : Gathers old u r) :
    ∃ delivered, u.core.deliveries = delivered ++ old ∧
      (∀ message ∈ delivered, Closed endsMessage message) ∧
      r.got = delivered.reverse.flatten ++
        ((ReceiveLists.recMsgPackets u.lists).getD [] ++ u.lists.taken) := by
  obtain ⟨m, refines, -, gathered⟩ := gathers
  rw [GLists.recMsgPackets_refines refines, recMsgPackets_getD,
    refines.taken gathered.exact.within]
  exact gathered.delivered

theorem Gathers.congr (gathers : Gathers old u r) (lists : w.lists = u.lists)
    (received : w.core.received = u.core.received) : Gathers old w r := by
  obtain ⟨m, refines, inOrder, gathered⟩ := gathers
  have base : w.core.rcv.theirDataSeqBase = u.core.rcv.theirDataSeqBase :=
    congrArg ReceivePart.theirDataSeqBase received
  have msgNum : w.core.rcv.rcvPacketsMsgNum = u.core.rcv.rcvPacketsMsgNum :=
    congrArg ReceivePart.rcvPacketsMsgNum received
  refine ⟨m, ?_, ⟨?_, ?_⟩, gathered.congr rfl received⟩
  · rw [lists]
    exact refines
  · show PlainLists.Ordered m w.core.rcv.theirDataSeqBase w.core.rcv.rcvPacketsMsgNum _
    rw [base, msgNum]
    exact inOrder.arranged
  · show _ → w.core.rcv.rcvPacketsMsgNum = 0
    rw [msgNum]
    exact inOrder.waiting

/-- Empty lists are in order. -/
theorem inOrder_new {s : SocketCore} (idle : s.rcv.rcvPacketsMsgNum = 0) :
    InOrder ⟨s, ReceiveLists.new⟩ := by
  refine ⟨⟨?_, Nat.le_refl 0, ?_, ?_⟩, fun _ => idle⟩
  · show PlainLists.Counted _ s.rcv.rcvPacketsMsgNum _
    rw [idle]
    exact PlainLists.Counted.zero rfl _
  · intro q found
    cases found
  · intro _ q found
    cases found

/-- A receiver with empty lists. -/
theorem gathers_new (lists : u.lists = ReceiveLists.new) (idle : u.core.rcv.rcvPacketsMsgNum = 0) :
    Gathers u.core.deliveries u ⟨u.core.rcv.theirDataSeqBase, [], []⟩ := by
  refine ⟨ReceiveLists.new, ?_, inOrder_new idle, ?_⟩
  · rw [lists]
    exact GLists.new_refines
  · refine ⟨rfl, rfl, .nil _, ⟨Nat.le_refl 0, ?_, rfl⟩, .inl rfl, [], rfl, by simp, rfl⟩
    exact idle

/-- What an event makes of what was got. -/
inductive GatherStep (u : UMPSocket GLists) (r : Reception) : SockEvent → Reception → Prop where
  | keep (event : SockEvent)
      (unstored : ∀ p, event = .dataPacket p → u.core.ctrl.state = .established →
        inReceiveRange u.core.rcv p = false) : GatherStep u r event r
  | syn (p : UMPPacket) (taken : TakesSyn u.core.handshake p) :
      GatherStep u r (.ctrlPacket p) { r with base := p.seqNum }
  | take (p : UMPPacket) (r' : Reception) (established : u.core.ctrl.state = .established)
      (inRange : inReceiveRange u.core.rcv p = true) (takes : r.Takes p r') :
      GatherStep u r (.dataPacket p) r'

/-- The peer's first number comes before any packet. -/
theorem Gathers.syn (gathers : Gathers old u r) (lists : u.lists = ReceiveLists.new)
    (same : w.lists = u.lists)
    (received : w.core.received = { u.core.received with theirDataSeqBase := p.seqNum }) :
    Gathers old w { r with base := p.seqNum } := by
  have base : w.core.rcv.theirDataSeqBase = p.seqNum :=
    congrArg ReceivePart.theirDataSeqBase received
  have msgNum : w.core.rcv.rcvPacketsMsgNum = u.core.rcv.rcvPacketsMsgNum :=
    congrArg ReceivePart.rcvPacketsMsgNum received
  have deliveries : w.core.deliveries = u.core.deliveries :=
    congrArg ReceivePart.deliveries received
  have idle : u.core.rcv.rcvPacketsMsgNum = 0 := gathers.idle (by rw [lists]; rfl)
  obtain ⟨delivered, since, messages, all⟩ := gathers.delivered
  have waiting := gathers.waiting
  rw [lists] at waiting all
  obtain ⟨m, refines, inOrder, gathered⟩ := gathers_new (u := w) (same.trans lists)
    (msgNum.trans idle)
  refine ⟨m, refines, inOrder, base, ?_, ?_, gathered.exact, gathered.user, delivered, ?_,
    messages, ?_⟩
  · exact gathered.waiting.trans waiting
  · rw [← waiting]
    exact .nil _
  · exact deliveries.trans since
  · obtain ⟨delivered', since', -, none⟩ := gathered.delivered
    rw [all]
    have empty := (List.append_eq_nil_iff.mp none.symm).2
    rw [empty]
    rfl

theorem Gathers.store (gathers : Gathers old u r)
    (inRange : inReceiveRange u.core.rcv p = true) (safely : insertsSafely u p)
    (noEnd : passesNoEnd u p) : ∃ r', Gathers old (storePacket u p) r' ∧ r.Takes p r' := by
  have waits := gathers.waiting
  have isBase := gathers.base
  obtain ⟨m, refines, inOrder, gathered⟩ := gathers
  have notBefore := (inReceiveRange_iff.mp inRange).2
  have follows : Follows u ⟨u.core, m⟩ := ⟨rfl, refines⟩
  have inside : InsideList u ⟨u.core, m⟩ p := by
    rcases safely with front | ⟨q, member, stops⟩
    · exact .inl front
    · right
      rw [refines.packets] at member
      intro none
      have passed := List.rdropWhile_eq_nil_iff.mp none q member
      exact stops (of_decide_eq_true passed)
  have stored := storePacket_follows follows inOrder notBefore inside
  have stillInOrder := storePacket_inOrder inOrder notBefore
  have ahead : 0 ≤ offset r.base p.seqNum := by
    rw [umpCmpInRcvbase_eq, offset_self, isBase] at notBefore
    omega
  have oneEnd : p.seqNum = r.base → r.OneEnd p := by
    intro here
    have passes := noEnd (here.trans isBase.symm)
    unfold Reception.OneEnd Reception.following at passes ⊢
    rw [← waits]
    exact passes
  obtain ⟨r', after, takes⟩ := gathered.store inOrder ahead oneEnd
  refine ⟨r', ⟨(storePacket ⟨u.core, m⟩ p).lists, stored.lists, ?_, ?_⟩, takes⟩
  · rw [stored.core]
    exact stillInOrder
  · rw [stored.core]
    exact after

theorem Gathers.receive (gathers : Gathers old u r)
    (user : (ReceiveLists.recMsgPackets u.lists).isSome) : Gathers old (finishReceive u) r := by
  obtain ⟨m, refines, inOrder, gathered⟩ := gathers
  have follows : Follows u ⟨u.core, m⟩ := ⟨rfl, refines⟩
  have ordered : m.rcvFirstMsgEnd ≤ m.rcvDataSoFar := inOrder.arranged.counted.firstEnd
  have finished := finishReceive_follows follows ordered
  have nonempty : m.recMsgPackets ≠ [] := by
    intro none
    rw [GLists.recMsgPackets_refines refines,
      Option.isNone_iff_eq_none.mp ((recMsgPackets_isNone m).mpr none)] at user
    cases user
  refine ⟨(finishReceive ⟨u.core, m⟩).lists, finished.lists, ?_, ?_⟩
  · rw [finished.core]
    exact finishReceive_inOrder inOrder.arranged
  · rw [finished.core]
    exact gathered.finish nonempty

theorem Gathers.step (gathers : Gathers old u r) (orderly : takesOrderly u event)
    (fresh : ∀ p, event = .ctrlPacket p → TakesSyn u.core.handshake p →
      u.lists = ReceiveLists.new) :
    ∃ r', Gathers old (sockStep u event) r' ∧ GatherStep u r event r' := by
  have step := receive_step u event
  generalize sockStep u event = w at step ⊢
  cases step with
  | idle event unheard untaken same acks =>
      exact ⟨r, gathers.congr same.lists same.received,
        .keep event fun p isPacket => absurd isPacket (unheard p)⟩
  | syn p taken lists received acks =>
      exact ⟨_, gathers.syn (fresh p rfl taken) lists received, .syn p taken⟩
  | tell owed same acks => exact ⟨r, gathers.congr same.lists same.received, .keep _ (by simp)⟩
  | told same acks => exact ⟨r, gathers.congr same.lists same.received, .keep _ (by simp)⟩
  | beat established same acks =>
      exact ⟨r, gathers.congr same.lists same.received, .keep _ (by simp)⟩
  | receive user finished =>
      rw [finished]
      exact ⟨r, gathers.receive user, .keep _ (by simp)⟩
  | dropped p outside same acks =>
      refine ⟨r, gathers.congr same.lists same.received, .keep _ ?_⟩
      rintro q isPacket established
      obtain rfl := SockEvent.dataPacket.inj isPacket
      exact outside.resolve_left (absurd established)
  | stored p established inRange v same rcv acks after =>
      have ⟨safely, noEnd⟩ := orderly established inRange
      have before : Gathers old v r := gathers.congr same.lists same.received
      rw [after]
      have safely' : insertsSafely v p := by
        unfold insertsSafely
        rw [same.lists, rcv]
        exact safely
      have noEnd' : passesNoEnd v p := by
        unfold passesNoEnd
        rw [same.lists, rcv]
        exact noEnd
      obtain ⟨r', stored, takes⟩ := before.store (by rw [rcv]; exact inRange) safely' noEnd'
      exact ⟨r', stored, .take p r' established inRange takes⟩

/-- What a new socket gathered in a run that keeps links and counts. -/
theorem gathers_of_run {seq : UInt16} {clock : Clock} {events : List SockEvent}
    (run : (sockMachine GLists).RunWhere takesOrderly (umpSockNew GLists seq clock) events u) :
    ∃ r, Gathers [] u r := by
  induction run with
  | stay => exact ⟨_, gathers_new rfl rfl⟩
  | @go events w event run allowed orderly inductionHypothesis =>
      obtain ⟨r, gathers⟩ := inductionHypothesis
      have serving := (serving_of_run run.toRun).2
      obtain ⟨r', after, -⟩ := gathers.step orderly fun p _ taken => (serving.fresh taken.fresh).1
      exact ⟨r', after⟩

end Gathers

end UserMessageProtocol
