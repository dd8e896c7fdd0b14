import UserMessageProtocol.Connection.Lifetime

/-!
Contract: the iterations of the socket thread are runs of the machine of a socket.

Owns: the events of one iteration of `ump_sock_thread_func` (`iterationEvents`), the
machine of a socket with its thread (`threadMachine`), and the theorem that every run
of it is one of the socket's.

Does not own: what the handlers do.
-/

set_option autoImplicit false

namespace UserMessageProtocol

/-! ### The events of an iteration -/

/-- The packets `ump_handle_ctrl_packet` handles: up to the first one with RST. -/
def handledCtrlPackets : List UMPPacket → List UMPPacket
  | [] => []
  | p :: rest => if uPacketGetFlag p UP_CTRL_RST then [p] else p :: handledCtrlPackets rest

/-- The handlers that take up user calls. -/
def callEvents : List SockEvent := [.handleCtrl, .handleSend, .handleReceive]

section Iteration

variable {Lists : Type} [ReceiveLists Lists]

/-- What an iteration makes a socket do. -/
def iterationEvents (s : UMPSocket Lists) (q : PacketQueues) : List SockEvent :=
  if ((sockMachine Lists).after s callEvents).core.ctrl.errorOccured then callEvents
  else
    let q := umpSockFetchReceivedPackets q
    let fetched := callEvents ++ .bufferLoad q.recDataPackets.length ::
      (handledCtrlPackets q.localCtrlPackets).map .ctrlPacket
    if ((sockMachine Lists).after s fetched).core.ctrl.errorOccured then fetched
    else fetched ++ (q.localDataPackets.map .dataPacket ++ timedEvents)

/-- The events of an iteration before the data packets, for the queues fetched. -/
def fetchedEvents (q : PacketQueues) : List SockEvent :=
  callEvents ++ .bufferLoad q.recDataPackets.length ::
    (handledCtrlPackets q.localCtrlPackets).map .ctrlPacket

/-- The events of an iteration up to the data packets, which are the last ones. -/
def packetEvents (q : PacketQueues) : List SockEvent :=
  fetchedEvents q ++ q.localDataPackets.map .dataPacket

/-- No error ends the iteration early. -/
structure RunsAllHandlers (s : UMPSocket Lists) (q : PacketQueues) : Prop where
  called : ((sockMachine Lists).after s callEvents).core.ctrl.errorOccured = false
  fetched : ((sockMachine Lists).after s
    (fetchedEvents (umpSockFetchReceivedPackets q))).core.ctrl.errorOccured = false

instance (s : UMPSocket Lists) (q : PacketQueues) : Decidable (RunsAllHandlers s q) :=
  decidable_of_iff (_ ∧ _) ⟨fun both => ⟨both.1, both.2⟩, fun all => ⟨all.called, all.fetched⟩⟩

theorem iterationEvents_all {s : UMPSocket Lists} {q : PacketQueues} (all : RunsAllHandlers s q) :
    iterationEvents s q = packetEvents (umpSockFetchReceivedPackets q) ++ timedEvents := by
  have fetched := all.fetched
  unfold fetchedEvents at fetched
  unfold iterationEvents
  dsimp only
  rw [all.called, fetched]
  simp [packetEvents, fetchedEvents]

/-- An iteration that ends early only takes up calls and handles control packets. -/
theorem iterationEvents_early {s : UMPSocket Lists} {q : PacketQueues}
    (early : ¬ RunsAllHandlers s q) :
    iterationEvents s q = callEvents ∨
      iterationEvents s q = fetchedEvents (umpSockFetchReceivedPackets q) := by
  unfold iterationEvents
  dsimp only
  split
  · exact .inl rfl
  · rename_i called
    split
    · exact .inr rfl
    · rename_i fetched
      exact absurd ⟨(Bool.not_eq_true _).mp called, (Bool.not_eq_true _).mp fetched⟩ early

theorem after_append (s : UMPSocket Lists) (events later : List SockEvent) :
    (sockMachine Lists).after s (events ++ later) =
      (sockMachine Lists).after ((sockMachine Lists).after s events) later :=
  List.foldl_append

theorem handleCtrlPackets_after (s : UMPSocket Lists) (packets : List UMPPacket) :
    (handleCtrlPackets s packets).1 =
      (sockMachine Lists).after s ((handledCtrlPackets packets).map .ctrlPacket) := by
  induction packets generalizing s with
  | nil => rfl
  | cons p rest inductionHypothesis =>
      unfold handleCtrlPackets handledCtrlPackets
      dsimp only
      split
      · rfl
      · exact inductionHypothesis _

theorem handleDataPackets_after (s : UMPSocket Lists) (packets : List UMPPacket) :
    handleDataPackets s packets = (sockMachine Lists).after s (packets.map .dataPacket) := by
  unfold handleDataPackets Machine.after
  rw [List.foldl_map]
  rfl

/-- An iteration does what its events do, one after another. -/
theorem umpSockThreadFunc_after (s : UMPSocket Lists) (q : PacketQueues) :
    (umpSockThreadFunc s q).1 = (sockMachine Lists).after s (iterationEvents s q) := by
  unfold umpSockThreadFunc iterationEvents
  dsimp only
  have calls : [SockEvent.handleCtrl, .handleSend, .handleReceive].foldl sockStep s =
      (sockMachine Lists).after s callEvents := rfl
  rw [calls]
  split
  · rfl
  · have fetched (load : Nat) (packets : List UMPPacket) :
        (handleCtrlPackets (sockStep ((sockMachine Lists).after s callEvents) (.bufferLoad load))
          packets).1 =
        (sockMachine Lists).after s
          (callEvents ++ .bufferLoad load :: (handledCtrlPackets packets).map .ctrlPacket) := by
      rw [handleCtrlPackets_after, after_append]
      rfl
    rw [fetched]
    split
    · rfl
    · show timedEvents.foldl sockStep (handleDataPackets _ _) = _
      rw [handleDataPackets_after]
      simp only [after_append]
      rfl

/-! ### Iterations are runs -/

/-- The packets in the queues have the type of their queue. -/
structure PacketQueues.Typed (q : PacketQueues) : Prop where
  recControl : ∀ p ∈ q.recControlPackets, p.pType = .control
  recData : ∀ p ∈ q.recDataPackets, p.pType = .data
  localCtrl : ∀ p ∈ q.localCtrlPackets, p.pType = .control
  localData : ∀ p ∈ q.localDataPackets, p.pType = .data

theorem PacketQueues.Typed.fetch {q : PacketQueues} (typed : q.Typed) :
    (umpSockFetchReceivedPackets q).Typed := by
  obtain ⟨recControl, recData, localCtrl, localData⟩ := typed
  unfold umpSockFetchReceivedPackets
  dsimp only
  split
  · rename_i p rest none waiting
    rw [waiting] at recControl
    refine ⟨?_, ?_, ?_, ?_⟩
    · exact fun p member => recControl p (List.mem_cons_of_mem _ member)
    · exact fun p member => recData p (List.mem_of_mem_drop member)
    · simpa using recControl p List.mem_cons_self
    · intro p member
      rcases List.mem_append.mp member with here | fetched
      · exact localData p here
      · exact recData p (List.mem_of_mem_take fetched)
  · refine ⟨recControl, ?_, localCtrl, ?_⟩
    · exact fun p member => recData p (List.mem_of_mem_drop member)
    · intro p member
      rcases List.mem_append.mp member with here | fetched
      · exact localData p here
      · exact recData p (List.mem_of_mem_take fetched)

/-- Events that are always allowed are a run. -/
theorem run_of_always {events : List SockEvent} (s : UMPSocket Lists)
    (always : ∀ event ∈ events, ∀ u : UMPSocket Lists, sockEnabled u event) :
    (sockMachine Lists).Run s events ((sockMachine Lists).after s events) := by
  induction events generalizing s with
  | nil => exact .stay
  | cons event rest inductionHypothesis =>
      have first : (sockMachine Lists).Run s ([] ++ [event]) (sockStep s event) :=
        .go .stay (always event List.mem_cons_self s) trivial
      exact first.trans (inductionHypothesis _ fun event member =>
        always event (List.mem_cons_of_mem _ member))

/-- Only an error, a packet with RST or a timeout sets `error_occured`. -/
theorem ctrlPacket_noError {s : UMPSocket Lists} {p : UMPPacket}
    (noError : s.core.ctrl.errorOccured = false) (plain : ¬ uPacketGetFlag p UP_CTRL_RST) :
    (sockStep s (.ctrlPacket p)).core.ctrl.errorOccured = false := by
  have step := handshake_step s (.ctrlPacket p)
  show (sockStep s (.ctrlPacket p)).core.handshake.errorOccured = false
  generalize (sockStep s (.ctrlPacket p)).core.handshake = k at step
  cases step with
  | idle event noPacket => exact noError
  | packet p ourMss =>
      unfold Handshake.ctrlPacket
      rw [if_neg plain]
      exact ((s.core.handshake.note p).packet_moves p ourMss).1.trans noError

theorem handledCtrlPackets_run {s : UMPSocket Lists} {packets : List UMPPacket}
    (noError : s.core.ctrl.errorOccured = false) (typed : ∀ p ∈ packets, p.pType = .control) :
    (sockMachine Lists).Run s ((handledCtrlPackets packets).map .ctrlPacket)
      ((sockMachine Lists).after s ((handledCtrlPackets packets).map .ctrlPacket)) := by
  induction packets generalizing s with
  | nil => exact .stay
  | cons p rest inductionHypothesis =>
      have type := typed p List.mem_cons_self
      have first : (sockMachine Lists).Run s ([] ++ [.ctrlPacket p]) (sockStep s (.ctrlPacket p)) :=
        .go .stay ⟨noError, type⟩ trivial
      unfold handledCtrlPackets
      split
      · exact first
      · rename_i plain
        exact first.trans (inductionHypothesis (ctrlPacket_noError noError plain)
          fun q member => typed q (List.mem_cons_of_mem _ member))

theorem dataPackets_run {s : UMPSocket Lists} {packets : List UMPPacket}
    (noError : s.core.ctrl.errorOccured = false) (typed : ∀ p ∈ packets, p.pType = .data) :
    (sockMachine Lists).Run s (packets.map .dataPacket)
      ((sockMachine Lists).after s (packets.map .dataPacket)) := by
  induction packets generalizing s with
  | nil => exact .stay
  | cons p rest inductionHypothesis =>
      have type := typed p List.mem_cons_self
      have first : (sockMachine Lists).Run s ([] ++ [.dataPacket p]) (sockStep s (.dataPacket p)) :=
        .go .stay ⟨noError, type⟩ trivial
      have still : (sockStep s (.dataPacket p)).core.ctrl.errorOccured = false := by
        have same := congrArg Handshake.errorOccured (umpHandleDataPacket_handshake s p)
        exact same.trans noError
      exact first.trans (inductionHypothesis still
        fun q member => typed q (List.mem_cons_of_mem _ member))

theorem run_append {s : UMPSocket Lists} {events later : List SockEvent}
    (first : (sockMachine Lists).Run s events ((sockMachine Lists).after s events))
    (second : (sockMachine Lists).Run ((sockMachine Lists).after s events) later
      ((sockMachine Lists).after ((sockMachine Lists).after s events) later)) :
    (sockMachine Lists).Run s (events ++ later)
      ((sockMachine Lists).after s (events ++ later)) := by
  rw [after_append]
  exact first.trans second

/-- Every iteration of `ump_sock_thread_func` is a run of the machine. -/
theorem umpSockThreadFunc_run {s : UMPSocket Lists} {q : PacketQueues} (typed : q.Typed) :
    (sockMachine Lists).Run s (iterationEvents s q) (umpSockThreadFunc s q).1 := by
  rw [umpSockThreadFunc_after]
  have fetched := typed.fetch
  have calls : (sockMachine Lists).Run s callEvents ((sockMachine Lists).after s callEvents) := by
    apply run_of_always
    simp [callEvents, sockEnabled]
  unfold iterationEvents
  dsimp only
  generalize umpSockFetchReceivedPackets q = q at fetched
  split
  · exact calls
  · rename_i noError
    have load : (sockMachine Lists).Run ((sockMachine Lists).after s callEvents)
        ([] ++ [.bufferLoad q.recDataPackets.length])
        (sockStep ((sockMachine Lists).after s callEvents)
          (.bufferLoad q.recDataPackets.length)) := .go .stay trivial trivial
    have ctrl := load.trans
      (handledCtrlPackets_run ((Bool.not_eq_true _).mp noError) fetched.localCtrl)
    split
    · exact run_append calls ctrl
    · rename_i stillNone
      refine run_append (run_append calls ctrl) (run_append (dataPackets_run ?_ fetched.localData) ?_)
      · exact (Bool.not_eq_true _).mp stillNone
      · apply run_of_always
        simp [timedEvents, sockEnabled]

/-! ### Runs of the thread -/

/-- A call by a user. -/
def SockEvent.isUserCall : SockEvent → Bool
  | .userCtrl _ | .userSend _ | .userReceive => true
  | _ => false

/-- The queues with one more packet received. -/
def PacketQueues.receive (q : PacketQueues) (p : UMPPacket) : PacketQueues :=
  match p.pType with
  | .control => { q with recControlPackets := q.recControlPackets ++ [p] }
  | .data => { q with recDataPackets := q.recDataPackets ++ [p] }

theorem PacketQueues.Typed.receive {q : PacketQueues} (typed : q.Typed) (p : UMPPacket) :
    (q.receive p).Typed := by
  unfold PacketQueues.receive
  split
  · rename_i control
    refine ⟨?_, typed.recData, typed.localCtrl, typed.localData⟩
    intro r member
    rcases List.mem_append.mp member with before | last
    · exact typed.recControl r before
    · rw [List.mem_singleton.mp last]
      exact control
  · rename_i data
    refine ⟨typed.recControl, ?_, typed.localCtrl, typed.localData⟩
    intro r member
    rcases List.mem_append.mp member with before | last
    · exact typed.recData r before
    · rw [List.mem_singleton.mp last]
      exact data

theorem handleCtrlPackets_left {s : UMPSocket Lists} {p : UMPPacket} {packets : List UMPPacket}
    (member : p ∈ (handleCtrlPackets s packets).2) : p ∈ packets := by
  induction packets generalizing s with
  | nil => exact member
  | cons first rest inductionHypothesis =>
      unfold handleCtrlPackets at member
      dsimp only at member
      split at member
      · exact List.mem_cons_of_mem _ member
      · exact List.mem_cons_of_mem _ (inductionHypothesis member)

theorem umpSockThreadFunc_typed {s : UMPSocket Lists} {q : PacketQueues} (typed : q.Typed) :
    (umpSockThreadFunc s q).2.Typed := by
  have fetched := typed.fetch
  unfold umpSockThreadFunc
  dsimp only
  split
  · exact typed
  · have left (s : UMPSocket Lists) :
        ∀ p ∈ (handleCtrlPackets s (umpSockFetchReceivedPackets q).localCtrlPackets).2,
          p.pType = .control := fun p member => fetched.localCtrl p (handleCtrlPackets_left member)
    split
    · exact ⟨fetched.recControl, fetched.recData, left _, fetched.localData⟩
    · exact ⟨fetched.recControl, fetched.recData, left _, by simp⟩

/-- What happens to a socket and its thread: a user calls, a packet arrives, or the
thread goes through its loop once. -/
inductive ThreadEvent where
  | call (event : SockEvent)
  | receive (p : UMPPacket)
  | iterate
deriving DecidableEq, Repr

/-- A socket with its queues, and all it was made to do. -/
structure ThreadState (Lists : Type) where
  socket : UMPSocket Lists
  queues : PacketQueues
  events : List SockEvent

def threadEnabled (t : ThreadState Lists) : ThreadEvent → Prop
  | .call event => event.isUserCall ∧ sockEnabled t.socket event
  | _ => True

instance (t : ThreadState Lists) (event : ThreadEvent) : Decidable (threadEnabled t event) := by
  cases event <;> unfold threadEnabled <;> infer_instance

def threadStep (t : ThreadState Lists) : ThreadEvent → ThreadState Lists
  | .call event =>
      { t with socket := sockStep t.socket event, events := t.events ++ [event] }
  | .receive p => { t with queues := t.queues.receive p }
  | .iterate =>
      { socket := (umpSockThreadFunc t.socket t.queues).1
        queues := (umpSockThreadFunc t.socket t.queues).2
        events := t.events ++ iterationEvents t.socket t.queues }

variable (Lists) in
/-- A socket with its thread. -/
def threadMachine : Machine (ThreadState Lists) ThreadEvent where
  enabled := threadEnabled
  step := threadStep

instance (t : ThreadState Lists) (event : ThreadEvent) :
    Decidable ((threadMachine Lists).enabled t event) :=
  inferInstanceAs (Decidable (threadEnabled t event))

/-- A new socket whose thread has not yet run. -/
def ThreadState.new (u : UMPSocket Lists) : ThreadState Lists := ⟨u, ⟨[], [], [], []⟩, []⟩

omit [ReceiveLists Lists] in
theorem queuesTyped_new (u : UMPSocket Lists) : (ThreadState.new u).queues.Typed := by
  constructor <;> simp [ThreadState.new]

/-- The queues of a thread hold the packets of their type. -/
theorem queuesTyped_of_run {u : UMPSocket Lists} {t : ThreadState Lists}
    {events : List ThreadEvent} (run : (threadMachine Lists).Run (.new u) events t) :
    t.queues.Typed := by
  let Typed (t : ThreadState Lists) : Prop := t.queues.Typed
  have first : Typed (.new u) := queuesTyped_new u
  apply Machine.RunWhere.invariant run first
  intro t event typed allowed _
  cases event with
  | call event => exact typed
  | receive p => exact typed.receive p
  | iterate => exact umpSockThreadFunc_typed typed

/-- Every run of the thread is a run of the machine. -/
theorem sockMachine_run {u : UMPSocket Lists} {t : ThreadState Lists} {events : List ThreadEvent}
    (run : (threadMachine Lists).Run (.new u) events t) :
    (sockMachine Lists).Run u t.events t.socket := by
  let Refines (t : ThreadState Lists) : Prop :=
    (sockMachine Lists).Run u t.events t.socket ∧ t.queues.Typed
  have first : Refines (.new u) := ⟨.stay, queuesTyped_new u⟩
  have refines : Refines t := by
    refine Machine.RunWhere.invariant run first ?_
    rintro t event ⟨before, typed⟩ allowed -
    cases event with
    | call event => exact ⟨.go before allowed.2 trivial, typed⟩
    | receive p => exact ⟨before, typed.receive p⟩
    | iterate => exact ⟨before.trans (umpSockThreadFunc_run typed), umpSockThreadFunc_typed typed⟩
  exact refines.1

/-- Every step that an event of the thread makes the socket take meets a condition. -/
def iterates (condition : UMPSocket Lists → SockEvent → Prop)
    [∀ s event, Decidable (condition s event)] (t : ThreadState Lists) : ThreadEvent → Prop
  | .call event => condition t.socket event
  | .receive _ => True
  | .iterate =>
      (sockMachine Lists).check condition t.socket (iterationEvents t.socket t.queues) = true

instance (condition : UMPSocket Lists → SockEvent → Prop)
    [∀ s event, Decidable (condition s event)] (t : ThreadState Lists) (event : ThreadEvent) :
    Decidable (iterates condition t event) := by
  cases event <;> unfold iterates <;> infer_instance

/-- The steps of a run of the thread meet a condition when its events do. -/
theorem sockMachine_runWhere {condition : UMPSocket Lists → SockEvent → Prop}
    [∀ s event, Decidable (condition s event)] {u : UMPSocket Lists} {t : ThreadState Lists}
    {events : List ThreadEvent}
    (run : (threadMachine Lists).RunWhere (iterates condition) (.new u) events t) :
    (sockMachine Lists).RunWhere condition u t.events t.socket := by
  let Reached (t : ThreadState Lists) : Prop :=
    (sockMachine Lists).RunWhere condition u t.events t.socket
  have first : Reached (.new u) := .stay
  have reached : Reached t := by
    refine Machine.RunWhere.invariant run first ?_
    intro t event before allowed met
    cases event with
    | call event => exact .go before allowed.2 met
    | receive p => exact before
    | iterate =>
        have iteration := Machine.runWhere_of_check met
        rw [← umpSockThreadFunc_after] at iteration
        exact before.trans iteration
  exact reached

end Iteration

end UserMessageProtocol
