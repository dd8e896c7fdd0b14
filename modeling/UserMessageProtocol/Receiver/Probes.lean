import UserMessageProtocol.Receiver.DelayedAcks

/-!
Contract: what a window probe of the peer is answered with.

Owns: the events that ask for an ack (`asksForAck`), the acks of data that are due or on
the wire after some events, and the theorem `probeAnswered_iff`: an iteration that
handles a probe leaves an ack for it exactly when something else asked for one.

Does not own: when a probe is sent (`Socket.Sender`).
-/

set_option autoImplicit false

namespace UserMessageProtocol

/-- An ack is scheduled, pushed or due. -/
def DataAcks.coming (acks : DataAcks) : Bool := acks.owed || acks.dataAckSet

theorem DataAcks.coming_ask (acks : DataAcks) (pushAck : Bool) :
    (acks.ask pushAck).coming = true := by
  unfold coming
  rw [owed_ask, Bool.true_or]

theorem Asks.coming {acks acks' : DataAcks} (asks : Asks acks acks')
    (coming : acks.coming = true) : acks'.coming = true := by
  cases asks with
  | none => exact coming
  | more pushAck asks => exact DataAcks.coming_ask _ _

section Steps

variable {Lists : Type} [ReceiveLists Lists] {u : UMPSocket Lists} {event : SockEvent}

/-- A receive call gets its message from `ump_handle_receive`. -/
def receiveCompletes (u : UMPSocket Lists) : Bool :=
  u.core.rcv.recLocked == .unlocked && !u.core.rcv.recParaLock && u.core.rcv.receiveCalled &&
    (ReceiveLists.recMsgPackets u.lists).isSome

/-- The time for a heartbeat has come. -/
def heartbeatDue (s : SocketCore) : Bool :=
  s.ctrl.state == .established && decide (umpTimeSub s.now s.lastHeartbeat > HEATTBEAT_INTERVAL)

/-- The handler asks for an ack: of a numbered packet, of a message given to the user, or
as a heartbeat. -/
def asksForAck (u : UMPSocket Lists) : SockEvent → Bool
  | .handleReceive => receiveCompletes u
  | .dataPacket p => uPacketGetFlag p UP_DATA_SEQ
  | .heartbeat => heartbeatDue u.core
  | _ => false

theorem umpHandleReceive_asks : (umpHandleReceive u).core.acks =
    if receiveCompletes u then u.core.acks.ask true else u.core.acks := by
  unfold umpHandleReceive receiveCompletes
  split
  · rename_i locked
    rw [locked]
    rfl
  · rename_i unlocked
    rw [unlocked]
    split
    · rename_i para
      rw [para]
      rfl
    · rename_i para
      rw [(Bool.not_eq_true _).mp para]
      split
      · rename_i called
        rw [called]
        rfl
      · rename_i called
        rw [(Bool.not_eq_false _).mp called]
        split
        · rename_i user
          rw [user, finishReceive_acks]
          rfl
        · rename_i user
          rw [(Bool.not_eq_true _).mp user]
          split <;> rfl

theorem umpHandleSendHeartbeat_asks (s : SocketCore) : (umpHandleSendHeartbeat s).acks =
    if heartbeatDue s then s.acks.ask false else s.acks := by
  unfold umpHandleSendHeartbeat heartbeatDue
  split
  · rename_i other
    rw [beq_eq_false_iff_ne.mpr other]
    rfl
  · rename_i established
    rw [not_not.mp established]
    dsimp only
    split
    · rename_i late
      have due : umpTimeSub s.now s.lastHeartbeat > HEATTBEAT_INTERVAL := late
      rw [decide_eq_true due]
      exact umpSetOurAckInfo_data _ _
    · rename_i soon
      have early : ¬ umpTimeSub s.now s.lastHeartbeat > HEATTBEAT_INTERVAL := soon
      rw [decide_eq_false early]
      rfl

/-- Only what asks for an ack changes the acks that are coming. -/
theorem sockStep_coming (untold : event ≠ .refreshAck) (unsent : event ≠ .sendData) :
    (sockStep u event).core.acks.coming = (u.core.acks.coming || asksForAck u event) := by
  have kept (quiet : asksForAck u event = false)
      (same : (sockStep u event).core.acks = u.core.acks) :
      (sockStep u event).core.acks.coming = (u.core.acks.coming || asksForAck u event) := by
    rw [quiet, Bool.or_false, same]
  by_cases receives : event = .handleReceive
  · subst receives
    show (umpHandleReceive u).core.acks.coming = (u.core.acks.coming || receiveCompletes u)
    rw [umpHandleReceive_asks]
    split
    · rename_i completes
      rw [completes, Bool.or_true, DataAcks.coming_ask]
    · rename_i idle
      rw [(Bool.not_eq_true _).mp idle, Bool.or_false]
  · by_cases beats : event = .heartbeat
    · subst beats
      show (umpHandleSendHeartbeat u.core).acks.coming =
        (u.core.acks.coming || heartbeatDue u.core)
      rw [umpHandleSendHeartbeat_asks]
      split
      · rename_i due
        rw [due, Bool.or_true, DataAcks.coming_ask]
      · rename_i early
        rw [(Bool.not_eq_true _).mp early, Bool.or_false]
    · have asks := sockStep_asks (u := u) untold unsent
      have step := receive_step u event
      generalize sockStep u event = w at step asks kept ⊢
      cases step with
      | idle event unheard untaken same acks =>
          apply kept _ acks
          cases event with
          | handleReceive => exact absurd rfl receives
          | heartbeat => exact absurd rfl beats
          | dataPacket p => exact absurd rfl (unheard p)
          | _ => rfl
      | syn p taken lists received acks => exact kept rfl acks
      | tell owed same acks => exact absurd rfl untold
      | told same acks => exact absurd rfl unsent
      | beat established same acks => exact absurd rfl beats
      | receive user finished => exact absurd rfl receives
      | dropped p outside same acks =>
          show w.core.acks.coming = (u.core.acks.coming || uPacketGetFlag p UP_DATA_SEQ)
          rw [acks, DataAcks.askFor]
          split
          · rename_i number
            rw [number, Bool.or_true, DataAcks.coming_ask]
          · rename_i plain
            rw [(Bool.not_eq_true _).mp plain, Bool.or_false]
      | stored p established inRange v same rcv acks after =>
          have number : uPacketGetFlag p UP_DATA_SEQ = true := (inReceiveRange_iff.mp inRange).1
          have asked := asks
          rw [if_pos (show (SockEvent.dataPacket p).bringsNumber = true from number)] at asked
          show w.core.acks.coming = (u.core.acks.coming || uPacketGetFlag p UP_DATA_SEQ)
          rw [number, Bool.or_true]
          exact asked.coming (DataAcks.coming_ask _ _)

/-- A packet that tells the window with an ack. -/
def tellsWindow (p : UMPPacket) : Bool := carriesAck p && uPacketGetFlag p UP_DATA_WND

theorem Tells.tellsWindow {ackInfo : UMPAckInfo} {p : UMPPacket} (tells : Tells ackInfo p) :
    tellsWindow p = true := by
  unfold UserMessageProtocol.tellsWindow
  rw [tells.carries, tells.windowed]
  rfl

/-- The acks that are coming after a step or were sent in it are those that were coming
before or were asked for in it. -/
theorem coming_step (shaped : WellShaped u) :
    (u.core.acks.coming || asksForAck u event) =
      ((sockStep u event).core.acks.coming || (sentBy u event).any tellsWindow) := by
  -- what is sent was due
  have due (told : (sentBy u event).any tellsWindow = true) : u.core.acks.coming = true := by
    obtain ⟨p, member, tells⟩ := List.any_eq_true.mp told
    unfold tellsWindow carriesAck at tells
    simp only [Bool.and_eq_true, beq_iff_eq] at tells
    have ⟨set, _⟩ := (sent_of_sentBy shaped member).tells shaped.sound.typed tells.1.1
      (.inl rfl) tells.1.2
    have same : u.core.acks.dataAckSet = true := set
    unfold DataAcks.coming
    rw [same, Bool.or_true]
  have rest (same : (sockStep u event).core.acks.coming =
      (u.core.acks.coming || asksForAck u event)) :
      (u.core.acks.coming || asksForAck u event) =
        ((sockStep u event).core.acks.coming || (sentBy u event).any tellsWindow) := by
    rw [same]
    cases told : (sentBy u event).any tellsWindow with
    | false => rw [Bool.or_false]
    | true => rw [due told, Bool.true_or, Bool.true_or]
  by_cases refreshes : event = .refreshAck
  · subst refreshes
    apply rest
    show (umpRefreshOurAckInfo u.core).acks.coming = (u.core.acks.coming || false)
    rw [Bool.or_false]
    rcases umpRefreshOurAckInfo_acks u.core with kept | ⟨owed, tells⟩
    · rw [kept]
    · rw [tells]
      unfold DataAcks.coming
      rw [owed]
      rfl
  · by_cases sends : event = .sendData
    · subst sends
      rcases sendData_acks shaped with ⟨set, told, p, sent, tells⟩ | ⟨-, kept⟩
      · have same : u.core.acks.dataAckSet = true := set
        rw [sent, List.any_cons, tells.tellsWindow]
        unfold DataAcks.coming
        rw [same]
        simp
      · apply rest
        rw [kept]
        exact (Bool.or_false _).symm
    · exact rest (sockStep_coming refreshes sends)

/-- Whether one of some events asks for an ack. -/
def asksAlong : UMPSocket Lists → List SockEvent → Bool
  | _, [] => false
  | u, event :: rest => asksForAck u event || asksAlong (sockStep u event) rest

theorem asksAlong_append (events later : List SockEvent) :
    asksAlong u (events ++ later) =
      (asksAlong u events || asksAlong ((sockMachine Lists).after u events) later) := by
  induction events generalizing u with
  | nil => rfl
  | cons event events inductionHypothesis =>
      rw [List.cons_append, asksAlong, asksAlong, inductionHypothesis, Bool.or_assoc]
      rfl

theorem coming_along {w : UMPSocket Lists} {events : List SockEvent} (shaped : WellShaped u)
    (run : (sockMachine Lists).Run u events w) :
    WellShaped w ∧ (u.core.acks.coming || asksAlong u events) =
      (w.core.acks.coming || (sentAlong u events).any tellsWindow) := by
  induction run with
  | stay => exact ⟨shaped, rfl⟩
  | @go events w event run allowed _ inductionHypothesis =>
      have ⟨before, same⟩ := inductionHypothesis
      refine ⟨before.step allowed, ?_⟩
      rw [asksAlong_append, sentAlong_append, run.after_eq, asksAlong, asksAlong, Bool.or_false,
        sentAlong, sentAlong, List.append_nil, List.any_append]
      calc (u.core.acks.coming || (asksAlong u events || asksForAck w event))
        _ = (w.core.acks.coming || asksForAck w event || (sentAlong u events).any tellsWindow) := by
            rw [← Bool.or_assoc, same, Bool.or_right_comm]
        _ = ((sockStep w event).core.acks.coming ||
              ((sentAlong u events).any tellsWindow || (sentBy w event).any tellsWindow)) := by
            rw [coming_step before, Bool.or_right_comm, Bool.or_assoc]

/-! ### Iterations that handle a probe -/

/-- The socket is established when the next iteration of its thread handles a probe. -/
structure HandlesProbe (t : ThreadState Lists) (p : UMPPacket) : Prop where
  all : RunsAllHandlers t.socket t.queues
  fetched : p ∈ (umpSockFetchReceivedPackets t.queues).localDataPackets
  probe : uPacketGetFlag p UP_DATA_REQWND
  established : ((sockMachine Lists).after t.socket
    (fetchedEvents (umpSockFetchReceivedPackets t.queues))).core.ctrl.state = .established

/-- At the end of the next iteration an ack with the window was sent or is coming. -/
def ProbeAnswered (t : ThreadState Lists) : Prop :=
  (threadStep t .iterate).socket.core.acks.coming = true ∨
    ∃ p ∈ sentAlong t.socket (iterationEvents t.socket t.queues), tellsWindow p = true

/-- An ack is coming when the iteration starts, or one of its handlers asks for one. -/
def AckedAnyway (t : ThreadState Lists) : Prop :=
  t.socket.core.acks.coming = true ∨
    asksAlong t.socket (iterationEvents t.socket t.queues) = true

instance (t : ThreadState Lists) : Decidable (AckedAnyway t) := by
  unfold AckedAnyway
  infer_instance

variable {seq : UInt16} {clock : Clock} {t : ThreadState Lists} {events : List ThreadEvent}

/-- In every run, whatever the next iteration handles, an ack comes exactly when something asks
for one; `UP_DATA_REQWND` asks for none. -/
theorem probeAnswered_iff
    (run : (threadMachine Lists).Run (.new (umpSockNew Lists seq clock)) events t) :
    ProbeAnswered t ↔ AckedAnyway t := by
  have shaped : WellShaped t.socket :=
    (sockMachine_run run).invariant (wellShaped_new seq clock) fun _ _ before allowed _ =>
      before.step allowed
  have iteration := umpSockThreadFunc_run (s := t.socket) (queuesTyped_of_run run)
  have ⟨_, same⟩ := coming_along shaped iteration
  unfold ProbeAnswered AckedAnyway
  rw [← List.any_eq_true, ← Bool.or_eq_true, ← Bool.or_eq_true, same]
  rfl

end Steps

/-! ### Two threads -/

/-- A window probe comes to a socket that nothing else happens to. -/
def quietProbeLife : List ThreadEvent := openedLife 7 100 ++ [.receive (receivedForm probePacket)]

/-- A message of the peer comes with the probe. -/
def busyProbeLife : List ThreadEvent := quietProbeLife ++ [.receive (dataMessage 7)]

def probedThread (life : List ThreadEvent) : ThreadState PlainLists :=
  (threadMachine PlainLists).after (.new (umpSockNew PlainLists 100 ⟨fun _ => ⟨0, 0⟩, 0⟩)) life

/-- The theorem holds of a probe that comes with a message. -/
theorem probeAnswered_busy : HandlesProbe (probedThread busyProbeLife) (receivedForm probePacket) ∧
    ProbeAnswered (probedThread busyProbeLife) := by
  have run : (threadMachine PlainLists).Run
      (.new (umpSockNew PlainLists 100 ⟨fun _ => ⟨0, 0⟩, 0⟩)) busyProbeLife
      (probedThread busyProbeLife) := Machine.runWhere_of_check (by decide +kernel)
  have handles : HandlesProbe (probedThread busyProbeLife) (receivedForm probePacket) :=
    ⟨by decide +kernel, by decide +kernel, by decide +kernel, by decide +kernel⟩
  exact ⟨handles, (probeAnswered_iff run).mpr (by decide +kernel)⟩

/-- `UP_DATA_REQWND` is read nowhere: the probe alone gets no answer. -/
theorem probeAnswered_fails :
    ¬ ∀ (seq : UInt16) (clock : Clock) (events : List ThreadEvent) (t : ThreadState PlainLists)
      (p : UMPPacket), (threadMachine PlainLists).Run (.new (umpSockNew PlainLists seq clock))
          events t → HandlesProbe t p → ProbeAnswered t := by
  intro always
  have run : (threadMachine PlainLists).Run
      (.new (umpSockNew PlainLists 100 ⟨fun _ => ⟨0, 0⟩, 0⟩)) quietProbeLife
      (probedThread quietProbeLife) := Machine.runWhere_of_check (by decide +kernel)
  have handles : HandlesProbe (probedThread quietProbeLife) (receivedForm probePacket) :=
    ⟨by decide +kernel, by decide +kernel, by decide +kernel, by decide +kernel⟩
  rcases always 100 _ quietProbeLife _ _ run handles with coming | ⟨p, sent, -⟩
  · exact absurd coming (by decide +kernel)
  · have none : sentAlong (probedThread quietProbeLife).socket
        (iterationEvents (probedThread quietProbeLife).socket
          (probedThread quietProbeLife).queues) = [] := by decide +kernel
    rw [none] at sent
    exact absurd sent List.not_mem_nil

end UserMessageProtocol
