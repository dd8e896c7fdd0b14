import UserMessageProtocol.Receiver.Reassembly
import UserMessageProtocol.Receiver.Survival
import UserMessageProtocol.Socket.Iteration

/-!
Contract: an error ends a connection for good.

Owns: what holds of a socket at every point behind an error (`AbsorbsErrors`), and the
theorem `errorsAbsorb_of_run`.

Does not own: the messages that are left (`Receiver.Survival`).
-/

set_option autoImplicit false

namespace UserMessageProtocol

/-- An error occurred, and the connection is closed inside and outside. -/
structure Down (s : SocketCore) : Prop where
  failed : s.ctrl.errorOccured = true
  state : s.ctrl.state = .closed
  publicState : s.ctrl.publicState = .closed

/-! ### Errors stay -/

section Core

variable {s : SocketCore} {method : UMPCallMethod} {ok : Bool}

theorem Down.congr {t : SocketCore} (down : Down s) (same : t.ctrl = s.ctrl) : Down t := by
  constructor
  · rw [same]
    exact down.failed
  · rw [same]
    exact down.state
  · rw [same]
    exact down.publicState

theorem Down.endCtrl (down : Down s) : Down (umpEndCtrl s method ok) := by
  unfold umpEndCtrl
  repeat' split
  all_goals exact ⟨down.failed, down.state, down.publicState⟩

theorem umpConnectionErrorOccured_down : Down (umpConnectionErrorOccured s) := by
  unfold umpConnectionErrorOccured
  dsimp only
  refine Down.congr ?_ (umpFailReceive_ctrl _)
  refine Down.congr ?_ (umpEndSend_ctrl _ _)
  apply Down.endCtrl
  unfold umpChangeState umpClosedEnterState
  dsimp only
  apply Down.endCtrl
  split
  · exact Down.congr ⟨rfl, rfl, rfl⟩ (umpFailReceive_ctrl _)
  · exact ⟨rfl, rfl, rfl⟩

theorem umpHandleCtrl_down (down : Down s) : Down (umpHandleCtrl s) := by
  unfold umpHandleCtrl
  repeat' split
  · exact down
  · exact down
  · exact down
  · dsimp only
    rw [if_pos down.failed]
    exact Down.endCtrl ⟨down.failed, down.state, down.publicState⟩

theorem umpHandleCtrlTimeout_down (down : Down s) : Down (umpHandleCtrlTimeout s) := by
  unfold umpHandleCtrlTimeout
  dsimp only
  repeat' split
  · exact down
  · exact down
  · exact down.congr rfl
  · exact ⟨down.failed, down.state, down.publicState⟩
  · exact umpConnectionErrorOccured_down

theorem umpHandleDataTimeout_down (down : Down s) : Down (umpHandleDataTimeout s) := by
  unfold umpHandleDataTimeout
  dsimp only
  repeat' split
  · exact down
  · exact umpConnectionErrorOccured_down
  · exact down.congr rfl
  · exact down.congr rfl

end Core

section Steps

variable {Lists : Type} [ReceiveLists Lists] {u : UMPSocket Lists} {event : SockEvent}

theorem Down.step (down : Down u.core) (allowed : sockEnabled u event) :
    Down (sockStep u event).core := by
  cases event with
  | userCtrl => exact ⟨down.failed, down.state, down.publicState⟩
  | userSend | userReceive | bufferLoad | refreshRwnd => exact down.congr rfl
  | handleCtrl => exact umpHandleCtrl_down down
  | handleSend => exact down.congr (umpHandleSend_ctrl _)
  | handleReceive => exact down.congr (umpHandleReceive_ctrl _)
  | ctrlPacket p => exact absurd (allowed.1.symm.trans down.failed) (by decide)
  | dataPacket p => exact absurd (allowed.1.symm.trans down.failed) (by decide)
  | dataTimeout => exact umpHandleDataTimeout_down down
  | refreshAck => exact down.congr (umpRefreshOurAckInfo_ctrl _)
  | actReqWnd => exact down.congr (umpActReqWnd_ctrl _)
  | ctrlTimeout => exact umpHandleCtrlTimeout_down down
  | sendCtrlPacket =>
      show Down (umpHandleSendCtrlPacket u.core)
      unfold umpHandleSendCtrlPacket sendCtrlAckAlone
      dsimp only
      repeat' split
      all_goals exact ⟨down.failed, down.state, down.publicState⟩
  | heartbeat => exact down.congr (umpHandleSendHeartbeat_ctrl _)
  | sendData => exact down.congr (umpHandleSendData_ctrl _)
  | sendReset =>
      show Down (umpHandleSendResetPacket u.core)
      unfold umpHandleSendResetPacket
      split
      · exact ⟨down.failed, down.state, down.publicState⟩
      · exact down

/-- Only `ump_connection_error_occured` sets `error_occured`. -/
theorem sockStep_down (before : u.core.ctrl.errorOccured = true → Down u.core)
    (allowed : sockEnabled u event)
    (failed : (sockStep u event).core.ctrl.errorOccured = true) :
    Down (sockStep u event).core := by
  by_cases failedBefore : u.core.ctrl.errorOccured = true
  · exact (before failedBefore).step allowed
  · have same (kept : (sockStep u event).core.ctrl.errorOccured = u.core.ctrl.errorOccured) :
        Down (sockStep u event).core := absurd (kept.symm.trans failed) failedBefore
    have still (quiet : event.isQuiet) : Down (sockStep u event).core :=
      same (congrArg Handshake.errorOccured (sockStep_quiet u quiet))
    cases event with
    | ctrlPacket p =>
        by_cases reset : uPacketGetFlag p UP_CTRL_RST = true
        · show Down (umpHandleCtrlPacket u.core p)
          unfold umpHandleCtrlPacket
          rw [if_pos reset]
          exact umpConnectionErrorOccured_down
        · have noError := ctrlPacket_noError ((Bool.not_eq_true _).mp failedBefore) reset
          exact absurd (noError.symm.trans failed) (by decide)
    | handleCtrl =>
        apply same
        show (sockStep u .handleCtrl).core.handshake.errorOccured = u.core.handshake.errorOccured
        have step := handshake_step u .handleCtrl
        generalize (sockStep u .handleCtrl).core.handshake = k at step ⊢
        cases step with
        | idle => rfl
        | call method taken =>
            unfold Handshake.call
            repeat' split
            all_goals rfl
    | sendCtrlPacket =>
        apply same
        show (umpHandleSendCtrlPacket u.core).ctrl.errorOccured = _
        unfold umpHandleSendCtrlPacket sendCtrlAckAlone
        dsimp only
        repeat' split
        all_goals rfl
    | dataTimeout =>
        revert failed
        show (umpHandleDataTimeout u.core).ctrl.errorOccured = true → Down (umpHandleDataTimeout u.core)
        unfold umpHandleDataTimeout
        dsimp only
        repeat' split
        · exact fun failed => absurd failed failedBefore
        · exact fun _ => umpConnectionErrorOccured_down
        · exact fun failed => absurd failed failedBefore
        · exact fun failed => absurd failed failedBefore
    | ctrlTimeout =>
        revert failed
        show (umpHandleCtrlTimeout u.core).ctrl.errorOccured = true → Down (umpHandleCtrlTimeout u.core)
        unfold umpHandleCtrlTimeout
        dsimp only
        repeat' split
        · exact fun failed => absurd failed failedBefore
        · exact fun failed => absurd failed failedBefore
        · exact fun failed => absurd failed failedBefore
        · exact fun failed => absurd failed failedBefore
        · exact fun _ => umpConnectionErrorOccured_down
    | _ =>
        apply still
        simp [SockEvent.isQuiet]

theorem down_of_run {seq : UInt16} {clock : Clock} {events : List SockEvent}
    (run : (sockMachine Lists).Run (umpSockNew Lists seq clock) events u) :
    u.core.ctrl.errorOccured = true → Down u.core := by
  let Holds (u : UMPSocket Lists) : Prop := u.core.ctrl.errorOccured = true → Down u.core
  have first : Holds (umpSockNew Lists seq clock) := fun failed => by cases failed
  apply Machine.RunWhere.invariant run first
  intro state event before allowed _
  exact sockStep_down before allowed

theorem Down.run {w : UMPSocket Lists} {events : List SockEvent} (down : Down u.core)
    (run : (sockMachine Lists).Run u events w) : Down w.core := by
  let Holds (u : UMPSocket Lists) : Prop := Down u.core
  have first : Holds u := down
  apply Machine.RunWhere.invariant run first
  intro state event before allowed _
  exact before.step allowed

/-! ### Calls behind an error -/

/-- A control call that is taken up fails at once. -/
theorem Down.handleCtrl (down : Down u.core) (picked : picksCtrl u .handleCtrl = true) :
    ctrlCall (sockStep u .handleCtrl).core = (ctrlCall u.core).reply false := by
  simp only [picksCtrl, ctrlLock, CallLock.ready, Bool.and_eq_true, Bool.not_eq_true',
    decide_eq_false_iff_not] at picked
  obtain ⟨-, ⟨unlocked, free⟩, called⟩ := picked
  obtain ⟨method, para⟩ := Option.isSome_iff_exists.mp called
  have unlocked := unlocked_of_not unlocked
  show ctrlCall (umpHandleCtrl u.core) = _
  unfold umpHandleCtrl
  rw [unlocked, free, para]
  dsimp only
  rw [if_neg (by decide), if_pos down.failed]
  rfl

/-- A send call that is taken up fails at once. -/
theorem Down.handleSend (down : Down u.core) (picked : picksSend u .handleSend = true) :
    sendCall (sockStep u .handleSend).core = (sendCall u.core).reply false := by
  simp only [picksSend, sendLock, CallLock.ready, Bool.and_eq_true, Bool.not_eq_true',
    decide_eq_false_iff_not] at picked
  obtain ⟨-, ⟨unlocked, free⟩, called⟩ := picked
  obtain ⟨packets, waiting⟩ := Option.isSome_iff_exists.mp called
  have unlocked := unlocked_of_not unlocked
  show sendCall (umpHandleSend u.core) = _
  unfold umpHandleSend
  rw [unlocked, free, waiting]
  dsimp only
  rw [if_neg (by decide), if_pos (.inr (.inr down.failed))]
  rfl

/-- A packet was handled or transmitted. -/
def Action.moves : Action → Bool
  | .sendto _ | .processed _ _ => true
  | _ => false

/-- The call handlers move no packet of a socket that is down. -/
theorem Down.calls_moves (down : Down u.core) (member : event ∈ callEvents) :
    (sockStep u event).core.log.filter Action.moves = u.core.log.filter Action.moves := by
  simp only [callEvents, List.mem_cons, List.not_mem_nil, or_false] at member
  rcases member with rfl | rfl | rfl
  · show (umpHandleCtrl u.core).log.filter Action.moves = _
    unfold umpHandleCtrl
    repeat' split
    · rfl
    · rfl
    · rfl
    · dsimp only
      rw [if_pos down.failed]
      rfl
  · show (umpHandleSend u.core).log.filter Action.moves = _
    unfold umpHandleSend
    repeat' split
    · rfl
    · rfl
    · rfl
    · dsimp only
      rw [if_pos (.inr (.inr down.failed))]
      rfl
  · show (umpHandleReceive u).core.log.filter Action.moves = _
    have finished : (finishReceive u).core.log.filter Action.moves =
        u.core.log.filter Action.moves := by
      show List.filter Action.moves (.received _ _ :: (umpEndReceiveInternal u).core.log) = _
      rw [umpEndReceiveInternal_log]
      rfl
    unfold umpHandleReceive
    repeat' split
    all_goals first | rfl | exact finished

/-- The call handlers leave a socket that is down as it is but for its calls. -/
theorem Down.handleCalls (down : Down u.core) :
    Down ((sockMachine Lists).after u callEvents).core ∧
      ((sockMachine Lists).after u callEvents).core.log.filter Action.moves =
        u.core.log.filter Action.moves := by
  have calls : ∀ event ∈ callEvents, ∀ w : UMPSocket Lists,
      sockEnabled w event := by
    simp [callEvents, sockEnabled]
  have ctrl := down.step (calls .handleCtrl (by decide) u)
  have send := ctrl.step (calls .handleSend (by decide) _)
  refine ⟨send.step (calls .handleReceive (by decide) _), ?_⟩
  have first := down.calls_moves (show SockEvent.handleCtrl ∈ callEvents by decide)
  have second := ctrl.calls_moves (show SockEvent.handleSend ∈ callEvents by decide)
  have third := send.calls_moves (show SockEvent.handleReceive ∈ callEvents by decide)
  exact third.trans (second.trans first)

end Steps

/-- What holds at a point behind an error: the connection is closed, an iteration of the
thread handles and transmits no packet, and calls fail as soon as they are taken up, but a
receive call gets a message as long as one is there. -/
structure AbsorbsErrors (u : UMPSocket GLists) : Prop where
  down : Down u.core
  iteration : ∀ q : PacketQueues, iterationEvents u q = callEvents ∧
    (umpSockThreadFunc u q).2 = q ∧
    (umpSockThreadFunc u q).1.core.log.filter Action.moves = u.core.log.filter Action.moves
  ctrl : picksCtrl u .handleCtrl = true →
    ctrlCall (sockStep u .handleCtrl).core = (ctrlCall u.core).reply false
  send : picksSend u .handleSend = true →
    sendCall (sockStep u .handleSend).core = (sendCall u.core).reply false
  receive : picksReceive u .handleReceive = true → AnsweredFrom u (sockStep u .handleReceive)

section Runs

variable {u w : UMPSocket GLists} {events : List SockEvent}

theorem Down.absorbs (down : Down u.core) (holding : Holding u) : AbsorbsErrors u := by
  refine ⟨down, fun q => ?_, down.handleCtrl, down.handleSend, holding.answered (.inl down.failed)⟩
  have ⟨still, moves⟩ := down.handleCalls
  have called : iterationEvents u q = callEvents := by
    unfold iterationEvents
    rw [if_pos still.failed]
  refine ⟨called, ?_, ?_⟩
  · unfold umpSockThreadFunc
    dsimp only
    rw [if_pos]
    exact still.failed
  · rw [umpSockThreadFunc_after, called]
    exact moves

/-- An error is the end: at every point behind it the connection is closed, packets are
neither handled nor transmitted, and calls get their answer as soon as they are taken up. -/
theorem errorsAbsorb_of_run {seq : UInt16} {clock : Clock} {later : List SockEvent}
    (run : (sockMachine GLists).RunWhere takesOrderly (umpSockNew GLists seq clock) events u)
    (failed : u.core.ctrl.errorOccured = true)
    (rest : (sockMachine GLists).Run u later w) : AbsorbsErrors w := by
  have down := down_of_run run.toRun failed
  have ended : (sockMachine GLists).RunWhere staysEnded u later w := by
    induction rest with
    | stay => exact .stay
    | @go events v event before allowed _ inductionHypothesis =>
        refine .go inductionHypothesis allowed (.inl ?_)
        exact ((down.run before).step allowed).failed
  exact (down.run rest).absorbs (handedOut_of_run (holding_of_run run) ended).1

end Runs

/-- A message comes whole, then a packet with RST. -/
def resetRun : List SockEvent :=
  passiveOpen 7 100 ++
    [.dataPacket (dataFragment 7), .dataPacket (dataMessage 8), .ctrlPacket (receivedForm resetPacket)]

/-- Calls of all kinds are left behind the error, and an iteration takes them up. -/
def lateCalls : List SockEvent :=
  [.userCtrl .connect, .userSend [1], .userReceive, .handleCtrl, .handleSend, .handleReceive,
    .userReceive]

/-- The theorem holds of a socket that was reset with a message for its user. -/
theorem errorsAbsorb_reset :
    AbsorbsErrors ((sockMachine GLists).after (umpSockNew GLists 100 ⟨fun _ => ⟨0, 0⟩, 0⟩)
        (resetRun ++ lateCalls)) ∧
      (receiveCall ((sockMachine GLists).after (umpSockNew GLists 100 ⟨fun _ => ⟨0, 0⟩, 0⟩)
        (resetRun ++ lateCalls)).core).replies = [true] := by
  rw [after_append]
  exact ⟨errorsAbsorb_of_run (Machine.runWhere_of_check (by decide +kernel)) (by decide +kernel)
    (Machine.runWhere_of_check (by decide +kernel)), by decide +kernel⟩

/-- The second packet comes first, the first one ends a message, then comes RST. -/
def passedEndRun : List SockEvent :=
  passiveOpen 7 100 ++
    [.dataPacket (dataFragment 8), .dataPacket (dataMessage 7),
      .ctrlPacket (receivedForm resetPacket)]

/-- The socket behind the packet with RST. -/
def passedEnd : UMPSocket GLists :=
  (sockMachine GLists).after (umpSockNew GLists 100 ⟨fun _ => ⟨0, 0⟩, 0⟩) passedEndRun

/-- A whole message lies in `rcv_data_packets`, but a receive call fails. -/
theorem errorsAbsorb_fails :
    ¬ ∀ (seq : UInt16) (clock : Clock) (events later : List SockEvent) (u w : UMPSocket GLists),
      (sockMachine GLists).Run (umpSockNew GLists seq clock) events u →
        u.core.ctrl.errorOccured = true → (sockMachine GLists).Run u later w →
          AbsorbsErrors w := by
  intro always
  have run : (sockMachine GLists).Run (umpSockNew GLists 100 ⟨fun _ => ⟨0, 0⟩, 0⟩) passedEndRun
      passedEnd := Machine.runWhere_of_check (by decide +kernel)
  have rest : (sockMachine GLists).Run passedEnd [.userReceive] _ :=
    Machine.runWhere_of_check (by decide +kernel)
  have absorbs := always 100 _ passedEndRun [.userReceive] _ _ run (by decide +kernel) rest
  have replies := (absorbs.receive (by decide +kernel)).replies
  exact absurd replies (by decide +kernel)

end UserMessageProtocol
