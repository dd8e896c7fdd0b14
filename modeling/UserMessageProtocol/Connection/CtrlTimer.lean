import UserMessageProtocol.Connection.Numbers
import UserMessageProtocol.Socket.Handshake

/-!
Contract: the pending SYN or FIN and its retransmission timer.

Owns: the fields by which a SYN or FIN is sent again (`CtrlTimer`) and the theorem
`ctrlTimer_step` that says all an event can do to them.

Does not own: how often and when a packet is sent again (`Connection.Retransmission`).
-/

set_option autoImplicit false

namespace UserMessageProtocol

/-- A control packet that opens or closes a connection. -/
def isSynOrFin (p : UMPPacket) : Bool :=
  p.pType = .control && (uPacketGetFlag p UP_CTRL_SYN || uPacketGetFlag p UP_CTRL_FIN)

/-- The pending packet with its timer; `queued` counts the packets queued so far, as the
log has it. -/
structure CtrlTimer where
  pending : Option UMPPacket
  sent : Bool
  rto : Int
  resendTime : GTimeVal
  queued : Nat

def SocketCore.ctrlTimer (s : SocketCore) : CtrlTimer where
  pending := s.ctrl.ctrlPacketToSend
  sent := s.ctrl.ctrlPacketSent
  rto := s.ctrl.ctrlRto
  resendTime := s.ctrl.ctrlResendTime
  queued := queuedCount s.log

namespace CtrlTimer

variable (t : CtrlTimer)

/-- A SYN or FIN takes the place of the pending packet. -/
def queue (p : UMPPacket) : CtrlTimer :=
  { t with pending := some p, sent := false, rto := UMP_CTRL_TIMEOUT, queued := t.queued + 1 }

/-- Nothing waits for an ack any more. -/
def drop : CtrlTimer := { t with pending := none, sent := true, rto := UMP_CTRL_TIMEOUT }

/-- The packet goes out at `now`, as `p`. -/
def send (p : UMPPacket) (now : GTimeVal) : CtrlTimer :=
  { t with
    pending := some p
    sent := true
    resendTime := gTimeValAdd now (glong (t.rto * 1000)) }

/-- The timer expired, and the packet is to go out again. -/
def again : CtrlTimer := { t with sent := false, rto := glong (2 * t.rto) }

/-- The timer of a packet that was sent has expired. -/
def Expired (now : GTimeVal) : Prop :=
  t.pending.isSome = true ∧ t.sent = true ∧ 0 ≤ umpTimeSub now t.resendTime

end CtrlTimer

/-! ### Ends of calls -/

section Calls

variable (s : SocketCore) (method : UMPCallMethod) (ok : Bool) (state : UMPSockState)

theorem act_ctrlTimer {action : Action} (other : action.isQueued = false) :
    (s.act action).ctrlTimer = s.ctrlTimer := by
  simp [SocketCore.ctrlTimer, SocketCore.act, other]

@[simp] theorem umpEndCtrl_ctrlTimer : (umpEndCtrl s method ok).ctrlTimer = s.ctrlTimer := by
  unfold umpEndCtrl
  split <;> split <;> rfl

@[simp] theorem umpEndSend_ctrlTimer : (umpEndSend s ok).ctrlTimer = s.ctrlTimer := by
  unfold umpEndSend
  split <;> rfl

@[simp] theorem umpFailReceive_ctrlTimer : (umpFailReceive s).ctrlTimer = s.ctrlTimer := by
  unfold umpFailReceive
  split <;> rfl

@[simp] theorem umpChangeState_ctrlTimer :
    (umpChangeState s state).ctrlTimer = s.ctrlTimer := by
  cases state with
  | closed =>
      simp only [umpChangeState, umpClosedEnterState, umpEndCtrl_ctrlTimer]
      split
      · rw [umpFailReceive_ctrlTimer]
        rfl
      · rfl
  | connecting => rfl
  | established =>
      simp only [umpChangeState, umpEstablishedEnterState, umpEndCtrl_ctrlTimer]
      rfl
  | closing => rfl

@[simp] theorem umpConnectionErrorOccured_ctrlTimer :
    (umpConnectionErrorOccured s).ctrlTimer = s.ctrlTimer := by
  simp only [umpConnectionErrorOccured, umpFailReceive_ctrlTimer, umpEndSend_ctrlTimer,
    umpEndCtrl_ctrlTimer, umpChangeState_ctrlTimer]
  rfl

end Calls

/-! ### Control packets and calls -/

section Control

variable (s : SocketCore) (p : UMPPacket)

@[simp] theorem queueCtrlPacket_ctrlTimer :
    (queueCtrlPacket s p).ctrlTimer = s.ctrlTimer.queue p := by
  show SocketCore.ctrlTimer (SocketCore.act _ _) = _
  unfold SocketCore.ctrlTimer CtrlTimer.queue
  dsimp only [act_log]
  rw [queuedCount_queued]
  rfl

@[simp] theorem setCtrlAck_ctrlTimer : (setCtrlAck s).ctrlTimer = s.ctrlTimer := rfl

@[simp] theorem takeSyn_ctrlTimer : (takeSyn s p).ctrlTimer = s.ctrlTimer := rfl

@[simp] theorem countTheirs_ctrlTimer : (countTheirs s p).ctrlTimer = s.ctrlTimer := by
  unfold countTheirs
  split <;> rfl

@[simp] theorem dropPending_ctrlTimer : (dropPending s).ctrlTimer = s.ctrlTimer.drop := by
  unfold dropPending
  dsimp only
  split <;> rfl

@[simp] theorem completeOpen_ctrlTimer : (completeOpen s).ctrlTimer = s.ctrlTimer := by
  unfold completeOpen
  split
  · exact umpChangeState_ctrlTimer s .established
  · rfl

@[simp] theorem completeClose_ctrlTimer : (completeClose s).ctrlTimer = s.ctrlTimer := by
  unfold completeClose
  split
  · exact umpChangeState_ctrlTimer s .closed
  · rfl

theorem isSynOrFin_syn (seq mss : UInt16) : isSynOrFin (synPacket seq mss) = true :=
  (by decide : isSynOrFin (synPacket 0 0) = true)

theorem isSynOrFin_fin (seq : UInt16) : isSynOrFin (finPacket seq) = true :=
  (by decide : isSynOrFin (finPacket 0) = true)

/-- What control packets and calls can do to the timer. -/
inductive Requeued (t : CtrlTimer) : CtrlTimer → Prop where
  | same : Requeued t t
  | queue (p : UMPPacket) (synOrFin : isSynOrFin p = true) : Requeued t (t.queue p)
  | drop : Requeued t t.drop

/-- A packet that is queued behind a drop is just queued. -/
theorem Requeued.queue_drop {t : CtrlTimer} (synOrFin : isSynOrFin p = true) :
    Requeued t (t.drop.queue p) := .queue p synOrFin

theorem connectingAck_ctrlTimer : (connectingAck s p).ctrlTimer = s.ctrlTimer ∨
    (connectingAck s p).ctrlTimer = s.ctrlTimer.drop := by
  unfold connectingAck
  split
  · dsimp only
    split
    · exact .inr (dropPending_ctrlTimer s)
    · exact .inl rfl
  · exact .inl rfl

theorem closingAck_ctrlTimer : (closingAck s p).ctrlTimer = s.ctrlTimer ∨
    (closingAck s p).ctrlTimer = s.ctrlTimer.drop := by
  unfold closingAck
  split
  · dsimp only
    split
    · exact .inr (dropPending_ctrlTimer s)
    · exact .inl rfl
  · exact .inl rfl

theorem establishedAck_ctrlTimer : (establishedAck s p).ctrlTimer = s.ctrlTimer ∨
    (establishedAck s p).ctrlTimer = s.ctrlTimer.drop := by
  unfold establishedAck
  split
  · exact .inr ((umpEndCtrl_ctrlTimer _ _ _).trans (dropPending_ctrlTimer s))
  · exact .inl rfl

theorem requeued_of_ack {s t : SocketCore}
    (acked : t.ctrlTimer = s.ctrlTimer ∨ t.ctrlTimer = s.ctrlTimer.drop) :
    Requeued s.ctrlTimer t.ctrlTimer := by
  rcases acked with same | dropped
  · rw [same]
    exact .same
  · rw [dropped]
    exact .drop

theorem umpClosedHandleCtrlPacket_requeued :
    Requeued s.ctrlTimer (umpClosedHandleCtrlPacket s p).ctrlTimer := by
  unfold umpClosedHandleCtrlPacket
  split
  · split
    · dsimp only
      rw [umpChangeState_ctrlTimer]
      show Requeued s.ctrlTimer (umpClosedConnect (takeSyn s p)).ctrlTimer
      rw [umpClosedConnect, queueCtrlPacket_ctrlTimer]
      exact .queue _ (isSynOrFin_syn _ _)
    · exact .same
  · split
    · rw [setCtrlAck_ctrlTimer, countTheirs_ctrlTimer]
      exact .same
    · exact .same

theorem umpConnectingHandleCtrlPacket_requeued :
    Requeued s.ctrlTimer (umpConnectingHandleCtrlPacket s p).ctrlTimer := by
  have acked := requeued_of_ack (connectingAck_ctrlTimer s p)
  unfold umpConnectingHandleCtrlPacket
  generalize connectingAck s p = t at acked
  dsimp only
  split
  · split
    · exact acked
    · split
      · rw [completeOpen_ctrlTimer]
        exact acked
      · exact acked
  · split
    · rw [completeOpen_ctrlTimer, setCtrlAck_ctrlTimer, countTheirs_ctrlTimer]
      exact acked
    · rw [completeOpen_ctrlTimer]
      exact acked

theorem umpEstablishedHandleCtrlPacket_requeued :
    Requeued s.ctrlTimer (umpEstablishedHandleCtrlPacket s p).ctrlTimer := by
  have acked := establishedAck_ctrlTimer s p
  unfold umpEstablishedHandleCtrlPacket
  generalize establishedAck s p = t at acked
  dsimp only
  split
  · split
    · rw [setCtrlAck_ctrlTimer, umpChangeState_ctrlTimer, umpEstablishedClose,
        queueCtrlPacket_ctrlTimer]
      show Requeued s.ctrlTimer ((countTheirs t p).ctrlTimer.queue _)
      rw [countTheirs_ctrlTimer]
      rcases acked with same | dropped
      · rw [same]
        exact .queue _ (isSynOrFin_fin _)
      · rw [dropped]
        exact .queue_drop _ (isSynOrFin_fin _)
    · rw [setCtrlAck_ctrlTimer, countTheirs_ctrlTimer]
      exact requeued_of_ack acked
  · exact requeued_of_ack acked

theorem umpClosingHandleCtrlPacket_requeued :
    Requeued s.ctrlTimer (umpClosingHandleCtrlPacket s p).ctrlTimer := by
  have acked := requeued_of_ack (closingAck_ctrlTimer s p)
  unfold umpClosingHandleCtrlPacket
  generalize closingAck s p = t at acked
  dsimp only
  split
  · rw [completeClose_ctrlTimer, setCtrlAck_ctrlTimer]
    show Requeued s.ctrlTimer (countTheirs t p).ctrlTimer
    rw [countTheirs_ctrlTimer]
    exact acked
  · rw [completeClose_ctrlTimer]
    exact acked

theorem umpHandleCtrlPacket_requeued :
    Requeued s.ctrlTimer (umpHandleCtrlPacket s p).ctrlTimer := by
  unfold umpHandleCtrlPacket
  split
  · rw [umpConnectionErrorOccured_ctrlTimer]
    exact .same
  · have noted : (s.act (.processed p s.ctrl.ourCtrlSeq)).ctrlTimer = s.ctrlTimer :=
      act_ctrlTimer s rfl
    rw [← noted]
    generalize s.act (.processed p s.ctrl.ourCtrlSeq) = t
    unfold smHandleCtrlPacket
    split
    · exact umpClosedHandleCtrlPacket_requeued t p
    · exact umpConnectingHandleCtrlPacket_requeued t p
    · exact umpEstablishedHandleCtrlPacket_requeued t p
    · exact umpClosingHandleCtrlPacket_requeued t p

theorem smHandleCtrl_requeued (method : UMPCallMethod) :
    Requeued s.ctrlTimer (smHandleCtrl s method).ctrlTimer := by
  unfold smHandleCtrl
  split
  · unfold umpClosedHandleCtrl
    split
    · rw [umpChangeState_ctrlTimer, umpClosedConnect, queueCtrlPacket_ctrlTimer]
      exact .queue _ (isSynOrFin_syn _ _)
    · split
      · rw [umpEndCtrl_ctrlTimer]
        exact .same
      · rw [umpEndCtrl_ctrlTimer]
        exact .same
  · unfold umpConnectingHandleCtrl
    split
    · rw [umpEndCtrl_ctrlTimer]
      exact .same
    · exact .same
  · unfold umpEstablishedHandleCtrl
    split
    · rw [umpFailReceive_ctrlTimer, umpEndSend_ctrlTimer, umpChangeState_ctrlTimer,
        umpEstablishedClose, queueCtrlPacket_ctrlTimer]
      exact .queue _ (isSynOrFin_fin _)
    · split
      · rw [umpEndCtrl_ctrlTimer]
        exact .same
      · rw [umpEndCtrl_ctrlTimer]
        exact .same
  · unfold umpClosingHandleCtrl
    split
    · rw [umpEndCtrl_ctrlTimer]
      exact .same
    · exact .same

theorem umpHandleCtrl_requeued : Requeued s.ctrlTimer (umpHandleCtrl s).ctrlTimer := by
  unfold umpHandleCtrl
  split
  · exact .same
  · split
    · exact .same
    · split
      · exact .same
      · dsimp only
        split
        · rw [umpEndCtrl_ctrlTimer]
          exact .same
        · have taken (method : UMPCallMethod) :=
            smHandleCtrl_requeued
              { s with ctrl := { s.ctrl with ctrlParaLock := true, ctrlLocked := .locked } } method
          exact taken _

end Control

/-! ### The timer as a machine -/

/-- What an event that comes at `now` can do to the timer. -/
inductive TimerStep (t : CtrlTimer) (now : GTimeVal) : SockEvent → CtrlTimer → Prop where
  | keep (event : SockEvent)
      (idle : event = .sendCtrlPacket → t.pending = none ∨ t.sent = true) :
      TimerStep t now event t
  | queue (event : SockEvent) (p : UMPPacket) (synOrFin : isSynOrFin p = true)
      (unsent : event ≠ .sendCtrlPacket) : TimerStep t now event (t.queue p)
  | drop (event : SockEvent) (unsent : event ≠ .sendCtrlPacket) : TimerStep t now event t.drop
  | send (p q : UMPPacket) (pending : t.pending = some p) (unsent : t.sent = false)
      (same : isSynOrFin q = isSynOrFin p) : TimerStep t now .sendCtrlPacket (t.send q now)
  | again (expired : t.Expired now) (early : t.rto < TIMEOUT_LIMIT) :
      TimerStep t now .ctrlTimeout t.again
  | giveUp (expired : t.Expired now) (late : TIMEOUT_LIMIT ≤ t.rto) :
      TimerStep t now .ctrlTimeout t.drop

/-- An event that sends no control packet and leaves the timer alone. -/
theorem timerStep_keep {t : CtrlTimer} {now : GTimeVal} {event : SockEvent}
    (unsent : event ≠ .sendCtrlPacket) : TimerStep t now event t :=
  .keep event fun sends => absurd sends unsent

theorem timerStep_of_requeued {t t' : CtrlTimer} {now : GTimeVal} {event : SockEvent}
    (unsent : event ≠ .sendCtrlPacket) (requeued : Requeued t t') : TimerStep t now event t' := by
  cases requeued with
  | same => exact timerStep_keep unsent
  | queue p synOrFin => exact .queue event p synOrFin unsent
  | drop => exact .drop event unsent

/-- What leaves control fields and milestones alone leaves the timer alone. -/
theorem timerStep_of_frame {s t : SocketCore} {event : SockEvent}
    (unsent : event ≠ .sendCtrlPacket) (ctrl : t.ctrl = s.ctrl)
    (log : milestones t.log = milestones s.log) :
    TimerStep s.ctrlTimer s.now event t.ctrlTimer := by
  have same : t.ctrlTimer = s.ctrlTimer := by
    unfold SocketCore.ctrlTimer
    rw [ctrl, ← queuedCount_milestones t.log, log, queuedCount_milestones]
  rw [same]
  exact timerStep_keep unsent

section Steps

variable (s : SocketCore)

theorem isSynOrFin_onWire (ackInfo : UMPAckInfo) (p : UMPPacket) :
    isSynOrFin (pendingOnWire ackInfo p) = isSynOrFin p := by
  have type : (pendingOnWire ackInfo p).pType = p.pType := by
    unfold pendingOnWire
    rw [toBinary_pType]
    split <;> simp
  unfold isSynOrFin
  rw [type, pendingOnWire_getFlag ackInfo UP_CTRL_SYN (by decide),
    pendingOnWire_getFlag ackInfo UP_CTRL_FIN (by decide)]

theorem sendCtrlAckAlone_ctrlTimer : (sendCtrlAckAlone s).ctrlTimer = s.ctrlTimer := by
  unfold sendCtrlAckAlone
  split
  · exact act_ctrlTimer { s with ackInfo := { s.ackInfo with ctrlAckSet := false } } rfl
  · rfl

theorem umpHandleSendCtrlPacket_timer :
    TimerStep s.ctrlTimer s.now .sendCtrlPacket (umpHandleSendCtrlPacket s).ctrlTimer := by
  unfold umpHandleSendCtrlPacket
  split
  · rename_i p pending
    split
    · rename_i unsent
      exact .send p _ pending unsent (isSynOrFin_onWire s.ackInfo p)
    · rename_i sent
      rw [sendCtrlAckAlone_ctrlTimer]
      exact .keep _ fun _ => .inr ((Bool.not_eq_false _).mp sent)
  · rename_i none
    rw [sendCtrlAckAlone_ctrlTimer]
    exact .keep _ fun _ => .inl none

theorem umpHandleCtrlTimeout_timer :
    TimerStep s.ctrlTimer s.now .ctrlTimeout (umpHandleCtrlTimeout s).ctrlTimer := by
  unfold umpHandleCtrlTimeout
  split
  · exact timerStep_keep (by simp)
  · rename_i pending
    split
    · exact timerStep_keep (by simp)
    · rename_i sent
      dsimp only
      split
      · exact timerStep_keep (by simp)
      · rename_i due
        have expired : s.ctrlTimer.Expired s.now :=
          ⟨Option.isSome_iff_ne_none.mpr pending, (Bool.not_eq_false _).mp sent, Int.not_lt.mp due⟩
        split
        · rename_i early
          exact .again expired early
        · rename_i late
          rw [umpConnectionErrorOccured_ctrlTimer, umpEndCtrl_ctrlTimer]
          exact .giveUp expired (Int.not_lt.mp late)

/-- Only the timer of a packet with the greatest timeout ends the connection. -/
theorem umpHandleCtrlTimeout_failed (before : s.ctrl.errorOccured = false)
    (failed : (umpHandleCtrlTimeout s).ctrl.errorOccured = true) :
    s.ctrlTimer.Expired s.now ∧ TIMEOUT_LIMIT ≤ s.ctrl.ctrlRto := by
  have alive : ¬ s.ctrl.errorOccured = true := ne_true_of_eq_false before
  unfold umpHandleCtrlTimeout at failed
  split at failed
  · exact absurd failed alive
  · rename_i pending
    split at failed
    · exact absurd failed alive
    · rename_i sent
      dsimp only at failed
      split at failed
      · exact absurd failed alive
      · rename_i due
        split at failed
        · exact absurd failed alive
        · rename_i late
          exact ⟨⟨Option.isSome_iff_ne_none.mpr pending, (Bool.not_eq_false _).mp sent,
            Int.not_lt.mp due⟩, Int.not_lt.mp late⟩

theorem umpHandleDataTimeout_ctrlTimer : (umpHandleDataTimeout s).ctrlTimer = s.ctrlTimer := by
  unfold umpHandleDataTimeout
  split
  · rfl
  · dsimp only
    split
    · split
      · rw [umpConnectionErrorOccured_ctrlTimer, umpEndSend_ctrlTimer]
        rfl
      · rfl
    · rfl

variable {Lists : Type} [ReceiveLists Lists] (u : UMPSocket Lists)

/-- A socket, seen through the timer of its SYN or FIN. -/
theorem ctrlTimer_step (event : SockEvent) :
    TimerStep u.core.ctrlTimer u.core.now event (sockStep u event).core.ctrlTimer := by
  have quiet (other : event.isQuiet) (ctrl : (sockStep u event).core.ctrl = u.core.ctrl) :
      TimerStep u.core.ctrlTimer u.core.now event (sockStep u event).core.ctrlTimer :=
    timerStep_of_frame other.2.2.1 ctrl (congrArg Handshake.history (sockStep_quiet u other))
  cases event with
  | userCtrl | userSend | userReceive | bufferLoad | refreshRwnd => exact timerStep_keep (by simp)
  | handleCtrl => exact timerStep_of_requeued (by simp) (umpHandleCtrl_requeued u.core)
  | ctrlPacket p => exact timerStep_of_requeued (by simp) (umpHandleCtrlPacket_requeued u.core p)
  | sendCtrlPacket => exact umpHandleSendCtrlPacket_timer u.core
  | ctrlTimeout => exact umpHandleCtrlTimeout_timer u.core
  | dataTimeout =>
      show TimerStep _ _ _ (umpHandleDataTimeout u.core).ctrlTimer
      rw [umpHandleDataTimeout_ctrlTimer]
      exact timerStep_keep (by simp)
  | handleSend => exact quiet (by simp [SockEvent.isQuiet]) (umpHandleSend_ctrl u.core)
  | handleReceive => exact quiet (by simp [SockEvent.isQuiet]) (umpHandleReceive_ctrl u)
  | dataPacket p => exact quiet (by simp [SockEvent.isQuiet]) (umpHandleDataPacket_ctrl u p)
  | refreshAck => exact quiet (by simp [SockEvent.isQuiet]) (umpRefreshOurAckInfo_ctrl u.core)
  | actReqWnd => exact quiet (by simp [SockEvent.isQuiet]) (umpActReqWnd_ctrl u.core)
  | heartbeat => exact quiet (by simp [SockEvent.isQuiet]) (umpHandleSendHeartbeat_ctrl u.core)
  | sendData => exact quiet (by simp [SockEvent.isQuiet]) (umpHandleSendData_ctrl u.core)
  | sendReset =>
      show TimerStep _ _ _ (umpHandleSendResetPacket u.core).ctrlTimer
      unfold umpHandleSendResetPacket
      split
      · exact timerStep_keep (by simp)
      · exact timerStep_keep (by simp)

end Steps

end UserMessageProtocol
