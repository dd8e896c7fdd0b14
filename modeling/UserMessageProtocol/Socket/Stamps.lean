import UserMessageProtocol.Socket.Elapsed
import UserMessageProtocol.Socket.Frames

/-!
Contract: the times a socket keeps.

Owns: close time, heartbeat time, ack time and window time of a socket with its
clock (`Stamps`), what each event does to them (`stamps_step`), and that no event takes
the clock back (`sockStep_onward`).

Does not own: what is decided by them.
-/

set_option autoImplicit false

namespace UserMessageProtocol

/-- `ump_change_state` to `UMP_CLOSED`. -/
def Action.entersClosed : Action → Bool
  | .changed _ .closed => true
  | _ => false

/-- The clock of a socket and the times it keeps; `closings` counts how often
`UMP_CLOSED` was entered, as the log has it. -/
structure Stamps where
  clock : Clock
  closeTime : GTimeVal
  closings : Nat
  lastHeartbeat : GTimeVal
  lastAckT : GTimeVal
  lastReqWndTime : GTimeVal
  actReqWnd : Bool

def SocketCore.stamps (s : SocketCore) : Stamps where
  clock := s.clock
  closeTime := s.ctrl.closeTime
  closings := s.log.countP Action.entersClosed
  lastHeartbeat := s.lastHeartbeat
  lastAckT := s.ackInfo.lastAckT
  lastReqWndTime := s.snd.lastReqWndTime
  actReqWnd := s.snd.actReqWnd

namespace Stamps

/-- `n` readings later. -/
def later (k : Stamps) (n : Nat) : Stamps :=
  { k with clock := { k.clock with ticks := k.clock.ticks + n } }

/-- `ump_closed_enter_state`. -/
def close (k : Stamps) : Stamps :=
  { k with closeTime := k.clock.now, closings := k.closings + 1 }.later 1

/-- `ump_handle_wnd_notify`. -/
def notifyWnd (k : Stamps) (p : UMPPacket) : Stamps :=
  if uPacketGetFlag p UP_DATA_WND then
    if p.wndNum = 0 then { k with actReqWnd := true, lastReqWndTime := k.clock.now }.later 1
    else { k with actReqWnd := false }
  else k

@[simp] theorem later_zero (k : Stamps) : k.later 0 = k := rfl

@[simp] theorem later_later (k : Stamps) (m n : Nat) : (k.later m).later n = k.later (m + n) := by
  simp [later, Nat.add_assoc]

end Stamps

/-! ### Ends of calls -/

section Calls

variable (s : SocketCore) (method : UMPCallMethod) (ok : Bool)

@[simp] theorem tick_stamps : s.tick.stamps = s.stamps.later 1 := rfl

theorem act_stamps {action : Action} (other : action.entersClosed = false) :
    (s.act action).stamps = s.stamps := by
  simp [SocketCore.stamps, SocketCore.act, other]

@[simp] theorem umpEndCtrl_stamps : (umpEndCtrl s method ok).stamps = s.stamps := by
  unfold umpEndCtrl
  split <;> split <;> rfl

@[simp] theorem umpEndSend_stamps : (umpEndSend s ok).stamps = s.stamps := by
  unfold umpEndSend
  split <;> rfl

@[simp] theorem umpFailReceive_stamps : (umpFailReceive s).stamps = s.stamps := by
  unfold umpFailReceive
  split <;> rfl

theorem umpChangeState_closed_stamps : (umpChangeState s .closed).stamps = s.stamps.close := by
  have entered : s.log.countP Action.entersClosed + 1 =
      (Action.changed s.ctrl.state .closed :: s.log).countP Action.entersClosed :=
    (List.countP_cons_of_pos rfl).symm
  show (umpClosedEnterState _).stamps = _
  unfold umpClosedEnterState Stamps.close
  dsimp only [SocketCore.stamps]
  rw [entered]
  show SocketCore.stamps (umpEndCtrl _ _ _) = _
  rw [umpEndCtrl_stamps]
  split
  · rw [umpFailReceive_stamps]
    rfl
  · rfl

theorem umpChangeState_established_stamps :
    (umpChangeState s .established).stamps = s.stamps.later 1 := by
  show (umpEstablishedEnterState _).stamps = _
  unfold umpEstablishedEnterState
  dsimp only
  rw [umpEndCtrl_stamps]
  rfl

@[simp] theorem umpChangeState_connecting_stamps :
    (umpChangeState s .connecting).stamps = s.stamps := rfl

@[simp] theorem umpChangeState_closing_stamps :
    (umpChangeState s .closing).stamps = s.stamps := rfl

theorem umpConnectionErrorOccured_stamps :
    (umpConnectionErrorOccured s).stamps = s.stamps.close := by
  unfold umpConnectionErrorOccured
  dsimp only
  rw [umpFailReceive_stamps, umpEndSend_stamps, umpEndCtrl_stamps, umpChangeState_closed_stamps]
  rfl

end Calls

/-! ### Control packets -/

section Control

variable (s : SocketCore) (p : UMPPacket) (method : UMPCallMethod)

@[simp] theorem queueCtrlPacket_stamps : (queueCtrlPacket s p).stamps = s.stamps := rfl

@[simp] theorem setCtrlAck_stamps : (setCtrlAck s).stamps = s.stamps := rfl

@[simp] theorem takeSyn_stamps : (takeSyn s p).stamps = s.stamps := rfl

@[simp] theorem dropPending_stamps : (dropPending s).stamps = s.stamps := by
  unfold dropPending
  dsimp only
  split <;> rfl

@[simp] theorem countTheirs_stamps : (countTheirs s p).stamps = s.stamps := by
  unfold countTheirs
  split <;> rfl

theorem smHandleCtrl_stamps : (smHandleCtrl s method).stamps = s.stamps := by
  cases found : s.ctrl.state <;> simp only [smHandleCtrl, found]
  · unfold umpClosedHandleCtrl
    repeat' split
    all_goals simp [umpClosedConnect]
  · unfold umpConnectingHandleCtrl
    split <;> simp
  · unfold umpEstablishedHandleCtrl
    repeat' split
    all_goals simp [umpEstablishedClose]
  · unfold umpClosingHandleCtrl
    split <;> simp

theorem umpHandleCtrl_stamps : (umpHandleCtrl s).stamps = s.stamps := by
  unfold umpHandleCtrl
  dsimp only
  repeat' split
  all_goals first | rfl | (rw [smHandleCtrl_stamps]; rfl)

theorem umpClosedHandleCtrlPacket_stamps : (umpClosedHandleCtrlPacket s p).stamps = s.stamps := by
  unfold umpClosedHandleCtrlPacket
  repeat' split
  all_goals first | rfl | simp

theorem completeOpen_stamps :
    (completeOpen s).stamps = s.stamps ∨ (completeOpen s).stamps = s.stamps.later 1 := by
  unfold completeOpen
  split
  · exact .inr (umpChangeState_established_stamps s)
  · exact .inl rfl

theorem connectingAck_stamps : (connectingAck s p).stamps = s.stamps := by
  unfold connectingAck
  dsimp only
  split
  · split
    · exact dropPending_stamps s
    · rfl
  · rfl

theorem umpConnectingHandleCtrlPacket_stamps :
    (umpConnectingHandleCtrlPacket s p).stamps = s.stamps ∨
      (umpConnectingHandleCtrlPacket s p).stamps = s.stamps.later 1 := by
  have acked := connectingAck_stamps s p
  unfold umpConnectingHandleCtrlPacket
  dsimp only
  generalize connectingAck s p = t at acked
  rw [← acked]
  split
  · split
    · exact .inl rfl
    · split
      · exact completeOpen_stamps _
      · exact .inl rfl
  · split
    · have counted := completeOpen_stamps (setCtrlAck (countTheirs t p))
      rwa [setCtrlAck_stamps, countTheirs_stamps] at counted
    · exact completeOpen_stamps t

theorem establishedAck_stamps : (establishedAck s p).stamps = s.stamps := by
  unfold establishedAck
  split <;> simp

theorem umpEstablishedHandleCtrlPacket_stamps :
    (umpEstablishedHandleCtrlPacket s p).stamps = s.stamps := by
  have acked := establishedAck_stamps s p
  unfold umpEstablishedHandleCtrlPacket
  dsimp only
  generalize establishedAck s p = t at acked
  rw [← acked]
  split
  · split
    · exact countTheirs_stamps t p
    · exact countTheirs_stamps t p
  · rfl

theorem completeClose_stamps :
    (completeClose s).stamps = s.stamps ∨ (completeClose s).stamps = s.stamps.close := by
  unfold completeClose
  split
  · exact .inr (umpChangeState_closed_stamps s)
  · exact .inl rfl

theorem closingAck_stamps : (closingAck s p).stamps = s.stamps := by
  unfold closingAck
  dsimp only
  split
  · split
    · exact dropPending_stamps s
    · rfl
  · rfl

theorem umpClosingHandleCtrlPacket_stamps :
    (umpClosingHandleCtrlPacket s p).stamps = s.stamps ∨
      (umpClosingHandleCtrlPacket s p).stamps = s.stamps.close := by
  have acked := closingAck_stamps s p
  unfold umpClosingHandleCtrlPacket
  dsimp only
  generalize closingAck s p = t at acked
  rw [← acked]
  split
  · have closes (t : SocketCore) (finReced : Bool) (same : t.stamps = s.stamps) :
        (completeClose (setCtrlAck { t with ctrl := { t.ctrl with finReced := finReced } })).stamps =
          s.stamps ∨
        (completeClose (setCtrlAck { t with ctrl := { t.ctrl with finReced := finReced } })).stamps =
          s.stamps.close := by
      rw [← same]
      exact completeClose_stamps _
    rw [acked]
    exact closes _ _ ((countTheirs_stamps t p).trans acked)
  · exact completeClose_stamps t

theorem umpHandleCtrlPacket_stamps : (∃ n, (umpHandleCtrlPacket s p).stamps = s.stamps.later n) ∨
    (umpHandleCtrlPacket s p).stamps = s.stamps.close := by
  unfold umpHandleCtrlPacket
  split
  · exact .inr (umpConnectionErrorOccured_stamps s)
  · have processed : (s.act (.processed p s.ctrl.ourCtrlSeq)).stamps = s.stamps :=
      act_stamps s rfl
    generalize s.act (.processed p s.ctrl.ourCtrlSeq) = t at processed
    rw [← processed]
    unfold smHandleCtrlPacket
    split
    · exact .inl ⟨0, umpClosedHandleCtrlPacket_stamps t p⟩
    · rcases umpConnectingHandleCtrlPacket_stamps t p with same | read
      · exact .inl ⟨0, same⟩
      · exact .inl ⟨1, read⟩
    · exact .inl ⟨0, umpEstablishedHandleCtrlPacket_stamps t p⟩
    · rcases umpClosingHandleCtrlPacket_stamps t p with same | closed
      · exact .inl ⟨0, same⟩
      · exact .inr closed

theorem umpHandleSendCtrlPacket_stamps :
    ∃ n, (umpHandleSendCtrlPacket s).stamps = s.stamps.later n := by
  have alone : (sendCtrlAckAlone s).stamps = s.stamps := by
    unfold sendCtrlAckAlone
    split <;> rfl
  unfold umpHandleSendCtrlPacket
  split
  · split
    · exact ⟨1, rfl⟩
    · exact ⟨0, alone⟩
  · exact ⟨0, alone⟩

theorem umpHandleCtrlTimeout_stamps :
    ∃ n, (umpHandleCtrlTimeout s).stamps = s.stamps.later n ∨
      (umpHandleCtrlTimeout s).stamps = (s.stamps.later n).close := by
  unfold umpHandleCtrlTimeout
  split
  · exact ⟨0, .inl rfl⟩
  · split
    · exact ⟨0, .inl rfl⟩
    · dsimp only
      split
      · exact ⟨1, .inl rfl⟩
      · split
        · exact ⟨1, .inl rfl⟩
        · refine ⟨1, .inr ?_⟩
          rw [umpConnectionErrorOccured_stamps, umpEndCtrl_stamps]
          rfl

theorem umpHandleSendResetPacket_stamps : (umpHandleSendResetPacket s).stamps = s.stamps := by
  unfold umpHandleSendResetPacket
  split <;> rfl

end Control

/-! ### Data -/

section Data

variable (s : SocketCore) (p : UMPPacket)

theorem umpHandleSend_stamps : (umpHandleSend s).stamps = s.stamps := by
  unfold umpHandleSend
  dsimp only
  repeat' split
  all_goals rfl

theorem umpHandleSendData_stamps : ∃ n, (umpHandleSendData s).stamps = s.stamps.later n := by
  have alone : (sendAckAlone s).stamps = s.stamps := by
    unfold sendAckAlone
    split <;> rfl
  unfold umpHandleSendData
  split
  · exact ⟨0, alone⟩
  · unfold umpSndlockedHandleSendData
    split
    · split
      · exact ⟨0, rfl⟩
      · refine ⟨1, ?_⟩
        dsimp only
        rw [act_stamps _ rfl, tick_stamps]
        unfold afterTransmit umpRefreshDataSent
        dsimp only
        split <;> rfl
    · exact ⟨0, alone⟩

theorem umpHandleDataTimeout_stamps :
    ∃ n, (umpHandleDataTimeout s).stamps = s.stamps.later n ∨
      (umpHandleDataTimeout s).stamps = (s.stamps.later n).close := by
  unfold umpHandleDataTimeout
  split
  · exact ⟨0, .inl rfl⟩
  · dsimp only
    split
    · split
      · refine ⟨1, .inr ?_⟩
        rw [umpConnectionErrorOccured_stamps, umpEndSend_stamps]
        rfl
      · refine ⟨1, .inl ?_⟩
        unfold rewindAfterTimeout umpRefreshBackPoint umpRefreshSndWndPos
        dsimp only
        split <;> rfl
    · exact ⟨1, .inl rfl⟩

theorem umpHandleWndNotify_stamps : (umpHandleWndNotify s p).stamps = s.stamps.notifyWnd p := by
  unfold umpHandleWndNotify Stamps.notifyWnd
  dsimp only
  split
  · split <;> rfl
  · rfl

theorem refreshCwnd_stamps : ∃ n, (refreshCwnd s).stamps = s.stamps.later n := by
  unfold refreshCwnd
  dsimp only
  split
  · exact ⟨0, rfl⟩
  · split
    · exact ⟨1, rfl⟩
    · split
      · exact ⟨2, rfl⟩
      · exact ⟨1, rfl⟩

theorem acknowledgeTimers_stamps (ackSeq : UInt16) :
    ∃ n, (acknowledgeTimers s ackSeq).stamps = s.stamps.later n := by
  unfold acknowledgeTimers
  dsimp only
  split
  · exact ⟨0, rfl⟩
  · split <;> exact ⟨1, rfl⟩

theorem finishAck_stamps (ackSeq : UInt16) :
    ∃ n, (finishAck s ackSeq).stamps = s.stamps.later n := by
  obtain ⟨m, refreshed⟩ := refreshCwnd_stamps s
  have skipped : ({ refreshCwnd s with snd := skipAcknowledged (refreshCwnd s).snd } :
      SocketCore).stamps = (refreshCwnd s).stamps := by
    unfold skipAcknowledged
    split <;> rfl
  obtain ⟨n, acknowledged⟩ := acknowledgeTimers_stamps
    { refreshCwnd s with snd := skipAcknowledged (refreshCwnd s).snd } ackSeq
  rw [skipped, refreshed, Stamps.later_later] at acknowledged
  refine ⟨m + n, ?_⟩
  rw [← acknowledged]
  unfold finishAck
  dsimp only
  split
  · exact umpEndSend_stamps _ _
  · rfl

/-- An ack in range gives its window, whatever else it does. -/
theorem heededAck_stamps : ∃ n,
    (if ackInRange s.snd p.ackNum then
      if ackDiff s.snd p.ackNum > 0 then
        finishAck (umpHandleWndNotify { s with snd := advanceBase s.snd p.ackNum } p) p.ackNum
      else umpHandleWndNotify s p
    else s).stamps = s.stamps.later n ∨
    (if ackInRange s.snd p.ackNum then
      if ackDiff s.snd p.ackNum > 0 then
        finishAck (umpHandleWndNotify { s with snd := advanceBase s.snd p.ackNum } p) p.ackNum
      else umpHandleWndNotify s p
    else s).stamps = (s.stamps.notifyWnd p).later n := by
  split
  · split
    · have moved : ({ s with snd := advanceBase s.snd p.ackNum } : SocketCore).stamps =
          s.stamps := by
        unfold advanceBase umpRefreshBackPoint
        split <;> rfl
      obtain ⟨n, finished⟩ := finishAck_stamps
        (umpHandleWndNotify { s with snd := advanceBase s.snd p.ackNum } p) p.ackNum
      rw [umpHandleWndNotify_stamps, moved] at finished
      exact ⟨n, .inr finished⟩
    · exact ⟨0, .inr (umpHandleWndNotify_stamps s p)⟩
  · exact ⟨0, .inl rfl⟩

/-- An ack reads the clock, and its window is taken unless it lies out of range. -/
theorem umpHandleDataAck_stamps : ∃ n, (umpHandleDataAck s p).stamps = s.stamps.later n ∨
    (umpHandleDataAck s p).stamps = (s.stamps.notifyWnd p).later n := by
  have counted : ({ s with snd := fastRetransmit (countRepeatedAck s.snd p.ackNum) } :
      SocketCore).stamps = s.stamps := by
    unfold fastRetransmit countRepeatedAck umpRefreshBackPoint
    dsimp only
    repeat' split
    all_goals rfl
  unfold umpHandleDataAck
  split
  · rw [← counted]
    exact heededAck_stamps _ p
  · exact ⟨0, .inr (umpHandleWndNotify_stamps s p)⟩

theorem setOurAckInfo_stamps (push : Bool) :
    ({ s with ackInfo := umpSetOurAckInfo s.ackInfo push } : SocketCore).stamps = s.stamps := by
  unfold umpSetOurAckInfo
  repeat' split
  all_goals rfl

end Data

/-! ### Receiving -/

section Receiving

variable {Lists : Type} [ReceiveLists Lists] (u : UMPSocket Lists) (p : UMPPacket)

theorem finishReceive_stamps : (finishReceive u).core.stamps = u.core.stamps := by
  have internal : (umpEndReceiveInternal u).core.stamps = u.core.stamps := by
    unfold umpEndReceiveInternal
    dsimp only
    rw [setOurAckInfo_stamps]
    split <;> rfl
  unfold finishReceive
  dsimp only
  rw [act_stamps _ rfl]
  exact internal

theorem umpEndReceive_stamps : (umpEndReceive u).core.stamps = u.core.stamps := by
  unfold umpEndReceive
  split
  · rfl
  · rw [finishReceive_stamps]
    rfl

theorem umpHandleReceive_stamps : (umpHandleReceive u).core.stamps = u.core.stamps := by
  unfold umpHandleReceive
  dsimp only
  repeat' split
  all_goals first | rfl | exact finishReceive_stamps u

theorem advanceTheirBase_stamps (check : Bool) :
    (advanceTheirBase u check).core.stamps = u.core.stamps := by
  unfold advanceTheirBase umpCheckRcvDataSoFar
  dsimp only
  repeat' split
  all_goals first | rfl | (rw [umpEndReceive_stamps]; rfl)

theorem storePacket_stamps : (storePacket u p).core.stamps = u.core.stamps := by
  unfold storePacket takeInOrder
  repeat' split
  all_goals first | rfl | (rw [advanceTheirBase_stamps])

theorem umpHandleDataPacket_stamps :
    ∃ n, (umpHandleDataPacket u p).core.stamps = u.core.stamps.later n ∨
      (umpHandleDataPacket u p).core.stamps = (u.core.stamps.notifyWnd p).later n := by
  have asked : (if uPacketGetFlag p UP_DATA_SEQ then
      { u with core := { u.core with ackInfo := umpSetOurAckInfo u.core.ackInfo false } }
      else u).core.stamps = u.core.stamps := by
    split
    · exact setOurAckInfo_stamps u.core false
    · rfl
  unfold umpHandleDataPacket
  dsimp only
  rw [← asked]
  generalize (if uPacketGetFlag p UP_DATA_SEQ then
      { u with core := { u.core with ackInfo := umpSetOurAckInfo u.core.ackInfo false } }
      else u) = v
  split
  · exact umpHandleDataAck_stamps v.core p
  · exact ⟨0, .inl rfl⟩
  · unfold umpEstablishedHandleDataPacket
    dsimp only
    split
    · rw [storePacket_stamps]
      exact umpHandleDataAck_stamps v.core p
    · exact umpHandleDataAck_stamps v.core p
  · exact umpHandleDataAck_stamps v.core p

/-! ### Steps -/

/-- What an event can do to the times of a socket. -/
inductive StampStep (k : Stamps) : SockEvent → Stamps → Prop where
  | read (event : SockEvent) (n : Nat) : StampStep k event (k.later n)
  | close (event : SockEvent) (n : Nat) : StampStep k event (k.later n).close
  | window (p : UMPPacket) (n : Nat) : StampStep k (.dataPacket p) ((k.notifyWnd p).later n)
  | acked (n : Nat) :
      StampStep k .refreshAck ({ k.later n with lastAckT := (k.later n).clock.now }.later 1)
  | beat : StampStep k .heartbeat ({ k with lastHeartbeat := k.clock.now }.later 1)

theorem umpRefreshOurAckInfo_step (s : SocketCore) :
    StampStep s.stamps .refreshAck (umpRefreshOurAckInfo s).stamps := by
  unfold umpRefreshOurAckInfo
  dsimp only
  split
  · exact .acked 0
  · split
    · split
      · exact .read _ 1
      · exact .acked 1
    · exact .read _ 0

theorem umpActReqWnd_stamps (s : SocketCore) : ∃ n, (umpActReqWnd s).stamps = s.stamps.later n := by
  unfold umpActReqWnd
  dsimp only
  split
  · exact ⟨0, rfl⟩
  · split <;> exact ⟨1, rfl⟩

theorem umpHandleSendHeartbeat_step (s : SocketCore) :
    StampStep s.stamps .heartbeat (umpHandleSendHeartbeat s).stamps := by
  unfold umpHandleSendHeartbeat
  dsimp only
  split
  · exact .read _ 0
  · split
    · have asked := setOurAckInfo_stamps s false
      have beaten := congrArg (fun k : Stamps => { k with lastHeartbeat := s.now }.later 1) asked
      have step : StampStep s.stamps .heartbeat
          ({ s.stamps with lastHeartbeat := s.stamps.clock.now }.later 1) := .beat
      rwa [show s.stamps.clock.now = s.now from rfl, ← beaten] at step
    · exact .read _ 1

theorem stampStep_of_later {k k' : Stamps} (event : SockEvent) (read : ∃ n, k' = k.later n) :
    StampStep k event k' := by
  obtain ⟨n, rfl⟩ := read
  exact .read event n

theorem stampStep_of_same {k k' : Stamps} (event : SockEvent) (same : k' = k) :
    StampStep k event k' := by
  rw [same]
  exact .read event 0

theorem stampStep_of_ending {k k' : Stamps} (event : SockEvent)
    (ends : ∃ n, k' = k.later n ∨ k' = (k.later n).close) : StampStep k event k' := by
  obtain ⟨n, rfl | rfl⟩ := ends
  · exact .read event n
  · exact .close event n

/-- The times of a socket change with closing, window notifications, acks and
heartbeats only, and to what the clock shows. -/
theorem stamps_step (event : SockEvent) :
    StampStep u.core.stamps event (sockStep u event).core.stamps := by
  cases event with
  | userCtrl | userSend | userReceive | bufferLoad | refreshRwnd => exact .read _ 0
  | handleCtrl => exact stampStep_of_same _ (umpHandleCtrl_stamps u.core)
  | handleSend => exact stampStep_of_same _ (umpHandleSend_stamps u.core)
  | handleReceive => exact stampStep_of_same _ (umpHandleReceive_stamps u)
  | ctrlPacket p =>
      rcases umpHandleCtrlPacket_stamps u.core p with ⟨n, read⟩ | closed
      · exact stampStep_of_later _ ⟨n, read⟩
      · exact stampStep_of_ending _ ⟨0, .inr closed⟩
  | dataPacket p =>
      obtain ⟨n, read | noticed⟩ := umpHandleDataPacket_stamps u p
      · exact stampStep_of_later _ ⟨n, read⟩
      · show StampStep _ _ (umpHandleDataPacket u p).core.stamps
        rw [noticed]
        exact .window p n
  | dataTimeout => exact stampStep_of_ending _ (umpHandleDataTimeout_stamps u.core)
  | refreshAck => exact umpRefreshOurAckInfo_step u.core
  | actReqWnd => exact stampStep_of_later _ (umpActReqWnd_stamps u.core)
  | ctrlTimeout => exact stampStep_of_ending _ (umpHandleCtrlTimeout_stamps u.core)
  | sendCtrlPacket => exact stampStep_of_later _ (umpHandleSendCtrlPacket_stamps u.core)
  | heartbeat => exact umpHandleSendHeartbeat_step u.core
  | sendData => exact stampStep_of_later _ (umpHandleSendData_stamps u.core)
  | sendReset => exact stampStep_of_same _ (umpHandleSendResetPacket_stamps u.core)

end Receiving

/-- The clock goes on, and nobody sets it. -/
theorem stampStep_clock {k k' : Stamps} {event : SockEvent} (step : StampStep k event k') :
    k'.clock.readings = k.clock.readings ∧ k.clock.ticks ≤ k'.clock.ticks := by
  have notified (p : UMPPacket) : (k.notifyWnd p).clock.readings = k.clock.readings ∧
      k.clock.ticks ≤ (k.notifyWnd p).clock.ticks := by
    unfold Stamps.notifyWnd
    split
    · split
      · exact ⟨rfl, Nat.le_add_right _ _⟩
      · exact ⟨rfl, Nat.le_refl _⟩
    · exact ⟨rfl, Nat.le_refl _⟩
  cases step with
  | read event n => exact ⟨rfl, Nat.le_add_right _ _⟩
  | close event n => exact ⟨rfl, Nat.le_trans (Nat.le_add_right _ n) (Nat.le_add_right _ 1)⟩
  | window p n => exact ⟨(notified p).1, Nat.le_trans (notified p).2 (Nat.le_add_right _ _)⟩
  | acked n => exact ⟨rfl, Nat.le_trans (Nat.le_add_right _ n) (Nat.le_add_right _ 1)⟩
  | beat => exact ⟨rfl, Nat.le_add_right _ _⟩

section Clocks

variable {Lists : Type} [ReceiveLists Lists] {clock : Clock}

theorem now_eq {s : SocketCore} (same : s.clock.readings = clock.readings) :
    s.now = clock.readings s.clock.ticks := congrFun same _

/-- No event takes a lawful clock back. -/
theorem sockStep_onward (lawful : clock.Lawful) {u : UMPSocket Lists}
    (same : u.core.clock.readings = clock.readings) (event : SockEvent) :
    (sockStep u event).core.clock.readings = clock.readings ∧
      u.core.now.micros ≤ (sockStep u event).core.now.micros := by
  obtain ⟨kept, more⟩ := stampStep_clock (stamps_step u event)
  have readings : (sockStep u event).core.clock.readings = clock.readings := kept.trans same
  refine ⟨readings, ?_⟩
  rw [now_eq same, now_eq readings]
  exact lawful.mono more

end Clocks

end UserMessageProtocol
