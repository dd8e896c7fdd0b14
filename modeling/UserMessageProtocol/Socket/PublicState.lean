import UserMessageProtocol.Socket.Frames

/-!
Contract: other threads read the state that the socket thread has.

Owns: `public_state` equal to `state` behind every handler (`sockStep_published`).

Does not own: who reads it.
-/

set_option autoImplicit false

namespace UserMessageProtocol

/-- `public_state` is `state`. -/
def Published (s : SocketCore) : Prop := s.ctrl.publicState = s.ctrl.state

section Core

variable {s t : SocketCore} {method : UMPCallMethod} {ok : Bool} {p : UMPPacket}

theorem Published.congr (before : Published s)
    (publicState : t.ctrl.publicState = s.ctrl.publicState)
    (state : t.ctrl.state = s.ctrl.state) : Published t :=
  publicState.trans (before.trans state.symm)

theorem Published.endCtrl (before : Published s) : Published (umpEndCtrl s method ok) := by
  unfold umpEndCtrl
  repeat' split
  all_goals exact before

theorem Published.frame (before : Published s) (ctrl : t.ctrl = s.ctrl) : Published t :=
  before.congr (congrArg _ ctrl) (congrArg _ ctrl)

/-- `ump_change_state` writes both. -/
theorem umpChangeState_published (state : UMPSockState) : Published (umpChangeState s state) := by
  cases state with
  | closed =>
      unfold umpChangeState umpClosedEnterState
      dsimp only
      apply Published.endCtrl
      split
      · refine Published.frame ?_ (umpFailReceive_ctrl _)
        rfl
      · rfl
  | connecting => rfl
  | established =>
      unfold umpChangeState umpEstablishedEnterState
      exact Published.endCtrl rfl
  | closing => rfl

theorem umpConnectionErrorOccured_published : Published (umpConnectionErrorOccured s) := by
  unfold umpConnectionErrorOccured
  refine Published.frame ?_ (umpFailReceive_ctrl _)
  refine Published.frame ?_ (umpEndSend_ctrl _ _)
  exact (umpChangeState_published .closed).endCtrl

theorem Published.dropPending (before : Published s) : Published (dropPending s) := by
  unfold UserMessageProtocol.dropPending
  dsimp only
  split <;> exact before

theorem Published.countTheirs (before : Published s) : Published (countTheirs s p) := by
  unfold UserMessageProtocol.countTheirs
  split <;> exact before

theorem umpClosedHandleCtrlPacket_published (before : Published s) :
    Published (umpClosedHandleCtrlPacket s p) := by
  unfold umpClosedHandleCtrlPacket
  repeat' split
  · exact umpChangeState_published .connecting
  · exact before
  · exact (Published.countTheirs before : Published _)
  · exact before

theorem umpConnectingHandleCtrlPacket_published (before : Published s) :
    Published (umpConnectingHandleCtrlPacket s p) := by
  have acked : Published (connectingAck s p) := by
    unfold connectingAck
    split
    · dsimp only
      split
      · exact before.dropPending
      · exact before
    · exact before
  have completed {t : SocketCore} (before : Published t) : Published (completeOpen t) := by
    unfold completeOpen
    split
    · exact umpChangeState_published .established
    · exact before
  unfold umpConnectingHandleCtrlPacket
  dsimp only
  repeat' split
  · exact acked
  · exact completed (acked : Published _)
  · exact acked
  · exact completed (acked.countTheirs : Published _)
  · exact completed acked

theorem umpEstablishedHandleCtrlPacket_published (before : Published s) :
    Published (umpEstablishedHandleCtrlPacket s p) := by
  have acked : Published (establishedAck s p) := by
    unfold establishedAck
    split
    · exact before.dropPending.endCtrl
    · exact before
  unfold umpEstablishedHandleCtrlPacket
  dsimp only
  repeat' split
  · exact (umpChangeState_published .closing : Published _)
  · exact (acked.countTheirs : Published _)
  · exact acked

theorem umpClosingHandleCtrlPacket_published (before : Published s) :
    Published (umpClosingHandleCtrlPacket s p) := by
  have acked : Published (closingAck s p) := by
    unfold closingAck
    split
    · dsimp only
      split
      · exact before.dropPending
      · exact before
    · exact before
  have completed {t : SocketCore} (before : Published t) : Published (completeClose t) := by
    unfold completeClose
    split
    · exact umpChangeState_published .closed
    · exact before
  unfold umpClosingHandleCtrlPacket
  dsimp only
  split
  · exact completed (acked.countTheirs : Published _)
  · exact completed acked

theorem umpHandleCtrlPacket_published (before : Published s) :
    Published (umpHandleCtrlPacket s p) := by
  unfold umpHandleCtrlPacket
  split
  · exact umpConnectionErrorOccured_published
  · have noted : Published (s.act (.processed p s.ctrl.ourCtrlSeq)) := before
    unfold smHandleCtrlPacket
    split
    · exact umpClosedHandleCtrlPacket_published noted
    · exact umpConnectingHandleCtrlPacket_published noted
    · exact umpEstablishedHandleCtrlPacket_published noted
    · exact umpClosingHandleCtrlPacket_published noted

theorem umpHandleCtrl_published (before : Published s) : Published (umpHandleCtrl s) := by
  have taken (method : UMPCallMethod) (t : SocketCore) (before : Published t) :
      Published (smHandleCtrl t method) := by
    unfold smHandleCtrl umpClosedHandleCtrl umpConnectingHandleCtrl umpEstablishedHandleCtrl
      umpClosingHandleCtrl
    repeat' split
    · exact umpChangeState_published .connecting
    · exact before.endCtrl
    · exact before.endCtrl
    · exact before.endCtrl
    · exact before
    · refine Published.frame ?_ (umpFailReceive_ctrl _)
      exact Published.frame (umpChangeState_published .closing) (umpEndSend_ctrl _ _)
    · exact before.endCtrl
    · exact before.endCtrl
    · exact before.endCtrl
    · exact before
  unfold umpHandleCtrl
  repeat' split
  · exact before
  · exact before
  · exact before
  · dsimp only
    split
    · exact Published.endCtrl before
    · exact taken _ _ before

theorem umpHandleCtrlTimeout_published (before : Published s) :
    Published (umpHandleCtrlTimeout s) := by
  unfold umpHandleCtrlTimeout
  dsimp only
  repeat' split
  all_goals first | exact before | exact umpConnectionErrorOccured_published

theorem umpHandleDataTimeout_published (before : Published s) :
    Published (umpHandleDataTimeout s) := by
  unfold umpHandleDataTimeout
  dsimp only
  repeat' split
  all_goals first | exact before | exact umpConnectionErrorOccured_published

end Core

section Steps

variable {Lists : Type} [ReceiveLists Lists] {u : UMPSocket Lists}

/-- Behind every handler other threads read the state of the socket. -/
theorem sockStep_published (event : SockEvent) (before : Published u.core) :
    Published (sockStep u event).core := by
  cases event with
  | userCtrl | userSend | userReceive | bufferLoad | refreshRwnd => exact before
  | handleCtrl => exact umpHandleCtrl_published before
  | handleSend => exact before.frame (umpHandleSend_ctrl _)
  | handleReceive => exact before.frame (umpHandleReceive_ctrl _)
  | ctrlPacket p => exact umpHandleCtrlPacket_published before
  | dataPacket p => exact before.frame (umpHandleDataPacket_ctrl _ _)
  | dataTimeout => exact umpHandleDataTimeout_published before
  | refreshAck => exact before.frame (umpRefreshOurAckInfo_ctrl _)
  | actReqWnd => exact before.frame (umpActReqWnd_ctrl _)
  | ctrlTimeout => exact umpHandleCtrlTimeout_published before
  | sendCtrlPacket =>
      refine before.congr (umpHandleSendCtrlPacket_publicState _) ?_
      unfold sockStep umpHandleSendCtrlPacket sendCtrlAckAlone
      dsimp only
      repeat' split
      all_goals rfl
  | heartbeat => exact before.frame (umpHandleSendHeartbeat_ctrl _)
  | sendData => exact before.frame (umpHandleSendData_ctrl _)
  | sendReset =>
      refine before.congr (umpHandleSendResetPacket_publicState _) ?_
      unfold sockStep umpHandleSendResetPacket
      dsimp only
      split <;> rfl

end Steps

end UserMessageProtocol
