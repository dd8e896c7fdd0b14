import UserMessageProtocol.Socket.Thread

/-!
Contract: what the handlers leave alone.

Owns: for every handler and every group of fields it does not touch, the
equation that says so.

Does not own: what the handlers do to the fields they touch.
-/

set_option autoImplicit false

namespace UserMessageProtocol

variable (s : SocketCore)

/-! ### Log and clock -/

section Access

variable (action : Action)

@[simp] theorem act_ctrl : (s.act action).ctrl = s.ctrl := rfl
@[simp] theorem act_ackInfo : (s.act action).ackInfo = s.ackInfo := rfl
@[simp] theorem act_snd : (s.act action).snd = s.snd := rfl
@[simp] theorem act_rcv : (s.act action).rcv = s.rcv := rfl
@[simp] theorem act_log : (s.act action).log = action :: s.log := rfl
@[simp] theorem tick_ctrl : s.tick.ctrl = s.ctrl := rfl
@[simp] theorem tick_ackInfo : s.tick.ackInfo = s.ackInfo := rfl
@[simp] theorem tick_snd : s.tick.snd = s.snd := rfl
@[simp] theorem tick_rcv : s.tick.rcv = s.rcv := rfl
@[simp] theorem tick_log : s.tick.log = s.log := rfl

end Access

/-! ### Ends of calls -/

section Calls

variable (method : UMPCallMethod) (ok : Bool) (state : UMPSockState)

@[simp] theorem umpEndCtrl_ackInfo : (umpEndCtrl s method ok).ackInfo = s.ackInfo := by
  unfold umpEndCtrl; split <;> split <;> rfl

@[simp] theorem umpEndCtrl_snd : (umpEndCtrl s method ok).snd = s.snd := by
  unfold umpEndCtrl; split <;> split <;> rfl

@[simp] theorem umpEndCtrl_rcv : (umpEndCtrl s method ok).rcv = s.rcv := by
  unfold umpEndCtrl; split <;> split <;> rfl

@[simp] theorem umpEndSend_ctrl : (umpEndSend s ok).ctrl = s.ctrl := by
  unfold umpEndSend; split <;> rfl

@[simp] theorem umpEndSend_ackInfo : (umpEndSend s ok).ackInfo = s.ackInfo := by
  unfold umpEndSend; split <;> rfl

@[simp] theorem umpEndSend_rcv : (umpEndSend s ok).rcv = s.rcv := by
  unfold umpEndSend; split <;> rfl

@[simp] theorem umpFailReceive_ctrl : (umpFailReceive s).ctrl = s.ctrl := by
  unfold umpFailReceive; split <;> rfl

@[simp] theorem umpFailReceive_ackInfo : (umpFailReceive s).ackInfo = s.ackInfo := by
  unfold umpFailReceive; split <;> rfl

@[simp] theorem umpFailReceive_snd : (umpFailReceive s).snd = s.snd := by
  unfold umpFailReceive; split <;> rfl

@[simp] theorem umpClosedEnterState_ackInfo : (umpClosedEnterState s).ackInfo = s.ackInfo := by
  unfold umpClosedEnterState; simp only [umpEndCtrl_ackInfo]; split <;> simp

@[simp] theorem umpClosedEnterState_snd : (umpClosedEnterState s).snd = s.snd := by
  unfold umpClosedEnterState; simp only [umpEndCtrl_snd]; split <;> simp

@[simp] theorem umpEstablishedEnterState_ackInfo :
    (umpEstablishedEnterState s).ackInfo = s.ackInfo := by
  simp [umpEstablishedEnterState]

@[simp] theorem umpEstablishedEnterState_snd : (umpEstablishedEnterState s).snd = s.snd := by
  simp [umpEstablishedEnterState]

@[simp] theorem umpEstablishedEnterState_rcv : (umpEstablishedEnterState s).rcv = s.rcv := by
  simp [umpEstablishedEnterState]

@[simp] theorem umpChangeState_ackInfo : (umpChangeState s state).ackInfo = s.ackInfo := by
  cases state <;> simp [umpChangeState]

@[simp] theorem umpChangeState_snd : (umpChangeState s state).snd = s.snd := by
  cases state <;> simp [umpChangeState]

@[simp] theorem umpConnectionErrorOccured_ackInfo :
    (umpConnectionErrorOccured s).ackInfo = s.ackInfo := by
  simp [umpConnectionErrorOccured]

end Calls

/-! ### Sender -/

section Sender

variable (p : UMPPacket) (ackSeq : UInt16)

@[simp] theorem setDataAck_ctrl : (setDataAck s).ctrl = s.ctrl := rfl
@[simp] theorem setDataAck_snd : (setDataAck s).snd = s.snd := rfl
@[simp] theorem setDataAck_rcv : (setDataAck s).rcv = s.rcv := rfl
@[simp] theorem setDataAck_log : (setDataAck s).log = s.log := rfl

@[simp] theorem umpRefreshOurAckInfo_ctrl : (umpRefreshOurAckInfo s).ctrl = s.ctrl := by
  unfold umpRefreshOurAckInfo; dsimp only; repeat' split
  all_goals rfl

@[simp] theorem umpRefreshOurAckInfo_snd : (umpRefreshOurAckInfo s).snd = s.snd := by
  unfold umpRefreshOurAckInfo; dsimp only; repeat' split
  all_goals rfl

@[simp] theorem umpRefreshOurAckInfo_rcv : (umpRefreshOurAckInfo s).rcv = s.rcv := by
  unfold umpRefreshOurAckInfo; dsimp only; repeat' split
  all_goals rfl

@[simp] theorem umpRefreshOurAckInfo_log : (umpRefreshOurAckInfo s).log = s.log := by
  unfold umpRefreshOurAckInfo; dsimp only; repeat' split
  all_goals rfl

@[simp] theorem sendAckAlone_ctrl : (sendAckAlone s).ctrl = s.ctrl := by
  unfold sendAckAlone; split <;> rfl

@[simp] theorem sendAckAlone_snd : (sendAckAlone s).snd = s.snd := by
  unfold sendAckAlone; split <;> rfl

@[simp] theorem sendAckAlone_rcv : (sendAckAlone s).rcv = s.rcv := by
  unfold sendAckAlone; split <;> rfl

@[simp] theorem umpHandleSend_ctrl : (umpHandleSend s).ctrl = s.ctrl := by
  unfold umpHandleSend; dsimp only; repeat' split
  all_goals simp

@[simp] theorem umpHandleSend_ackInfo : (umpHandleSend s).ackInfo = s.ackInfo := by
  unfold umpHandleSend; dsimp only; repeat' split
  all_goals simp

@[simp] theorem umpHandleSend_rcv : (umpHandleSend s).rcv = s.rcv := by
  unfold umpHandleSend; dsimp only; repeat' split
  all_goals simp

@[simp] theorem umpHandleSendData_ctrl : (umpHandleSendData s).ctrl = s.ctrl := by
  unfold umpHandleSendData umpSndlockedHandleSendData; dsimp only; repeat' split
  all_goals simp

@[simp] theorem umpHandleSendData_rcv : (umpHandleSendData s).rcv = s.rcv := by
  unfold umpHandleSendData umpSndlockedHandleSendData; dsimp only; repeat' split
  all_goals simp

@[simp] theorem umpHandleWndNotify_ctrl : (umpHandleWndNotify s p).ctrl = s.ctrl := by
  unfold umpHandleWndNotify; dsimp only; repeat' split
  all_goals rfl

@[simp] theorem umpHandleWndNotify_ackInfo : (umpHandleWndNotify s p).ackInfo = s.ackInfo := by
  unfold umpHandleWndNotify; dsimp only; repeat' split
  all_goals rfl

@[simp] theorem umpHandleWndNotify_rcv : (umpHandleWndNotify s p).rcv = s.rcv := by
  unfold umpHandleWndNotify; dsimp only; repeat' split
  all_goals rfl

@[simp] theorem umpHandleWndNotify_log : (umpHandleWndNotify s p).log = s.log := by
  unfold umpHandleWndNotify; dsimp only; repeat' split
  all_goals rfl

@[simp] theorem refreshCwnd_ctrl : (refreshCwnd s).ctrl = s.ctrl := by
  unfold refreshCwnd; dsimp only; repeat' split
  all_goals rfl

@[simp] theorem refreshCwnd_ackInfo : (refreshCwnd s).ackInfo = s.ackInfo := by
  unfold refreshCwnd; dsimp only; repeat' split
  all_goals rfl

@[simp] theorem refreshCwnd_rcv : (refreshCwnd s).rcv = s.rcv := by
  unfold refreshCwnd; dsimp only; repeat' split
  all_goals rfl

@[simp] theorem refreshCwnd_log : (refreshCwnd s).log = s.log := by
  unfold refreshCwnd; dsimp only; repeat' split
  all_goals rfl

@[simp] theorem acknowledgeTimers_ctrl : (acknowledgeTimers s ackSeq).ctrl = s.ctrl := by
  unfold acknowledgeTimers; dsimp only; repeat' split
  all_goals rfl

@[simp] theorem acknowledgeTimers_ackInfo : (acknowledgeTimers s ackSeq).ackInfo = s.ackInfo := by
  unfold acknowledgeTimers; dsimp only; repeat' split
  all_goals rfl

@[simp] theorem acknowledgeTimers_rcv : (acknowledgeTimers s ackSeq).rcv = s.rcv := by
  unfold acknowledgeTimers; dsimp only; repeat' split
  all_goals rfl

@[simp] theorem acknowledgeTimers_log : (acknowledgeTimers s ackSeq).log = s.log := by
  unfold acknowledgeTimers; dsimp only; repeat' split
  all_goals rfl

@[simp] theorem finishAck_ctrl : (finishAck s ackSeq).ctrl = s.ctrl := by
  unfold finishAck; dsimp only; split <;> simp

@[simp] theorem finishAck_ackInfo : (finishAck s ackSeq).ackInfo = s.ackInfo := by
  unfold finishAck; dsimp only; split <;> simp

@[simp] theorem finishAck_rcv : (finishAck s ackSeq).rcv = s.rcv := by
  unfold finishAck; dsimp only; split <;> simp

@[simp] theorem umpHandleDataAck_ctrl : (umpHandleDataAck s p).ctrl = s.ctrl := by
  unfold umpHandleDataAck; dsimp only; repeat' split
  all_goals simp

@[simp] theorem umpHandleDataAck_ackInfo : (umpHandleDataAck s p).ackInfo = s.ackInfo := by
  unfold umpHandleDataAck; dsimp only; repeat' split
  all_goals simp

@[simp] theorem umpHandleDataAck_rcv : (umpHandleDataAck s p).rcv = s.rcv := by
  unfold umpHandleDataAck; dsimp only; repeat' split
  all_goals simp

@[simp] theorem umpActReqWnd_ctrl : (umpActReqWnd s).ctrl = s.ctrl := by
  unfold umpActReqWnd; dsimp only; repeat' split
  all_goals rfl

@[simp] theorem umpActReqWnd_ackInfo : (umpActReqWnd s).ackInfo = s.ackInfo := by
  unfold umpActReqWnd; dsimp only; repeat' split
  all_goals rfl

@[simp] theorem umpActReqWnd_rcv : (umpActReqWnd s).rcv = s.rcv := by
  unfold umpActReqWnd; dsimp only; repeat' split
  all_goals rfl

@[simp] theorem umpHandleSendHeartbeat_ctrl : (umpHandleSendHeartbeat s).ctrl = s.ctrl := by
  unfold umpHandleSendHeartbeat; dsimp only; repeat' split
  all_goals rfl

@[simp] theorem umpHandleSendHeartbeat_snd : (umpHandleSendHeartbeat s).snd = s.snd := by
  unfold umpHandleSendHeartbeat; dsimp only; repeat' split
  all_goals rfl

@[simp] theorem umpHandleSendHeartbeat_rcv : (umpHandleSendHeartbeat s).rcv = s.rcv := by
  unfold umpHandleSendHeartbeat; dsimp only; repeat' split
  all_goals rfl

@[simp] theorem umpHandleSendHeartbeat_log : (umpHandleSendHeartbeat s).log = s.log := by
  unfold umpHandleSendHeartbeat; dsimp only; repeat' split
  all_goals rfl

end Sender

/-! ### Control packets -/

section Connection

variable (p : UMPPacket) (method : UMPCallMethod)

@[simp] theorem queueCtrlPacket_ackInfo : (queueCtrlPacket s p).ackInfo = s.ackInfo := rfl
@[simp] theorem queueCtrlPacket_snd : (queueCtrlPacket s p).snd = s.snd := rfl
@[simp] theorem queueCtrlPacket_rcv : (queueCtrlPacket s p).rcv = s.rcv := rfl
@[simp] theorem umpClosedConnect_ackInfo : (umpClosedConnect s).ackInfo = s.ackInfo := rfl
@[simp] theorem umpClosedConnect_snd : (umpClosedConnect s).snd = s.snd := rfl
@[simp] theorem umpClosedConnect_rcv : (umpClosedConnect s).rcv = s.rcv := rfl
@[simp] theorem umpEstablishedClose_ackInfo : (umpEstablishedClose s).ackInfo = s.ackInfo := rfl
@[simp] theorem umpEstablishedClose_snd : (umpEstablishedClose s).snd = s.snd := rfl
@[simp] theorem umpEstablishedClose_rcv : (umpEstablishedClose s).rcv = s.rcv := rfl
@[simp] theorem setCtrlAck_ctrl : (setCtrlAck s).ctrl = s.ctrl := rfl
@[simp] theorem setCtrlAck_snd : (setCtrlAck s).snd = s.snd := rfl
@[simp] theorem setCtrlAck_rcv : (setCtrlAck s).rcv = s.rcv := rfl
@[simp] theorem setCtrlAck_log : (setCtrlAck s).log = s.log := rfl
@[simp] theorem takeSyn_ackInfo : (takeSyn s p).ackInfo = s.ackInfo := rfl
@[simp] theorem takeSyn_log : (takeSyn s p).log = s.log := rfl

@[simp] theorem dropPending_ackInfo : (dropPending s).ackInfo = s.ackInfo := by
  unfold dropPending; dsimp only; split <;> rfl

@[simp] theorem dropPending_snd : (dropPending s).snd = s.snd := by
  unfold dropPending; dsimp only; split <;> rfl

@[simp] theorem dropPending_rcv : (dropPending s).rcv = s.rcv := by
  unfold dropPending; dsimp only; split <;> rfl

@[simp] theorem countTheirs_ackInfo : (countTheirs s p).ackInfo = s.ackInfo := by
  unfold countTheirs; split <;> rfl

@[simp] theorem countTheirs_snd : (countTheirs s p).snd = s.snd := by
  unfold countTheirs; split <;> rfl

@[simp] theorem countTheirs_rcv : (countTheirs s p).rcv = s.rcv := by
  unfold countTheirs; split <;> rfl

@[simp] theorem countTheirs_log : (countTheirs s p).log = s.log := by
  unfold countTheirs; split <;> rfl

@[simp] theorem sendCtrlAckAlone_ctrl : (sendCtrlAckAlone s).ctrl = s.ctrl := by
  unfold sendCtrlAckAlone; split <;> rfl

@[simp] theorem sendCtrlAckAlone_snd : (sendCtrlAckAlone s).snd = s.snd := by
  unfold sendCtrlAckAlone; split <;> rfl

@[simp] theorem sendCtrlAckAlone_rcv : (sendCtrlAckAlone s).rcv = s.rcv := by
  unfold sendCtrlAckAlone; split <;> rfl

@[simp] theorem umpHandleSendCtrlPacket_snd : (umpHandleSendCtrlPacket s).snd = s.snd := by
  unfold umpHandleSendCtrlPacket; dsimp only; repeat' split
  all_goals simp

@[simp] theorem umpHandleSendCtrlPacket_rcv : (umpHandleSendCtrlPacket s).rcv = s.rcv := by
  unfold umpHandleSendCtrlPacket; dsimp only; repeat' split
  all_goals simp

@[simp] theorem umpHandleSendResetPacket_ackInfo :
    (umpHandleSendResetPacket s).ackInfo = s.ackInfo := by
  unfold umpHandleSendResetPacket; split <;> rfl

@[simp] theorem umpHandleSendResetPacket_snd : (umpHandleSendResetPacket s).snd = s.snd := by
  unfold umpHandleSendResetPacket; split <;> rfl

@[simp] theorem umpHandleSendResetPacket_rcv : (umpHandleSendResetPacket s).rcv = s.rcv := by
  unfold umpHandleSendResetPacket; split <;> rfl

theorem umpHandleSendCtrlPacket_publicState :
    (umpHandleSendCtrlPacket s).ctrl.publicState = s.ctrl.publicState := by
  unfold umpHandleSendCtrlPacket sendCtrlAckAlone
  dsimp only
  repeat' split
  all_goals rfl

theorem umpHandleSendResetPacket_publicState :
    (umpHandleSendResetPacket s).ctrl.publicState = s.ctrl.publicState := by
  unfold umpHandleSendResetPacket
  split <;> rfl

@[simp] theorem umpSockControlCall_ackInfo : (umpSockControlCall s method).ackInfo = s.ackInfo :=
  rfl
@[simp] theorem umpSockControlCall_snd : (umpSockControlCall s method).snd = s.snd := rfl
@[simp] theorem umpSockControlCall_rcv : (umpSockControlCall s method).rcv = s.rcv := rfl
@[simp] theorem umpSockControlCall_log : (umpSockControlCall s method).log = s.log := rfl

end Connection

/-! ### Receiver -/

section Receiver

variable {Lists : Type} [ReceiveLists Lists] (u : UMPSocket Lists) (p : UMPPacket)

@[simp] theorem umpHarvestMessages_ctrl : (umpHarvestMessages u).core.ctrl = u.core.ctrl := rfl
@[simp] theorem umpHarvestMessages_snd : (umpHarvestMessages u).core.snd = u.core.snd := rfl
@[simp] theorem umpHarvestMessages_ackInfo :
    (umpHarvestMessages u).core.ackInfo = u.core.ackInfo := rfl
@[simp] theorem umpHarvestMessages_log : (umpHarvestMessages u).core.log = u.core.log := rfl

@[simp] theorem umpEndReceiveInternal_ctrl : (umpEndReceiveInternal u).core.ctrl = u.core.ctrl := by
  unfold umpEndReceiveInternal; dsimp only; split <;> rfl

@[simp] theorem umpEndReceiveInternal_snd : (umpEndReceiveInternal u).core.snd = u.core.snd := by
  unfold umpEndReceiveInternal; dsimp only; split <;> rfl

@[simp] theorem umpEndReceiveInternal_log : (umpEndReceiveInternal u).core.log = u.core.log := by
  unfold umpEndReceiveInternal; dsimp only; split <;> rfl

@[simp] theorem finishReceive_ctrl : (finishReceive u).core.ctrl = u.core.ctrl := by
  simp [finishReceive]

@[simp] theorem finishReceive_snd : (finishReceive u).core.snd = u.core.snd := by
  simp [finishReceive]

@[simp] theorem umpEndReceive_ctrl : (umpEndReceive u).core.ctrl = u.core.ctrl := by
  unfold umpEndReceive; split <;> simp

@[simp] theorem umpEndReceive_snd : (umpEndReceive u).core.snd = u.core.snd := by
  unfold umpEndReceive; split <;> simp

@[simp] theorem umpHandleReceive_ctrl : (umpHandleReceive u).core.ctrl = u.core.ctrl := by
  unfold umpHandleReceive; dsimp only; repeat' split
  all_goals simp

@[simp] theorem umpHandleReceive_snd : (umpHandleReceive u).core.snd = u.core.snd := by
  unfold umpHandleReceive; dsimp only; repeat' split
  all_goals simp

@[simp] theorem umpCheckRcvDataSoFar_ctrl : (umpCheckRcvDataSoFar u).core.ctrl = u.core.ctrl := by
  unfold umpCheckRcvDataSoFar; dsimp only; repeat' split
  all_goals simp

@[simp] theorem umpCheckRcvDataSoFar_snd : (umpCheckRcvDataSoFar u).core.snd = u.core.snd := by
  unfold umpCheckRcvDataSoFar; dsimp only; repeat' split
  all_goals simp

@[simp] theorem advanceTheirBase_ctrl (check : Bool) :
    (advanceTheirBase u check).core.ctrl = u.core.ctrl := by
  unfold advanceTheirBase; dsimp only; split <;> simp

@[simp] theorem advanceTheirBase_snd (check : Bool) :
    (advanceTheirBase u check).core.snd = u.core.snd := by
  unfold advanceTheirBase; dsimp only; split <;> simp

@[simp] theorem storePacket_ctrl : (storePacket u p).core.ctrl = u.core.ctrl := by
  unfold storePacket takeInOrder; dsimp only; repeat' split
  all_goals simp

@[simp] theorem storePacket_snd : (storePacket u p).core.snd = u.core.snd := by
  unfold storePacket takeInOrder; dsimp only; repeat' split
  all_goals simp

@[simp] theorem umpHandleDataPacket_ctrl : (umpHandleDataPacket u p).core.ctrl = u.core.ctrl := by
  unfold umpHandleDataPacket umpEstablishedHandleDataPacket; dsimp only; repeat' split
  all_goals simp

end Receiver

end UserMessageProtocol
