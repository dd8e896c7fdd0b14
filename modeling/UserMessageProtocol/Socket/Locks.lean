import UserMessageProtocol.Foundation.CallLock
import UserMessageProtocol.Socket.Frames

/-!
Contract: the three lock state machines of a socket are call locks.

Owns: the lock of the control, the send and the receive call as `CallLock`s, their calls
with the replies (`calls`), which events pick a call up, and that every event is a move
of each lock.

In the log `ctrlDone`, `sendDone` and `received` stand for the release of the mutex and
the setting of the done event, which the source does together.

Does not own: the packets a completed receive call returns (`Receiver.CallLocks`).
-/

set_option autoImplicit false

namespace UserMessageProtocol

/-! ### The locks -/

def Action.endsCtrl : Action → Bool
  | .ctrlDone _ => true
  | _ => false

def Action.endsSend : Action → Bool
  | .sendDone _ => true
  | _ => false

def Action.endsReceive : Action → Bool
  | .received _ _ => true
  | _ => false

/-- `ctrl_para_lock` with `ctrl_locked` and `ctrl_para`. -/
def ctrlLock (s : SocketCore) : CallLock where
  locked := s.ctrl.ctrlLocked = .locked
  held := s.ctrl.ctrlParaLock
  called := s.ctrl.ctrlPara.isSome
  done := (s.log.filter Action.endsCtrl).length

/-- `snd_para_lock` with `snd_locked` and `snd_packets`. -/
def sendLock (s : SocketCore) : CallLock where
  locked := s.snd.sndLocked = .locked
  held := s.snd.sndParaLock
  called := s.snd.sndPackets.isSome
  done := (s.log.filter Action.endsSend).length

/-- `rec_para_lock` with `rec_locked` and `receive_called`. -/
def receiveLock (s : SocketCore) : CallLock where
  locked := s.rcv.recLocked = .locked
  held := s.rcv.recParaLock
  called := s.rcv.receiveCalled
  done := (s.log.filter Action.endsReceive).length

/-- The three locks of a socket. -/
structure Locks where
  ctrl : CallLock
  send : CallLock
  receive : CallLock

def locks (s : SocketCore) : Locks := ⟨ctrlLock s, sendLock s, receiveLock s⟩

/-- From `k` to `k'` calls were completed at most. -/
structure CallsEnd (k k' : Locks) : Prop where
  ctrl : k.ctrl.Ends k'.ctrl
  send : k.send.Ends k'.send
  receive : k.receive.Ends k'.receive

/-! ### Replies -/

def Action.ctrlReply : Action → Option Bool
  | .ctrlDone ok => some ok
  | _ => none

def Action.sendReply : Action → Option Bool
  | .sendDone ok => some ok
  | _ => none

def Action.receiveReply : Action → Option Bool
  | .received _ message => some message.isSome
  | _ => none

/-- The control calls with their replies and `ctrl_ok`. -/
def ctrlCall (s : SocketCore) : CallRecord where
  locked := s.ctrl.ctrlLocked = .locked
  held := s.ctrl.ctrlParaLock
  called := s.ctrl.ctrlPara.isSome
  ok := s.ctrl.ctrlOk
  replies := s.log.filterMap Action.ctrlReply

/-- The send calls with their replies and `snd_ok`. -/
def sendCall (s : SocketCore) : CallRecord where
  locked := s.snd.sndLocked = .locked
  held := s.snd.sndParaLock
  called := s.snd.sndPackets.isSome
  ok := s.snd.sndOk
  replies := s.log.filterMap Action.sendReply

/-- The receive calls with their replies and `rec_ok`. -/
def receiveCall (s : SocketCore) : CallRecord where
  locked := s.rcv.recLocked = .locked
  held := s.rcv.recParaLock
  called := s.rcv.receiveCalled
  ok := s.rcv.recOk
  replies := s.log.filterMap Action.receiveReply

/-- The calls of a socket. -/
structure Calls where
  ctrl : CallRecord
  send : CallRecord
  receive : CallRecord

def calls (s : SocketCore) : Calls := ⟨ctrlCall s, sendCall s, receiveCall s⟩

/-- The replies chosen from a log are as many as the actions that have one. -/
theorem replies_length (reply : Action → Option Bool) (ends : Action → Bool) (log : List Action)
    (same : ∀ action, (reply action).isSome = ends action) :
    (log.filterMap reply).length = (log.filter ends).length := by
  rw [List.length_filterMap_eq_countP, List.countP_eq_length_filter]
  congr 2
  exact funext same

theorem ctrlCall_lock (s : SocketCore) : (ctrlCall s).lock = ctrlLock s := by
  apply congrArg (CallLock.mk _ _ _)
  apply replies_length Action.ctrlReply Action.endsCtrl
  intro action
  cases action <;> rfl

theorem sendCall_lock (s : SocketCore) : (sendCall s).lock = sendLock s := by
  apply congrArg (CallLock.mk _ _ _)
  apply replies_length Action.sendReply Action.endsSend
  intro action
  cases action <;> rfl

theorem receiveCall_lock (s : SocketCore) : (receiveCall s).lock = receiveLock s := by
  apply congrArg (CallLock.mk _ _ _)
  apply replies_length Action.receiveReply Action.endsReceive
  intro action
  cases action <;> rfl

/-- From `k` to `k'` calls were completed at most. -/
structure CallsReplied (k k' : Calls) : Prop where
  ctrl : k.ctrl.Replied k'.ctrl
  send : k.send.Replied k'.send
  receive : k.receive.Replied k'.receive

theorem CallsReplied.refl (k : Calls) : CallsReplied k k := ⟨.none, .none, .none⟩

theorem CallsReplied.trans {j k l : Calls} (first : CallsReplied j k)
    (second : CallsReplied k l) : CallsReplied j l :=
  ⟨first.ctrl.trans second.ctrl, first.send.trans second.send,
    first.receive.trans second.receive⟩

variable {s : SocketCore} {k : Calls}

/-! ### Ends of calls -/

section Calls

variable (method : UMPCallMethod) (ok : Bool)

theorem umpEndCtrl_replies (before : CallsReplied k (calls s)) :
    CallsReplied k (calls (umpEndCtrl s method ok)) := by
  apply before.trans
  unfold umpEndCtrl
  split
  · split <;> exact .refl _
  · rename_i locked
    split
    · exact .refl _
    · exact ⟨.once (decide_eq_true locked) _, .none, .none⟩

theorem umpEndSend_replies (before : CallsReplied k (calls s)) :
    CallsReplied k (calls (umpEndSend s ok)) := by
  apply before.trans
  unfold umpEndSend
  split
  · exact .refl _
  · rename_i locked
    exact ⟨.none, .once (decide_eq_true locked) _, .none⟩

theorem umpFailReceive_replies (before : CallsReplied k (calls s)) :
    CallsReplied k (calls (umpFailReceive s)) := by
  apply before.trans
  unfold umpFailReceive
  split
  · exact .refl _
  · rename_i locked
    exact ⟨.none, .none, .once (decide_eq_true locked) _⟩

theorem umpClosedEnterState_replies (before : CallsReplied k (calls s)) :
    CallsReplied k (calls (umpClosedEnterState s)) := by
  unfold umpClosedEnterState
  dsimp only
  apply umpEndCtrl_replies
  split
  · exact umpFailReceive_replies before
  · exact before

theorem umpChangeState_replies (state : UMPSockState) (before : CallsReplied k (calls s)) :
    CallsReplied k (calls (umpChangeState s state)) := by
  cases state with
  | closed => exact umpClosedEnterState_replies before
  | connecting => exact before
  | established => exact umpEndCtrl_replies .connect true before
  | closing => exact before

theorem umpConnectionErrorOccured_replies (before : CallsReplied k (calls s)) :
    CallsReplied k (calls (umpConnectionErrorOccured s)) := by
  unfold umpConnectionErrorOccured
  apply umpFailReceive_replies
  apply umpEndSend_replies
  apply umpEndCtrl_replies
  exact umpChangeState_replies .closed before

end Calls

/-! ### Control packets -/

section Connection

variable (p : UMPPacket)

theorem dropPending_replies (before : CallsReplied k (calls s)) : CallsReplied k (calls (dropPending s)) := by
  unfold dropPending
  dsimp only
  split <;> exact before

theorem countTheirs_replies (before : CallsReplied k (calls s)) :
    CallsReplied k (calls (countTheirs s p)) := by
  unfold countTheirs
  split <;> exact before

theorem closedPacket_replies (before : CallsReplied k (calls s)) :
    CallsReplied k (calls (umpClosedHandleCtrlPacket s p)) := by
  unfold umpClosedHandleCtrlPacket
  split
  · split <;> exact before
  · split
    · exact countTheirs_replies p before
    · exact before

theorem connectingAck_replies (before : CallsReplied k (calls s)) :
    CallsReplied k (calls (connectingAck s p)) := by
  unfold connectingAck
  split
  · dsimp only
    split
    · exact dropPending_replies before
    · exact before
  · exact before

theorem completeOpen_replies (before : CallsReplied k (calls s)) :
    CallsReplied k (calls (completeOpen s)) := by
  unfold completeOpen
  split
  · exact umpChangeState_replies .established before
  · exact before

theorem connectingPacket_replies (before : CallsReplied k (calls s)) :
    CallsReplied k (calls (umpConnectingHandleCtrlPacket s p)) := by
  have acked := connectingAck_replies p before
  unfold umpConnectingHandleCtrlPacket
  dsimp only
  split
  · split
    · exact acked
    · split
      · apply completeOpen_replies
        exact acked
      · exact acked
  · split
    · apply completeOpen_replies
      exact countTheirs_replies p acked
    · exact completeOpen_replies acked

theorem establishedAck_replies (before : CallsReplied k (calls s)) :
    CallsReplied k (calls (establishedAck s p)) := by
  unfold establishedAck
  split
  · apply umpEndCtrl_replies
    exact dropPending_replies before
  · exact before

theorem establishedPacket_replies (before : CallsReplied k (calls s)) :
    CallsReplied k (calls (umpEstablishedHandleCtrlPacket s p)) := by
  have acked := establishedAck_replies p before
  unfold umpEstablishedHandleCtrlPacket
  dsimp only
  split
  · split
    · exact countTheirs_replies p acked
    · exact countTheirs_replies p acked
  · exact acked

theorem closingAck_replies (before : CallsReplied k (calls s)) : CallsReplied k (calls (closingAck s p)) := by
  unfold closingAck
  split
  · dsimp only
    split
    · exact dropPending_replies before
    · exact before
  · exact before

theorem completeClose_replies (before : CallsReplied k (calls s)) :
    CallsReplied k (calls (completeClose s)) := by
  unfold completeClose
  split
  · exact umpChangeState_replies .closed before
  · exact before

theorem closingPacket_replies (before : CallsReplied k (calls s)) :
    CallsReplied k (calls (umpClosingHandleCtrlPacket s p)) := by
  have acked := closingAck_replies p before
  unfold umpClosingHandleCtrlPacket
  dsimp only
  split
  · apply completeClose_replies
    exact countTheirs_replies p acked
  · exact completeClose_replies acked

theorem umpHandleCtrlPacket_replies (before : CallsReplied k (calls s)) :
    CallsReplied k (calls (umpHandleCtrlPacket s p)) := by
  unfold umpHandleCtrlPacket
  split
  · exact umpConnectionErrorOccured_replies before
  · unfold smHandleCtrlPacket
    split
    · exact closedPacket_replies p before
    · exact connectingPacket_replies p before
    · exact establishedPacket_replies p before
    · exact closingPacket_replies p before

theorem smHandleCtrl_replies (method : UMPCallMethod) (before : CallsReplied k (calls s)) :
    CallsReplied k (calls (smHandleCtrl s method)) := by
  unfold smHandleCtrl
  split
  · unfold umpClosedHandleCtrl
    repeat' split
    · exact before
    · exact umpEndCtrl_replies .close true before
    · exact umpEndCtrl_replies .allCall false before
  · unfold umpConnectingHandleCtrl
    split
    · exact umpEndCtrl_replies .allCall false before
    · exact before
  · unfold umpEstablishedHandleCtrl
    repeat' split
    · apply umpFailReceive_replies
      apply umpEndSend_replies
      exact before
    · exact umpEndCtrl_replies .connect true before
    · exact umpEndCtrl_replies .allCall false before
  · unfold umpClosingHandleCtrl
    split
    · exact umpEndCtrl_replies .allCall false before
    · exact before

theorem umpHandleSendCtrlPacket_replies : CallsReplied (calls s) (calls (umpHandleSendCtrlPacket s)) := by
  unfold umpHandleSendCtrlPacket sendCtrlAckAlone
  dsimp only
  repeat' split
  all_goals exact .refl _

theorem umpHandleSendResetPacket_replies :
    CallsReplied (calls s) (calls (umpHandleSendResetPacket s)) := by
  unfold umpHandleSendResetPacket
  split <;> exact .refl _

theorem umpHandleCtrlTimeout_replies : CallsReplied (calls s) (calls (umpHandleCtrlTimeout s)) := by
  unfold umpHandleCtrlTimeout
  dsimp only
  repeat' split
  · exact .refl _
  · exact .refl _
  · exact .refl _
  · exact .refl _
  · apply umpConnectionErrorOccured_replies
    apply umpEndCtrl_replies
    exact .refl _

end Connection

/-! ### Data -/

section Sender

variable (p : UMPPacket) (ackSeq : UInt16)

theorem fastRetransmit_replies :
    CallsReplied (calls s)
      (calls { s with snd := fastRetransmit (countRepeatedAck s.snd ackSeq) }) := by
  unfold fastRetransmit countRepeatedAck umpRefreshBackPoint
  dsimp only
  repeat' split
  all_goals exact .refl _

theorem umpHandleWndNotify_replies (before : CallsReplied k (calls s)) :
    CallsReplied k (calls (umpHandleWndNotify s p)) := by
  unfold umpHandleWndNotify umpRefreshSndWndPos
  dsimp only
  repeat' split
  all_goals exact before

theorem refreshCwnd_replies (before : CallsReplied k (calls s)) : CallsReplied k (calls (refreshCwnd s)) := by
  unfold refreshCwnd
  dsimp only
  repeat' split
  all_goals exact before

theorem acknowledgeTimers_replies (before : CallsReplied k (calls s)) :
    CallsReplied k (calls (acknowledgeTimers s ackSeq)) := by
  unfold acknowledgeTimers
  dsimp only
  repeat' split
  all_goals exact before

theorem finishAck_replies (before : CallsReplied k (calls s)) :
    CallsReplied k (calls (finishAck s ackSeq)) := by
  have skipped : CallsReplied k
      (calls { refreshCwnd s with snd := skipAcknowledged (refreshCwnd s).snd }) := by
    unfold skipAcknowledged
    split <;> exact refreshCwnd_replies before
  have acknowledged := acknowledgeTimers_replies ackSeq skipped
  unfold finishAck
  dsimp only
  split
  · exact umpEndSend_replies true acknowledged
  · exact acknowledged

theorem umpHandleDataAck_replies : CallsReplied (calls s) (calls (umpHandleDataAck s p)) := by
  have retransmitted := fastRetransmit_replies (s := s) p.ackNum
  unfold umpHandleDataAck
  dsimp only
  split
  · split
    · split
      · apply finishAck_replies
        apply umpHandleWndNotify_replies
        unfold advanceBase umpRefreshBackPoint
        split <;> exact retransmitted
      · exact umpHandleWndNotify_replies p retransmitted
    · exact retransmitted
  · exact umpHandleWndNotify_replies p (.refl _)

theorem umpHandleDataTimeout_replies : CallsReplied (calls s) (calls (umpHandleDataTimeout s)) := by
  unfold umpHandleDataTimeout rewindAfterTimeout umpRefreshSndWndPos umpRefreshBackPoint
  dsimp only
  repeat' split
  · exact .refl _
  · apply umpConnectionErrorOccured_replies
    apply umpEndSend_replies
    exact .refl _
  · exact .refl _
  · exact .refl _
  · exact .refl _

theorem sendAckAlone_replies : CallsReplied (calls s) (calls (sendAckAlone s)) := by
  unfold sendAckAlone
  split <;> exact .refl _

/-- The transmission of a packet keeps the array. -/
theorem afterTransmit_calls (ackInfo : UMPAckInfo) (now : GTimeVal) :
    calls ({ s with snd := afterTransmit s.snd p now, ackInfo := ackInfo }.tick.act (.sendto p)) =
      calls s := by
  have array : (afterTransmit s.snd p now).sndPackets.isSome = s.snd.sndPackets.isSome := by
    unfold afterTransmit umpRefreshDataSent
    dsimp only
    split <;> exact Option.isSome_map
  have lock : (afterTransmit s.snd p now).sndLocked = s.snd.sndLocked ∧
      (afterTransmit s.snd p now).sndParaLock = s.snd.sndParaLock ∧
      (afterTransmit s.snd p now).sndOk = s.snd.sndOk := by
    unfold afterTransmit umpRefreshDataSent
    dsimp only
    split <;> exact ⟨rfl, rfl, rfl⟩
  show Calls.mk _ ⟨decide ((afterTransmit s.snd p now).sndLocked = .locked),
    (afterTransmit s.snd p now).sndParaLock, (afterTransmit s.snd p now).sndPackets.isSome,
    (afterTransmit s.snd p now).sndOk, _⟩ _ = _
  rw [array, lock.1, lock.2.1, lock.2.2]
  rfl

theorem umpHandleSendData_replies : CallsReplied (calls s) (calls (umpHandleSendData s)) := by
  unfold umpHandleSendData
  split
  · exact sendAckAlone_replies
  · unfold umpSndlockedHandleSendData
    split
    · split
      · exact .refl _
      · rw [afterTransmit_calls]
        exact .refl _
    · exact sendAckAlone_replies

theorem umpActReqWnd_replies : CallsReplied (calls s) (calls (umpActReqWnd s)) := by
  unfold umpActReqWnd
  dsimp only
  repeat' split
  all_goals exact .refl _

theorem umpRefreshOurAckInfo_replies : CallsReplied (calls s) (calls (umpRefreshOurAckInfo s)) := by
  unfold umpRefreshOurAckInfo setDataAck
  dsimp only
  repeat' split
  all_goals exact .refl _

theorem umpHandleSendHeartbeat_replies : CallsReplied (calls s) (calls (umpHandleSendHeartbeat s)) := by
  unfold umpHandleSendHeartbeat
  dsimp only
  repeat' split
  all_goals exact .refl _

end Sender

section Receiver

variable {Lists : Type} [ReceiveLists Lists] {u : UMPSocket Lists} (p : UMPPacket)

theorem umpEndReceiveInternal_calls : calls (umpEndReceiveInternal u).core = calls u.core := by
  unfold umpEndReceiveInternal
  dsimp only
  split <;> rfl

theorem finishReceive_calls :
    calls (finishReceive u).core =
      { calls u.core with
        receive :=
          { (calls u.core).receive with
            held := false, called := false, ok := true
            replies := true :: (calls u.core).receive.replies } } := by
  have internal := umpEndReceiveInternal_calls (u := u)
  show { calls (umpEndReceiveInternal u).core with
    receive :=
      { (calls (umpEndReceiveInternal u).core).receive with
        held := false
        called := false
        ok := true
        replies := true :: (calls (umpEndReceiveInternal u).core).receive.replies } } = _
  rw [internal]

theorem umpEndReceive_replies (before : CallsReplied k (calls u.core)) :
    CallsReplied k (calls (umpEndReceive u).core) := by
  apply before.trans
  unfold umpEndReceive
  split
  · exact .refl _
  · rename_i locked
    rw [finishReceive_calls]
    exact ⟨.none, .none, .once (decide_eq_true locked) _⟩

theorem umpCheckRcvDataSoFar_replies (before : CallsReplied k (calls u.core)) :
    CallsReplied k (calls (umpCheckRcvDataSoFar u).core) := by
  unfold umpCheckRcvDataSoFar
  dsimp only
  repeat' split
  · exact umpEndReceive_replies before
  · exact before
  · exact umpEndReceive_replies before
  · exact before
  · exact before

theorem advanceTheirBase_replies (check : Bool) (before : CallsReplied k (calls u.core)) :
    CallsReplied k (calls (advanceTheirBase u check).core) := by
  unfold advanceTheirBase
  dsimp only
  split
  · apply umpCheckRcvDataSoFar_replies
    exact before
  · exact before

theorem storePacket_replies (before : CallsReplied k (calls u.core)) :
    CallsReplied k (calls (storePacket u p).core) := by
  unfold storePacket
  split
  · exact before
  · unfold takeInOrder
    split
    · apply advanceTheirBase_replies
      exact before
    · split
      · apply advanceTheirBase_replies
        exact before
      · exact before

theorem umpHandleDataPacket_replies :
    CallsReplied (calls u.core) (calls (umpHandleDataPacket u p).core) := by
  unfold umpHandleDataPacket
  -- the scheduled ack leaves the calls alone
  have scheduled : ∀ s : UMPSocket Lists, calls s.core = calls u.core →
      CallsReplied (calls u.core) (calls (umpHandleDataAck s.core p)) := by
    intro s same
    rw [← same]
    exact umpHandleDataAck_replies p
  generalize isScheduled : (if uPacketGetFlag p UP_DATA_SEQ then
    { u with core := { u.core with ackInfo := umpSetOurAckInfo u.core.ackInfo false } }
    else u) = s
  have same : calls s.core = calls u.core := by
    rw [← isScheduled]
    split <;> rfl
  have acked := scheduled s same
  dsimp only
  split
  · exact acked
  · rw [same]
    exact .refl _
  · unfold umpEstablishedHandleDataPacket
    dsimp only
    split
    · apply storePacket_replies
      exact acked
    · exact acked
  · exact acked

end Receiver

/-! ### Calls taken up -/

/-- The locks between the attempt to take up a call and the end of calls. -/
def begun {Lists : Type} (u : UMPSocket Lists) (event : SockEvent) : Locks :=
  let k := locks u.core
  match event with
  | .userCtrl _ => { k with ctrl := { k.ctrl with called := true } }
  | .userSend _ => { k with send := { k.send with called := true } }
  | .userReceive => { k with receive := { k.receive with called := true } }
  | .handleCtrl => { k with ctrl := k.ctrl.attempt }
  | .handleSend => { k with send := k.send.attempt }
  | .handleReceive => { k with receive := k.receive.attempt }
  | _ => k

/-- The calls between the attempt to take one up and the replies. -/
def began {Lists : Type} (u : UMPSocket Lists) (event : SockEvent) : Calls :=
  let k := calls u.core
  match event with
  | .userCtrl _ => { k with ctrl := { k.ctrl with called := true } }
  | .userSend _ => { k with send := { k.send with called := true } }
  | .userReceive => { k with receive := { k.receive with called := true } }
  | .handleCtrl => { k with ctrl := k.ctrl.attempt }
  | .handleSend => { k with send := k.send.attempt }
  | .handleReceive => { k with receive := k.receive.attempt }
  | _ => k

theorem umpHandleCtrl_replies :
    CallsReplied { calls s with ctrl := (calls s).ctrl.attempt } (calls (umpHandleCtrl s)) := by
  unfold umpHandleCtrl
  split
  · rename_i locked
    have same : (calls s).ctrl.attempt = (calls s).ctrl :=
      CallRecord.attempt_locked (decide_eq_true locked)
    rw [same]
    exact .refl _
  · rename_i unlocked
    split
    · rename_i held
      have same : (calls s).ctrl.attempt = (calls s).ctrl :=
        CallRecord.attempt_held held
      rw [same]
      exact .refl _
    · rename_i free
      split
      · rename_i none
        have same : (calls s).ctrl.attempt = (calls s).ctrl :=
          CallRecord.attempt_idle (by simp [calls, ctrlCall, none])
        rw [same]
        exact .refl _
      · rename_i method call
        have taken : (calls s).ctrl.attempt = (calls s).ctrl.take := by
          apply CallRecord.attempt_ready
          · simp [calls, ctrlCall, unlocked]
          · exact (Bool.not_eq_true _).mp free
          · simp [calls, ctrlCall, call]
        have begins : CallsReplied { calls s with ctrl := (calls s).ctrl.attempt }
            (calls { s with ctrl := { s.ctrl with ctrlParaLock := true, ctrlLocked := .locked } }) := by
          rw [taken]
          exact .refl _
        dsimp only
        split
        · exact umpEndCtrl_replies .allCall false begins
        · exact smHandleCtrl_replies method begins

theorem umpHandleSend_replies :
    CallsReplied { calls s with send := (calls s).send.attempt } (calls (umpHandleSend s)) := by
  unfold umpHandleSend
  split
  · rename_i locked
    have same : (calls s).send.attempt = (calls s).send :=
      CallRecord.attempt_locked (decide_eq_true locked)
    rw [same]
    exact .refl _
  · rename_i unlocked
    split
    · rename_i held
      have same : (calls s).send.attempt = (calls s).send :=
        CallRecord.attempt_held held
      rw [same]
      exact .refl _
    · rename_i free
      split
      · rename_i none
        have same : (calls s).send.attempt = (calls s).send :=
          CallRecord.attempt_idle (by simp [calls, sendCall, none])
        rw [same]
        exact .refl _
      · rename_i packets call
        have taken : (calls s).send.attempt = (calls s).send.take := by
          apply CallRecord.attempt_ready
          · simp [calls, sendCall, unlocked]
          · exact (Bool.not_eq_true _).mp free
          · simp [calls, sendCall, call]
        have begins : CallsReplied { calls s with send := (calls s).send.attempt }
            (calls { s with snd := { s.snd with sndParaLock := true, sndLocked := .locked } }) := by
          rw [taken]
          exact .refl _
        dsimp only
        split
        · exact umpEndSend_replies false begins
        · apply begins.trans
          refine ⟨.none, ?_, .none⟩
          show CallRecord.Replied ⟨true, true, s.snd.sndPackets.isSome, _, _⟩ ⟨true, true, true, _, _⟩
          rw [call]
          exact .none

theorem umpHandleReceive_replies {Lists : Type} [ReceiveLists Lists] {u : UMPSocket Lists} :
    CallsReplied { calls u.core with receive := (calls u.core).receive.attempt }
      (calls (umpHandleReceive u).core) := by
  unfold umpHandleReceive
  split
  · rename_i locked
    have same : (calls u.core).receive.attempt = (calls u.core).receive :=
      CallRecord.attempt_locked (decide_eq_true locked)
    rw [same]
    exact .refl _
  · rename_i unlocked
    split
    · rename_i held
      have same : (calls u.core).receive.attempt = (calls u.core).receive :=
        CallRecord.attempt_held held
      rw [same]
      exact .refl _
    · rename_i free
      split
      · rename_i none
        have same : (calls u.core).receive.attempt = (calls u.core).receive :=
          CallRecord.attempt_idle none
        rw [same]
        exact .refl _
      · rename_i called
        have taken : (calls u.core).receive.attempt = (calls u.core).receive.take := by
          apply CallRecord.attempt_ready
          · simp [calls, receiveCall, unlocked]
          · exact (Bool.not_eq_true _).mp free
          · exact (Bool.not_eq_false _).mp called
        rw [taken]
        -- a call that can be answered at once is completed in the same step
        have unlockedNow : (calls u.core).receive.locked = false := by
          simp [calls, receiveCall, unlocked]
        have answered (ok : Bool) : ∀ k : Calls,
            k = { calls u.core with receive := (calls u.core).receive.take.reply ok } →
            CallsReplied { calls u.core with receive := (calls u.core).receive.take } k := by
          rintro k rfl
          exact ⟨.none, .none, .once rfl ok⟩
        split
        · apply answered true
          rw [finishReceive_calls]
          dsimp only
          rw [unlockedNow]
          rfl
        · split
          · apply answered false
            show Calls.mk _ _
              ⟨(calls u.core).receive.locked, u.core.rcv.recParaLock, false, false, _⟩ = _
            rw [unlockedNow, Bool.eq_false_iff.mpr free]
            rfl
          · exact .refl _

variable {Lists : Type} [ReceiveLists Lists] {u : UMPSocket Lists} {event : SockEvent}

theorem sockStep_replies (u : UMPSocket Lists) (event : SockEvent) :
    CallsReplied (began u event) (calls (sockStep u event).core) := by
  cases event with
  | userCtrl => exact .refl _
  | userSend => exact .refl _
  | userReceive => exact .refl _
  | handleCtrl => exact umpHandleCtrl_replies
  | handleSend => exact umpHandleSend_replies
  | handleReceive => exact umpHandleReceive_replies
  | bufferLoad => exact .refl _
  | ctrlPacket p => exact umpHandleCtrlPacket_replies p (.refl _)
  | dataPacket p => exact umpHandleDataPacket_replies p
  | dataTimeout => exact umpHandleDataTimeout_replies
  | refreshRwnd =>
      show CallsReplied _ (calls { u.core with rcv := umpRefreshOurRwndPos u.core.rcv })
      unfold umpRefreshOurRwndPos
      split <;> exact .refl _
  | refreshAck => exact umpRefreshOurAckInfo_replies
  | actReqWnd => exact umpActReqWnd_replies
  | ctrlTimeout => exact umpHandleCtrlTimeout_replies
  | sendCtrlPacket => exact umpHandleSendCtrlPacket_replies
  | heartbeat => exact umpHandleSendHeartbeat_replies
  | sendData => exact umpHandleSendData_replies
  | sendReset => exact umpHandleSendResetPacket_replies

theorem sockStep_ends (u : UMPSocket Lists) (event : SockEvent) :
    CallsEnd (begun u event) (locks (sockStep u event).core) := by
  have replied := sockStep_replies u event
  have begins : begun u event =
      ⟨(began u event).ctrl.lock, (began u event).send.lock, (began u event).receive.lock⟩ := by
    unfold begun locks
    rw [← ctrlCall_lock, ← sendCall_lock, ← receiveCall_lock]
    cases event with
    | handleCtrl => exact congrArg (Locks.mk · _ _) CallRecord.attempt_lock.symm
    | handleSend => exact congrArg (Locks.mk _ · _) CallRecord.attempt_lock.symm
    | handleReceive => exact congrArg (Locks.mk _ _ ·) CallRecord.attempt_lock.symm
    | _ => rfl
  rw [begins, locks, ← ctrlCall_lock, ← sendCall_lock, ← receiveCall_lock]
  exact ⟨replied.ctrl.ends, replied.send.ends, replied.receive.ends⟩

/-- A control call is picked up. -/
def picksCtrl (u : UMPSocket Lists) (event : SockEvent) : Bool :=
  event = .handleCtrl && (ctrlLock u.core).ready

/-- A send call is picked up. -/
def picksSend (u : UMPSocket Lists) (event : SockEvent) : Bool :=
  event = .handleSend && (sendLock u.core).ready

/-- A receive call is picked up. -/
def picksReceive (u : UMPSocket Lists) (event : SockEvent) : Bool :=
  event = .handleReceive && (receiveLock u.core).ready

theorem ctrlLock_moves (allowed : sockEnabled u event) :
    CallLock.Moves (ctrlLock u.core) (picksCtrl u event) (ctrlLock (sockStep u event).core) := by
  have ended := (sockStep_ends u event).ctrl
  cases event with
  | userCtrl => exact .write allowed.1
  | handleCtrl => exact .attempt ended
  | _ => exact .ends ended

theorem sendLock_moves (allowed : sockEnabled u event) :
    CallLock.Moves (sendLock u.core) (picksSend u event) (sendLock (sockStep u event).core) := by
  have ended := (sockStep_ends u event).send
  cases event with
  | userSend => exact .write allowed.1
  | handleSend => exact .attempt ended
  | _ => exact .ends ended

theorem receiveLock_moves (allowed : sockEnabled u event) :
    CallLock.Moves (receiveLock u.core) (picksReceive u event)
      (receiveLock (sockStep u event).core) := by
  have ended := (sockStep_ends u event).receive
  cases event with
  | userReceive => exact .write allowed
  | handleReceive => exact .attempt ended
  | _ => exact .ends ended

/-- No handler but that of control calls locks the control lock. -/
theorem sockStep_ctrlLocked (other : event ≠ .handleCtrl)
    (locked : (sockStep u event).core.ctrl.ctrlLocked = .locked) :
    u.core.ctrl.ctrlLocked = .locked := by
  have before := (sockStep_ends u event).ctrl.locked (decide_eq_true locked)
  have same : (begun u event).ctrl.locked = decide (u.core.ctrl.ctrlLocked = .locked) := by
    cases event with
    | handleCtrl => exact absurd rfl other
    | _ => rfl
  rw [same] at before
  exact of_decide_eq_true before

/-- No handler but that of send calls locks the send lock. -/
theorem sockStep_sndLocked (other : event ≠ .handleSend)
    (locked : (sockStep u event).core.snd.sndLocked = .locked) :
    u.core.snd.sndLocked = .locked := by
  have before := (sockStep_ends u event).send.locked (decide_eq_true locked)
  have same : (begun u event).send.locked = decide (u.core.snd.sndLocked = .locked) := by
    cases event with
    | handleSend => exact absurd rfl other
    | _ => rfl
  rw [same] at before
  exact of_decide_eq_true before

/-- No handler but that of receive calls locks the receive lock. -/
theorem sockStep_recLocked (other : event ≠ .handleReceive)
    (locked : (sockStep u event).core.rcv.recLocked = .locked) :
    u.core.rcv.recLocked = .locked := by
  have ended := (sockStep_ends u event).receive
  have before := ended.locked (decide_eq_true locked)
  have same : (begun u event).receive.locked = decide (u.core.rcv.recLocked = .locked) := by
    cases event with
    | handleReceive => exact absurd rfl other
    | _ => rfl
  rw [same] at before
  exact of_decide_eq_true before

end UserMessageProtocol
