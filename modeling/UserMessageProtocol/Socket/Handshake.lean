import UserMessageProtocol.Socket.Frames

/-!
Contract: the opening and closing of a connection as a machine of its own.

Owns: `Handshake`, the fields by which a connection is opened and closed with the
part of the log that speaks of them; what control packets, calls and timeouts do
to it; and the theorem `handshake_step` that a socket, seen through its
handshake, is that machine.

Does not own: the properties of opening and closing.
-/

set_option autoImplicit false

namespace UserMessageProtocol

/-! ### The log of the handshake -/

def Action.isMilestone : Action → Bool
  | .queued _ => true
  | .processed _ _ => true
  | .changed _ _ => true
  | .failed => true
  | _ => false

/-- The part of a log that speaks of opening and closing, the latest first. -/
def milestones (log : List Action) : List Action := log.filter Action.isMilestone

@[simp] theorem milestones_queued (p : UMPPacket) (log : List Action) :
    milestones (.queued p :: log) = .queued p :: milestones log := rfl

@[simp] theorem milestones_processed (p : UMPPacket) (seq : UInt16) (log : List Action) :
    milestones (.processed p seq :: log) = .processed p seq :: milestones log := rfl

@[simp] theorem milestones_changed (old new : UMPSockState) (log : List Action) :
    milestones (.changed old new :: log) = .changed old new :: milestones log := rfl

@[simp] theorem milestones_failed (log : List Action) :
    milestones (.failed :: log) = .failed :: milestones log := rfl

@[simp] theorem milestones_other {action : Action} (other : action.isMilestone = false)
    (log : List Action) : milestones (action :: log) = milestones log := by
  simp [milestones, other]

/-! ### The machine -/

/-- The fields by which a connection is opened and closed, with their history. -/
structure Handshake where
  state : UMPSockState
  errorOccured : Bool
  ourCtrlSeq : UInt16
  theirCtrlSeq : UInt16
  ctrlPacketToSend : Option UMPPacket
  ctrlPacketSent : Bool
  synAckReced : Bool
  synReced : Bool
  finAckReced : Bool
  finReced : Bool
  ctrlAckSet : Bool
  ctrlAckData : UInt16
  history : List Action
deriving DecidableEq, Repr

namespace Handshake

variable (h : Handshake) (p : UMPPacket)

/-- A change of state. -/
def enter (state : UMPSockState) : Handshake :=
  { h with state := state, history := .changed h.state state :: h.history }

/-- The end of a connection by an error. -/
def fail : Handshake :=
  { h with errorOccured := true, history := .failed :: h.history }.enter .closed

/-- A SYN or FIN takes a number and waits to be sent. -/
def queue : Handshake :=
  { h with
    ctrlPacketToSend := some p
    ctrlPacketSent := false
    ourCtrlSeq := h.ourCtrlSeq + 1
    history := .queued p :: h.history }

/-- The pending SYN or FIN is given up. -/
def drop : Handshake := { h with ctrlPacketToSend := none, ctrlPacketSent := true }

/-- The next number in sequence is taken. -/
def count : Handshake :=
  if p.seqNum = h.theirCtrlSeq then { h with theirCtrlSeq := h.theirCtrlSeq + 1 } else h

/-- An ack of the peer's numbers is due. -/
def oweAck : Handshake := { h with ctrlAckSet := true, ctrlAckData := h.theirCtrlSeq }

/-- The number of the peer's SYN is taken, and its ack is due. -/
def takeSyn : Handshake :=
  { { h with theirCtrlSeq := p.seqNum + 1 }.oweAck with synReced := true }

/-- A matching ack gives up the pending packet. -/
def heedAck : Handshake := if h.ourCtrlSeq = p.ackNum then h.drop else h

def closedPacket (ourMss : UInt16) : Handshake :=
  if h.synReced = false ∧ uPacketGetFlag p UP_CTRL_SYN then
    if uPacketGetFlag p UP_CTRL_SEQ then
      ((h.takeSyn p).queue (synPacket h.ourCtrlSeq ourMss)).enter .connecting
    else h
  else if uPacketGetFlag p UP_CTRL_SEQ then (h.count p).oweAck
  else h

def connectingAck : Handshake :=
  if uPacketGetFlag p UP_CTRL_ACK then { h.heedAck p with synAckReced := true } else h

def completeOpen : Handshake := if h.synReced ∧ h.synAckReced then h.enter .established else h

def connectingPacket : Handshake :=
  let h := h.connectingAck p
  if uPacketGetFlag p UP_CTRL_SYN then
    if h.synReced then h.oweAck
    else if uPacketGetFlag p UP_CTRL_SEQ then (h.takeSyn p).completeOpen
    else h
  else if uPacketGetFlag p UP_CTRL_SEQ then (h.count p).oweAck.completeOpen
  else h.completeOpen

def establishedPacket : Handshake :=
  let h := if uPacketGetFlag p UP_CTRL_ACK ∧ h.ourCtrlSeq = p.ackNum then h.drop else h
  if uPacketGetFlag p UP_CTRL_SEQ then
    if p.seqNum = h.theirCtrlSeq ∧ uPacketGetFlag p UP_CTRL_FIN then
      let h := { h.count p with finReced := true }
      ((h.queue (finPacket h.ourCtrlSeq)).enter .closing).oweAck
    else (h.count p).oweAck
  else h

def closingAck : Handshake :=
  if uPacketGetFlag p UP_CTRL_ACK then { h.heedAck p with finAckReced := true } else h

def completeClose : Handshake := if h.finReced ∧ h.finAckReced then h.enter .closed else h

def closingPacket : Handshake :=
  let h := h.closingAck p
  if uPacketGetFlag p UP_CTRL_SEQ then
    let finReced := h.finReced || (p.seqNum = h.theirCtrlSeq && uPacketGetFlag p UP_CTRL_FIN)
    { h.count p with finReced := finReced }.oweAck.completeClose
  else h.completeClose

/-- The packet is noted before it is handled. -/
def note : Handshake := { h with history := .processed p h.ourCtrlSeq :: h.history }

/-- A control packet without RST, by state. -/
def packet (ourMss : UInt16) : Handshake :=
  match h.state with
  | .closed => h.closedPacket p ourMss
  | .connecting => h.connectingPacket p
  | .established => h.establishedPacket p
  | .closing => h.closingPacket p

/-- A control packet. -/
def ctrlPacket (ourMss : UInt16) : Handshake :=
  if uPacketGetFlag p UP_CTRL_RST then h.fail
  else (h.note p).packet p ourMss

/-- A control call is taken up. -/
def call (method : UMPCallMethod) (ourMss : UInt16) : Handshake :=
  if h.errorOccured then h
  else
    match h.state, method with
    | .closed, .connect => (h.queue (synPacket h.ourCtrlSeq ourMss)).enter .connecting
    | .established, .close => (h.queue (finPacket h.ourCtrlSeq)).enter .closing
    | _, _ => h

/-- The ack due is on the wire. -/
def ackSent : Handshake := { h with ctrlAckSet := false }

/-- The pending packet and the ack due go on the wire. -/
def send : Handshake :=
  match h.ctrlPacketToSend with
  | some pending =>
      if h.ctrlPacketSent = false then
        { h with
          ctrlPacketToSend :=
            some (uPacketToBinary
              (if h.ctrlAckSet then
                { uPacketSetFlag pending UP_CTRL_ACK with ackNum := h.ctrlAckData }
              else uPacketClearFlag pending UP_CTRL_ACK))
          ctrlPacketSent := true }.ackSent
      else h.ackSent
  | none => h.ackSent

end Handshake

/-- The handshake of a socket. -/
def SocketCore.handshake (s : SocketCore) : Handshake where
  state := s.ctrl.state
  errorOccured := s.ctrl.errorOccured
  ourCtrlSeq := s.ctrl.ourCtrlSeq
  theirCtrlSeq := s.ctrl.theirCtrlSeq
  ctrlPacketToSend := s.ctrl.ctrlPacketToSend
  ctrlPacketSent := s.ctrl.ctrlPacketSent
  synAckReced := s.ctrl.synAckReced
  synReced := s.ctrl.synReced
  finAckReced := s.ctrl.finAckReced
  finReced := s.ctrl.finReced
  ctrlAckSet := s.ackInfo.ctrlAckSet
  ctrlAckData := s.ackInfo.ctrlAckData
  history := milestones s.log

/-! ### Ends of calls and changes of state -/

variable (s : SocketCore)

section Calls

variable (method : UMPCallMethod) (ok : Bool) (state : UMPSockState)

/-- What leaves control fields, ack fields and milestones alone leaves the
handshake alone. -/
theorem handshake_congr {s t : SocketCore} (ctrl : t.ctrl = s.ctrl)
    (ackSet : t.ackInfo.ctrlAckSet = s.ackInfo.ctrlAckSet)
    (ackData : t.ackInfo.ctrlAckData = s.ackInfo.ctrlAckData)
    (log : milestones t.log = milestones s.log) : t.handshake = s.handshake := by
  simp [SocketCore.handshake, ctrl, ackSet, ackData, log]

@[simp] theorem act_handshake {action : Action} (other : action.isMilestone = false) :
    (s.act action).handshake = s.handshake :=
  handshake_congr rfl rfl rfl (milestones_other other _)

@[simp] theorem tick_handshake : s.tick.handshake = s.handshake := rfl

@[simp] theorem umpEndCtrl_handshake : (umpEndCtrl s method ok).handshake = s.handshake := by
  unfold umpEndCtrl
  split <;> split <;> rfl

@[simp] theorem umpEndSend_handshake : (umpEndSend s ok).handshake = s.handshake := by
  unfold umpEndSend
  split <;> rfl

@[simp] theorem umpEndSend_milestones : milestones (umpEndSend s ok).log = milestones s.log := by
  unfold umpEndSend
  split <;> rfl

@[simp] theorem umpFailReceive_handshake : (umpFailReceive s).handshake = s.handshake := by
  unfold umpFailReceive
  split <;> rfl

@[simp] theorem umpChangeState_handshake :
    (umpChangeState s state).handshake = s.handshake.enter state := by
  cases state with
  | closed =>
      simp only [umpChangeState, umpClosedEnterState, umpEndCtrl_handshake]
      split
      · rw [umpFailReceive_handshake]
        rfl
      · rfl
  | connecting => rfl
  | established =>
      simp only [umpChangeState, umpEstablishedEnterState, umpEndCtrl_handshake]
      rfl
  | closing => rfl

@[simp] theorem umpConnectionErrorOccured_handshake :
    (umpConnectionErrorOccured s).handshake = s.handshake.fail := by
  simp only [umpConnectionErrorOccured, umpFailReceive_handshake, umpEndSend_handshake,
    umpEndCtrl_handshake, umpChangeState_handshake]
  rfl

end Calls

/-! ### Control packets -/

section Packets

variable (p : UMPPacket) (method : UMPCallMethod)

@[simp] theorem queueCtrlPacket_handshake :
    (queueCtrlPacket s p).handshake = s.handshake.queue p := rfl

@[simp] theorem setCtrlAck_handshake : (setCtrlAck s).handshake = s.handshake.oweAck := rfl

@[simp] theorem dropPending_handshake : (dropPending s).handshake = s.handshake.drop := by
  unfold dropPending
  dsimp only
  split <;> rfl

@[simp] theorem countTheirs_handshake : (countTheirs s p).handshake = s.handshake.count p := by
  have sameSeq : s.handshake.theirCtrlSeq = s.ctrl.theirCtrlSeq := rfl
  unfold countTheirs Handshake.count
  rw [sameSeq]
  split <;> rfl

theorem umpClosedHandleCtrlPacket_handshake :
    (umpClosedHandleCtrlPacket s p).handshake =
      s.handshake.closedPacket p (takeSyn s p).snd.ourMss := by
  have sameSyn : s.handshake.synReced = s.ctrl.synReced := rfl
  unfold umpClosedHandleCtrlPacket Handshake.closedPacket
  rw [sameSyn, ← countTheirs_handshake, ← setCtrlAck_handshake]
  split
  · split
    · dsimp only
      rw [umpChangeState_handshake]
      rfl
    · rfl
  · split <;> rfl

theorem connectingAck_handshake :
    (connectingAck s p).handshake = s.handshake.connectingAck p := by
  have sameSeq : s.handshake.ourCtrlSeq = s.ctrl.ourCtrlSeq := rfl
  unfold connectingAck Handshake.connectingAck Handshake.heedAck
  rw [sameSeq, ← dropPending_handshake]
  split
  · dsimp only
    split <;> rfl
  · rfl

theorem completeOpen_handshake : (completeOpen s).handshake = s.handshake.completeOpen := by
  unfold completeOpen Handshake.completeOpen
  rw [← umpChangeState_handshake]
  exact apply_ite SocketCore.handshake _ _ _

theorem umpConnectingHandleCtrlPacket_handshake :
    (umpConnectingHandleCtrlPacket s p).handshake = s.handshake.connectingPacket p := by
  unfold umpConnectingHandleCtrlPacket Handshake.connectingPacket
  rw [← connectingAck_handshake]
  generalize connectingAck s p = s
  have sameSyn : s.handshake.synReced = s.ctrl.synReced := rfl
  dsimp only
  rw [sameSyn, ← countTheirs_handshake, ← setCtrlAck_handshake, ← setCtrlAck_handshake,
    ← completeOpen_handshake, ← completeOpen_handshake]
  split
  · split
    · rfl
    · split
      · rw [completeOpen_handshake]
        rfl
      · rfl
  · split <;> rfl

theorem establishedAck_handshake :
    (establishedAck s p).handshake =
      if uPacketGetFlag p UP_CTRL_ACK ∧ s.handshake.ourCtrlSeq = p.ackNum then s.handshake.drop
      else s.handshake := by
  have sameSeq : s.handshake.ourCtrlSeq = s.ctrl.ourCtrlSeq := rfl
  unfold establishedAck
  rw [sameSeq]
  split
  · rw [umpEndCtrl_handshake, dropPending_handshake]
  · rfl

theorem umpEstablishedHandleCtrlPacket_handshake :
    (umpEstablishedHandleCtrlPacket s p).handshake = s.handshake.establishedPacket p := by
  unfold umpEstablishedHandleCtrlPacket Handshake.establishedPacket
  rw [← establishedAck_handshake]
  generalize establishedAck s p = s
  have sameSeq : s.handshake.theirCtrlSeq = s.ctrl.theirCtrlSeq := rfl
  dsimp only
  rw [sameSeq, ← countTheirs_handshake, ← setCtrlAck_handshake]
  split
  · split
    · rw [setCtrlAck_handshake, umpChangeState_handshake]
      rfl
    · rfl
  · rfl

theorem closingAck_handshake : (closingAck s p).handshake = s.handshake.closingAck p := by
  have sameSeq : s.handshake.ourCtrlSeq = s.ctrl.ourCtrlSeq := rfl
  unfold closingAck Handshake.closingAck Handshake.heedAck
  rw [sameSeq, ← dropPending_handshake]
  split
  · dsimp only
    split <;> rfl
  · rfl

theorem completeClose_handshake : (completeClose s).handshake = s.handshake.completeClose := by
  unfold completeClose Handshake.completeClose
  rw [← umpChangeState_handshake]
  exact apply_ite SocketCore.handshake _ _ _

theorem umpClosingHandleCtrlPacket_handshake :
    (umpClosingHandleCtrlPacket s p).handshake = s.handshake.closingPacket p := by
  unfold umpClosingHandleCtrlPacket Handshake.closingPacket
  rw [← closingAck_handshake]
  generalize closingAck s p = s
  dsimp only
  rw [← countTheirs_handshake, ← completeClose_handshake]
  split
  · rw [completeClose_handshake]
    rfl
  · rfl

theorem smHandleCtrlPacket_handshake :
    (smHandleCtrlPacket s p).handshake = s.handshake.packet p (takeSyn s p).snd.ourMss := by
  have sameState : s.handshake.state = s.ctrl.state := rfl
  unfold smHandleCtrlPacket Handshake.packet
  rw [sameState]
  cases s.ctrl.state with
  | closed => exact umpClosedHandleCtrlPacket_handshake s p
  | connecting => exact umpConnectingHandleCtrlPacket_handshake s p
  | established => exact umpEstablishedHandleCtrlPacket_handshake s p
  | closing => exact umpClosingHandleCtrlPacket_handshake s p

theorem umpHandleCtrlPacket_handshake :
    (umpHandleCtrlPacket s p).handshake =
      s.handshake.ctrlPacket p (takeSyn s p).snd.ourMss := by
  unfold umpHandleCtrlPacket Handshake.ctrlPacket
  split
  · exact umpConnectionErrorOccured_handshake s
  · rw [smHandleCtrlPacket_handshake]
    rfl

/-! ### Control calls -/

theorem smHandleCtrl_handshake (noError : s.ctrl.errorOccured = false) :
    (smHandleCtrl s method).handshake = s.handshake.call method s.snd.ourMss := by
  have sameState : s.handshake.state = s.ctrl.state := rfl
  have sameError : s.handshake.errorOccured = s.ctrl.errorOccured := rfl
  unfold smHandleCtrl Handshake.call
  rw [sameState, sameError, noError, if_neg (by decide)]
  cases s.ctrl.state with
  | closed =>
      cases method with
      | connect =>
          simp only [umpClosedHandleCtrl, if_true, umpChangeState_handshake]
          rfl
      | _ => simp [umpClosedHandleCtrl]
  | connecting => cases method <;> simp [umpConnectingHandleCtrl]
  | established =>
      cases method with
      | close =>
          simp only [umpEstablishedHandleCtrl, if_true, umpFailReceive_handshake,
            umpEndSend_handshake, umpChangeState_handshake]
          rfl
      | _ => simp [umpEstablishedHandleCtrl]
  | closing => cases method <;> simp [umpClosingHandleCtrl]

/-- The socket thread takes up a control call in this state. -/
def takesCall (method : UMPCallMethod) : Prop :=
  s.ctrl.ctrlLocked = .unlocked ∧ s.ctrl.ctrlParaLock = false ∧ s.ctrl.ctrlPara = some method ∧
    s.ctrl.errorOccured = false

instance : Decidable (takesCall s method) := by
  unfold takesCall
  infer_instance

/-- A control call left by a user is taken up, or nothing happens. -/
theorem umpHandleCtrl_handshake :
    (umpHandleCtrl s).handshake = s.handshake ∨
      ∃ method, takesCall s method ∧
        (umpHandleCtrl s).handshake = s.handshake.call method s.snd.ourMss := by
  unfold umpHandleCtrl
  split
  · exact .inl rfl
  · rename_i unlocked
    split
    · exact .inl rfl
    · rename_i free
      split
      · exact .inl rfl
      · rename_i method called
        dsimp only
        split
        · exact .inl (umpEndCtrl_handshake _ _ _)
        · rename_i noError
          exact .inr ⟨method, ⟨unlocked, by simpa using free, called, by simpa using noError⟩,
            smHandleCtrl_handshake _ _ (by simpa using noError)⟩

/-! ### Sending, timeouts and data -/

theorem sendCtrlAckAlone_handshake :
    (sendCtrlAckAlone s).handshake = s.handshake.ackSent := by
  unfold sendCtrlAckAlone
  split
  · rfl
  · rename_i unset
    have same : false = s.handshake.ctrlAckSet := ((Bool.not_eq_true _).mp unset).symm
    rw [Handshake.ackSent, same]

theorem umpHandleSendCtrlPacket_handshake :
    (umpHandleSendCtrlPacket s).handshake = s.handshake.send := by
  have samePending : s.handshake.ctrlPacketToSend = s.ctrl.ctrlPacketToSend := rfl
  have sameSent : s.handshake.ctrlPacketSent = s.ctrl.ctrlPacketSent := rfl
  unfold umpHandleSendCtrlPacket Handshake.send
  rw [samePending, sameSent, ← sendCtrlAckAlone_handshake]
  cases s.ctrl.ctrlPacketToSend with
  | none => rfl
  | some pending =>
      dsimp only
      split <;> rfl

/-- A control timeout does nothing, asks for another transmission, or ends the
connection. -/
theorem umpHandleCtrlTimeout_handshake :
    (umpHandleCtrlTimeout s).handshake = s.handshake ∨
      (umpHandleCtrlTimeout s).handshake = { s.handshake with ctrlPacketSent := false } ∨
      (umpHandleCtrlTimeout s).handshake = s.handshake.drop.fail := by
  unfold umpHandleCtrlTimeout
  split
  · exact .inl rfl
  · split
    · exact .inl rfl
    · dsimp only
      split
      · exact .inl rfl
      · split
        · exact .inr (.inl rfl)
        · refine .inr (.inr ?_)
          rw [umpConnectionErrorOccured_handshake, umpEndCtrl_handshake]
          rfl

theorem umpHandleSendResetPacket_handshake :
    (umpHandleSendResetPacket s).handshake = s.handshake := by
  unfold umpHandleSendResetPacket
  split <;> rfl

theorem umpRefreshOurAckInfo_handshake : (umpRefreshOurAckInfo s).handshake = s.handshake := by
  unfold umpRefreshOurAckInfo
  dsimp only
  repeat' split
  all_goals rfl

theorem sendAckAlone_handshake : (sendAckAlone s).handshake = s.handshake := by
  unfold sendAckAlone
  split <;> rfl

theorem umpHandleSend_handshake : (umpHandleSend s).handshake = s.handshake := by
  unfold umpHandleSend
  dsimp only
  repeat' split
  all_goals rfl

theorem umpHandleSendData_handshake : (umpHandleSendData s).handshake = s.handshake := by
  unfold umpHandleSendData umpSndlockedHandleSendData
  dsimp only
  repeat' split
  all_goals first | rfl | exact sendAckAlone_handshake s

theorem finishAck_handshake (ackSeq : UInt16) : (finishAck s ackSeq).handshake = s.handshake := by
  refine handshake_congr (by simp) (by simp) (by simp) ?_
  unfold finishAck
  dsimp only
  split <;> simp

theorem umpHandleDataAck_handshake : (umpHandleDataAck s p).handshake = s.handshake := by
  unfold umpHandleDataAck
  dsimp only
  repeat' split
  all_goals
    first
    | rfl
    | exact handshake_congr (by simp) (by simp) (by simp) (by simp)
    | exact (finishAck_handshake _ _).trans
        (handshake_congr (by simp) (by simp) (by simp) (by simp))

/-- A data timeout leaves the handshake alone or ends the connection. -/
theorem umpHandleDataTimeout_handshake :
    (umpHandleDataTimeout s).handshake = s.handshake ∨
      (umpHandleDataTimeout s).handshake = s.handshake.fail := by
  unfold umpHandleDataTimeout
  split
  · exact .inl rfl
  · dsimp only
    split
    · split
      · refine .inr ?_
        rw [umpConnectionErrorOccured_handshake, umpEndSend_handshake]
        rfl
      · exact .inl rfl
    · exact .inl rfl

theorem umpActReqWnd_handshake : (umpActReqWnd s).handshake = s.handshake := by
  unfold umpActReqWnd
  dsimp only
  repeat' split
  all_goals rfl

theorem umpSetOurAckInfo_ctrlAck (ackInfo : UMPAckInfo) (push : Bool) :
    (umpSetOurAckInfo ackInfo push).ctrlAckSet = ackInfo.ctrlAckSet ∧
      (umpSetOurAckInfo ackInfo push).ctrlAckData = ackInfo.ctrlAckData := by
  unfold umpSetOurAckInfo
  repeat' split
  all_goals exact ⟨rfl, rfl⟩

theorem umpHandleSendHeartbeat_handshake : (umpHandleSendHeartbeat s).handshake = s.handshake :=
  handshake_congr (by simp)
    (by
      unfold umpHandleSendHeartbeat
      dsimp only
      repeat' split
      all_goals first | rfl | exact (umpSetOurAckInfo_ctrlAck _ _).1)
    (by
      unfold umpHandleSendHeartbeat
      dsimp only
      repeat' split
      all_goals first | rfl | exact (umpSetOurAckInfo_ctrlAck _ _).2)
    (by simp)

end Packets

/-! ### Receiving -/

section Receiving

variable {Lists : Type} [ReceiveLists Lists] (u : UMPSocket Lists) (p : UMPPacket)

/-- The ack fields of data do not belong to the handshake. -/
theorem setOurAckInfo_handshake (push : Bool) :
    { s with ackInfo := umpSetOurAckInfo s.ackInfo push }.handshake = s.handshake :=
  handshake_congr rfl (umpSetOurAckInfo_ctrlAck _ _).1 (umpSetOurAckInfo_ctrlAck _ _).2 rfl

theorem umpEndReceiveInternal_handshake :
    (umpEndReceiveInternal u).core.handshake = u.core.handshake := by
  unfold umpEndReceiveInternal
  dsimp only
  rw [setOurAckInfo_handshake]
  split <;> rfl

theorem finishReceive_handshake : (finishReceive u).core.handshake = u.core.handshake := by
  unfold finishReceive
  exact umpEndReceiveInternal_handshake u

theorem umpEndReceive_handshake : (umpEndReceive u).core.handshake = u.core.handshake := by
  unfold umpEndReceive
  split
  · rfl
  · rw [finishReceive_handshake]
    rfl

theorem umpHandleReceive_handshake : (umpHandleReceive u).core.handshake = u.core.handshake := by
  unfold umpHandleReceive
  dsimp only
  repeat' split
  all_goals first | rfl | exact finishReceive_handshake u

theorem umpCheckRcvDataSoFar_handshake :
    (umpCheckRcvDataSoFar u).core.handshake = u.core.handshake := by
  unfold umpCheckRcvDataSoFar
  dsimp only
  repeat' split
  all_goals first | rfl | (rw [umpEndReceive_handshake]; rfl)

theorem advanceTheirBase_handshake (check : Bool) :
    (advanceTheirBase u check).core.handshake = u.core.handshake := by
  unfold advanceTheirBase
  dsimp only
  split
  · rw [umpCheckRcvDataSoFar_handshake]
    rfl
  · rfl

theorem storePacket_handshake : (storePacket u p).core.handshake = u.core.handshake := by
  unfold storePacket takeInOrder
  repeat' split
  all_goals first | rfl | (rw [advanceTheirBase_handshake])

theorem umpHandleDataPacket_handshake :
    (umpHandleDataPacket u p).core.handshake = u.core.handshake := by
  have asked : (if uPacketGetFlag p UP_DATA_SEQ then
      { u with core := { u.core with ackInfo := umpSetOurAckInfo u.core.ackInfo false } }
      else u).core.handshake = u.core.handshake := by
    split
    · exact setOurAckInfo_handshake u.core false
    · rfl
  unfold umpHandleDataPacket
  dsimp only
  rw [← asked]
  generalize (if uPacketGetFlag p UP_DATA_SEQ then
      { u with core := { u.core with ackInfo := umpSetOurAckInfo u.core.ackInfo false } }
      else u) = v
  split
  · exact umpHandleDataAck_handshake _ _
  · rfl
  · unfold umpEstablishedHandleDataPacket
    dsimp only
    split
    · exact (storePacket_handshake _ _).trans (umpHandleDataAck_handshake _ _)
    · exact umpHandleDataAck_handshake _ _
  · exact umpHandleDataAck_handshake _ _

/-! ### The socket as a handshake -/

/-- What an event can do to the handshake of a socket. -/
inductive HandshakeStep (s : SocketCore) : SockEvent → Handshake → Prop where
  | idle (event : SockEvent) (noPacket : ∀ p, event ≠ .ctrlPacket p) :
      HandshakeStep s event s.handshake
  | packet (p : UMPPacket) (ourMss : UInt16) :
      HandshakeStep s (.ctrlPacket p) (s.handshake.ctrlPacket p ourMss)
  | call (method : UMPCallMethod) (taken : takesCall s method) :
      HandshakeStep s .handleCtrl (s.handshake.call method s.snd.ourMss)
  | send : HandshakeStep s .sendCtrlPacket s.handshake.send
  | again : HandshakeStep s .ctrlTimeout { s.handshake with ctrlPacketSent := false }
  | giveUp : HandshakeStep s .ctrlTimeout s.handshake.drop.fail
  | lost : HandshakeStep s .dataTimeout s.handshake.fail

/-- A socket, seen through its handshake, is the machine of handshakes. -/
theorem handshake_step (event : SockEvent) :
    HandshakeStep u.core event (sockStep u event).core.handshake := by
  cases event with
  | ctrlPacket p =>
      simp only [sockStep, umpHandleCtrlPacket_handshake]
      exact .packet p _
  | handleCtrl =>
      simp only [sockStep]
      rcases umpHandleCtrl_handshake u.core with same | ⟨method, taken, called⟩
      · rw [same]
        exact .idle _ (by simp)
      · rw [called]
        exact .call method taken
  | sendCtrlPacket =>
      simp only [sockStep, umpHandleSendCtrlPacket_handshake]
      exact .send
  | ctrlTimeout =>
      simp only [sockStep]
      rcases umpHandleCtrlTimeout_handshake u.core with same | again | gaveUp
      · rw [same]
        exact .idle _ (by simp)
      · rw [again]
        exact .again
      · rw [gaveUp]
        exact .giveUp
  | dataTimeout =>
      simp only [sockStep]
      rcases umpHandleDataTimeout_handshake u.core with same | lost
      · rw [same]
        exact .idle _ (by simp)
      · rw [lost]
        exact .lost
  | dataPacket p =>
      simp only [sockStep, umpHandleDataPacket_handshake]
      exact .idle _ (by simp)
  | handleReceive =>
      simp only [sockStep, umpHandleReceive_handshake]
      exact .idle _ (by simp)
  | handleSend =>
      simp only [sockStep, umpHandleSend_handshake]
      exact .idle _ (by simp)
  | refreshAck =>
      simp only [sockStep, umpRefreshOurAckInfo_handshake]
      exact .idle _ (by simp)
  | actReqWnd =>
      simp only [sockStep, umpActReqWnd_handshake]
      exact .idle _ (by simp)
  | heartbeat =>
      simp only [sockStep, umpHandleSendHeartbeat_handshake]
      exact .idle _ (by simp)
  | sendData =>
      simp only [sockStep, umpHandleSendData_handshake]
      exact .idle _ (by simp)
  | sendReset =>
      simp only [sockStep, umpHandleSendResetPacket_handshake]
      exact .idle _ (by simp)
  | userCtrl | userSend | userReceive | bufferLoad | refreshRwnd => exact .idle _ (by simp)

/-- The events that have no part in the handshake. -/
def SockEvent.isQuiet (event : SockEvent) : Prop :=
  (∀ p, event ≠ .ctrlPacket p) ∧ event ≠ .handleCtrl ∧ event ≠ .sendCtrlPacket ∧
    event ≠ .ctrlTimeout ∧ event ≠ .dataTimeout

theorem sockStep_quiet {event : SockEvent} (quiet : event.isQuiet) :
    (sockStep u event).core.handshake = u.core.handshake := by
  obtain ⟨noPacket, noCall, noSend, noTimeout, notLost⟩ := quiet
  have step := handshake_step u event
  generalize (sockStep u event).core.handshake = k at step ⊢
  cases step with
  | idle => rfl
  | packet p => exact absurd rfl (noPacket p)
  | call => exact absurd rfl noCall
  | send => exact absurd rfl noSend
  | again | giveUp => exact absurd rfl noTimeout
  | lost => exact absurd rfl notLost

end Receiving

end UserMessageProtocol
