import UserMessageProtocol.Socket.Sender

/-!
Contract: the connection state machine of `ump_sock.c`.

Owns: control calls, the control packet handlers of the four states, the SYN and
FIN packets, and the transmission, retransmission and acknowledgement of control
packets.

Does not own: data packets (`Socket.Sender`, `Socket.Receiver`).
-/

set_option autoImplicit false

namespace UserMessageProtocol

/-! ### SYN and FIN -/

/-- The SYN of `ump_closed_connect`. -/
def synPacket (ourCtrlSeq ourMss : UInt16) : UMPPacket :=
  let p := uPacketNew .control .outgoing
  let p := uPacketSetFlag p UP_CTRL_SYN
  let p := uPacketSetFlag p UP_CTRL_SEQ
  let p := uPacketSetFlag p UP_CTRL_MSS
  let p := uPacketSetFlag p UP_CTRL_WND
  { p with seqNum := ourCtrlSeq, mssNum := ourMss, wndNum := UInt16.ofNat REC_QUEUE_LIMIT }

/-- The FIN of `ump_established_close`. -/
def finPacket (ourCtrlSeq : UInt16) : UMPPacket :=
  let p := uPacketNew .control .outgoing
  let p := uPacketSetFlag p UP_CTRL_FIN
  let p := uPacketSetFlag p UP_CTRL_SEQ
  { p with seqNum := ourCtrlSeq }

/-- A SYN or FIN takes the place of `ctrl_packet_to_send` and a control number. -/
def queueCtrlPacket (s : SocketCore) (p : UMPPacket) : SocketCore :=
  { s with
    ctrl :=
      { s.ctrl with
        ctrlPacketToSend := some p
        ctrlPacketSent := false
        ctrlRto := UMP_CTRL_TIMEOUT
        ourCtrlSeq := s.ctrl.ourCtrlSeq + 1 } }.act (.queued p)

/-- `ump_closed_connect`. -/
def umpClosedConnect (s : SocketCore) : SocketCore :=
  queueCtrlPacket s (synPacket s.ctrl.ourCtrlSeq s.snd.ourMss)

/-- `ump_established_close`. -/
def umpEstablishedClose (s : SocketCore) : SocketCore :=
  queueCtrlPacket s (finPacket s.ctrl.ourCtrlSeq)

/-! ### Control calls -/

/-- `ump_sock_control_call`: the call is left for the socket thread. -/
def umpSockControlCall (s : SocketCore) (method : UMPCallMethod) : SocketCore :=
  { s with ctrl := { s.ctrl with ctrlPara := some method } }

/-- `ump_closed_handle_ctrl`. -/
def umpClosedHandleCtrl (s : SocketCore) (method : UMPCallMethod) : SocketCore :=
  if method = .connect then umpChangeState (umpClosedConnect s) .connecting
  else if method = .close then umpEndCtrl s .close true
  else umpEndCtrl s .allCall false

/-- `ump_connecting_handle_ctrl`. -/
def umpConnectingHandleCtrl (s : SocketCore) (method : UMPCallMethod) : SocketCore :=
  if method ≠ .connect then umpEndCtrl s .allCall false else s

/-- `ump_established_handle_ctrl`. -/
def umpEstablishedHandleCtrl (s : SocketCore) (method : UMPCallMethod) : SocketCore :=
  if method = .close then
    umpFailReceive (umpEndSend (umpChangeState (umpEstablishedClose s) .closing) false)
  else if method = .connect then umpEndCtrl s .connect true
  else umpEndCtrl s .allCall false

/-- `ump_closing_handle_ctrl`. -/
def umpClosingHandleCtrl (s : SocketCore) (method : UMPCallMethod) : SocketCore :=
  if method ≠ .close then umpEndCtrl s .allCall false else s

/-- `sm_handle_ctrl` of the current state. -/
def smHandleCtrl (s : SocketCore) (method : UMPCallMethod) : SocketCore :=
  match s.ctrl.state with
  | .closed => umpClosedHandleCtrl s method
  | .connecting => umpConnectingHandleCtrl s method
  | .established => umpEstablishedHandleCtrl s method
  | .closing => umpClosingHandleCtrl s method

/-- `ump_handle_ctrl`: the locked state does nothing. -/
def umpHandleCtrl (s : SocketCore) : SocketCore :=
  match s.ctrl.ctrlLocked with
  | .locked => s
  | .unlocked =>
      if s.ctrl.ctrlParaLock then s
      else
        match s.ctrl.ctrlPara with
        | none => s
        | some method =>
            let s := { s with ctrl := { s.ctrl with ctrlParaLock := true, ctrlLocked := .locked } }
            if s.ctrl.errorOccured then umpEndCtrl s .allCall false else smHandleCtrl s method

/-! ### Control packets -/

/-- The ack of a control packet is due. -/
def setCtrlAck (s : SocketCore) : SocketCore :=
  { s with
    ackInfo := { s.ackInfo with ctrlAckSet := true, ctrlAckData := s.ctrl.theirCtrlSeq } }

/-- The pending SYN or FIN is given up, as the three handlers do on its ack. -/
def dropPending (s : SocketCore) : SocketCore :=
  let ctrl :=
    { s.ctrl with
      ctrlPacketToSend := none
      ctrlPacketSent := true
      ctrlRto := UMP_CTRL_TIMEOUT }
  match s.ctrl.ctrlPacketToSend with
  | some pending => { s with ctrl := ctrl }.act (.acknowledged pending)
  | none => { s with ctrl := ctrl }

/-- Numbers, segment size and window of a SYN that carries a number. -/
def takeSyn (s : SocketCore) (p : UMPPacket) : SocketCore :=
  { s with
    ctrl := { s.ctrl with theirCtrlSeq := p.seqNum + 1 }
    rcv := { s.rcv with theirDataSeqBase := p.seqNum }
    snd :=
      { s.snd with
        ourMss := if uPacketGetFlag p UP_CTRL_MSS then min s.snd.ourMss p.mssNum else s.snd.ourMss
        theirWnd := if uPacketGetFlag p UP_CTRL_WND then p.wndNum else s.snd.theirWnd } }

/-- The next number in sequence is taken, any other is not. -/
def countTheirs (s : SocketCore) (p : UMPPacket) : SocketCore :=
  if p.seqNum = s.ctrl.theirCtrlSeq then
    { s with ctrl := { s.ctrl with theirCtrlSeq := s.ctrl.theirCtrlSeq + 1 } }
  else s

/-- `ump_closed_handle_ctrl_packet`. -/
def umpClosedHandleCtrlPacket (s : SocketCore) (p : UMPPacket) : SocketCore :=
  if s.ctrl.synReced = false ∧ uPacketGetFlag p UP_CTRL_SYN then
    if uPacketGetFlag p UP_CTRL_SEQ then
      let s := setCtrlAck (umpClosedConnect (takeSyn s p))
      umpChangeState { s with ctrl := { s.ctrl with synReced := true } } .connecting
    else s
  else if uPacketGetFlag p UP_CTRL_SEQ then setCtrlAck (countTheirs s p)
  else s

/-- The first part of `ump_connecting_handle_ctrl_packet`: the flag
`syn_ack_reced` is set for every ack, the pending SYN is given up for one that
matches. -/
def connectingAck (s : SocketCore) (p : UMPPacket) : SocketCore :=
  if uPacketGetFlag p UP_CTRL_ACK then
    let s := if s.ctrl.ourCtrlSeq = p.ackNum then dropPending s else s
    { s with ctrl := { s.ctrl with synAckReced := true } }
  else s

/-- The end of `ump_connecting_handle_ctrl_packet`. -/
def completeOpen (s : SocketCore) : SocketCore :=
  if s.ctrl.synReced ∧ s.ctrl.synAckReced then umpChangeState s .established else s

/-- `ump_connecting_handle_ctrl_packet`. -/
def umpConnectingHandleCtrlPacket (s : SocketCore) (p : UMPPacket) : SocketCore :=
  let s := connectingAck s p
  if uPacketGetFlag p UP_CTRL_SYN then
    if s.ctrl.synReced then setCtrlAck s
    else if uPacketGetFlag p UP_CTRL_SEQ then
      let s := setCtrlAck (takeSyn s p)
      completeOpen { s with ctrl := { s.ctrl with synReced := true } }
    else s
  else if uPacketGetFlag p UP_CTRL_SEQ then completeOpen (setCtrlAck (countTheirs s p))
  else completeOpen s

/-- The first part of `ump_established_handle_ctrl_packet`. -/
def establishedAck (s : SocketCore) (p : UMPPacket) : SocketCore :=
  if uPacketGetFlag p UP_CTRL_ACK ∧ s.ctrl.ourCtrlSeq = p.ackNum then
    umpEndCtrl (dropPending s) .allCall true
  else s

/-- `ump_established_handle_ctrl_packet`. -/
def umpEstablishedHandleCtrlPacket (s : SocketCore) (p : UMPPacket) : SocketCore :=
  let s := establishedAck s p
  if uPacketGetFlag p UP_CTRL_SEQ then
    if p.seqNum = s.ctrl.theirCtrlSeq ∧ uPacketGetFlag p UP_CTRL_FIN then
      let s := countTheirs s p
      let s := umpEstablishedClose { s with ctrl := { s.ctrl with finReced := true } }
      setCtrlAck (umpChangeState s .closing)
    else setCtrlAck (countTheirs s p)
  else s

/-- The first part of `ump_closing_handle_ctrl_packet`, as in the connecting state. -/
def closingAck (s : SocketCore) (p : UMPPacket) : SocketCore :=
  if uPacketGetFlag p UP_CTRL_ACK then
    let s := if s.ctrl.ourCtrlSeq = p.ackNum then dropPending s else s
    { s with ctrl := { s.ctrl with finAckReced := true } }
  else s

/-- The end of `ump_closing_handle_ctrl_packet`. -/
def completeClose (s : SocketCore) : SocketCore :=
  if s.ctrl.finReced ∧ s.ctrl.finAckReced then umpChangeState s .closed else s

/-- `ump_closing_handle_ctrl_packet`. -/
def umpClosingHandleCtrlPacket (s : SocketCore) (p : UMPPacket) : SocketCore :=
  let s := closingAck s p
  if uPacketGetFlag p UP_CTRL_SEQ then
    let finReced := s.ctrl.finReced ||
      (p.seqNum = s.ctrl.theirCtrlSeq && uPacketGetFlag p UP_CTRL_FIN)
    let s := countTheirs s p
    completeClose (setCtrlAck { s with ctrl := { s.ctrl with finReced := finReced } })
  else completeClose s

/-- `sm_handle_ctrl_packet` of the current state. -/
def smHandleCtrlPacket (s : SocketCore) (p : UMPPacket) : SocketCore :=
  match s.ctrl.state with
  | .closed => umpClosedHandleCtrlPacket s p
  | .connecting => umpConnectingHandleCtrlPacket s p
  | .established => umpEstablishedHandleCtrlPacket s p
  | .closing => umpClosingHandleCtrlPacket s p

/-- One round of `ump_handle_ctrl_packet`. -/
def umpHandleCtrlPacket (s : SocketCore) (p : UMPPacket) : SocketCore :=
  if uPacketGetFlag p UP_CTRL_RST then umpConnectionErrorOccured s
  else smHandleCtrlPacket (s.act (.processed p s.ctrl.ourCtrlSeq)) p

/-! ### Sending control packets -/

/-- The pending control packet with the ack it carries, as bytes. -/
def pendingOnWire (ackInfo : UMPAckInfo) (p : UMPPacket) : UMPPacket :=
  uPacketToBinary
    (if ackInfo.ctrlAckSet then
      { uPacketSetFlag p UP_CTRL_ACK with ackNum := ackInfo.ctrlAckData }
    else uPacketClearFlag p UP_CTRL_ACK)

/-- The packet that carries nothing but a control ack. -/
def ctrlAckAlone (ackInfo : UMPAckInfo) : UMPPacket :=
  uPacketToBinary
    { uPacketSetFlag (uPacketNew .control .outgoing) UP_CTRL_ACK with
      ackNum := ackInfo.ctrlAckData }

/-- The branch of `ump_handle_send_ctrl_packet` without a packet to send. -/
def sendCtrlAckAlone (s : SocketCore) : SocketCore :=
  if s.ackInfo.ctrlAckSet then
    { s with ackInfo := { s.ackInfo with ctrlAckSet := false } }.act
      (.sendto (ctrlAckAlone s.ackInfo))
  else s

/-- `ump_handle_send_ctrl_packet`. -/
def umpHandleSendCtrlPacket (s : SocketCore) : SocketCore :=
  match s.ctrl.ctrlPacketToSend with
  | some pending =>
      if s.ctrl.ctrlPacketSent = false then
        let p := pendingOnWire s.ackInfo pending
        ({ s with
          ctrl :=
            { s.ctrl with
              ctrlPacketToSend := some p
              ctrlPacketSent := true
              ctrlResendTime := gTimeValAdd s.now (glong (s.ctrl.ctrlRto * 1000)) }
          ackInfo := { s.ackInfo with ctrlAckSet := false } }.tick).act (.sendto p)
      else sendCtrlAckAlone s
  | none => sendCtrlAckAlone s

/-- `ump_handle_ctrl_timeout`. -/
def umpHandleCtrlTimeout (s : SocketCore) : SocketCore :=
  if s.ctrl.ctrlPacketToSend = none then s
  else if s.ctrl.ctrlPacketSent = false then s
  else
    let curtime := s.now
    let s := s.tick
    if umpTimeSub curtime s.ctrl.ctrlResendTime < 0 then s
    else if s.ctrl.ctrlRto < TIMEOUT_LIMIT then
      { s with
        ctrl := { s.ctrl with ctrlPacketSent := false, ctrlRto := glong (2 * s.ctrl.ctrlRto) } }
    else
      let s :=
        { s with
          ctrl :=
            { s.ctrl with
              ctrlPacketToSend := none
              ctrlPacketSent := true
              ctrlRto := UMP_CTRL_TIMEOUT } }
      umpConnectionErrorOccured (umpEndCtrl s .allCall false)

/-- `ump_send_reset_packet`. -/
def resetPacket : UMPPacket :=
  uPacketToBinary (uPacketSetFlag (uPacketNew .control .outgoing) UP_CTRL_RST)

/-- `ump_handle_send_reset_packet`. -/
def umpHandleSendResetPacket (s : SocketCore) : SocketCore :=
  if s.ctrl.sendResetPacket then
    { s with ctrl := { s.ctrl with sendResetPacket := false } }.act (.sendto resetPacket)
  else s

end UserMessageProtocol
