import UserMessageProtocol.Socket.State

/-!
Contract: the lock state machines of `ump_sock.c` as far as they end a call, and
the changes of connection state that end calls.

Owns: `ump_end_ctrl`, `ump_end_send`, `ump_end_receive` with result `FALSE`,
`ump_change_state` with the functions that enter a state, and
`ump_connection_error_occured`.

Does not own: the start of a call (`Socket.Sender`, `Socket.Receiver`,
`Socket.Connection`), or a receive that succeeds (`Socket.Receiver`).
-/

set_option autoImplicit false

namespace UserMessageProtocol

/-- `ump_end_ctrl`: what the unlocked and the locked state do with it. -/
def umpEndCtrl (s : SocketCore) (callMethod : UMPCallMethod) (ctrlResult : Bool) : SocketCore :=
  match s.ctrl.ctrlLocked with
  | .unlocked => if callMethod = .connect then s.act .acceptable else s
  | .locked =>
      if callMethod ≠ .allCall ∧ s.ctrl.ctrlPara ≠ some callMethod then s
      else
        { s with
          ctrl :=
            { s.ctrl with
              ctrlOk := ctrlResult
              ctrlPara := none
              ctrlLocked := .unlocked
              ctrlParaLock := false } }.act (.ctrlDone ctrlResult)

/-- `ump_sndlocked_end_snd` on the fields of the sender. -/
def endSend (snd : SendSide) (sndResult : Bool) : SendSide :=
  { snd with
    sndLocked := .unlocked
    sndOk := sndResult
    ourDataStartSeq :=
      if sndResult then snd.ourDataStartSeq + UInt16.ofInt (snd.sndPacketsCount % 65536)
      else snd.ourDataStartSeq
    sndPackets := none
    sndPacketsCount := 0
    sndParaLock := false }

/-- `ump_end_send`. -/
def umpEndSend (s : SocketCore) (sndResult : Bool) : SocketCore :=
  match s.snd.sndLocked with
  | .unlocked => s
  | .locked => { s with snd := endSend s.snd sndResult }.act (.sendDone sndResult)

/-- `ump_end_receive(u_sock, FALSE)`. -/
def umpFailReceive (s : SocketCore) : SocketCore :=
  match s.rcv.recLocked with
  | .unlocked => s
  | .locked =>
      { s with
        rcv :=
          { s.rcv with
            recLocked := .unlocked
            recOk := false
            receiveCalled := false
            recParaLock := false } }.act (.received [] none)

/-- `ump_closed_enter_state`. -/
def umpClosedEnterState (s : SocketCore) : SocketCore :=
  let s := { s with ctrl := { s.ctrl with closeTime := s.now } }.tick
  let s := if s.rcv.rcvPacketsMsgNum < 1 then umpFailReceive s else s
  umpEndCtrl s .close true

/-- `ump_established_enter_state`. -/
def umpEstablishedEnterState (s : SocketCore) : SocketCore :=
  let s := { s with ctrl := { s.ctrl with connectTime := s.now } }.tick
  umpEndCtrl s .connect true

/-- `ump_change_state`; the functions that leave a state do nothing. -/
def umpChangeState (s : SocketCore) (newState : UMPSockState) : SocketCore :=
  let s :=
    { s with ctrl := { s.ctrl with state := newState, publicState := newState } }.act
      (.changed s.ctrl.state newState)
  match newState with
  | .closed => umpClosedEnterState s
  | .connecting => s
  | .established => umpEstablishedEnterState s
  | .closing => s

/-- `ump_connection_error_occured`. -/
def umpConnectionErrorOccured (s : SocketCore) : SocketCore :=
  let s := { s with ctrl := { s.ctrl with errorOccured := true } }.act .failed
  let s := umpChangeState s .closed
  let s := umpEndCtrl s .allCall false
  let s := umpEndSend s false
  umpFailReceive s

end UserMessageProtocol
