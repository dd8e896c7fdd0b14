import UserMessageProtocol.Packet.Format
import UserMessageProtocol.Socket.Clock

/-!
Contract: the state of a socket, `ump_sock_private.h`.

Owns: the enumerations and the fields of `UMPSocket`, grouped by the part of the
program that writes them, the log of what a socket did, and `ump_sock_new`.

The receive lists are a parameter `Lists`; `Socket.ReceiveLists` says what the
code does with them. The socket thread holds a parameter mutex between handlers
exactly when the mutex's flag here is `true`.

Does not own: any handler.
-/

set_option autoImplicit false

namespace UserMessageProtocol

/-! ### Constants and enumerations -/

def REC_QUEUE_LIMIT : Nat := 100
def DEFAULT_MSS : UInt16 := 1400
def MAX_CWND : UInt16 := 512
def UMP_CTRL_TIMEOUT : Int := 3000
def LOCAL_DATA_PACKET_LIMIT : Int := 1024
def ACK_DELAY : Int := 100
def REQ_WND_DELAY : Int := 500
def RTT_MIN_MS : Int := 50
def TIMEOUT_LIMIT : Int := 15000
def HEATTBEAT_INTERVAL : Int := 10000

inductive UMPSockState where
  | closed
  | connecting
  | established
  | closing
deriving DecidableEq, Repr

inductive UMPCallMethod where
  | connect
  | close
  | send
  | receive
  | noCall
  | allCall
deriving DecidableEq, Repr

inductive UMPLockState where
  | unlocked
  | locked
deriving DecidableEq, Repr

/-! ### What a socket does -/

/-- The steps of a socket that its peer, its user or a property of a run can see. -/
inductive Action where
  /-- `ump_sendto` with the bytes of a packet. -/
  | sendto (p : UMPPacket)
  /-- A SYN or FIN became `ctrl_packet_to_send`. -/
  | queued (p : UMPPacket)
  /-- The state machine was given a control packet while `our_ctrl_seq` was this. -/
  | processed (p : UMPPacket) (ourCtrlSeq : UInt16)
  /-- `ump_change_state`. -/
  | changed (old new : UMPSockState)
  /-- A pending SYN or FIN was given up because its ack came. -/
  | acknowledged (p : UMPPacket)
  /-- `ump_connection_error_occured`. -/
  | failed
  /-- `ump_ctrllocked_end_ctrl`. -/
  | ctrlDone (ok : Bool)
  /-- `accept_ok` was set. -/
  | acceptable
  /-- A message was numbered for sending. -/
  | numbered (packets : List UMPPacket)
  /-- `ump_sndlocked_end_snd`. -/
  | sendDone (ok : Bool)
  /-- A receive call was completed, with its message and the packets it came in. -/
  | received (packets : List UMPPacket) (message : Option (List UInt8))
deriving DecidableEq, Repr

/-! ### The fields of a socket -/

/-- Connection state, control packets and control calls. -/
structure ControlSide where
  state : UMPSockState
  publicState : UMPSockState
  connectTime : GTimeVal
  closeTime : GTimeVal
  errorOccured : Bool
  sendResetPacket : Bool
  ourCtrlSeq : UInt16
  theirCtrlSeq : UInt16
  ctrlParaLock : Bool
  ctrlLocked : UMPLockState
  ctrlPara : Option UMPCallMethod
  ctrlOk : Bool
  ctrlRto : Int
  ctrlResendTime : GTimeVal
  ctrlPacketToSend : Option UMPPacket
  ctrlPacketSent : Bool
  synAckReced : Bool
  synReced : Bool
  finAckReced : Bool
  finReced : Bool
deriving DecidableEq, Repr

/-- `UMPAckInfo`. -/
structure UMPAckInfo where
  ctrlAckSet : Bool
  dataAckSet : Bool
  ctrlAckData : UInt16
  dataAckSeq : UInt16
  dataAckWnd : UInt16
  lastAckT : GTimeVal
  pushAck : Bool
  scheduleAck : Bool
deriving DecidableEq, Repr

/-- Sending of data. `sndPackets` is `none` for `NULL`. -/
structure SendSide where
  rtoCpt : RTOComputer
  tmList : List TmEntry
  theirWnd : UInt16
  ourMss : UInt16
  ourDataStartSeq : UInt16
  ourDataSeqBase : UInt16
  ourBackPoint : UInt16
  ourDataPos : Int
  ourDataSent : UInt16
  ourWndPos : Int
  ourCwnd : UInt16
  ourSsthresh : UInt16
  ourMsgLastSeq : UInt16
  lastRefreshCwnd : GTimeVal
  fastRetran : Bool
  ackRepCount : Int
  sndParaLock : Bool
  sndLocked : UMPLockState
  sndPackets : Option (List UMPPacket)
  sndPacketsCount : Int
  sndOk : Bool
  actReqWnd : Bool
  lastReqWndTime : GTimeVal
  upReqWnd : Option UMPPacket
deriving DecidableEq, Repr

/-- Receiving of data, without the lists. `recMsg` is `rec_msg` with its length. -/
structure ReceiveSide where
  ourRwnd : UInt16
  ourRwndPosSeq : UInt16
  theirDataSeqBase : UInt16
  bufferLoad : Nat
  rcvPacketsMsgNum : Int
  recParaLock : Bool
  recLocked : UMPLockState
  receiveCalled : Bool
  recMsg : List UInt8
  recOk : Bool
deriving DecidableEq, Repr

/-- A socket without its lists of received packets. -/
structure SocketCore where
  ctrl : ControlSide
  ackInfo : UMPAckInfo
  snd : SendSide
  rcv : ReceiveSide
  lastHeartbeat : GTimeVal
  clock : Clock
  /-- What the socket did, the latest first. -/
  log : List Action

/-- `struct _ump_socket`. -/
structure UMPSocket (Lists : Type) where
  core : SocketCore
  lists : Lists

/-- `ump_sock_new` for the initial number `seq` drawn and the clock to come. -/
def umpSockNewCore (seq : UInt16) (clock : Clock) : SocketCore where
  ctrl :=
    { state := .closed
      publicState := .closed
      connectTime := ⟨0, 0⟩
      closeTime := ⟨0, 0⟩
      errorOccured := false
      sendResetPacket := false
      ourCtrlSeq := seq
      theirCtrlSeq := 0
      ctrlParaLock := false
      ctrlLocked := .unlocked
      ctrlPara := none
      ctrlOk := false
      ctrlRto := UMP_CTRL_TIMEOUT
      ctrlResendTime := ⟨0, 0⟩
      ctrlPacketToSend := none
      ctrlPacketSent := true
      synAckReced := false
      synReced := false
      finAckReced := false
      finReced := false }
  ackInfo := ⟨false, false, 0, 0, 0, ⟨0, 0⟩, false, false⟩
  snd :=
    { rtoCpt := rtoComputerNew
      tmList := []
      theirWnd := 0
      ourMss := DEFAULT_MSS
      ourDataStartSeq := seq
      ourDataSeqBase := seq
      ourBackPoint := 0
      ourDataPos := 0
      ourDataSent := 0
      ourWndPos := 0
      ourCwnd := 1
      ourSsthresh := MAX_CWND
      ourMsgLastSeq := 0
      lastRefreshCwnd := ⟨0, 0⟩
      fastRetran := false
      ackRepCount := 0
      sndParaLock := false
      sndLocked := .unlocked
      sndPackets := none
      sndPacketsCount := 0
      sndOk := false
      actReqWnd := false
      lastReqWndTime := ⟨0, 0⟩
      upReqWnd := none }
  rcv :=
    { ourRwnd := UInt16.ofNat (REC_QUEUE_LIMIT / 2)
      ourRwndPosSeq := 0
      theirDataSeqBase := 0
      bufferLoad := 0
      rcvPacketsMsgNum := 0
      recParaLock := false
      recLocked := .unlocked
      receiveCalled := false
      recMsg := []
      recOk := false }
  lastHeartbeat := ⟨0, 0⟩
  clock := clock
  log := []

/-! ### Access -/

namespace SocketCore

/-- `g_get_current_time` is read and its value ignored or stored elsewhere. -/
def tick (s : SocketCore) : SocketCore := { s with clock := s.clock.tick }

/-- The value of the next clock reading. -/
def now (s : SocketCore) : GTimeVal := s.clock.now

/-- Add to the log. -/
def act (s : SocketCore) (action : Action) : SocketCore := { s with log := action :: s.log }

end SocketCore

end UserMessageProtocol
