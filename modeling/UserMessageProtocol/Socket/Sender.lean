import UserMessageProtocol.Foundation.Serial
import UserMessageProtocol.Packet.Codec
import UserMessageProtocol.Socket.Calls

/-!
Contract: the sending half of `ump_sock.c`.

Owns: circular comparison of sequence numbers, the numbering of a message, the
transmission of data packets and of lone acks, the send window, timeouts,
window notifications and probes, and `ump_handle_data_ack`.

Does not own: received data (`Socket.Receiver`), control packets
(`Socket.Connection`).
-/

set_option autoImplicit false

namespace UserMessageProtocol

/-! ### Circular comparison -/

/-- The body that `ump_cmp_in_sndbase`, `ump_cmp_in_rcvbase` and
`ump_seq_to_relative_via_sndstartseq` share; `base` fixes the circle point. -/
def circleCompare (base x y : UInt16) : Int :=
  let circlePoint := base + 32767
  let a : Int := if x ≤ circlePoint then x.toNat + 65536 else x.toNat
  let b : Int := if y ≤ circlePoint then y.toNat + 65536 else y.toNat
  a - b

def umpCmpInSndbase (snd : SendSide) (x y : UInt16) : Int := circleCompare snd.ourDataSeqBase x y

def umpCmpInRcvbase (rcv : ReceiveSide) (x y : UInt16) : Int :=
  circleCompare rcv.theirDataSeqBase x y

def umpSeqToRelativeViaSndstartseq (snd : SendSide) (seq : UInt16) : Int :=
  circleCompare snd.ourDataStartSeq seq snd.ourDataStartSeq

def umpRelativeToSeqViaSndstartseq (snd : SendSide) (l : Int) : UInt16 :=
  snd.ourDataStartSeq + UInt16.ofInt l

def umpRelativeToSeqViaRcvseq (rcv : ReceiveSide) (l : Int) : UInt16 :=
  rcv.theirDataSeqBase + UInt16.ofInt l

/-! ### Window, highest number sent, back point -/

/-- `ump_refresh_snd_wnd_pos`. -/
def umpRefreshSndWndPos (snd : SendSide) : SendSide :=
  { snd with
    ourWndPos :=
      min snd.sndPacketsCount
        (umpSeqToRelativeViaSndstartseq snd
          (snd.ourDataSeqBase + min snd.theirWnd snd.ourCwnd)) }

/-- `ump_refresh_data_sent`. -/
def umpRefreshDataSent (snd : SendSide) (sentSeq : UInt16) : SendSide :=
  if umpCmpInSndbase snd snd.ourDataSent sentSeq < 0 then { snd with ourDataSent := sentSeq }
  else snd

/-- `ump_refresh_back_point`. -/
def umpRefreshBackPoint (snd : SendSide) (backPoint : UInt16) : SendSide :=
  if umpCmpInSndbase snd snd.ourBackPoint backPoint < 0 then { snd with ourBackPoint := backPoint }
  else snd

/-! ### Acks to send -/

/-- `ump_set_our_ack_info`: two scheduled acks make a pushed one. -/
def umpSetOurAckInfo (ackInfo : UMPAckInfo) (pushAck : Bool) : UMPAckInfo :=
  if pushAck then { ackInfo with pushAck := true }
  else if ackInfo.scheduleAck = false then { ackInfo with scheduleAck := true }
  else { ackInfo with pushAck := true }

/-- The ack to send next, as both branches of `ump_refresh_our_ack_info` set it. -/
def setDataAck (s : SocketCore) : SocketCore :=
  { s with
    ackInfo :=
      { s.ackInfo with
        dataAckSet := true
        dataAckSeq := s.rcv.theirDataSeqBase
        dataAckWnd := s.rcv.ourRwnd
        pushAck := false
        scheduleAck := false
        lastAckT := s.now } }.tick

/-- `ump_refresh_our_ack_info`. -/
def umpRefreshOurAckInfo (s : SocketCore) : SocketCore :=
  if s.ackInfo.pushAck then setDataAck s
  else if s.ackInfo.scheduleAck then
    let delay := umpTimeSub s.now s.ackInfo.lastAckT
    let s := s.tick
    if delay < ACK_DELAY then s else setDataAck s
  else s

/-- `ump_set_packet_ack_info` on the packet. -/
def umpSetPacketAckInfo (ackInfo : UMPAckInfo) (u_p : UMPPacket) : UMPPacket :=
  let u_p := { uPacketSetFlag u_p UP_DATA_ACK with ackNum := ackInfo.dataAckSeq }
  { uPacketSetFlag u_p UP_DATA_WND with wndNum := ackInfo.dataAckWnd }

/-- `ump_clear_packet_ack_info`. -/
def umpClearPacketAckInfo (u_p : UMPPacket) : UMPPacket :=
  uPacketClearFlag (uPacketClearFlag u_p UP_DATA_ACK) UP_DATA_WND

/-- A packet with nothing but an ack, as both lock states send it. -/
def sendAckAlone (s : SocketCore) : SocketCore :=
  if s.ackInfo.dataAckSet then
    let dataAckAlone := umpSetPacketAckInfo s.ackInfo (uPacketNew .data .outgoing)
    { s with ackInfo := { s.ackInfo with dataAckSet := false } }.act
      (.sendto (uPacketToBinary dataAckAlone))
  else s

/-! ### Sending a message -/

/-- The loop of `ump_send_message` that cuts the data into chunks of `our_mss`
bytes, the last one taking what is left; `fuel` bounds their number. -/
def chunksOf (ourMss : Nat) : Nat → List UInt8 → List (List UInt8)
  | 0, _ => []
  | _ + 1, [] => []
  | fuel + 1, data@(_ :: _) => data.take ourMss :: chunksOf ourMss fuel (data.drop ourMss)

/-- `pkts_count` of `ump_send_message`. -/
def pktsCount (ourMss dataLen : Nat) : Nat :=
  let count := dataLen / ourMss
  if count * ourMss < dataLen then count + 1 else count

/-- The packets `ump_send_message` builds. -/
def messagePackets (ourMss : UInt16) (data : List UInt8) : List UMPPacket :=
  (chunksOf ourMss.toNat data.length data).map (uPacketSetData (uPacketNew .data .outgoing))

/-- `ump_sock_send`: the packets are left for the socket thread. -/
def umpSockSend (s : SocketCore) (dataPackets : List UMPPacket) (packetsCount : Int) :
    SocketCore :=
  { s with snd := { s.snd with sndPackets := some dataPackets, sndPacketsCount := packetsCount } }

/-- `ump_send_message` up to the point where the user waits. -/
def umpSendMessage (s : SocketCore) (data : List UInt8) : SocketCore :=
  umpSockSend s (messagePackets s.snd.ourMss data) (pktsCount s.snd.ourMss.toNat data.length)

/-- The numbering loop of `ump_sndunlocked_handle_snd`. -/
def numberPackets : UInt16 → List UMPPacket → List UMPPacket
  | _, [] => []
  | seq, p :: rest =>
      { uPacketSetFlag p UP_DATA_SEQ with seqNum := seq } :: numberPackets (seq + 1) rest

/-- The last packet of a message carries BDR. -/
def markLast : List UMPPacket → List UMPPacket
  | [] => []
  | [last] => [uPacketSetFlag last UP_DATA_BDR]
  | p :: q :: rest => p :: markLast (q :: rest)

/-- The packets of a message as `ump_sndunlocked_handle_snd` numbers them. -/
def preparePackets (startSeq : UInt16) (packets : List UMPPacket) : List UMPPacket :=
  markLast (numberPackets startSeq packets)

/-- The end of `ump_sndunlocked_handle_snd`: the message is numbered and the
window refreshed. -/
def startMessage (snd : SendSide) (packets : List UMPPacket) : SendSide :=
  umpRefreshSndWndPos
    { snd with
      sndPackets := some (preparePackets snd.ourDataStartSeq packets)
      ourMsgLastSeq := snd.ourDataStartSeq + UInt16.ofInt snd.sndPacketsCount - 1
      ourDataPos := 0 }

/-- `ump_handle_send`: the locked state does nothing. -/
def umpHandleSend (s : SocketCore) : SocketCore :=
  match s.snd.sndLocked with
  | .locked => s
  | .unlocked =>
      if s.snd.sndParaLock then s
      else
        match s.snd.sndPackets with
        | none => s
        | some packets =>
            let s := { s with snd := { s.snd with sndParaLock := true, sndLocked := .locked } }
            if s.snd.sndPacketsCount < 1 ∨ s.ctrl.state ≠ .established ∨ s.ctrl.errorOccured then
              umpEndSend s false
            else
              { s with snd := startMessage s.snd packets }.act
                (.numbered (preparePackets s.snd.ourDataStartSeq packets))

/-- `snd_packets[position]`; `none` when that is outside the array. -/
def packetAt (snd : SendSide) (position : Int) : Option UMPPacket :=
  if 0 ≤ position then snd.sndPackets.bind (·[position.toNat]?) else none

/-- The packet at `our_data_pos` as it is put on the wire. -/
def outgoingPacket (ackInfo : UMPAckInfo) (p : UMPPacket) : UMPPacket :=
  uPacketToBinary
    (if ackInfo.dataAckSet then umpSetPacketAckInfo ackInfo p else umpClearPacketAckInfo p)

/-- The timeout of a packet grows with the part of the window that is open. -/
def packetTimeout (snd : SendSide) : Int :=
  let wndTrue := max 1
    (umpCmpInSndbase snd (umpRelativeToSeqViaSndstartseq snd snd.ourWndPos) snd.ourDataSeqBase + 1)
  glong (rtoGetRto snd.rtoCpt * wndTrue)

/-- The sender behind the transmission of `p` at the reading `now`. -/
def afterTransmit (snd : SendSide) (p : UMPPacket) (now : GTimeVal) : SendSide :=
  let snd :=
    { snd with
      sndPackets := snd.sndPackets.map (·.set snd.ourDataPos.toNat p)
      tmList := tmRegisterPacket snd.tmList p.seqNum (packetTimeout snd) now }
  let snd := umpRefreshDataSent snd p.seqNum
  { snd with ourDataPos := snd.ourDataPos + 1 }

/-- `ump_sndlocked_handle_send_data`. Outside the array there is no packet to
send, and what the program does then is not defined. -/
def umpSndlockedHandleSendData (s : SocketCore) : SocketCore :=
  if s.snd.ourDataPos < s.snd.ourWndPos then
    match packetAt s.snd s.snd.ourDataPos with
    | none => s
    | some p =>
        let p := outgoingPacket s.ackInfo p
        ({ s with
          snd := afterTransmit s.snd p s.now
          ackInfo := { s.ackInfo with dataAckSet := false } }.tick).act (.sendto p)
  else sendAckAlone s

/-- `ump_handle_send_data`. -/
def umpHandleSendData (s : SocketCore) : SocketCore :=
  match s.snd.sndLocked with
  | .unlocked => sendAckAlone s
  | .locked => umpSndlockedHandleSendData s

/-! ### Timeouts -/

/-- The rewind of `ump_handle_data_timeout`. -/
def rewindAfterTimeout (snd : SendSide) : SendSide :=
  let snd := { snd with ourSsthresh := max (snd.ourCwnd / 2) 2, ourCwnd := 1 }
  let snd := umpRefreshBackPoint snd (umpRelativeToSeqViaSndstartseq snd snd.ourDataPos)
  umpRefreshSndWndPos
    { snd with
      ourDataPos := umpSeqToRelativeViaSndstartseq snd snd.ourDataSeqBase
      ackRepCount := 0
      fastRetran := false
      rtoCpt := rtoTimeoutOccur snd.rtoCpt }

/-- `ump_handle_data_timeout`. -/
def umpHandleDataTimeout (s : SocketCore) : SocketCore :=
  if s.snd.tmList = [] then s
  else
    let fired := getNextTimeout s.snd.tmList s.now
    let s := s.tick
    if fired then
      let s := { s with snd := { s.snd with tmList := [] } }
      if rtoGetRto s.snd.rtoCpt ≥ TIMEOUT_LIMIT then
        umpConnectionErrorOccured (umpEndSend s false)
      else { s with snd := rewindAfterTimeout s.snd }
    else s

/-! ### Window notifications and acks -/

/-- `ump_handle_wnd_notify`. -/
def umpHandleWndNotify (s : SocketCore) (u_p : UMPPacket) : SocketCore :=
  if uPacketGetFlag u_p UP_DATA_WND then
    let snd := umpRefreshSndWndPos { s.snd with theirWnd := u_p.wndNum }
    if u_p.wndNum = 0 then
      { s with snd := { snd with actReqWnd := true, lastReqWndTime := s.now } }.tick
    else { s with snd := { snd with actReqWnd := false } }
  else s

/-- An ack equal to the base is counted when the base lies behind `our_data_sent`. -/
def countRepeatedAck (snd : SendSide) (ackSeq : UInt16) : SendSide :=
  if ackSeq = snd.ourDataSeqBase ∧ umpCmpInSndbase snd snd.ourDataSeqBase snd.ourDataSent > 0 then
    { snd with ackRepCount := snd.ackRepCount + 1 }
  else snd

/-- Fast retransmit. -/
def fastRetransmit (snd : SendSide) : SendSide :=
  if snd.ackRepCount > 1 then
    let snd := umpRefreshBackPoint snd (umpRelativeToSeqViaSndstartseq snd snd.ourDataPos)
    { snd with
      ourDataPos := umpSeqToRelativeViaSndstartseq snd snd.ourDataSeqBase
      ourCwnd := UInt16.ofNat (max (snd.ourSsthresh.toNat + 3) 1)
      ackRepCount := 0
      fastRetran := true
      tmList := []
      rtoCpt := rtoTimeoutOccur snd.rtoCpt }
  else snd

/-- `ack_diff`. -/
def ackDiff (snd : SendSide) (ackSeq : UInt16) : Int :=
  umpCmpInSndbase snd ackSeq snd.ourDataSeqBase

/-- The range an ack has to lie in. -/
def ackInRange (snd : SendSide) (ackSeq : UInt16) : Bool :=
  !(ackDiff snd ackSeq < 0 || umpCmpInSndbase snd ackSeq snd.ourDataSent > 1)

/-- A new ack moves the base. -/
def advanceBase (snd : SendSide) (ackSeq : UInt16) : SendSide :=
  umpRefreshBackPoint { snd with ourDataSeqBase := ackSeq, ackRepCount := 0 } ackSeq

/-- `MAX(our_cwnd+1,our_cwnd)`: the sum is an `int`, its low 16 bits are stored. -/
def increaseCwnd (ourCwnd : UInt16) : UInt16 := UInt16.ofNat (max (ourCwnd.toNat + 1) ourCwnd.toNat)

/-- Fast recovery, slow start and congestion avoidance on a new ack. -/
def refreshCwnd (s : SocketCore) : SocketCore :=
  if s.snd.fastRetran then
    { s with snd := { s.snd with fastRetran := false, ourCwnd := max s.snd.ourSsthresh 1 } }
  else if s.snd.ourCwnd < s.snd.ourSsthresh then
    { s with
      snd := { s.snd with ourCwnd := increaseCwnd s.snd.ourCwnd, lastRefreshCwnd := s.now } }.tick
  else
    let now := s.now
    let s := s.tick
    if umpTimeSub now s.snd.lastRefreshCwnd ≥ rtoGetEstimatedRtt s.snd.rtoCpt then
      { s with
        snd := { s.snd with ourCwnd := increaseCwnd s.snd.ourCwnd, lastRefreshCwnd := s.now } }.tick
    else s

/-- The next packet to send is not before the base. -/
def skipAcknowledged (snd : SendSide) : SendSide :=
  if snd.ourDataPos < umpSeqToRelativeViaSndstartseq snd snd.ourDataSeqBase then
    { snd with ourDataPos := umpSeqToRelativeViaSndstartseq snd snd.ourDataSeqBase }
  else snd

/-- Acknowledged timers are dropped and the round trip time is refreshed. -/
def acknowledgeTimers (s : SocketCore) (ackSeq : UInt16) : SocketCore :=
  let (entry, tmList) := tmAckPacket s.snd.tmList ackSeq s.snd.ourDataSent
  match entry with
  | none => { s with snd := { s.snd with tmList := tmList } }
  | some entry =>
      let rtt := umpTimeSub s.now entry.regTime
      let s := { s with snd := { s.snd with tmList := tmList } }.tick
      if rtt ≥ 0 ∧ ackSeq ≥ s.snd.ourBackPoint then
        { s with
          snd :=
            { s.snd with
              rtoCpt := rtoRefreshRtt s.snd.rtoCpt (if rtt = 0 then RTT_MIN_MS else rtt) } }
      else s

/-- What a new ack does once base and window are up to date. -/
def finishAck (s : SocketCore) (ackSeq : UInt16) : SocketCore :=
  let s := refreshCwnd s
  let s := { s with snd := skipAcknowledged s.snd }
  let s := acknowledgeTimers s ackSeq
  if umpCmpInSndbase s.snd ackSeq s.snd.ourMsgLastSeq > 0 then umpEndSend s true else s

/-- `ump_handle_data_ack`. -/
def umpHandleDataAck (s : SocketCore) (u_p : UMPPacket) : SocketCore :=
  if uPacketGetFlag u_p UP_DATA_ACK then
    let ackSeq := u_p.ackNum
    let s := { s with snd := fastRetransmit (countRepeatedAck s.snd ackSeq) }
    if ackInRange s.snd ackSeq then
      if ackDiff s.snd ackSeq > 0 then
        let s := { s with snd := advanceBase s.snd ackSeq }
        finishAck (umpHandleWndNotify s u_p) ackSeq
      else umpHandleWndNotify s u_p
    else s
  else umpHandleWndNotify s u_p

/-! ### Window probes -/

/-- The packet that asks for the window. -/
def reqWndPacket (snd : SendSide) : UMPPacket :=
  match snd.upReqWnd with
  | some u_p => uPacketToBinary u_p
  | none => uPacketToBinary (uPacketSetFlag (uPacketNew .data .outgoing) UP_DATA_REQWND)

/-- `ump_act_req_wnd`. -/
def umpActReqWnd (s : SocketCore) : SocketCore :=
  if s.snd.actReqWnd = false then s
  else
    let delay := umpTimeSub s.now s.snd.lastReqWndTime
    let s := s.tick
    if delay ≥ REQ_WND_DELAY then
      { s with snd := { s.snd with upReqWnd := some (reqWndPacket s.snd) } }.act
        (.sendto (reqWndPacket s.snd))
    else s

/-! ### Heartbeat -/

/-- `ump_handle_send_heartbeat`. -/
def umpHandleSendHeartbeat (s : SocketCore) : SocketCore :=
  if s.ctrl.state ≠ .established then s
  else
    let cur := s.now
    let s := s.tick
    if umpTimeSub cur s.lastHeartbeat > HEATTBEAT_INTERVAL then
      { s with ackInfo := umpSetOurAckInfo s.ackInfo false, lastHeartbeat := cur }
    else s

end UserMessageProtocol
