import UserMessageProtocol.Socket.ReceiveLists
import UserMessageProtocol.Socket.Sender

/-!
Contract: the receiving half of `ump_sock.c`.

Owns: `ump_established_handle_data_packet` and the data handlers of the other
states, `ump_harvest_messages`, `ump_check_rcv_data_so_far`, receive calls, and
the advertised window.

Does not own: the lists themselves (`Socket.ReceiveLists`).
-/

set_option autoImplicit false

namespace UserMessageProtocol

/-- `ump_refresh_our_rwnd_pos`. -/
def umpRefreshOurRwndPos (rcv : ReceiveSide) : ReceiveSide :=
  if rcv.rcvPacketsMsgNum > 0 ∨ rcv.bufferLoad > REC_QUEUE_LIMIT / 2 then
    { rcv with
      ourRwnd :=
        UInt16.ofInt
          (min (rcv.ourRwnd.toNat : Int)
            (umpCmpInRcvbase rcv rcv.ourRwndPosSeq rcv.theirDataSeqBase) + 1) }
  else
    let ourRwnd := UInt16.ofNat (REC_QUEUE_LIMIT / 2)
    { rcv with
      ourRwnd := ourRwnd
      ourRwndPosSeq := umpRelativeToSeqViaRcvseq rcv ((ourRwnd.toNat : Int) - 1) }

/-- `ump_sock_receive`: the call is left for the socket thread. -/
def umpSockReceive (s : SocketCore) : SocketCore :=
  { s with rcv := { s.rcv with receiveCalled := true } }

section Lists

variable {Lists : Type} [ReceiveLists Lists]

/-- `ump_harvest_messages`. -/
def umpHarvestMessages (s : UMPSocket Lists) : UMPSocket Lists :=
  let msgNum := s.core.rcv.rcvPacketsMsgNum - 1
  { core := { s.core with rcv := { s.core.rcv with rcvPacketsMsgNum := msgNum } }
    lists := ReceiveLists.harvest (!(msgNum < 1)) s.lists }

/-- `ump_end_receive_internal`. -/
def umpEndReceiveInternal (s : UMPSocket Lists) : UMPSocket Lists :=
  let packets := (ReceiveLists.recMsgPackets s.lists).getD []
  let s : UMPSocket Lists :=
    { core := { s.core with rcv := { s.core.rcv with recMsg := packets.flatMap (·.userData) } }
      lists := ReceiveLists.freeRecMsgPackets s.lists }
  let s := if s.core.rcv.rcvPacketsMsgNum ≥ 1 then umpHarvestMessages s else s
  { s with core := { s.core with ackInfo := umpSetOurAckInfo s.core.ackInfo true } }

/-- The end of a receive call that has its message. -/
def finishReceive (s : UMPSocket Lists) : UMPSocket Lists :=
  let packets := (ReceiveLists.recMsgPackets s.lists).getD []
  let s := umpEndReceiveInternal s
  { s with
    core :=
      { s.core with
        rcv := { s.core.rcv with recOk := true, receiveCalled := false, recParaLock := false } }.act
        (.received packets (some s.core.rcv.recMsg)) }

/-- `ump_end_receive(u_sock, TRUE)`. -/
def umpEndReceive (s : UMPSocket Lists) : UMPSocket Lists :=
  match s.core.rcv.recLocked with
  | .unlocked => s
  | .locked =>
      finishReceive
        { s with core := { s.core with rcv := { s.core.rcv with recLocked := .unlocked } } }

/-- `ump_handle_receive`: the locked state does nothing. -/
def umpHandleReceive (s : UMPSocket Lists) : UMPSocket Lists :=
  match s.core.rcv.recLocked with
  | .locked => s
  | .unlocked =>
      if s.core.rcv.recParaLock then s
      else if s.core.rcv.receiveCalled = false then s
      else if (ReceiveLists.recMsgPackets s.lists).isSome then finishReceive s
      else if s.core.ctrl.state ≠ .established ∨ s.core.ctrl.errorOccured then
        { s with
          core :=
            { s.core with rcv := { s.core.rcv with recOk := false, receiveCalled := false } }.act
              (.received [] none) }
      else
        { s with
          core :=
            { s.core with rcv := { s.core.rcv with recParaLock := true, recLocked := .locked } } }

/-- `ump_check_rcv_data_so_far`. -/
def umpCheckRcvDataSoFar (s : UMPSocket Lists) : UMPSocket Lists :=
  if (ReceiveLists.soFarPacket s.lists).any (uPacketGetFlag · UP_DATA_BDR) then
    let msgNum := s.core.rcv.rcvPacketsMsgNum + 1
    let s : UMPSocket Lists :=
      { core := { s.core with rcv := { s.core.rcv with rcvPacketsMsgNum := msgNum } }
        lists := if msgNum = 1 then ReceiveLists.markFirstMsgEnd s.lists else s.lists }
    if (ReceiveLists.recMsgPackets s.lists).isNone then umpEndReceive (umpHarvestMessages s) else s
  else s

/-- The end of `ump_established_handle_data_packet`, from the loop on;
`checkIfGetMsg` says whether `rcv_data_so_far` was just set. -/
def advanceTheirBase (s : UMPSocket Lists) (checkIfGetMsg : Bool) : UMPSocket Lists :=
  let (lists, moved) := ReceiveLists.advanceSoFar s.lists
  let theirBase := match ReceiveLists.soFarPacket lists with
    | some last => last.seqNum + 1
    | none => s.core.rcv.theirDataSeqBase
  let s : UMPSocket Lists :=
    { core := { s.core with rcv := { s.core.rcv with theirDataSeqBase := theirBase } }
      lists := lists }
  if checkIfGetMsg || moved then umpCheckRcvDataSoFar s else s

/-- What `ump_established_handle_data_packet` does behind the insertion. -/
def takeInOrder (s : UMPSocket Lists) : UMPSocket Lists :=
  match ReceiveLists.soFarPacket s.lists with
  | some _ => advanceTheirBase s false
  | none =>
      if (ReceiveLists.firstPacket s.lists).any (·.seqNum = s.core.rcv.theirDataSeqBase) then
        advanceTheirBase { s with lists := ReceiveLists.startSoFar s.lists } true
      else s

/-- `ump_established_handle_data_packet` behind the ack and the tests on the number. -/
def storePacket (s : UMPSocket Lists) (p : UMPPacket) : UMPSocket Lists :=
  match ReceiveLists.insertPacket (umpCmpInRcvbase s.core.rcv) p s.lists with
  | none => s
  | some lists => takeInOrder { s with lists := lists }

/-- A numbered packet that is not before the base. -/
def inReceiveRange (rcv : ReceiveSide) (p : UMPPacket) : Bool :=
  uPacketGetFlag p UP_DATA_SEQ && !(umpCmpInRcvbase rcv p.seqNum rcv.theirDataSeqBase < 0)

theorem inReceiveRange_iff {rcv : ReceiveSide} {p : UMPPacket} :
    inReceiveRange rcv p = true ↔ uPacketGetFlag p UP_DATA_SEQ ∧
      ¬ umpCmpInRcvbase rcv p.seqNum rcv.theirDataSeqBase < 0 := by
  simp only [inReceiveRange, Bool.and_eq_true, Bool.not_eq_true', decide_eq_false_iff_not]

/-- `ump_established_handle_data_packet`. -/
def umpEstablishedHandleDataPacket (s : UMPSocket Lists) (p : UMPPacket) : UMPSocket Lists :=
  let s := { s with core := umpHandleDataAck s.core p }
  if inReceiveRange s.core.rcv p then storePacket s p else s

/-- One round of `ump_handle_data_packet`: a numbered packet asks for an ack, then
the handler of the state runs; all states but connecting handle acks. -/
def umpHandleDataPacket (s : UMPSocket Lists) (p : UMPPacket) : UMPSocket Lists :=
  let s :=
    if uPacketGetFlag p UP_DATA_SEQ then
      { s with core := { s.core with ackInfo := umpSetOurAckInfo s.core.ackInfo false } }
    else s
  match s.core.ctrl.state with
  | .closed => { s with core := umpHandleDataAck s.core p }
  | .connecting => s
  | .established => umpEstablishedHandleDataPacket s p
  | .closing => { s with core := umpHandleDataAck s.core p }

end Lists

end UserMessageProtocol
