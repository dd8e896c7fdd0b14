import UserMessageProtocol.Foundation.Runs
import UserMessageProtocol.Socket.Connection
import UserMessageProtocol.Socket.Receiver

/-!
Contract: the socket thread and the machine it makes of a socket.

Owns: the events a socket takes (`SockEvent`), the machine of a socket in an
arbitrary environment, the queues of received packets, and one iteration of
`ump_sock_thread_func`.

The machine takes the handlers of an iteration in any order, so what holds of
its runs holds of all iterations.

Does not own: the handlers, and that iterations are runs of the machine
(`Socket.Iteration`).
-/

set_option autoImplicit false

namespace UserMessageProtocol

/-! ### Events -/

/-- What can happen to a socket: a user leaves a call, or the thread runs a handler. -/
inductive SockEvent where
  | userCtrl (method : UMPCallMethod)
  | userSend (data : List UInt8)
  | userReceive
  | handleCtrl
  | handleSend
  | handleReceive
  | bufferLoad (load : Nat)
  | ctrlPacket (p : UMPPacket)
  | dataPacket (p : UMPPacket)
  | dataTimeout
  | refreshRwnd
  | refreshAck
  | actReqWnd
  | ctrlTimeout
  | sendCtrlPacket
  | heartbeat
  | sendData
  | sendReset
deriving DecidableEq, Repr

/-- A user writes the parameters of a call only while it has their mutex, and
received packets are processed only before an error occured. -/
def sockEnabled {Lists : Type} (s : UMPSocket Lists) : SockEvent → Prop
  | .userCtrl method =>
      s.core.ctrl.ctrlParaLock = false ∧ (method = .connect ∨ method = .close)
  | .userSend data =>
      s.core.snd.sndParaLock = false ∧ data ≠ [] ∧ data.length < 2147483648 ∧
        s.core.snd.ourMss ≠ 0
  | .userReceive => s.core.rcv.recParaLock = false
  | .ctrlPacket p => s.core.ctrl.errorOccured = false ∧ p.pType = .control
  | .dataPacket p => s.core.ctrl.errorOccured = false ∧ p.pType = .data
  | _ => True

instance {Lists : Type} (s : UMPSocket Lists) (event : SockEvent) :
    Decidable (sockEnabled s event) := by
  cases event <;> unfold sockEnabled <;> infer_instance

section Machine

variable {Lists : Type} [ReceiveLists Lists]

/-- What an event does. -/
def sockStep (s : UMPSocket Lists) : SockEvent → UMPSocket Lists
  | .userCtrl method => { s with core := umpSockControlCall s.core method }
  | .userSend data => { s with core := umpSendMessage s.core data }
  | .userReceive => { s with core := umpSockReceive s.core }
  | .handleCtrl => { s with core := umpHandleCtrl s.core }
  | .handleSend => { s with core := umpHandleSend s.core }
  | .handleReceive => umpHandleReceive s
  | .bufferLoad load =>
      { s with core := { s.core with rcv := { s.core.rcv with bufferLoad := load } } }
  | .ctrlPacket p => { s with core := umpHandleCtrlPacket s.core p }
  | .dataPacket p => umpHandleDataPacket s p
  | .dataTimeout => { s with core := umpHandleDataTimeout s.core }
  | .refreshRwnd => { s with core := { s.core with rcv := umpRefreshOurRwndPos s.core.rcv } }
  | .refreshAck => { s with core := umpRefreshOurAckInfo s.core }
  | .actReqWnd => { s with core := umpActReqWnd s.core }
  | .ctrlTimeout => { s with core := umpHandleCtrlTimeout s.core }
  | .sendCtrlPacket => { s with core := umpHandleSendCtrlPacket s.core }
  | .heartbeat => { s with core := umpHandleSendHeartbeat s.core }
  | .sendData => { s with core := umpHandleSendData s.core }
  | .sendReset => { s with core := umpHandleSendResetPacket s.core }

variable (Lists) in
/-- A socket in an arbitrary environment. -/
def sockMachine : Machine (UMPSocket Lists) SockEvent where
  enabled := sockEnabled
  step := sockStep

instance (s : UMPSocket Lists) (event : SockEvent) :
    Decidable ((sockMachine Lists).enabled s event) :=
  inferInstanceAs (Decidable (sockEnabled s event))

variable (Lists) in
/-- `ump_sock_new`. -/
def umpSockNew (seq : UInt16) (clock : Clock) : UMPSocket Lists where
  core := umpSockNewCore seq clock
  lists := ReceiveLists.new

/-! ### The thread -/

/-- The packets received for a socket: the shared queues, oldest first, and the
thread's own lists. -/
structure PacketQueues where
  recControlPackets : List UMPPacket
  recDataPackets : List UMPPacket
  localCtrlPackets : List UMPPacket
  localDataPackets : List UMPPacket
deriving DecidableEq, Repr

/-- `ump_sock_fetch_received_packets`: one control packet at most, and data packets
up to the limit. -/
def umpSockFetchReceivedPackets (q : PacketQueues) : PacketQueues :=
  let q :=
    match q.localCtrlPackets, q.recControlPackets with
    | [], p :: rest => { q with localCtrlPackets := [p], recControlPackets := rest }
    | _, _ => q
  let room := LOCAL_DATA_PACKET_LIMIT.toNat + 1 - q.localDataPackets.length
  { q with
    localDataPackets := q.localDataPackets ++ q.recDataPackets.take room
    recDataPackets := q.recDataPackets.drop room }

/-- The loop of `ump_handle_ctrl_packet`: a packet with RST ends it. -/
def handleCtrlPackets (s : UMPSocket Lists) : List UMPPacket → UMPSocket Lists × List UMPPacket
  | [] => (s, [])
  | p :: rest =>
      let next := sockStep s (.ctrlPacket p)
      if uPacketGetFlag p UP_CTRL_RST then (next, rest) else handleCtrlPackets next rest

/-- The loop of `ump_handle_data_packet`. -/
def handleDataPackets (s : UMPSocket Lists) (packets : List UMPPacket) : UMPSocket Lists :=
  packets.foldl (fun s p => sockStep s (.dataPacket p)) s

/-- The handlers behind `ump_handle_data_packet`, in their order. -/
def timedEvents : List SockEvent :=
  [.dataTimeout, .refreshRwnd, .refreshAck, .actReqWnd, .ctrlTimeout, .sendCtrlPacket, .heartbeat,
    .sendData, .sendReset]

/-- One iteration of `ump_sock_thread_func`, up to the time it sleeps. -/
def umpSockThreadFunc (s : UMPSocket Lists) (q : PacketQueues) : UMPSocket Lists × PacketQueues :=
  let s := [.handleCtrl, .handleSend, .handleReceive].foldl sockStep s
  if s.core.ctrl.errorOccured then (s, q)
  else
    let q := umpSockFetchReceivedPackets q
    let s := sockStep s (.bufferLoad q.recDataPackets.length)
    let (s, localCtrlPackets) := handleCtrlPackets s q.localCtrlPackets
    let q := { q with localCtrlPackets := localCtrlPackets }
    if s.core.ctrl.errorOccured then (s, q)
    else
      let s := handleDataPackets s q.localDataPackets
      (timedEvents.foldl sockStep s, { q with localDataPackets := [] })

end Machine

end UserMessageProtocol
