import UserMessageProtocol.Core.Calls

/-!
Contract: a core as a machine.

Owns: the events of a core, each one what a thread does while it has `umps_lock`, one
return of a wait for `accept_ok`, or a step of a socket (`CoreEvent`), and the machine
of a core in an arbitrary environment.

The result of a control call of `ump_connect` and its time are left open, and so is
the time between the control call of `ump_close` and its critical section.

Does not own: what the events do (`Core.Calls`).
-/

set_option autoImplicit false

namespace UserMessageProtocol

/-- What can happen to a core. -/
inductive CoreEvent where
  | receive (d : RecData) (seq : UInt16) (clock : Clock)
  | connect (theirAddr : SockaddrIn) (seq : UInt16) (clock : Clock)
  | finishConnect (theirAddr : SockaddrIn) (id : SockId) (connectR : Bool)
  | acceptWait
  | accept (order : List SockId)
  | close (id : SockId)
  | clean (cur : SockId → GTimeVal)
  | fetch (id : SockId)
  | call (id : SockId) (event : SockEvent)
  | handle (id : SockId) (event : SockEvent)

section Sockets

/-- A handler of packets runs for the first packet of the thread's own list. -/
def packetReady (q : PacketQueues) : SockEvent → Prop
  | .ctrlPacket p => q.localCtrlPackets.head? = some p
  | .dataPacket p => q.localDataPackets.head? = some p
  | _ => True

instance (q : PacketQueues) (event : SockEvent) : Decidable (packetReady q event) :=
  match event with
  | .ctrlPacket _ => by unfold packetReady; infer_instance
  | .dataPacket _ => by unfold packetReady; infer_instance
  | .userCtrl .. | .userSend .. | .userReceive | .handleCtrl | .handleSend | .handleReceive |
    .bufferLoad .. | .dataTimeout | .refreshRwnd | .refreshAck | .actReqWnd | .ctrlTimeout |
    .sendCtrlPacket | .heartbeat | .sendData | .sendReset => instDecidableTrue

/-- The packet that was handled leaves that list. -/
def popPacket (q : PacketQueues) : SockEvent → PacketQueues
  | .ctrlPacket _ => { q with localCtrlPackets := q.localCtrlPackets.tail }
  | .dataPacket _ => { q with localDataPackets := q.localDataPackets.tail }
  | _ => q

/-- How often a socket set `accept_ok`. -/
def signals (s : SocketCore) : Nat := s.log.count .acceptable

variable {Lists : Type} [ReceiveLists Lists]

/-- An event of a socket; `accept_ok` is set when the socket sets it. -/
def stepSock (u_core : UMPCore Lists) (id : SockId) (event : SockEvent) : UMPCore Lists :=
  let sock := u_core.socks id
  let after := sockStep sock.socket event
  { u_core.setSock id
      { sock with socket := after, queues := popPacket sock.queues event } with
    acceptOk := u_core.acceptOk || signals sock.socket.core < signals after.core }

end Sockets

variable {Lists : Type} [ReceiveLists Lists]

/-- Users leave calls for the sockets they got, and `ump_connect` for the socket it has in
hand. A socket is closed once. -/
def coreEnabled (u_core : UMPCore Lists) : CoreEvent → Prop
  | .receive _ _ _ => True
  | .connect _ _ _ => True
  | .finishConnect theirAddr id _ => (theirAddr, id) ∈ u_core.connecting
  | .acceptWait => u_core.acceptOk = true
  | .accept order => 0 < u_core.passing ∧ order.Perm u_core.backlogUmps.values
  | .close id => id ∈ u_core.handed
  | .clean _ => True
  | .fetch id => u_core.Live id
  | .call id event =>
      u_core.Live id ∧ sockEnabled (u_core.socks id).socket event ∧ event.isUserCall = true ∧
        (id ∈ u_core.handed ∧ event ≠ .userCtrl .connect ∨
          id ∈ u_core.connecting.map Prod.snd ∧ event = .userCtrl .connect)
  | .handle id event =>
      u_core.Live id ∧ sockEnabled (u_core.socks id).socket event ∧ event.isUserCall = false ∧
        packetReady (u_core.socks id).queues event

instance (u_core : UMPCore Lists) (id : SockId) : Decidable (u_core.Live id) := by
  unfold UMPCore.Live
  infer_instance

instance (u_core : UMPCore Lists) (event : CoreEvent) : Decidable (coreEnabled u_core event) := by
  cases event <;> unfold coreEnabled <;> infer_instance

def coreStep (u_core : UMPCore Lists) : CoreEvent → UMPCore Lists
  | .receive d seq clock => (receiveThreadFunc u_core d seq clock).core
  | .connect theirAddr seq clock => umpConnect u_core theirAddr seq clock
  | .finishConnect theirAddr id connectR => finishConnect u_core theirAddr id connectR
  | .acceptWait => acceptWait u_core
  | .accept order => umpAccept u_core order
  | .close id => umpClose u_core id
  | .clean cur => cleanerPass u_core cur
  | .fetch id =>
      let sock := u_core.socks id
      u_core.setSock id { sock with queues := umpSockFetchReceivedPackets sock.queues }
  | .call id event => stepSock u_core id event
  | .handle id event => stepSock u_core id event

variable (Lists) in
/-- A core in an arbitrary environment. -/
def coreMachine : Machine (UMPCore Lists) CoreEvent where
  enabled := coreEnabled
  step := coreStep

instance (u_core : UMPCore Lists) (event : CoreEvent) :
    Decidable ((coreMachine Lists).enabled u_core event) :=
  inferInstanceAs (Decidable (coreEnabled u_core event))

end UserMessageProtocol
