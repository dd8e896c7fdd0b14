import UserMessageProtocol.Core.State

/-!
Contract: `receive_thread_func`, `cleaner_thread_func` and the connection calls of `ump.c`.

Owns: one round of the receive thread with the releases of the buffer it got
(`Receipt`), the two critical sections of `ump_connect`, the wait and the critical
section of `ump_accept`, the critical section of `ump_close`, and a pass of the
cleaner.

The new number and the clock of a socket are arguments of what creates it. The order in
which a hash table is gone through is an argument of what goes through it.

Does not own: the events of a core (`Core.Machine`).
-/

set_option autoImplicit false

namespace UserMessageProtocol

def UMP_CALM_MICROS : Int := 20000000

variable {Lists : Type} [ReceiveLists Lists]

/-! ### Sockets -/

/-- `ump_sock_new`. -/
def newSock (u_core : UMPCore Lists) (theirAddr : SockaddrIn) (seq : UInt16) (clock : Clock) :
    UMPCore Lists × SockId :=
  let id := u_core.created
  ({ u_core.setSock id ⟨theirAddr, umpSockNew Lists seq clock, ⟨[], [], [], []⟩⟩ with
      created := id + 1 }, id)

/-- `ump_sock_rec_ctrl_packets_space_available` and `ump_sock_rec_packets_space_available`. -/
def spaceAvailable (q : PacketQueues) : UMPPacketType → Bool
  | .control => q.recControlPackets = []
  | .data => q.recDataPackets.length < REC_QUEUE_LIMIT

/-! ### The receive thread -/

/-- A datagram that came in: its sender, its bytes, and what lies behind the buffer they
are copied to. -/
structure RecData where
  sender : SockaddrIn
  bytes : List UInt8
  behind : Nat → UInt8

/-- What a round of the receive thread does: the core behind it, how often it released
its buffer, whether the packet was queued, and to whom a reset was sent. -/
structure Receipt (Lists : Type) where
  core : UMPCore Lists
  released : Nat
  queued : Bool
  reset : Option SockaddrIn

/-- How often `u_packet_free` releases the buffer of a packet. -/
def uPacketFree (u_p : UMPPacket) : Nat := u_p.rawData.isSome.toNat

/-- How often a run of the decoder released the buffer. -/
def releases (log : List MemAccess) : Nat := log.count .free

/-- A control packet with SYN: the peer tries to connect. -/
def isConnectRequest (u_p : UMPPacket) : Bool :=
  u_p.pType = .control && uPacketGetFlag u_p UP_CTRL_SYN

/-- The socket a packet is for, and the core in which a new one was put into the backlog. -/
def receiver (u_core : UMPCore Lists) (sender : SockaddrIn) (u_p : UMPPacket) (seq : UInt16)
    (clock : Clock) : UMPCore Lists × Option SockId :=
  match u_core.findSock sender with
  | some id => (u_core, some id)
  | none =>
      if isConnectRequest u_p then
        let (u_core, id) := newSock u_core sender seq clock
        if u_core.backlogUmps.entries.length ≤ u_core.backlogLimit then
          ({ u_core with backlogUmps := u_core.backlogUmps.insert sender id }, some id)
        else (u_core.sockFree id, none)
      else (u_core, none)

/-- The packet is queued for its socket, or dropped when the queue is full. -/
def queuePacket (u_core : UMPCore Lists) (id : SockId) (u_p : UMPPacket) : Receipt Lists :=
  let sock := u_core.socks id
  if spaceAvailable sock.queues u_p.pType then
    ⟨u_core.setSock id { sock with queues := sock.queues.receive u_p }, 0, true, none⟩
  else ⟨u_core, uPacketFree u_p, false, none⟩

/-- One round of `receive_thread_func`. An empty datagram gives no buffer, since
`g_malloc(0)` is `NULL`. -/
def receiveThreadFunc (u_core : UMPCore Lists) (d : RecData) (seq : UInt16) (clock : Clock) :
    Receipt Lists :=
  if d.bytes = [] then ⟨u_core, 0, false, none⟩
  else
    let (u_p, log) := uPacketFromBinary d.bytes ⟨d.bytes, d.behind⟩
    match u_p with
    | none => ⟨u_core, releases log + 1, false, none⟩
    | some u_p =>
        let (u_core, u_sock) := receiver u_core d.sender u_p seq clock
        match u_sock with
        | none => ⟨u_core, releases log + uPacketFree u_p, false, some d.sender⟩
        | some id =>
            let receipt := queuePacket u_core id u_p
            { receipt with released := releases log + receipt.released }

/-! ### Connecting -/

/-- `ump_connect` up to the control call: it returns `NULL`, or calls the socket it put
into `act_connect`. -/
def umpConnect (u_core : UMPCore Lists) (theirAddr : SockaddrIn) (seq : UInt16) (clock : Clock) :
    UMPCore Lists :=
  let call (u_core : UMPCore Lists) (id : SockId) : UMPCore Lists :=
    { u_core with
      actConnect := u_core.actConnect.insert theirAddr id
      connecting := (theirAddr, id) :: u_core.connecting }
  if (u_core.actConnect.lookup theirAddr).isSome then u_core
  else if (u_core.umps.lookup theirAddr).isSome then u_core
  else if (u_core.closedUmps.lookup theirAddr).isSome then u_core
  else
    match u_core.backlogUmps.lookup theirAddr with
    | some id =>
        let state := (u_core.socks id).publicState
        let u_core := { u_core with backlogUmps := u_core.backlogUmps.erase theirAddr }
        if state = .closed ∨ state = .closing then u_core else call u_core id
    | none =>
        let (u_core, id) := newSock u_core theirAddr seq clock
        call u_core id

/-- `ump_connect` behind the control call with result `connectR`. -/
def finishConnect (u_core : UMPCore Lists) (theirAddr : SockaddrIn) (id : SockId)
    (connectR : Bool) : UMPCore Lists :=
  let u_core :=
    { u_core with
      actConnect := u_core.actConnect.erase theirAddr
      connecting := u_core.connecting.erase (theirAddr, id) }
  if connectR then
    { u_core with
      umps := u_core.umps.insert theirAddr id
      handed := id :: u_core.handed }
  else u_core.sockFree id

/-! ### Accepting -/

/-- `m_event_wait(accept_ok)` returns, and the event is reset. -/
def acceptWait (u_core : UMPCore Lists) : UMPCore Lists :=
  { u_core with acceptOk := false, passing := u_core.passing + 1 }

/-- One step of the search for the connection that was established first. -/
def earlier (u_core : UMPCore Lists) (u_s : Option SockId) (s : SockId) : Option SockId :=
  if (u_core.socks s).publicState = .established then
    match u_s with
    | none => some s
    | some u =>
        if umpTimeSub (u_core.socks u).socket.core.ctrl.connectTime
            (u_core.socks s).socket.core.ctrl.connectTime > 0 then some s
        else some u
  else u_s

/-- The critical section of `ump_accept`; `order` is that of the iteration over the
backlog. -/
def umpAccept (u_core : UMPCore Lists) (order : List SockId) : UMPCore Lists :=
  let u_core := { u_core with passing := u_core.passing - 1 }
  match order.foldl (earlier u_core) none with
  | none => u_core
  | some id =>
      let remotePeer := (u_core.socks id).theirAddr
      { u_core with
        backlogUmps := u_core.backlogUmps.erase remotePeer
        umps := u_core.umps.insert remotePeer id
        handed := id :: u_core.handed }

/-! ### Closing -/

/-- The critical section of `ump_close`. The last lookup is in `umps`, as in the source. -/
def umpClose (u_core : UMPCore Lists) (id : SockId) : UMPCore Lists :=
  let remotePeer := (u_core.socks id).theirAddr
  let u_core :=
    { u_core with
      actConnect := u_core.actConnect.erase remotePeer
      backlogUmps := u_core.backlogUmps.erase remotePeer
      umps := u_core.umps.erase remotePeer
      handed := u_core.handed.erase id }
  match u_core.umps.lookup remotePeer with
  | none => { u_core with closedUmps := u_core.closedUmps.insert remotePeer id }
  | some other => if other ≠ id then u_core.sockFree id else u_core

/-- The test of `ump_clean_closed_sock`; `cur` is the time it reads. -/
def toClean (u_core : UMPCore Lists) (cur : SockId → GTimeVal) (id : SockId) : Bool :=
  (u_core.socks id).publicState = .closed &&
    umpTimeSub (gTimeValAdd (cur id) (-UMP_CALM_MICROS))
      (u_core.socks id).socket.core.ctrl.closeTime ≥ 0

/-- A pass of `cleaner_thread_func`. -/
def cleanerPass (u_core : UMPCore Lists) (cur : SockId → GTimeVal) : UMPCore Lists :=
  let removed (table : SockTable) : List SockId := table.values.filter (toClean u_core cur)
  { u_core with
    closedUmps := foreachRemove u_core.closedUmps (toClean u_core cur)
    backlogUmps := foreachRemove u_core.backlogUmps (toClean u_core cur)
    freed := removed u_core.backlogUmps ++ removed u_core.closedUmps ++ u_core.freed }

end UserMessageProtocol
