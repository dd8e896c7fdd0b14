import UserMessageProtocol.Core.Entries

/-!
Contract: the life of each socket of a core.

Owns: what an event of the core is for one of its sockets (`lifeStep`, `arrival`,
`SockTurn`), and the theorem that the life of every socket, from its creation on, is a run
of the machine of a socket that handles the packets queued for it once each and in their
order, with queues that are bounded (`livesApart_of_run`).

Does not own: the tables (Core.Registry), nor what a socket does (Socket.Thread).
-/

set_option autoImplicit false

namespace UserMessageProtocol

variable {Lists : Type}

/-! ### One socket -/

theorem findSock_some {u_core : UMPCore Lists} {address : SockaddrIn} {id : SockId}
    (found : u_core.findSock address = some id) : ∃ name, u_core.tables name address = some id := by
  unfold UMPCore.findSock at found
  simp only [Option.or_eq_some_iff] at found
  rcases found with there | ⟨-, there | ⟨-, there | ⟨-, there⟩⟩⟩
  · exact ⟨.umps, there⟩
  · exact ⟨.backlogUmps, there⟩
  · exact ⟨.actConnect, there⟩
  · exact ⟨.closedUmps, there⟩

/-- What an event of the core makes one socket do. -/
def lifeStep (id : SockId) : CoreEvent → List SockEvent
  | .call other event | .handle other event => if other = id then [event] else []
  | _ => []

section

variable [ReceiveLists Lists]

/-- The packet that a round of the receive thread queues, and the socket it is for. -/
def arrival (u_core : UMPCore Lists) : CoreEvent → Option (SockId × UMPPacket)
  | .receive d seq clock =>
      if d.bytes = [] then none
      else
        (uPacketFromBinary d.bytes ⟨d.bytes, d.behind⟩).1.bind fun u_p =>
          let found := receiver u_core d.sender u_p seq clock
          found.2.bind fun id =>
            if spaceAvailable (found.1.socks id).queues u_p.pType then some (id, u_p) else none
  | _ => none

/-- The packets that arrive for one socket. -/
def arrivals (u_core : UMPCore Lists) (event : CoreEvent) (id : SockId) : List UMPPacket :=
  match arrival u_core event with
  | some (other, u_p) => if other = id then [u_p] else []
  | none => []

/-- How one event of the core changes a socket: not at all, by a packet that is queued, by a
fetch of its thread, or by a step of the socket. -/
inductive SockTurn (sock : CoreSock Lists) :
    List SockEvent → List UMPPacket → CoreSock Lists → Prop where
  | none : SockTurn sock [] [] sock
  | queue {u_p : UMPPacket} (space : spaceAvailable sock.queues u_p.pType = true) :
      SockTurn sock [] [u_p] { sock with queues := sock.queues.receive u_p }
  | fetch : SockTurn sock [] [] { sock with queues := umpSockFetchReceivedPackets sock.queues }
  | event {event : SockEvent} (enabled : sockEnabled sock.socket event)
      (ready : packetReady sock.queues event) :
      SockTurn sock [event] []
        { sock with
          socket := sockStep sock.socket event
          queues := popPacket sock.queues event }

/-- `ump_sock_new`. -/
def bornSock (Lists : Type) [ReceiveLists Lists] (theirAddr : SockaddrIn) (seq : UInt16)
    (clock : Clock) : CoreSock Lists :=
  ⟨theirAddr, umpSockNew Lists seq clock, ⟨[], [], [], []⟩⟩

variable {u_core : UMPCore Lists}

theorem stepSock_turn {id : SockId} {event : SockEvent}
    (enabled : sockEnabled (u_core.socks id).socket event)
    (ready : packetReady (u_core.socks id).queues event) (other : SockId) :
    SockTurn (u_core.socks other) (if id = other then [event] else []) []
      ((stepSock u_core id event).socks other) := by
  by_cases here : id = other
  · subst here
    have stepped : (stepSock u_core id event).socks id = _ := Function.update_self ..
    rw [if_pos rfl, stepped]
    exact .event enabled ready
  · have same : (stepSock u_core id event).socks other = u_core.socks other :=
      Function.update_of_ne (Ne.symm here) ..
    rw [if_neg here, same]
    exact .none

theorem queuePacket_turn (id : SockId) (u_p : UMPPacket) (other : SockId) :
    SockTurn (u_core.socks other)
      [] (if spaceAvailable (u_core.socks id).queues u_p.pType = true ∧ id = other then [u_p] else [])
      ((queuePacket u_core id u_p).core.socks other) := by
  unfold queuePacket
  dsimp only
  by_cases space : spaceAvailable (u_core.socks id).queues u_p.pType = true
  · rw [if_pos space]
    by_cases here : id = other
    · subst here
      have queued : (u_core.setSock id
          { u_core.socks id with queues := (u_core.socks id).queues.receive u_p }).socks id = _ :=
        Function.update_self ..
      rw [if_pos ⟨space, rfl⟩]
      dsimp only
      rw [queued]
      exact .queue space
    · have same : (u_core.setSock id
          { u_core.socks id with queues := (u_core.socks id).queues.receive u_p }).socks other =
            u_core.socks other := Function.update_of_ne (Ne.symm here) ..
      rw [if_neg fun both => here both.2]
      dsimp only
      rw [same]
      exact .none
  · rw [if_neg space, if_neg fun both => space both.1]
    exact .none

omit [ReceiveLists Lists] in
theorem queuePacket_created (id : SockId) (u_p : UMPPacket) :
    (queuePacket u_core id u_p).core.created = u_core.created := by
  unfold queuePacket
  dsimp only
  split <;> rfl

/-- How an event of the core changes a socket that is there, and what it makes of a number
that no socket has yet. -/
structure SockTurns (u_core : UMPCore Lists) (event : CoreEvent) (after : UMPCore Lists) (id : SockId) :
    Prop where
  created : u_core.created ≤ after.created
  old : id < u_core.created →
    SockTurn (u_core.socks id) (lifeStep id event) (arrivals u_core event id) (after.socks id)
  idle : u_core.created ≤ id → lifeStep id event = []
  born : u_core.created ≤ id → id < after.created → ∃ theirAddr seq clock,
    SockTurn (bornSock Lists theirAddr seq clock) [] (arrivals u_core event id) (after.socks id)
  unborn : after.created ≤ id → arrivals u_core event id = []

/-- An event that leaves the sockets alone. -/
theorem SockTurns.kept {event : CoreEvent} {after : UMPCore Lists} {id : SockId}
    (socks : after.socks = u_core.socks) (created : after.created = u_core.created)
    (life : lifeStep id event = []) (none : arrivals u_core event id = []) :
    SockTurns u_core event after id where
  created := Nat.le_of_eq created.symm
  old := by
    intro _
    rw [life, none, socks]
    exact .none
  idle := fun _ => life
  born := by
    intro first second
    rw [created] at second
    exact absurd second (Nat.not_lt.mpr first)
  unborn := fun _ => none

/-- A packet for a socket that the receive thread found or made. -/
theorem arrivals_receive {d : RecData} {seq : UInt16} {clock : Clock} {u_p : UMPPacket}
    {w : UMPCore Lists} {found : SockId} (some : d.bytes ≠ [])
    (decoded : (uPacketFromBinary d.bytes ⟨d.bytes, d.behind⟩).1 = .some u_p)
    (received : receiver u_core d.sender u_p seq clock = (w, .some found)) (id : SockId) :
    arrivals u_core (.receive d seq clock) id =
      if spaceAvailable (w.socks found).queues u_p.pType = true ∧ found = id then [u_p] else [] := by
  simp only [arrivals, arrival, if_neg some, decoded, Option.bind_some, received]
  by_cases space : spaceAvailable (w.socks found).queues u_p.pType = true
  · rw [if_pos space]
    simp only [space, true_and]
  · rw [if_neg space, if_neg fun both => space both.1]

theorem arrivals_receive_none {d : RecData} {seq : UInt16} {clock : Clock} {u_p : UMPPacket}
    {w : UMPCore Lists} (some : d.bytes ≠ [])
    (decoded : (uPacketFromBinary d.bytes ⟨d.bytes, d.behind⟩).1 = .some u_p)
    (received : receiver u_core d.sender u_p seq clock = (w, none)) (id : SockId) :
    arrivals u_core (.receive d seq clock) id = [] := by
  simp only [arrivals, arrival, if_neg some, decoded, Option.bind_some, received, Option.bind_none]

/-- A new socket is made, and perhaps a packet queued for it. -/
theorem newSock_turns {event : CoreEvent} {after : UMPCore Lists} {id : SockId}
    {theirAddr : SockaddrIn} {seq : UInt16} {clock : Clock} (life : lifeStep id event = [])
    (unborn : u_core.created + 1 ≤ id → arrivals u_core event id = [])
    (created : after.created = u_core.created + 1)
    (turn : SockTurn ((newSock u_core theirAddr seq clock).1.socks id) []
      (arrivals u_core event id) (after.socks id)) :
    SockTurns u_core event after id where
  created := by
    rw [created]
    exact Nat.le_succ _
  old := by
    intro there
    rw [newSock_socks (Nat.ne_of_lt there)] at turn
    rw [life]
    exact turn
  idle := fun _ => life
  born := by
    intro first second
    rw [created] at second
    have new : id = u_core.created := Nat.le_antisymm (Nat.le_of_lt_succ second) first
    have made : (newSock u_core theirAddr seq clock).1.socks id =
        bornSock Lists theirAddr seq clock := by
      rw [new]
      exact Function.update_self ..
    rw [made] at turn
    exact ⟨theirAddr, seq, clock, turn⟩
  unborn := by
    intro later
    rw [created] at later
    exact unborn later

section

variable {d : RecData} {seq : UInt16} {clock : Clock}

/-- Bytes that are no packet leave the core alone. -/
theorem receiveThreadFunc_refused (empty : ¬d.bytes = [])
    (refused : (uPacketFromBinary d.bytes ⟨d.bytes, d.behind⟩).1 = none) :
    (receiveThreadFunc u_core d seq clock).core = u_core := by
  unfold receiveThreadFunc
  rw [if_neg empty]
  dsimp only
  generalize uPacketFromBinary d.bytes ⟨d.bytes, d.behind⟩ = decoded at refused
  obtain ⟨packet, trace⟩ := decoded
  subst refused
  rfl

/-- A packet goes where `receiver` says. -/
theorem receiveThreadFunc_decoded {u_p : UMPPacket} {found : Option SockId}
    {after : UMPCore Lists} (empty : ¬d.bytes = [])
    (decoded : (uPacketFromBinary d.bytes ⟨d.bytes, d.behind⟩).1 = some u_p)
    (received : receiver u_core d.sender u_p seq clock = (after, found)) :
    (receiveThreadFunc u_core d seq clock).core =
      found.elim after fun id => (queuePacket after id u_p).core := by
  unfold receiveThreadFunc
  rw [if_neg empty]
  dsimp only
  generalize uPacketFromBinary d.bytes ⟨d.bytes, d.behind⟩ = result at decoded
  obtain ⟨packet, trace⟩ := result
  subst decoded
  dsimp only
  rw [received]
  cases found with
  | none => rfl
  | some id => rfl

end

theorem receiveThreadFunc_turns (registry : Registry u_core) (d : RecData) (seq : UInt16)
    (clock : Clock) (id : SockId) :
    SockTurns u_core (.receive d seq clock) (receiveThreadFunc u_core d seq clock).core id := by
  by_cases empty : d.bytes = []
  · have same : (receiveThreadFunc u_core d seq clock).core = u_core := by
      unfold receiveThreadFunc
      rw [if_pos empty]
    rw [same]
    exact SockTurns.kept rfl rfl rfl (by simp only [arrivals, arrival, if_pos empty])
  cases decoded : (uPacketFromBinary d.bytes ⟨d.bytes, d.behind⟩).1 with
  | none =>
      rw [receiveThreadFunc_refused empty decoded]
      apply SockTurns.kept rfl rfl rfl
      simp only [arrivals, arrival, if_neg empty, decoded, Option.bind_none]
  | some u_p =>
      rcases receiver_cases u_core d.sender u_p seq clock with
        ⟨found, received, inTable⟩ | ⟨-, ⟨received, -⟩ | ⟨-, received | received⟩⟩
      · have known : found < u_core.created := by
          obtain ⟨name, there⟩ := findSock_some inTable
          exact (registry.keyed.owner there).2.1
        have comes := arrivals_receive empty decoded received id
        rw [receiveThreadFunc_decoded empty decoded received, Option.elim_some]
        refine ⟨Nat.le_of_eq (queuePacket_created ..).symm, ?_, fun _ => rfl, ?_, ?_⟩
        · intro _
          rw [comes]
          exact queuePacket_turn found u_p id
        · intro first second
          rw [queuePacket_created] at second
          exact absurd second (Nat.not_lt.mpr first)
        · intro unborn
          rw [queuePacket_created] at unborn
          rw [comes, if_neg]
          rintro ⟨-, rfl⟩
          exact absurd known (Nat.not_lt.mpr unborn)
      · rw [receiveThreadFunc_decoded empty decoded received]
        exact SockTurns.kept rfl rfl rfl (arrivals_receive_none empty decoded received id)
      · have comes := arrivals_receive empty decoded received id
        rw [receiveThreadFunc_decoded empty decoded received]
        let accepted : UMPCore Lists := { (newSock u_core d.sender seq clock).1 with
          backlogUmps := u_core.backlogUmps.insert d.sender u_core.created }
        have turn : SockTurn (accepted.socks id) [] _
            ((queuePacket accepted u_core.created u_p).core.socks id) :=
          queuePacket_turn u_core.created u_p id
        rw [← comes] at turn
        refine newSock_turns rfl ?_ (queuePacket_created ..) turn
        intro later
        rw [comes, if_neg]
        rintro ⟨-, rfl⟩
        exact absurd later (Nat.not_succ_le_self _)
      · have comes := arrivals_receive_none empty decoded received id
        rw [receiveThreadFunc_decoded empty decoded received]
        have turn : SockTurn ((newSock u_core d.sender seq clock).1.socks id) []
            (arrivals u_core (.receive d seq clock) id)
            (((newSock u_core d.sender seq clock).1.sockFree u_core.created).socks id) := by
          rw [comes]
          exact .none
        exact newSock_turns rfl (fun _ => comes) rfl turn

theorem umpConnect_turns (theirAddr : SockaddrIn) (seq : UInt16) (clock : Clock) (id : SockId) :
    SockTurns u_core (.connect theirAddr seq clock) (umpConnect u_core theirAddr seq clock) id := by
  have same {w : UMPCore Lists} (socks : w.socks = u_core.socks)
      (created : w.created = u_core.created) : SockTurns u_core (.connect theirAddr seq clock) w id :=
    SockTurns.kept socks created rfl rfl
  unfold umpConnect
  split
  · exact same rfl rfl
  split
  · exact same rfl rfl
  split
  · exact same rfl rfl
  split
  · dsimp only
    split
    · exact same rfl rfl
    · exact same rfl rfl
  · have turn : SockTurn ((newSock u_core theirAddr seq clock).1.socks id) []
        (arrivals u_core (.connect theirAddr seq clock) id)
        ((newSock u_core theirAddr seq clock).1.socks id) := .none
    exact newSock_turns rfl (fun _ => rfl) rfl turn

theorem coreStep_turns {event : CoreEvent} (registry : Registry u_core)
    (enabled : coreEnabled u_core event) (id : SockId) :
    SockTurns u_core event (coreStep u_core event) id := by
  have stepped {owner : SockId} {made : SockEvent} (live : u_core.Live owner)
      (able : sockEnabled (u_core.socks owner).socket made)
      (ready : packetReady (u_core.socks owner).queues made)
      (life : lifeStep id event = if owner = id then [made] else [])
      (none : arrivals u_core event id = []) :
      SockTurns u_core event (stepSock u_core owner made) id := by
    refine ⟨Nat.le_refl _, ?_, ?_, ?_, fun _ => none⟩
    · intro _
      rw [life, none]
      exact stepSock_turn able ready id
    · intro unborn
      rw [life, if_neg]
      rintro rfl
      exact absurd live.1 (Nat.not_lt.mpr unborn)
    · intro first second
      exact absurd second (Nat.not_lt.mpr first)
  cases event with
  | receive d seq clock => exact receiveThreadFunc_turns registry d seq clock id
  | connect theirAddr seq clock => exact umpConnect_turns theirAddr seq clock id
  | finishConnect theirAddr owner connectR =>
      cases connectR with
      | true => exact SockTurns.kept rfl rfl rfl rfl
      | false => exact SockTurns.kept rfl rfl rfl rfl
  | acceptWait => exact SockTurns.kept rfl rfl rfl rfl
  | accept order =>
      have same : (umpAccept u_core order).socks = u_core.socks ∧
          (umpAccept u_core order).created = u_core.created := by
        unfold umpAccept
        dsimp only
        split <;> exact ⟨rfl, rfl⟩
      exact SockTurns.kept same.1 same.2 rfl rfl
  | close owner =>
      have same : (umpClose u_core owner).socks = u_core.socks ∧
          (umpClose u_core owner).created = u_core.created := by
        unfold umpClose
        dsimp only
        rw [AList.lookup_erase]
        exact ⟨rfl, rfl⟩
      exact SockTurns.kept same.1 same.2 rfl rfl
  | clean cur => exact SockTurns.kept rfl rfl rfl rfl
  | fetch owner =>
      refine ⟨Nat.le_refl _, ?_, fun _ => rfl,
        fun first second => absurd second (Nat.not_lt.mpr first), fun _ => rfl⟩
      intro _
      by_cases here : id = owner
      · rw [here]
        have fetched : (coreStep u_core (.fetch owner)).socks owner = _ := Function.update_self ..
        rw [fetched]
        exact .fetch
      · have same : (coreStep u_core (.fetch owner)).socks id = u_core.socks id :=
          Function.update_of_ne here ..
        rw [same]
        exact .none
  | call owner made =>
      obtain ⟨live, able, isCall, -⟩ := enabled
      have ready : packetReady (u_core.socks owner).queues made := by
        cases made with
        | ctrlPacket p | dataPacket p => cases isCall
        | _ => trivial
      exact stepped live able ready rfl rfl
  | handle owner made =>
      obtain ⟨live, able, -, ready⟩ := enabled
      exact stepped live able ready rfl rfl

/-! ### Queues -/

/-- The bounds of the queues: `ump_sock_rec_ctrl_packets_space_available`,
`ump_sock_rec_packets_space_available` and the two loops of
`ump_sock_fetch_received_packets`. -/
structure PacketQueues.Bounded (q : PacketQueues) : Prop where
  recControl : q.recControlPackets.length ≤ 1
  recData : q.recDataPackets.length ≤ REC_QUEUE_LIMIT
  localCtrl : q.localCtrlPackets.length ≤ 1
  localData : q.localDataPackets.length ≤ LOCAL_DATA_PACKET_LIMIT.toNat + 1

omit [ReceiveLists Lists] in
theorem PacketQueues.Bounded.receive {q : PacketQueues} (bounded : q.Bounded) {u_p : UMPPacket}
    (space : spaceAvailable q u_p.pType = true) : (q.receive u_p).Bounded := by
  obtain ⟨recControl, recData, localCtrl, localData⟩ := bounded
  unfold PacketQueues.receive
  cases type : u_p.pType with
  | control =>
      rw [type] at space
      have empty : q.recControlPackets = [] := of_decide_eq_true space
      refine ⟨?_, recData, localCtrl, localData⟩
      simp [empty]
  | data =>
      rw [type] at space
      have room : q.recDataPackets.length < REC_QUEUE_LIMIT := of_decide_eq_true space
      refine ⟨recControl, ?_, localCtrl, localData⟩
      rw [List.length_append]
      exact room

omit [ReceiveLists Lists] in
theorem PacketQueues.Bounded.fetch {q : PacketQueues} (bounded : q.Bounded) :
    (umpSockFetchReceivedPackets q).Bounded := by
  obtain ⟨recControl, recData, localCtrl, localData⟩ := bounded
  have taken : (q.localDataPackets ++ q.recDataPackets.take
      (LOCAL_DATA_PACKET_LIMIT.toNat + 1 - q.localDataPackets.length)).length ≤
        LOCAL_DATA_PACKET_LIMIT.toNat + 1 := by
    rw [List.length_append, List.length_take]
    omega
  have left : (q.recDataPackets.drop
      (LOCAL_DATA_PACKET_LIMIT.toNat + 1 - q.localDataPackets.length)).length ≤
        REC_QUEUE_LIMIT := by
    rw [List.length_drop]
    omega
  unfold umpSockFetchReceivedPackets
  dsimp only
  split
  · rename_i p rest empty waiting
    rw [waiting, List.length_cons] at recControl
    exact ⟨by dsimp only; omega, left, Nat.le_refl _, taken⟩
  · exact ⟨recControl, left, localCtrl, taken⟩

omit [ReceiveLists Lists] in
theorem PacketQueues.Bounded.pop {q : PacketQueues} (bounded : q.Bounded) (event : SockEvent) :
    (popPacket q event).Bounded := by
  obtain ⟨recControl, recData, localCtrl, localData⟩ := bounded
  have shorter (packets : List UMPPacket) : packets.tail.length ≤ packets.length := by
    rw [List.length_tail]
    exact Nat.sub_le _ _
  cases event with
  | ctrlPacket p => exact ⟨recControl, recData, (shorter _).trans localCtrl, localData⟩
  | dataPacket p => exact ⟨recControl, recData, localCtrl, (shorter _).trans localData⟩
  | _ => exact ⟨recControl, recData, localCtrl, localData⟩

theorem PacketQueues.Bounded.turn {sock sock' : CoreSock Lists} {events : List SockEvent}
    {packets : List UMPPacket} (bounded : sock.queues.Bounded)
    (turn : SockTurn sock events packets sock') : sock'.queues.Bounded := by
  cases turn with
  | none => exact bounded
  | queue space => exact bounded.receive space
  | fetch => exact bounded.fetch
  | event enabled ready => exact bounded.pop _

/-! ### Whole lives -/

/-- What happened to one socket: what it was made to do, and the packets queued for it. -/
structure Life where
  events : List SockEvent
  arrived : List UMPPacket

/-- The packets of one type that a socket handled. -/
def handledPackets (type : UMPPacketType) (events : List SockEvent) : List UMPPacket :=
  events.filterMap fun event =>
    match type, event with
    | .control, .ctrlPacket p => some p
    | .data, .dataPacket p => some p
    | _, _ => none

/-- The packets of one type that a socket has still to handle, first come first. -/
def PacketQueues.pending (q : PacketQueues) : UMPPacketType → List UMPPacket
  | .control => q.localCtrlPackets ++ q.recControlPackets
  | .data => q.localDataPackets ++ q.recDataPackets

/-- The life of a socket is a run of its machine from its creation; the packets queued for it
are those it handled, in that order, followed by those still in its queues, which are bounded. -/
structure Lived (sock : CoreSock Lists) (life : Life) : Prop where
  alone : ∃ seq clock, (sockMachine Lists).Run (umpSockNew Lists seq clock) life.events sock.socket
  packets : ∀ type, life.arrived.filter (fun p => p.pType = type) =
    handledPackets type life.events ++ sock.queues.pending type
  bounded : sock.queues.Bounded

theorem lived_born (theirAddr : SockaddrIn) (seq : UInt16) (clock : Clock) :
    Lived (bornSock Lists theirAddr seq clock) ⟨[], []⟩ where
  alone := ⟨seq, clock, .stay⟩
  packets := by
    intro type
    cases type <;> rfl
  bounded := ⟨Nat.zero_le _, Nat.zero_le _, Nat.zero_le _, Nat.zero_le _⟩

omit [ReceiveLists Lists] in
theorem pending_receive (q : PacketQueues) (p : UMPPacket) (type : UMPPacketType) :
    (q.receive p).pending type = q.pending type ++ [p].filter (fun p => p.pType = type) := by
  unfold PacketQueues.receive
  cases isType : p.pType <;> cases type <;> simp [PacketQueues.pending, isType]

omit [ReceiveLists Lists] in
theorem pending_fetch (q : PacketQueues) (type : UMPPacketType) :
    (umpSockFetchReceivedPackets q).pending type = q.pending type := by
  unfold umpSockFetchReceivedPackets
  dsimp only
  split
  · rename_i p rest empty waiting
    cases type with
    | control => simp only [PacketQueues.pending, empty, waiting]; rfl
    | data => simp only [PacketQueues.pending, List.append_assoc, List.take_append_drop]
  · cases type with
    | control => rfl
    | data => simp only [PacketQueues.pending, List.append_assoc, List.take_append_drop]

omit [ReceiveLists Lists] in
/-- The packet that is handled is the first one. -/
theorem pending_pop {q : PacketQueues} {event : SockEvent} (ready : packetReady q event)
    (type : UMPPacketType) :
    handledPackets type [event] ++ (popPacket q event).pending type = q.pending type := by
  cases event with
  | ctrlPacket p =>
      obtain ⟨rest, first⟩ := List.head?_eq_some_iff.mp ready
      cases type <;> simp [handledPackets, PacketQueues.pending, popPacket, first]
  | dataPacket p =>
      obtain ⟨rest, first⟩ := List.head?_eq_some_iff.mp ready
      cases type <;> simp [handledPackets, PacketQueues.pending, popPacket, first]
  | _ => cases type <;> rfl

omit [ReceiveLists Lists] in
theorem handledPackets_append (type : UMPPacketType) (events later : List SockEvent) :
    handledPackets type (events ++ later) =
      handledPackets type events ++ handledPackets type later := List.filterMap_append

theorem Lived.turn {sock sock' : CoreSock Lists} {life : Life} {events : List SockEvent}
    {packets : List UMPPacket} (lived : Lived sock life) (turn : SockTurn sock events packets sock') :
    Lived sock' ⟨life.events ++ events, life.arrived ++ packets⟩ := by
  have bounded := lived.bounded.turn turn
  obtain ⟨⟨seq, clock, run⟩, same, -⟩ := lived
  cases turn with
  | none =>
      rw [List.append_nil, List.append_nil]
      exact ⟨⟨seq, clock, run⟩, same, bounded⟩
  | @queue u_p space =>
      rw [List.append_nil]
      refine ⟨⟨seq, clock, run⟩, fun type => ?_, bounded⟩
      dsimp only
      rw [List.filter_append, same type, pending_receive, List.append_assoc]
  | fetch =>
      rw [List.append_nil, List.append_nil]
      refine ⟨⟨seq, clock, run⟩, fun type => ?_, bounded⟩
      dsimp only
      rw [pending_fetch]
      exact same type
  | @event made enabled ready =>
      refine ⟨⟨seq, clock, .go run enabled trivial⟩, fun type => ?_, bounded⟩
      dsimp only
      rw [List.append_nil, handledPackets_append, List.append_assoc, pending_pop ready]
      exact same type

/-! ### Runs -/

/-- What happened to each socket so far. -/
def noteLives (u_core : UMPCore Lists) (event : CoreEvent) (lives : SockId → Life) : SockId → Life :=
  fun id => ⟨(lives id).events ++ lifeStep id event, (lives id).arrived ++ arrivals u_core event id⟩

/-- Nothing happened to any socket. -/
def noLives (_ : SockId) : Life := ⟨[], []⟩

/-- Every socket lived its own life, and nothing happened under numbers that no socket has. -/
structure LivesApart (u_core : UMPCore Lists) (lives : SockId → Life) : Prop where
  registry : Registry u_core
  lived : ∀ id, id < u_core.created → Lived (u_core.socks id) (lives id)
  unborn : ∀ id, u_core.created ≤ id → lives id = ⟨[], []⟩

theorem LivesApart.step {lives : SockId → Life} {event : CoreEvent}
    (apart : LivesApart u_core lives) (enabled : coreEnabled u_core event) :
    LivesApart (coreStep u_core event) (noteLives u_core event lives) where
  registry := (coreStep_registry apart.registry enabled).1
  lived := by
    intro id created
    have turns := coreStep_turns apart.registry enabled id
    by_cases there : id < u_core.created
    · exact (apart.lived id there).turn (turns.old there)
    · have unborn := Nat.not_lt.mp there
      obtain ⟨theirAddr, seq, clock, turn⟩ := turns.born unborn created
      unfold noteLives
      rw [apart.unborn id unborn, turns.idle unborn]
      exact (lived_born theirAddr seq clock).turn turn
  unborn := by
    intro id later
    have turns := coreStep_turns apart.registry enabled id
    have before := turns.created.trans later
    unfold noteLives
    rw [apart.unborn id before, turns.idle before, turns.unborn later]
    rfl

theorem livesApart {backlog : Nat} {memory : SockId → CoreSock Lists} {events : List CoreEvent}
    (run : (coreMachine Lists).Run (umpCoreBind backlog memory) events u_core) :
    LivesApart u_core ((coreMachine Lists).noted noteLives (umpCoreBind backlog memory) events
      noLives) := by
  refine run.noted_invariant ⟨(registry_bind backlog memory).1, ?_, fun _ _ => rfl⟩ ?_
  · exact fun id created => absurd created (Nat.not_lt_zero id)
  · intro _ _ _ apart enabled _
    exact apart.step enabled

/-- In every run of a core, what happens to a socket from its creation on is a run of the
machine of a socket, whatever the other sockets, the receive thread, the cleaner and the users
do; the packets queued for it are handled once each and in their order, and its queues stay in
their bounds. -/
theorem livesApart_of_run {backlog : Nat} {memory : SockId → CoreSock Lists}
    {events : List CoreEvent}
    (run : (coreMachine Lists).Run (umpCoreBind backlog memory) events u_core) {id : SockId}
    (created : id < u_core.created) :
    Lived (u_core.socks id)
      ((coreMachine Lists).noted noteLives (umpCoreBind backlog memory) events noLives id) :=
  (livesApart run).lived id created

theorem livesApart_crossedConnects :
    Lived (((coreMachine PlainLists).after freshCore crossedConnects).socks 0)
      ((coreMachine PlainLists).noted noteLives freshCore crossedConnects noLives 0) :=
  livesApart_of_run (Machine.runWhere_of_check (by decide)) (by decide)

end

end UserMessageProtocol
