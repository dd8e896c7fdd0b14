import UserMessageProtocol.Network.Cues
import UserMessageProtocol.Network.Flow
import UserMessageProtocol.Sender.Liveness
import UserMessageProtocol.Sender.Transmission

/-!
Contract: what a reported send means at the peer.

Owns: the runs of two sockets in which no datagram arrives half a turn late and messages end
only when they are complete (`conversesInTime`), the flow of data in both directions along
them (`Flows`), and the theorem that the packets of a message that is reported as sent are at
the peer.

Does not own: the messages that the users get (`Network.Messages`).
-/

set_option autoImplicit false

namespace UserMessageProtocol

open Serial

variable {Lists : Type} [ReceiveLists Lists]

/-! ### Conditions on what happens in the network -/

/-- The event that a socket takes is one that `condition` allows. -/
def takesEach (condition : UMPSocket Lists → SockEvent → Prop) (net : Duo (Endpoint Lists)) :
    NetworkEvent → Prop
  | .act side event => condition (net.get side).socket event
  | .deliver side d => ∀ p ∈ arrived d.packet, condition (net.get side).socket (packetEvent p)

/-- No data packet arrives behind 2^15 newer numbers that were taken, and no ack behind 2^15
newer numbers that were acknowledged. -/
def arrivesFresh (net : Duo (Endpoint Lists)) : NetworkEvent → Prop
  | .deliver side d => d.packet.pType = .data →
      (uPacketGetFlag d.packet UP_DATA_SEQ → (net.get side).got ≤ d.seqPosition + 32768) ∧
      (uPacketGetFlag d.packet UP_DATA_ACK → (net.get side).acked ≤ d.ackPosition + 32767)
  | .act _ _ => True

/-- Each socket opens once, its messages end only when they are complete, and what arrives is
fresh. -/
def conversesInTime (net : Duo (Endpoint Lists)) (cause : NetworkEvent) : Prop :=
  takesEach transmitsInOrder net cause ∧ arrivesFresh net cause

instance (condition : UMPSocket Lists → SockEvent → Prop) [∀ u event, Decidable (condition u event)]
    (net : Duo (Endpoint Lists)) (cause : NetworkEvent) :
    Decidable (takesEach condition net cause) :=
  match cause with
  | .act side event => inferInstanceAs (Decidable (condition (net.get side).socket event))
  | .deliver side d =>
      inferInstanceAs
        (Decidable (∀ p ∈ arrived d.packet, condition (net.get side).socket (packetEvent p)))

instance (net : Duo (Endpoint Lists)) (cause : NetworkEvent) : Decidable (arrivesFresh net cause) :=
  match cause with
  | .act _ _ => instDecidableTrue
  | .deliver _ _ => by unfold arrivesFresh; infer_instance

instance (net : Duo (Endpoint Lists)) (cause : NetworkEvent) :
    Decidable (conversesInTime net cause) := by
  unfold conversesInTime
  infer_instance

section Acts

variable {g : Gatherer Lists} {seeds : Duo UInt16} {net : Duo (Endpoint Lists)}
  {cause : NetworkEvent} {side : Side} {event : SockEvent}

theorem Acts.meets {condition : UMPSocket Lists → SockEvent → Prop}
    (acts : Acts net cause side event) (each : takesEach condition net cause) :
    condition (net.get side).socket event := by
  have allowed := acts.allowed
  rcases acts.own with packet | own
  · cases event with
    | ctrlPacket p =>
        obtain ⟨d, -, caused, decoded⟩ := acts.packet p (.inl rfl)
        rw [caused] at each
        have met := each p decoded
        rwa [packetEvent, allowed.2] at met
    | dataPacket p =>
        obtain ⟨d, -, caused, decoded⟩ := acts.packet p (.inr rfl)
        rw [caused] at each
        have met := each p decoded
        rwa [packetEvent, allowed.2] at met
    | userCtrl | userSend | userReceive | handleCtrl | handleSend | handleReceive | bufferLoad |
      dataTimeout | refreshRwnd | refreshAck | actReqWnd | ctrlTimeout | sendCtrlPacket |
      heartbeat | sendData | sendReset => cases packet
  · rw [own] at each
    exact each

omit [ReceiveLists Lists] in
theorem opensOnceEach_of_takesEach (each : takesEach transmitsInOrder net cause) :
    opensOnceEach net cause := by
  cases cause with
  | act side event => exact each.1
  | deliver side d => trivial

/-- The acks that a socket handles came from its peer. -/
theorem Acts.acksArrive (acts : Acts net cause side event) (related : net.Related (Speaks seeds))
    (fresh : arrivesFresh net cause) : AcksArrive (net.get side) (net.get side.other) event := by
  intro p packet flag
  obtain ⟨d, member, caused, data, same⟩ := acts.dataArrives related packet
  rw [same, receivedForm_getFlag] at flag
  rw [caused] at fresh
  refine ⟨d, member, ?_, ?_, (fresh data).2 flag⟩
  · rw [isAck, data, flag]
    rfl
  · rw [same, receivedForm_dataAck data flag]

/-- The data that a socket handles was transmitted by its peer. -/
theorem Acts.streamArrives {start sent : Nat} (acts : Acts net cause side event)
    (related : net.Related (Speaks seeds)) (fresh : arrivesFresh net cause)
    (outgoing : Outgoing (seeds.get side.other) (net.get side.other) start sent) :
    DataArrives (seeds.get side.other) (net.get side.other).stream sent (net.get side) event := by
  intro p packet flag
  obtain ⟨d, member, caused, data, same⟩ := acts.dataArrives related packet
  rw [same, receivedForm_getFlag] at flag
  rw [caused] at fresh
  have numbered : isNumbered d.packet = true := by
    rw [isNumbered, data, flag]
    rfl
  obtain ⟨transmitted, number, found⟩ := outgoing.data d member numbered
  refine ⟨d.seqPosition, transmitted, (fresh data).1 flag, ?_, ?_⟩
  · rw [same, receivedForm_dataSeq data flag]
    exact number
  · rw [same, fragment, receivedForm_userData, receivedForm_getFlag]
    exact found

end Acts

/-! ### Both directions -/

/-- Two sockets that open once, with the data on its way in both directions. -/
structure Flows (g : Gatherer Lists) (seeds : Duo UInt16) (net : Duo (Endpoint Lists)) : Prop where
  meet : Meet seeds net
  flow : ∀ side, ∃ start sent r,
    Flow g (seeds.get side) (net.get side) (net.get side.other) start sent r

theorem newNetwork_flows (g : Gatherer Lists) (seeds : Duo UInt16) (clocks : Duo Clock) :
    Flows g seeds (newNetwork Lists seeds clocks) where
  meet := newNetwork_meet seeds clocks
  flow := by
    have fresh (seed own : UInt16) (clock clock' : Clock) : ∃ start sent r,
        Flow g seed (Endpoint.new seed clock : Endpoint Lists) (Endpoint.new own clock') start sent
          r := by
      have unstarted : Unstarted (umpSockNew Lists own clock')
          ⟨(umpSockNew Lists own clock').core.rcv.theirDataSeqBase, [], []⟩ := ⟨rfl, rfl, rfl, rfl, rfl⟩
      refine ⟨0, 0, _, ⟨tracks_new seed clock _, ?_, nofun⟩,
        ⟨g.start unstarted rfl, fun _ => unstarted, nofun, rfl⟩, ⟨nofun, nofun, nofun⟩,
        Nat.le_refl 0, Nat.le_refl 0⟩
      intro i f _ inside
      exact absurd inside (Nat.not_lt_zero _)
    rintro (_ | _)
    · exact fresh _ _ _ _
    · exact fresh _ _ _ _

section Steps

variable {g : Gatherer Lists} {seeds : Duo UInt16} {net : Duo (Endpoint Lists)}
  {cause : NetworkEvent} {side : Side} {event : SockEvent} {start sent : Nat} {r : Reception}

/-- The packet can be taken by the lists of the socket. -/
def Gatherer.takes (g : Gatherer Lists) (u : UMPSocket Lists) (event : SockEvent) : Prop :=
  ∀ p, event = .dataPacket p → u.core.ctrl.state = .established →
    inReceiveRange u.core.rcv p = true → g.safely u p

/-- What a step of a socket does to the flow of its own data. -/
theorem Flows.progress (flows : Flows g seeds net) (acts : Acts net cause side event)
    (converses : conversesInTime net cause)
    (flow : Flow g (seeds.get side) (net.get side) (net.get side.other) start sent r) :
    ∃ start' acked' sent', Progress (seeds.get side) (net.get side).socket event start
        (net.get side).acked sent start' acked' sent' ∧
      Flow g (seeds.get side) ((net.get side).take event) (net.get side.other) start' sent' r := by
  have shaped := (flows.meet.related side).control.shaped
  have arrive := acts.acksArrive flows.meet.related converses.2
  have inOrder := acts.meets converses.1
  obtain ⟨start', acked', sent', progress⟩ := sockStep_progress acts.allowed shaped
    flow.outgoing.tracks inOrder.1 (flow.acksTransmitted arrive) inOrder.2
  exact ⟨start', acked', sent', progress, flow.send shaped arrive progress⟩

/-- What a step of a socket does to the flow of its peer's data. -/
theorem Flows.takes (flows : Flows g seeds net) (acts : Acts net cause side event)
    (fresh : arrivesFresh net cause) (takes : g.takes (net.get side).socket event)
    (flow : Flow g (seeds.get side.other) (net.get side.other) (net.get side) start sent r) :
    ∃ r', Flow g (seeds.get side.other) (net.get side.other) ((net.get side).take event) start sent
      r' := by
  have related := flows.meet.related
  have once := flows.meet.once side.other
  refine flow.receive (related side).control ?_ ?_ (acts.streamArrives related fresh flow.outgoing)
    takes
  · intro p packet taken
    exact Speaks.syn acts related once packet taken
  · intro p packet flag
    obtain ⟨d, member, -, data, same⟩ := acts.dataArrives related packet
    rw [same, receivedForm_getFlag] at flag
    have peer := (related side.other).acked (once.data d member data flag)
    rwa [Side.other_other] at peer

theorem Flows.step (flows : Flows g seeds net) (enabled : networkEnabled net cause)
    (converses : conversesInTime net cause) (takes : takesEach g.takes net cause) :
    Flows g seeds (networkStep net cause) := by
  refine ⟨flows.meet.step g.nothing enabled (opensOnceEach_of_takesEach converses.1), ?_⟩
  rcases networkStep_cases enabled with same | ⟨side, event, acts⟩
  · rw [same]
    exact flows.flow
  · rw [acts.step]
    intro here
    obtain ⟨start, sent, r, flow⟩ := flows.flow here
    rcases side.eq_or_other here with rfl | rfl
    · obtain ⟨start', acked', sent', -, after⟩ := flows.progress acts converses flow
      rw [Duo.get_set_self, Duo.get_set_other]
      exact ⟨start', sent', r, after⟩
    · rw [Side.other_other] at flow
      obtain ⟨r', after⟩ := flows.takes acts converses.2 (acts.meets takes) flow
      rw [Side.other_other, Duo.get_set_self, Duo.get_set_other]
      exact ⟨start, sent, r', after⟩

theorem flows_of_run {clocks : Duo Clock} {events : List NetworkEvent}
    {condition : Duo (Endpoint Lists) → NetworkEvent → Prop}
    (converses : ∀ net cause, condition net cause → conversesInTime net cause)
    (takes : ∀ net cause, condition net cause → takesEach g.takes net cause)
    (run : (networkMachine Lists).RunWhere condition (newNetwork Lists seeds clocks) events net) :
    Flows g seeds net :=
  run.invariant (newNetwork_flows g seeds clocks) fun net cause flows enabled holds =>
    flows.step enabled (converses net cause holds) (takes net cause holds)

end Steps

/-! ### Reported sends -/

/-- The packets that came to a socket in order: those of the delivered messages, those for the
user and those up to `rcv_data_so_far`. -/
def cameInOrder (v : UMPSocket PlainLists) : List UMPPacket :=
  v.core.deliveries.reverse.flatten ++ (v.lists.recMsgPackets ++ v.lists.taken)

/-- The packets came in order, with their bytes and their end, and lie before the base. -/
structure HasMessage (v : UMPSocket PlainLists) (packets : List UMPPacket) : Prop where
  before : ∀ p ∈ packets, umpCmpInRcvbase v.core.rcv p.seqNum v.core.rcv.theirDataSeqBase < 0
  came : packets.map essence <:+: (cameInOrder v).map essence

/-- `ump_sndlocked_end_snd` was reached with `TRUE` between two states of a socket. -/
def reportsSent (u w : UMPSocket Lists) : Prop :=
  .sendDone true ∈ (traffic w.core.log).take
    ((traffic w.core.log).length - (traffic u.core.log).length)

instance (u w : UMPSocket Lists) : Decidable (reportsSent u w) := by
  unfold reportsSent
  infer_instance

/-- When a message is reported as sent its packets came to the peer. -/
def ReportedCame (net : Duo (Endpoint PlainLists)) (cause : NetworkEvent) : Prop :=
  ∀ side, reportsSent (net.get side).socket ((networkStep net cause).get side).socket →
    ∃ packets, (net.get side).socket.core.snd.sndPackets = some packets ∧
      HasMessage (net.get side.other).socket packets

omit [ReceiveLists Lists] in
theorem reportsSent_of_added {u w : UMPSocket Lists} {added : List Action}
    (grown : traffic w.core.log = added ++ traffic u.core.log) (reported : reportsSent u w) :
    .sendDone true ∈ added := by
  rwa [reportsSent, grown, List.length_append, Nat.add_sub_cancel_right, List.take_left]
    at reported

omit [ReceiveLists Lists] in
theorem reportsSent_self (u : UMPSocket Lists) : ¬ reportsSent u u := by
  intro reported
  have grown : traffic u.core.log = [] ++ traffic u.core.log := rfl
  exact absurd (reportsSent_of_added grown reported) List.not_mem_nil

section Reports

variable {seed : UInt16} {a b : Endpoint PlainLists} {start acked sent : Nat} {r : Reception}
  {stream : List Fragment} {packets : List UMPPacket}

/-- The packets that stand in a stream behind `start` are those of its message. -/
theorem essences_of_stands {got : List UMPPacket} (stands : ∀ (i : Nat) (q : UMPPacket),
      got[i]? = some q → Stands seed stream i q)
    (inMessage : InMessage (place seed start) packets)
    (found : ∀ (i : Nat) (p : UMPPacket), packets[i]? = some p →
      stream[start + i]? = some (fragment p))
    (enough : start + packets.length ≤ got.length) :
    ((got.drop start).take packets.length).map essence = packets.map essence := by
  apply List.ext_getElem?
  intro i
  rw [List.getElem?_map, List.getElem?_map]
  by_cases inside : i < packets.length
  · rw [List.getElem?_take_of_lt inside, List.getElem?_drop]
    obtain ⟨q, isQ⟩ : ∃ q, got[start + i]? = some q :=
      ⟨_, List.getElem?_eq_getElem (by omega)⟩
    have isP := List.getElem?_eq_getElem inside
    have there := stands _ q isQ
    have same : fragment q = fragment packets[i] :=
      Option.some.inj (there.found.symm.trans (found i _ isP))
    have number : q.seqNum = packets[i].seqNum := by
      rw [there.number, (inMessage i _ isP).seqNum, place_place, Nat.cast_add]
    rw [isQ, isP, Option.map_some, Option.map_some, essence, essence, same, number]
  · rw [List.getElem?_eq_none (by rw [List.length_take]; omega),
      List.getElem?_eq_none (Nat.le_of_not_lt inside)]

/-- A message that is complete came to the receiver. -/
theorem Flow.completed {start' : Nat} (flow : Flow plainGatherer seed a b start sent r)
    (shaped : WellShaped a.socket) (taken : acked ≤ b.got)
    (completes : Completes a.socket.core.snd (traffic a.socket.core.log) start' acked) :
    ∃ packets, a.socket.core.snd.sndPackets = some packets ∧ HasMessage b.socket packets := by
  have tracks := flow.outgoing.tracks
  have incoming := flow.incoming
  have between := flow.between
  have near := tracks.near
  obtain ⟨packets, sending⟩ := tracks.sending completes.locked
  obtain ⟨held, holds⟩ := shaped.shape.message completes.locked
  have same : held = packets := Option.some.inj (holds.held.symm.trans sending.held)
  subst same
  obtain ⟨done, length, stream⟩ := sending.stream
  have inMessage : InMessage (place seed start) held := by
    have inMessage := holds.inMessage
    rwa [show a.socket.core.snd.message.ourDataStartSeq = place seed start from tracks.startAt]
      at inMessage
  have whole : acked = start + held.length := by
    have whole := completes.whole
    rw [stream, List.length_append, List.length_map, length] at whole
    exact whole.symm
  have some := holds.positive
  have count := incoming.count
  have heard : b.socket.core.ctrl.synReced = true := by
    by_contra unheard
    have none := (incoming.unheard ((Bool.not_eq_true _).mp unheard)).got
    rw [none, List.length_nil] at count
    omega
  have aligned := incoming.aligned heard
  obtain ⟨inOrder, gathered⟩ := incoming.gathers
  refine ⟨held, sending.held, ?_, ?_⟩
  · intro p member
    obtain ⟨i, inside, here⟩ := List.getElem_of_mem member
    have number := (inMessage i p (here ▸ List.getElem?_eq_getElem inside)).seqNum
    rw [place_place, ← Nat.cast_add] at number
    have distance := aligned.offset_eq number (by omega) (by omega)
    rw [umpCmpInRcvbase_eq, offset_self, gathered.base, distance]
    omega
  · have all : r.got = cameInOrder b.socket := by
      obtain ⟨delivered, deliveries, -, all⟩ := gathered.delivered
      rw [List.append_nil] at deliveries
      rw [cameInOrder, deliveries]
      exact all
    have essences := essences_of_stands aligned.got inMessage ?_ (by omega)
    · rw [← all, ← essences]
      exact ((List.take_prefix _ _).isInfix.trans (List.drop_suffix _ _).isInfix).map essence
    · intro i p here
      show (streamOf (traffic a.socket.core.log))[start + i]? = _
      rw [stream, List.getElem?_append_right (by omega), length, Nat.add_sub_cancel_left,
        List.getElem?_map, here]
      rfl

end Reports

/-- In every run in which each socket opens once, no message ends before it is complete, and
nothing arrives half a turn late, a message that is reported as sent came to the peer. -/
theorem reportedCame_of_run {seeds : Duo UInt16} {clocks : Duo Clock} {events : List NetworkEvent}
    {net : Duo (Endpoint PlainLists)} {cause : NetworkEvent}
    (run : (networkMachine PlainLists).RunWhere conversesInTime (newNetwork PlainLists seeds clocks)
      events net)
    (enabled : networkEnabled net cause) (converses : conversesInTime net cause) :
    ReportedCame net cause := by
  have flows : Flows plainGatherer seeds net := flows_of_run (fun _ _ holds => holds)
    (fun _ cause _ => by
      cases cause with
      | act side event => exact fun _ _ _ _ => trivial
      | deliver side d => exact fun _ _ _ _ _ _ => trivial) run
  intro here reported
  rcases networkStep_cases enabled with same | ⟨side, event, acts⟩
  · rw [same] at reported
    exact absurd reported (reportsSent_self _)
  · rw [acts.step] at reported
    rcases side.eq_or_other here with rfl | rfl
    · rw [Duo.get_set_self] at reported
      obtain ⟨start, sent, r, flow⟩ := flows.flow here
      obtain ⟨start', acked', sent', progress, after⟩ := flows.progress acts converses flow
      obtain ⟨new, grown, completes⟩ := progress.reported
      have acked : ((net.get here).take event).acked = acked' :=
        take_acked flow.outgoing.tracks progress
      have taken := after.between.1
      rw [acked] at taken
      exact flow.completed (flows.meet.related here).control.shaped taken
        (completes (reportsSent_of_added grown reported))
    · rw [Duo.get_set_other] at reported
      exact absurd reported (reportsSent_self _)

/-- The left socket has sent a message of one byte, the right user took it, and the ack is on
its way. -/
def sentMessage : List Cue :=
  answeredOpen ++ [.deliver .right 0, .act .left (.userSend [1]), .act .left .handleSend,
    .act .left .sendData, .deliver .right 0, .act .right .userReceive, .act .right .handleReceive,
    .act .right .refreshAck, .act .right .sendData]

def sentNetwork : Duo (Endpoint PlainLists) :=
  (networkMachine PlainLists).after exampleNetwork (cued exampleNetwork sentMessage)

/-- With that ack the message is reported, and it came. -/
theorem reportedCame_sentNetwork :
    ReportedCame sentNetwork ((Cue.deliver .left 0).event sentNetwork) ∧
      reportsSent sentNetwork.left.socket
        (networkStep sentNetwork ((Cue.deliver .left 0).event sentNetwork)).left.socket := by
  have run : (networkMachine PlainLists).RunWhere conversesInTime exampleNetwork
      (cued exampleNetwork sentMessage) sentNetwork := Machine.runWhere_of_check (by decide +kernel)
  exact ⟨reportedCame_of_run run (by decide +kernel) (by decide +kernel), by decide +kernel⟩

/-! ### A message of too many packets -/

/-- Each socket opens once and what arrives is fresh. -/
def opensAndFresh (net : Duo (Endpoint Lists)) (cause : NetworkEvent) : Prop :=
  opensOnceEach net cause ∧ arrivesFresh net cause

instance (net : Duo (Endpoint Lists)) (cause : NetworkEvent) :
    Decidable (opensAndFresh net cause) := by
  unfold opensAndFresh
  infer_instance

/-- A message that is passed is left for the socket, and nothing else changes. -/
theorem take_userSend (e : Endpoint Lists) (data : List UInt8)
    (heard : e.socket.core.ctrl.synReced = true) : e.take (.userSend data) =
      { e with
        socket := { e.socket with core := umpSendMessage e.socket.core data }
        passed := e.passed ++ [data] } := by
  have logged : traffic (sockStep e.socket (.userSend data)).core.log =
    [] ++ traffic e.socket.core.log := rfl
  have silent : sentBy e.socket (.userSend data) = [] := sentBy_eq logged
  have base : (sockStep e.socket (.userSend data)).core.snd.ourDataSeqBase =
    e.socket.core.snd.ourDataSeqBase := rfl
  have rcv : (sockStep e.socket (.userSend data)).core.rcv = e.socket.core.rcv := rfl
  unfold Endpoint.take
  dsimp only
  rw [silent, if_pos heard, base, rcv, UInt16.sub_self, UInt16.sub_self]
  rfl

/-- The long message is left for the socket. -/
def Endpoint.postLong (e : Endpoint Lists) : Endpoint Lists :=
  { e with
    socket :=
      { e.socket with
        core := umpSockSend e.socket.core
          (List.replicate 32770
            (uPacketSetData (uPacketNew .data .outgoing) (List.replicate 1400 0))) 32770 }
    passed := e.passed ++ [longMessage] }

theorem take_longMessage {e : Endpoint Lists} (heard : e.socket.core.ctrl.synReced = true)
    (mss : e.socket.core.snd.ourMss = 1400) : e.take (.userSend longMessage) = e.postLong := by
  rw [take_userSend e _ heard, umpSendMessage_longMessage mss]
  rfl

/-- The connection of the two sockets is established. -/
def openedNetwork : Duo (Endpoint PlainLists) :=
  (networkMachine PlainLists).after exampleNetwork
    (cued exampleNetwork (answeredOpen ++ [.deliver .right 0]))

def longPosted : Duo (Endpoint PlainLists) := openedNetwork.set .left openedNetwork.left.postLong

/-- The first packet of the long message arrives twice, and is acknowledged. -/
def firstAcked : List Cue :=
  [.act .left .handleSend, .act .left .sendData, .deliver .right 0, .deliver .right 0,
    .act .right .refreshAck, .act .right .sendData]

/-- The long message may be passed to a left socket that sends nothing. -/
theorem postLong_run {start net : Duo (Endpoint Lists)} {events : List NetworkEvent}
    (run : (networkMachine Lists).RunWhere opensAndFresh start events net)
    (heard : net.left.socket.core.ctrl.synReced = true)
    (mss : net.left.socket.core.snd.ourMss = 1400)
    (free : net.left.socket.core.snd.sndParaLock = false) :
    (networkMachine Lists).RunWhere opensAndFresh start
      (events ++ [.act .left (.userSend longMessage)]) (net.set .left net.left.postLong) := by
  have length : longMessage.length = 32770 * 1400 := List.length_replicate
  have allowed : sockEnabled net.left.socket (.userSend longMessage) := by
    refine ⟨free, ?_, by rw [length]; decide, by rw [mss]; decide⟩
    intro empty
    rw [empty] at length
    exact absurd length (by decide)
  rw [← take_longMessage heard mss]
  exact .go run ⟨rfl, allowed⟩ ⟨nofun, trivial⟩

theorem longPosted_run : (networkMachine PlainLists).RunWhere opensAndFresh exampleNetwork
    (cued exampleNetwork (answeredOpen ++ [.deliver .right 0]) ++
      [.act .left (.userSend longMessage)]) longPosted := by
  have opened : (networkMachine PlainLists).RunWhere opensAndFresh exampleNetwork
      (cued exampleNetwork (answeredOpen ++ [.deliver .right 0])) openedNetwork :=
    Machine.runWhere_of_check (by decide +kernel)
  exact postLong_run opened (by decide +kernel) (by decide +kernel) (by decide +kernel)

theorem firstAcked_allowed : cuesAllowed opensAndFresh longPosted firstAcked := by decide +kernel

/-- A message is reported while a packet of it has the number of the peer's base. -/
theorem not_reportedCame {net : Duo (Endpoint PlainLists)} {cause : NetworkEvent} {k : Nat}
    (reported : reportsSent net.left.socket (networkStep net cause).left.socket)
    (missing : (net.left.socket.core.snd.sndPackets.bind (·[k]?)).map (·.seqNum) =
      some net.right.socket.core.rcv.theirDataSeqBase) : ¬ ReportedCame net cause := by
  intro came
  obtain ⟨packets, held, has⟩ := came .left reported
  change net.left.socket.core.snd.sndPackets = some packets at held
  rw [held, Option.bind_some, Option.map_eq_some_iff] at missing
  obtain ⟨p, found, number⟩ := missing
  have before := has.before p (List.mem_of_getElem? found)
  rw [umpCmpInRcvbase_eq, number] at before
  exact absurd before (by simp [Duo.get, Side.other])

/-- The peer got one packet of the message and no more. -/
def firstAckedNetwork : Duo (Endpoint PlainLists) := firstAcked.foldl Cue.step longPosted

theorem firstAckedNetwork_run : ∃ later, (networkMachine PlainLists).RunWhere opensAndFresh
    exampleNetwork later firstAckedNetwork := run_of_cues longPosted_run firstAcked_allowed

/-- What the first ack of the long message leads to. -/
theorem firstAckedNetwork_acked :
    (Cue.deliver .left 0).Allowed opensAndFresh firstAckedNetwork ∧
      reportsSent firstAckedNetwork.left.socket
        ((Cue.deliver .left 0).step firstAckedNetwork).left.socket ∧
      (firstAckedNetwork.left.socket.core.snd.sndPackets.bind (·[1]?)).map (·.seqNum) =
        some firstAckedNetwork.right.socket.core.rcv.theirDataSeqBase := by
  decide +kernel

/-- With the first ack the long message is reported as sent, because its last number seems to
lie before the ack. -/
theorem reportedCame_fails :
    ¬ ∀ (seeds : Duo UInt16) (clocks : Duo Clock) (events : List NetworkEvent)
      (net : Duo (Endpoint PlainLists)) (cause : NetworkEvent),
      (networkMachine PlainLists).RunWhere opensAndFresh (newNetwork PlainLists seeds clocks)
        events net → networkEnabled net cause → opensAndFresh net cause → ReportedCame net cause := by
  intro always
  have run := firstAckedNetwork_run
  have acked := firstAckedNetwork_acked
  generalize firstAckedNetwork = net at run acked
  obtain ⟨events, run⟩ := run
  obtain ⟨allowed, reported, missing⟩ := acked
  obtain ⟨enabled, fresh, same⟩ := allowed.event (speaks_of_run run)
  rw [← same] at reported
  exact not_reportedCame reported missing (always _ _ _ _ _ run enabled fresh)

end UserMessageProtocol
