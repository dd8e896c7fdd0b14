import UserMessageProtocol.Network.Agreement
import UserMessageProtocol.Network.Stream
import UserMessageProtocol.Receiver.Gatherers

/-!
Contract: the data of one socket on its way to the other.

Owns: the invariant that relates the numbers of a sender, the packets and acks on the
wire and what the receiver took in order (`Flow`), and its preservation by every step of
both sockets, as long as no datagram arrives half a turn late and no message ends early.

Does not own: what follows for messages (`Network.Delivery`).
-/

set_option autoImplicit false

namespace UserMessageProtocol

open Serial Cuts

/-! ### Sender, receiver and acks -/

/-- A data packet with an ack. -/
def isAck (p : UMPPacket) : Bool := p.pType == .data && uPacketGetFlag p UP_DATA_ACK

/-- What the sender `a` numbered, transmitted and put on the wire. -/
structure Outgoing {Lists : Type} (seed : UInt16) (a : Endpoint Lists) (start sent : Nat) :
    Prop where
  tracks : Tracks seed a.socket.core.handshake.Ended a.socket.core.snd
    (traffic a.socket.core.log) start a.acked sent
  one : OneMessage start a.stream
  data : ∀ d ∈ a.wire, isNumbered d.packet = true →
    d.seqPosition < sent ∧ Stands seed a.stream d.seqPosition d.packet

/-- How far the receiver `b` got in a stream of which `sent` fragments were transmitted. -/
structure Incoming {Lists : Type} [ReceiveLists Lists] (g : Gatherer Lists) (seed : UInt16)
    (stream : List Fragment) (sent : Nat) (b : Endpoint Lists) (r : Reception) : Prop where
  gathers : g.gathers b.socket r
  unheard : b.socket.core.ctrl.synReced = false → Unstarted b.socket r
  aligned : b.socket.core.ctrl.synReced = true → r.Aligned seed stream sent
  count : b.got = r.got.length

/-- The acks of the receiver `b`, of which those up to `acked` came: they are for what it
took, and the one that is due is for no less than those on the wire. -/
structure Acking {Lists : Type} (seed : UInt16) (acked : Nat) (b : Endpoint Lists) : Prop where
  owed : b.socket.core.acks.owed = true → b.socket.core.ctrl.synReced = true
  due : b.socket.core.acks.dataAckSet = true → b.socket.core.ctrl.synReced = true ∧ ∃ k,
    acked ≤ k ∧ k ≤ b.got ∧ b.socket.core.acks.dataAckSeq = place seed k ∧
      ∀ d ∈ b.wire, isAck d.packet = true → d.ackPosition ≤ k
  told : ∀ d ∈ b.wire, isAck d.packet = true →
    d.ackPosition ≤ b.got ∧ d.packet.ackNum = place seed d.ackPosition

/-- The data on its way from `a` to `b`. -/
structure Flow {Lists : Type} [ReceiveLists Lists] (g : Gatherer Lists) (seed : UInt16)
    (a b : Endpoint Lists) (start sent : Nat) (r : Reception) : Prop where
  outgoing : Outgoing seed a start sent
  incoming : Incoming g seed a.stream sent b r
  acking : Acking seed a.acked b
  between : a.acked ≤ b.got ∧ b.got ≤ sent

theorem Flow.near {Lists : Type} [ReceiveLists Lists] {g : Gatherer Lists} {seed : UInt16}
    {a b : Endpoint Lists} {start sent : Nat} {r : Reception}
    (flow : Flow g seed a b start sent r) : sent ≤ b.got + 32767 := by
  have near := flow.outgoing.tracks.near
  have ordered := flow.outgoing.tracks.ordered
  have between := flow.between
  omega

/-! ### The sender acts -/

section Sender

variable {Lists : Type} [ReceiveLists Lists] {seed : UInt16} {a : Endpoint Lists}
  {event : SockEvent} {start sent start' acked' sent' : Nat}

/-- The position of the base behind a step. -/
theorem take_acked
    (tracks : Tracks seed a.socket.core.handshake.Ended a.socket.core.snd
      (traffic a.socket.core.log) start a.acked sent)
    (progress : Progress seed a.socket event start a.acked sent start' acked' sent') :
    (a.take event).acked = acked' := by
  have later := progress.ordered
  have near := tracks.near
  have ordered := tracks.ordered
  have reached : acked' ≤ sent := by
    rcases progress.acknowledged with same | ⟨reached, -⟩
    · omega
    · exact reached
  have moved : (((sockStep a.socket event).core.snd.ourDataSeqBase -
      a.socket.core.snd.ourDataSeqBase).toNat : Int) = acked' - a.acked := by
    rw [progress.tracks.baseAt, tracks.baseAt]
    exact toNat_place_sub seed (by omega) (by omega)
  show a.acked + ((sockStep a.socket event).core.snd.ourDataSeqBase -
    a.socket.core.snd.ourDataSeqBase).toNat = acked'
  omega

theorem Outgoing.step (outgoing : Outgoing seed a start sent) (shaped : WellShaped a.socket)
    (progress : Progress seed a.socket event start a.acked sent start' acked' sent') :
    Outgoing seed (a.take event) start' sent' := by
  have tracks := outgoing.tracks
  have grows := stream_step shaped event
  refine ⟨?_, grows.oneMessage shaped tracks progress outgoing.one, ?_⟩
  · rw [take_acked tracks progress]
    exact progress.tracks
  · intro d member numbered
    rcases wire_cases member with old | ⟨p, new, rfl⟩
    · obtain ⟨before, stands⟩ := outgoing.data d old numbered
      exact ⟨Nat.lt_of_lt_of_le before progress.ordered.2.2, stands.grow grows.grows⟩
    · obtain ⟨i, behind, before, near, number, found⟩ :=
        sent_position shaped tracks progress new numbered
      have close := tracks.near
      have ordered := tracks.ordered
      have position : (a.datagram p).seqPosition = i := by
        have further : (a.acked : Int) ≤ i := by omega
        have distance := toNat_place_sub seed further (by omega)
        show a.acked + (p.seqNum - a.socket.core.snd.ourDataSeqBase).toNat = i
        rw [number, tracks.baseAt]
        omega
      rw [position]
      exact ⟨before, Stands.grow ⟨number, found⟩ grows.grows⟩

end Sender

/-! ### Acks arrive -/

section Arrivals

variable {Lists : Type} [ReceiveLists Lists] {g : Gatherer Lists} {seed : UInt16}
  {a b : Endpoint Lists} {event : SockEvent} {start sent start' acked' sent' : Nat} {r : Reception}

/-- An ack that the sender handles came from the receiver, less than half a turn late. -/
def AcksArrive (a b : Endpoint Lists) (event : SockEvent) : Prop :=
  ∀ p, event = .dataPacket p → uPacketGetFlag p UP_DATA_ACK → ∃ d ∈ b.wire,
    isAck d.packet = true ∧ p.ackNum = d.packet.ackNum ∧ a.acked ≤ d.ackPosition + 32767

/-- The new acks are for transmitted packets. -/
theorem Flow.acksTransmitted (flow : Flow g seed a b start sent r) (arrive : AcksArrive a b event) :
    AcksTransmitted seed a.acked sent a.socket event := by
  intro p packet heard flag range ahead
  obtain ⟨d, member, isAck, number, fresh⟩ := arrive p packet flag
  obtain ⟨taken, position⟩ := flow.acking.told d member isAck
  have between := flow.between
  have near := flow.outgoing.tracks.near
  have ordered := flow.outgoing.tracks.ordered
  rw [ackDiff_eq, number, position,
    flow.outgoing.tracks.offset_base (by omega) (by omega)] at ahead
  exact ⟨d.ackPosition, by omega, by omega, number.trans position⟩

/-- What was acknowledged behind a step was taken, and no ack on its way is for less. -/
theorem Flow.acknowledged (flow : Flow g seed a b start sent r)
    (arrive : AcksArrive a b event)
    (progress : Progress seed a.socket event start a.acked sent start' acked' sent') :
    acked' = a.acked ∨ ∃ d ∈ b.wire, isAck d.packet = true ∧ d.ackPosition = acked' := by
  rcases progress.acknowledged with same | ⟨reached, p, packet, flag, number⟩
  · exact .inl same
  · obtain ⟨d, member, isAck, same, fresh⟩ := arrive p packet flag
    obtain ⟨taken, position⟩ := flow.acking.told d member isAck
    have between := flow.between
    have near := flow.outgoing.tracks.near
    have ordered := flow.outgoing.tracks.ordered
    have later := progress.ordered
    have equal := place_inj seed (by omega) (by omega)
      (number.symm.trans (same.trans position))
    exact .inr ⟨d, member, isAck, by omega⟩

/-- A step of the sender keeps the flow of its data. -/
theorem Flow.send (flow : Flow g seed a b start sent r)
    (shaped : WellShaped a.socket) (arrive : AcksArrive a b event)
    (progress : Progress seed a.socket event start a.acked sent start' acked' sent') :
    Flow g seed (a.take event) b start' sent' r := by
  have later := progress.ordered
  have between := flow.between
  have grows : a.stream <+: (a.take event).stream := (stream_step shaped event).grows
  have acked : (a.take event).acked = acked' := take_acked flow.outgoing.tracks progress
  have taken := flow.acknowledged arrive progress
  refine ⟨flow.outgoing.step shaped progress, ?_, ?_, ?_⟩
  · have incoming := flow.incoming
    exact ⟨incoming.gathers, incoming.unheard,
      fun heard => (incoming.aligned heard).grow grows later.2.2, incoming.count⟩
  · refine ⟨flow.acking.owed, ?_, flow.acking.told⟩
    intro due
    obtain ⟨heard, k, before, inside, number, most⟩ := flow.acking.due due
    refine ⟨heard, k, ?_, inside, number, most⟩
    rw [acked]
    rcases taken with same | ⟨d, member, isAck, rfl⟩
    · exact same ▸ before
    · exact most d member isAck
  · rw [acked]
    refine ⟨?_, Nat.le_trans between.2 later.2.2⟩
    rcases taken with same | ⟨d, member, isAck, rfl⟩
    · exact same ▸ between.1
    · exact (flow.acking.told d member isAck).1

end Arrivals

/-! ### The receiver acts -/

section Receiver

variable {Lists : Type} [ReceiveLists Lists] {g : Gatherer Lists} {seed : UInt16}
  {stream : List Fragment} {b : Endpoint Lists} {event : SockEvent} {start sent : Nat}
  {r r' : Reception}

/-- A numbered packet that the receiver handles was transmitted and comes less than half a
turn late. -/
def DataArrives (seed : UInt16) (stream : List Fragment) (sent : Nat) (b : Endpoint Lists)
    (event : SockEvent) : Prop :=
  ∀ p, event = .dataPacket p → uPacketGetFlag p UP_DATA_SEQ →
    ∃ i, i < sent ∧ b.got ≤ i + 32768 ∧ Stands seed stream i p

/-- A step that leaves the receiver alone. -/
theorem Incoming.keep (incoming : Incoming g seed stream sent b r)
    (same : SameReceiver b.socket (sockStep b.socket event))
    (opens : (sockStep b.socket event).core.ctrl.synReced = true →
      b.socket.core.ctrl.synReced = true) :
    Incoming g seed stream sent (b.take event) r ∧ (b.take event).got = b.got := by
  have base : (sockStep b.socket event).core.rcv.theirDataSeqBase =
      b.socket.core.rcv.theirDataSeqBase := congrArg ReceivePart.theirDataSeqBase same.received
  have got : (b.take event).got = b.got := by
    show (if b.socket.core.ctrl.synReced then b.got + (_ - _ : UInt16).toNat else 0) = b.got
    rw [base, UInt16.sub_self]
    split
    · rfl
    · rename_i unheard
      have none := (incoming.unheard ((Bool.not_eq_true _).mp unheard)).got
      rw [incoming.count, none, List.length_nil]
  refine ⟨⟨g.congr incoming.gathers same.lists same.received, ?_,
    fun now => incoming.aligned (opens now), got.trans incoming.count⟩, got⟩
  intro unheard
  have before : b.socket.core.ctrl.synReced = false := by
    by_contra heard
    rw [Endpoint.take_socket, sockStep_synReced ((Bool.not_eq_false _).mp heard)] at unheard
    cases unheard
  exact (incoming.unheard before).congr same.lists
    (congrArg ReceivePart.rcvPacketsMsgNum same.received)
    (congrArg ReceivePart.deliveries same.received)

/-- A step of a receiver that heard its peer. -/
theorem Incoming.advance (incoming : Incoming g seed stream sent b r)
    (heard : b.socket.core.ctrl.synReced = true) (gathers : g.gathers (sockStep b.socket event) r')
    (aligned : r'.Aligned seed stream sent) (further : r.got.length ≤ r'.got.length)
    (near : r'.got.length ≤ r.got.length + 65535) :
    Incoming g seed stream sent (b.take event) r' ∧ (b.take event).got = r'.got.length := by
  have moved : ((r'.base - r.base).toNat : Int) = r'.got.length - r.got.length := by
    rw [aligned.base, (incoming.aligned heard).base]
    exact toNat_place_sub seed (by omega) (by omega)
  have got : (b.take event).got = r'.got.length := by
    show (if b.socket.core.ctrl.synReced then b.got + (_ - _ : UInt16).toNat else 0) = _
    rw [if_pos heard, g.base gathers, g.base incoming.gathers, incoming.count]
    omega
  refine ⟨⟨gathers, ?_, fun _ => aligned, got⟩, got⟩
  intro unheard
  rw [Endpoint.take_socket, sockStep_synReced heard] at unheard
  cases unheard

/-- The peer's first number comes to a receiver that got nothing. -/
theorem Incoming.syn {p : UMPPacket} (incoming : Incoming g seed stream sent b r)
    (unheard : b.socket.core.ctrl.synReced = false) (number : p.seqNum = seed)
    (lists : (sockStep b.socket event).lists = b.socket.lists)
    (received : (sockStep b.socket event).core.received =
      { b.socket.core.received with theirDataSeqBase := p.seqNum }) :
    Incoming g seed stream sent (b.take event) ⟨seed, [], []⟩ ∧ (b.take event).got = b.got := by
  have unstarted := incoming.unheard unheard
  have base : (sockStep b.socket event).core.rcv.theirDataSeqBase = p.seqNum :=
    congrArg ReceivePart.theirDataSeqBase received
  have got : (b.take event).got = 0 := by
    show (if b.socket.core.ctrl.synReced then _ else 0) = 0
    rw [unheard]
    rfl
  have after : Unstarted (sockStep b.socket event) ⟨seed, [], []⟩ :=
    ⟨lists.trans unstarted.lists,
      (congrArg ReceivePart.rcvPacketsMsgNum received).trans unstarted.idle,
      (congrArg ReceivePart.deliveries received).trans unstarted.delivered, rfl, rfl⟩
  refine ⟨⟨g.start after (base.trans number), fun _ => after, fun _ => ?_, got⟩, ?_⟩
  · exact ⟨(place_zero seed).symm, by simp, by simp⟩
  · rw [got, incoming.count, unstarted.got, List.length_nil]

/-- A step of the receiver keeps what it got, and takes only what was transmitted. -/
theorem Incoming.step (incoming : Incoming g seed stream sent b r)
    (sound : b.socket.core.handshake.Sound) (near : sent ≤ b.got + 32767) (within : b.got ≤ sent)
    (one : OneMessage start stream) (behind : start ≤ b.got)
    (syn : ∀ p, event = .ctrlPacket p → TakesSyn b.socket.core.handshake p → p.seqNum = seed)
    (arrives : DataArrives seed stream sent b event)
    (safely : ∀ p, event = .dataPacket p → b.socket.core.ctrl.state = .established →
      inReceiveRange b.socket.core.rcv p = true → g.safely b.socket p) :
    ∃ r', Incoming g seed stream sent (b.take event) r' ∧ b.got ≤ (b.take event).got ∧
      (b.take event).got ≤ sent := by
  have step := receive_step b.socket event
  have opens := @sockStep_opens Lists _ b.socket event
  have kept (same : SameReceiver b.socket (sockStep b.socket event))
      (untaken : ∀ p, event = .ctrlPacket p → ¬ TakesSyn b.socket.core.handshake p) :
      ∃ r', Incoming g seed stream sent (b.take event) r' ∧ b.got ≤ (b.take event).got ∧
        (b.take event).got ≤ sent := by
    obtain ⟨still, got⟩ := incoming.keep same fun now =>
      (opens now).resolve_right fun ⟨p, packet, taken⟩ => untaken p packet taken
    exact ⟨r, still, Nat.le_of_eq got.symm, got ▸ within⟩
  cases step with
  | idle event unheard untaken same acks => exact kept same untaken
  | syn p taken lists received acks =>
      obtain ⟨still, got⟩ := incoming.syn taken.fresh (syn p rfl taken) lists received
      exact ⟨_, still, Nat.le_of_eq got.symm, got ▸ within⟩
  | tell owed same acks => exact kept same (by simp)
  | told same acks => exact kept same (by simp)
  | beat established same acks => exact kept same (by simp)
  | dropped p outside same acks => exact kept same (by simp)
  | receive user finished =>
      have heard : b.socket.core.ctrl.synReced = true := by
        by_contra unheard
        have unstarted := incoming.unheard ((Bool.not_eq_true _).mp unheard)
        rw [unstarted.lists, g.nothing] at user
        cases user
      have gathers : g.gathers (sockStep b.socket .handleReceive) r := by
        rw [finished]
        exact g.receive incoming.gathers user
      obtain ⟨still, got⟩ := incoming.advance heard gathers (incoming.aligned heard) (Nat.le_refl _)
        (Nat.le_add_right _ _)
      have count := incoming.count
      exact ⟨r, still, by omega, by omega⟩
  | stored p established inRange v same rcv acks after =>
      have heard : b.socket.core.ctrl.synReced = true := sound.opened (.inl established)
      have aligned := incoming.aligned heard
      have count := incoming.count
      have numbered := (inReceiveRange_iff.mp inRange).1
      obtain ⟨i, transmitted, fresh, stands⟩ := arrives p rfl numbered
      have ascending := g.ascending incoming.gathers
      have before : g.gathers v r := g.congr incoming.gathers same.lists same.received
      have safe := g.safely_congr (safely p rfl established inRange) same.lists rcv
      have oneEnd : p.seqNum = r.base → r.OneEnd p := by
        intro here
        have distance := aligned.offset_eq stands.number (by omega) (by omega)
        rw [here, offset_self] at distance
        have atBase : i = r.got.length := by omega
        exact aligned.oneEnd (by omega) ascending (atBase ▸ stands) (by omega) one (by omega)
      obtain ⟨r', stored, takes⟩ := g.store before (by rw [rcv]; exact inRange) safe oneEnd
      rw [← after] at stored
      obtain ⟨aligned', further, reached⟩ := aligned.take (by omega) ascending
        (g.ascending stored) stands transmitted (by omega) takes
      obtain ⟨still, got⟩ := incoming.advance heard stored aligned' further (by omega)
      exact ⟨r', still, by omega, by omega⟩

/-- The ack of a new datagram is the one that was due. -/
theorem Acking.position {acked k : Nat} {p : UMPPacket} {own : UInt16} (control : OwnControl own b)
    (base : b.socket.core.rcv.theirDataSeqBase = place seed b.got) (inside : k ≤ b.got)
    (near : b.got ≤ acked + 65535) (before : acked ≤ k)
    (number : b.socket.core.acks.dataAckSeq = place seed k) (new : p ∈ sentBy b.socket event)
    (ack : isAck p = true) :
    (b.datagram p).ackPosition = k ∧ p.ackNum = place seed k := by
  simp only [isAck, Bool.and_eq_true, beq_iff_eq] at ack
  obtain ⟨-, same⟩ := (control.sent new).dataAckNum ack.1 ack.2 fun q waits =>
    (control.counted.waiting q waits).1
  have told : p.ackNum = place seed k := same.trans number
  refine ⟨?_, told⟩
  have further : (k : Int) ≤ b.got := by omega
  have distance := toNat_place_sub seed further (by omega)
  show b.got - (b.socket.core.rcv.theirDataSeqBase - p.ackNum).toNat = k
  rw [base, told]
  omega

/-- A step of the receiver keeps its acks true. -/
theorem Acking.step {acked : Nat} {own : UInt16} (acking : Acking seed acked b)
    (control : OwnControl own b) (incoming : Incoming g seed stream sent b r)
    (within : acked ≤ b.got) (near : b.got ≤ acked + 65535)
    (asked : ∀ p, event = .dataPacket p → uPacketGetFlag p UP_DATA_SEQ →
      b.socket.core.ctrl.synReced = true)
    (further : b.got ≤ (b.take event).got) : Acking seed acked (b.take event) := by
  have step := receive_step b.socket event
  have still : b.socket.core.ctrl.synReced = true →
    (sockStep b.socket event).core.ctrl.synReced = true := sockStep_synReced
  have base (heard : b.socket.core.ctrl.synReced = true) :
      b.socket.core.rcv.theirDataSeqBase = place seed b.got := by
    rw [g.base incoming.gathers, (incoming.aligned heard).base, incoming.count]
  have due (p : UMPPacket) (new : p ∈ sentBy b.socket event) (ack : isAck p = true) :
      b.socket.core.acks.dataAckSet = true := by
    simp only [isAck, Bool.and_eq_true, beq_iff_eq] at ack
    exact ((control.sent new).dataAckNum ack.1 ack.2 fun q waits =>
      (control.counted.waiting q waits).1).1
  refine ⟨?_, ?_, ?_⟩
  · intro owed
    apply still
    rcases step.owes owed with before | established | user | ⟨p, packet, flag⟩
    · exact acking.owed before
    · exact control.shaped.sound.opened (.inl established)
    · by_contra unheard
      rw [(incoming.unheard ((Bool.not_eq_true _).mp unheard)).lists, g.nothing] at user
      cases user
    · exact asked p packet flag
  · intro dueNow
    rcases step.due dueNow with ⟨before, number⟩ | ⟨owed, number⟩
    · obtain ⟨heard, k, later, inside, position, most⟩ := acking.due before
      refine ⟨still heard, k, later, Nat.le_trans inside further, number.trans position, ?_⟩
      intro d member ack
      rcases wire_cases member with old | ⟨p, new, rfl⟩
      · exact most d old ack
      · exact Nat.le_of_eq
          (Acking.position control (base heard) inside near later position new ack).1
    · have heard := acking.owed owed
      refine ⟨still heard, b.got, within, further, number.trans (base heard), ?_⟩
      intro d member ack
      rcases wire_cases member with old | ⟨p, new, rfl⟩
      · exact (acking.told d old ack).1
      · obtain ⟨-, k, later, inside, position, -⟩ := acking.due (due p new ack)
        exact (Acking.position control (base heard) inside near later position new ack).1 ▸ inside
  · intro d member ack
    rcases wire_cases member with old | ⟨p, new, rfl⟩
    · obtain ⟨inside, number⟩ := acking.told d old ack
      exact ⟨Nat.le_trans inside further, number⟩
    · obtain ⟨heard, k, later, inside, position, -⟩ := acking.due (due p new ack)
      obtain ⟨same, number⟩ := Acking.position control (base heard) inside near later position new ack
      rw [same]
      exact ⟨Nat.le_trans inside further, number⟩

/-- A step of the receiver keeps the flow of the data it gets. -/
theorem Flow.receive {a : Endpoint Lists} {own : UInt16} (flow : Flow g seed a b start sent r)
    (control : OwnControl own b)
    (syn : ∀ p, event = .ctrlPacket p → TakesSyn b.socket.core.handshake p → p.seqNum = seed)
    (asked : ∀ p, event = .dataPacket p → uPacketGetFlag p UP_DATA_SEQ →
      b.socket.core.ctrl.synReced = true)
    (arrives : DataArrives seed a.stream sent b event)
    (safely : ∀ p, event = .dataPacket p → b.socket.core.ctrl.state = .established →
      inReceiveRange b.socket.core.rcv p = true → g.safely b.socket p) :
    ∃ r', Flow g seed a (b.take event) start sent r' := by
  have near := flow.near
  have between := flow.between
  have ordered := flow.outgoing.tracks.ordered
  have close := flow.outgoing.tracks.near
  obtain ⟨r', incoming, further, within⟩ := flow.incoming.step control.shaped.sound near between.2
    flow.outgoing.one (by omega) syn arrives safely
  have acking := flow.acking.step control flow.incoming between.1 (by omega) asked further
  exact ⟨r', flow.outgoing, incoming, acking, Nat.le_trans between.1 further, within⟩

end Receiver

end UserMessageProtocol
