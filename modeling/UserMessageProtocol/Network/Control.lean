import UserMessageProtocol.Connection.Numbers
import UserMessageProtocol.Network.Wire

/-!
Contract: the control packets of two sockets that talk to each other.

Owns: the invariant that relates the control numbers of each socket and its packets
on the wire to what the other one took (`Speaks`), the steps that do not pass over a
FIN (`heedsFin`), and the theorem that no SYN or FIN is acknowledged and forgotten.

Does not own: data packets.
-/

set_option autoImplicit false

namespace UserMessageProtocol

open Serial

variable {Lists : Type} [ReceiveLists Lists]

/-! ### One side -/

/-- The SYNs and FINs a socket queued. -/
def Endpoint.queued (e : Endpoint Lists) : Nat := queuedCount e.socket.core.log

/-- The control packets of a socket and what it may acknowledge. -/
structure OwnControl (seed : UInt16) (e : Endpoint Lists) : Prop where
  shaped : WellShaped e.socket
  counted : Counted seed e.socket.core.handshake.own
  encoded : ∀ d ∈ e.wire, Encoded d.packet
  sequenced : ∀ d ∈ e.wire, d.packet.pType = .control → uPacketGetFlag d.packet UP_CTRL_SEQ →
    ∃ index < e.socket.core.handshake.own.queued, Ordinal seed index d.packet ∧
      (index % 2 = 1 → e.socket.core.ctrl.synAckReced = true)
  acks : ∀ d ∈ e.wire, d.packet.pType = .control → uPacketGetFlag d.packet UP_CTRL_ACK →
    e.socket.core.ctrl.synReced = true
  due : e.socket.core.ackInfo.ctrlAckSet = true → e.socket.core.ctrl.synReced = true

section Step

variable {seed : UInt16} {e : Endpoint Lists} {event : SockEvent}

/-- A datagram of the wire is an old one, or a packet of the step. -/
theorem wire_cases {d : Datagram} (member : d ∈ (e.take event).wire) :
    d ∈ e.wire ∨ ∃ p ∈ sentBy e.socket event, d = e.datagram p := by
  rcases List.mem_append.mp member with new | old
  · obtain ⟨p, sent, same⟩ := List.mem_map.mp new
    exact .inr ⟨p, sent, same.symm⟩
  · exact .inl old

/-- A new packet is one that could be sent before the step. -/
theorem OwnControl.sent (control : OwnControl seed e) {p : UMPPacket}
    (member : p ∈ sentBy e.socket event) : Sent e.socket.core p :=
  sent_of_sentBy control.shaped member

theorem OwnControl.step (control : OwnControl seed e) (allowed : sockEnabled e.socket event)
    (owes : (sockStep e.socket event).core.ackInfo.ctrlAckSet = true →
      (sockStep e.socket event).core.ctrl.synReced = true) :
    OwnControl seed (e.take event) := by
  obtain ⟨own, theirs⟩ := sides_step allowed control.shaped.sound
  have shape := control.shaped.shape
  have heard : e.socket.core.ctrl.synReced = true →
      (sockStep e.socket event).core.ctrl.synReced = true := theirs.synReced
  exact
    { shaped := control.shaped.step allowed
      counted := control.counted.move own
      encoded := by
        intro d member
        rcases wire_cases member with old | ⟨p, new, rfl⟩
        · exact control.encoded d old
        · exact (control.sent new).encoded shape control.counted.waiting
      sequenced := by
        intro d member type flag
        rcases wire_cases member with old | ⟨p, new, rfl⟩
        · obtain ⟨index, before, ordinal, acked⟩ := control.sequenced d old type flag
          exact ⟨index, Nat.lt_of_lt_of_le before own.queued_le, ordinal,
            fun odd => own.synAckReced (acked odd)⟩
        · obtain ⟨q, pending, seqNum, flags⟩ := (control.sent new).ctrlSeq shape type flag
          obtain ⟨index, last, waiting, acked⟩ := control.counted.pending q pending
          refine ⟨index, ?_, waiting.ordinal.congr seqNum flags,
            fun odd => own.synAckReced (acked odd)⟩
          exact Nat.lt_of_lt_of_le (by omega) own.queued_le
      acks := by
        intro d member type flag
        rcases wire_cases member with old | ⟨p, new, rfl⟩
        · exact heard (control.acks d old type flag)
        · exact heard (control.due ((control.sent new).ctrlAckNum shape type flag).1)
      due := owes }

end Step

/-! ### Both sides -/

/-- What a socket knows of its peer's SYNs and FINs is true. -/
structure Speaks (seeds : Duo UInt16) (side : Side) (e peer : Endpoint Lists) : Prop where
  control : OwnControl (seeds.get side) e
  heard : e.socket.core.ctrl.synReced = true → ∃ count, 1 ≤ count ∧
    count ≤ peer.socket.core.handshake.own.queued ∧
    e.socket.core.ctrl.theirCtrlSeq = place (seeds.get side.other) count
  acked : e.socket.core.ctrl.synAckReced = true → peer.socket.core.ctrl.synReced = true

/-- The control packet `p` came from the peer. -/
structure Arrives (seed : UInt16) (peer : Endpoint Lists) (p : UMPPacket) : Prop where
  sequenced : uPacketGetFlag p UP_CTRL_SEQ →
    ∃ index < peer.socket.core.handshake.own.queued, Ordinal seed index p ∧
      (index % 2 = 1 → peer.socket.core.ctrl.synAckReced = true)
  acks : uPacketGetFlag p UP_CTRL_ACK → ∃ d ∈ peer.wire, d.packet.pType = .control ∧
    uPacketGetFlag d.packet UP_CTRL_ACK ∧ d.packet.ackNum = p.ackNum

section Network

variable {seeds : Duo UInt16} {net : Duo (Endpoint Lists)} {cause : NetworkEvent} {side : Side}
  {event : SockEvent}

theorem Acts.arrives {p : UMPPacket} (acts : Acts net cause side event)
    (related : net.Related (Speaks seeds)) (packet : event = .ctrlPacket p) :
    Arrives (seeds.get side.other) (net.get side.other) p := by
  obtain ⟨d, member, -, decoded⟩ := acts.packet p (.inl packet)
  have peer := (related side.other).control
  have control : p.pType = .control := by
    have allowed := acts.allowed
    rw [packet] at allowed
    exact allowed.2
  have same := received_of_arrived (peer.encoded d member) decoded
  rw [same, receivedForm_pType] at control
  refine ⟨?_, ?_⟩
  · intro flag
    rw [same, receivedForm_getFlag] at flag
    obtain ⟨index, before, ordinal, acked⟩ := peer.sequenced d member control flag
    refine ⟨index, before, ?_, acked⟩
    rw [same]
    exact ordinal.congr (receivedForm_ctrlSeq control flag)
      fun mask _ => receivedForm_getFlag d.packet mask
  · intro flag
    rw [same, receivedForm_getFlag] at flag
    exact ⟨d, member, control, flag, by rw [same, receivedForm_ctrlAck control flag]⟩

omit [ReceiveLists Lists] in
/-- A packet that makes a socket owe an ack shows that the peer's SYN came. -/
theorem Speaks.known {p : UMPPacket} (related : net.Related (Speaks seeds))
    (arrives : Arrives (seeds.get side.other) (net.get side.other) p)
    (known : (net.get side).socket.core.ctrl.synReced = true ∨
      uPacketGetFlag p UP_CTRL_SYN = false ∧ uPacketGetFlag p UP_CTRL_SEQ) :
    (net.get side).socket.core.ctrl.synReced = true := by
  rcases known with heard | ⟨noSyn, flag⟩
  · exact heard
  · obtain ⟨index, -, ordinal, acked⟩ := arrives.sequenced flag
    have odd : index % 2 = 1 := by
      have syn := ordinal.syn
      rw [noSyn] at syn
      have := of_decide_eq_false syn.symm
      omega
    have peer := related side.other
    rw [Side.other_other] at peer
    exact peer.acked (acked odd)

/-- What a socket owes and takes in a step of the network. -/
theorem Speaks.taken (related : net.Related (Speaks seeds)) (acts : Acts net cause side event) :
    ((sockStep (net.get side).socket event).core.ackInfo.ctrlAckSet = true →
      (sockStep (net.get side).socket event).core.ctrl.synReced = true) ∧
    ((sockStep (net.get side).socket event).core.ctrl.synReced = true → ∃ count, 1 ≤ count ∧
      count ≤ (net.get side.other).socket.core.handshake.own.queued ∧
      (sockStep (net.get side).socket event).core.ctrl.theirCtrlSeq =
        place (seeds.get side.other) count) := by
  have here := related side
  obtain ⟨-, theirs⟩ := sides_step acts.allowed here.control.shaped.sound
  have ctrlAckSet : (sockStep (net.get side).socket event).core.ackInfo.ctrlAckSet =
    (sockStep (net.get side).socket event).core.handshake.theirs.ctrlAckSet := rfl
  have synReced : (sockStep (net.get side).socket event).core.ctrl.synReced =
    (sockStep (net.get side).socket event).core.handshake.theirs.synReced := rfl
  have theirCtrlSeq : (sockStep (net.get side).socket event).core.ctrl.theirCtrlSeq =
    (sockStep (net.get side).socket event).core.handshake.theirs.theirCtrlSeq := rfl
  rw [ctrlAckSet, synReced, theirCtrlSeq]
  generalize (sockStep (net.get side).socket event).core.handshake.theirs = after at theirs
  have next {p : UMPPacket} (packet : event = .ctrlPacket p) (flag : uPacketGetFlag p UP_CTRL_SEQ) :
      ∃ count, 1 ≤ count ∧ count ≤ (net.get side.other).socket.core.handshake.own.queued ∧
        p.seqNum + 1 = place (seeds.get side.other) count := by
    obtain ⟨index, before, ordinal, -⟩ := (acts.arrives related packet).sequenced flag
    refine ⟨index + 1, by omega, before, ?_⟩
    rw [ordinal.seqNum, place_add_one]
    rfl
  cases theirs with
  | keep => exact ⟨here.control.due, here.heard⟩
  | ackSent => exact ⟨nofun, here.heard⟩
  | owe p packet known =>
      have heard := Speaks.known related (acts.arrives related packet) known
      exact ⟨fun _ => heard, here.heard⟩
  | count p packet known numbered inSequence finReced kept seen =>
      have heard := Speaks.known related (acts.arrives related packet) known
      refine ⟨fun _ => heard, fun _ => ?_⟩
      obtain ⟨count, some, queued, seq⟩ := next packet numbered
      rw [inSequence] at seq
      exact ⟨count, some, queued, seq⟩
  | syn p packet fresh opening flag numbered =>
      exact ⟨fun _ => rfl, fun _ => next packet numbered⟩

/-- What two sockets know of each other stays true. -/
theorem networkStep_speaks (related : net.Related (Speaks seeds))
    (enabled : networkEnabled net cause) : (networkStep net cause).Related (Speaks seeds) := by
  rcases networkStep_cases enabled with same | ⟨side, event, acts⟩
  · rw [same]
    exact related
  have here := related side
  have peer := related side.other
  rw [Side.other_other] at peer
  obtain ⟨own, theirs⟩ := sides_step acts.allowed here.control.shaped.sound
  obtain ⟨owes, taken⟩ := Speaks.taken related acts
  rw [acts.step]
  refine Duo.Related.set ?_ ?_
  · refine ⟨here.control.step acts.allowed owes, taken, ?_⟩
    intro acked
    rcases own.acked acked with before | ⟨p, packet, flag⟩
    · exact here.acked before
    · obtain ⟨d, member, control, ack, -⟩ := (acts.arrives related packet).acks flag
      exact peer.control.acks d member control ack
  · refine ⟨peer.control, ?_, fun acked => theirs.synReced (peer.acked acked)⟩
    intro heard
    rw [Side.other_other]
    obtain ⟨count, some, queued, seq⟩ := peer.heard heard
    rw [Side.other_other] at seq
    exact ⟨count, some, Nat.le_trans queued own.queued_le, seq⟩

theorem newNetwork_speaks (seeds : Duo UInt16) (clocks : Duo Clock) :
    (newNetwork Lists seeds clocks).Related (Speaks seeds) := by
  have fresh (seed : UInt16) (clock : Clock) (side : Side) (same : seed = seeds.get side)
      (peer : Endpoint Lists) : Speaks seeds side (Endpoint.new seed clock) peer := by
    subst same
    exact
      { control :=
          { shaped := wellShaped_new _ clock
            counted := counted_new _ clock
            encoded := nofun
            sequenced := nofun
            acks := nofun
            due := nofun }
        heard := nofun
        acked := nofun }
  rintro (_ | _)
  · exact fresh _ _ .left rfl _
  · exact fresh _ _ .right rfl _

/-- In every run two sockets speak truly of each other. -/
theorem speaks_of_run {clocks : Duo Clock} {events : List NetworkEvent}
    {condition : Duo (Endpoint Lists) → NetworkEvent → Prop}
    (run : (networkMachine Lists).RunWhere condition (newNetwork Lists seeds clocks) events net) :
    net.Related (Speaks seeds) :=
  run.invariant (newNetwork_speaks seeds clocks)
    fun _ _ related enabled _ => networkStep_speaks related enabled

end Network

/-! ### No FIN is passed over -/

/-- A number of this parity is one behind a FIN of the peer. -/
def behindFin (seed number : UInt16) : Prop := (number - seed).toNat % 2 = 0

instance (seed number : UInt16) : Decidable (behindFin seed number) := by
  unfold behindFin
  infer_instance

/-- A FIN in sequence is handled only where it is noted, or behind another one. -/
def heedsFin (net : Duo (Endpoint Lists)) : NetworkEvent → Prop
  | .act _ _ => True
  | .deliver side d =>
      let ctrl := (net.get side).socket.core.ctrl
      ∀ p ∈ arrived d.packet, p.pType = .control → uPacketGetFlag p UP_CTRL_FIN →
        uPacketGetFlag p UP_CTRL_SEQ → p.seqNum = ctrl.theirCtrlSeq →
        ctrl.state = .established ∨ ctrl.state = .closing ∨ ctrl.finReced = true

instance (net : Duo (Endpoint Lists)) (cause : NetworkEvent) : Decidable (heedsFin net cause) :=
  match cause with
  | .act _ _ => instDecidableTrue
  | .deliver _ _ => by unfold heedsFin; infer_instance

/-- The pending packet `q` is discarded because the packet `p` acknowledges it. -/
def Discards (u : UMPSocket Lists) (p q : UMPPacket) : Prop :=
  u.core.ctrl.ctrlPacketToSend = some q ∧ uPacketGetFlag p UP_CTRL_ACK ∧
    p.ackNum = u.core.ctrl.ourCtrlSeq ∧
    (sockStep u (.ctrlPacket p)).core.ctrl.ctrlPacketToSend ≠ some q

/-- What the packet `p` does to the socket `u` whose peer is `peer`: a SYN (FIN) that is
discarded was received by the peer, and a FIN that is counted is noted. -/
structure NothingForgotten (u peer : UMPSocket Lists) (p : UMPPacket) : Prop where
  syn : ∀ q, Discards u p q → uPacketGetFlag q UP_CTRL_SYN → peer.core.ctrl.synReced = true
  fin : ∀ q, Discards u p q → uPacketGetFlag q UP_CTRL_FIN → peer.core.ctrl.finReced = true
  noted : uPacketGetFlag p UP_CTRL_FIN →
    (sockStep u (.ctrlPacket p)).core.ctrl.theirCtrlSeq ≠ u.core.ctrl.theirCtrlSeq →
      (sockStep u (.ctrlPacket p)).core.ctrl.finReced = true

/-- Nothing is forgotten by the control packet that arrives in this step. -/
def FinNotForgotten (net : Duo (Endpoint Lists)) (cause : NetworkEvent) : Prop :=
  ∀ side d p, cause = .deliver side d → arrived d.packet = some p → p.pType = .control →
    NothingForgotten (net.get side).socket (net.get side.other).socket p

/-- What a socket acknowledges of the FINs of its peer, whose first number is `seed`, it
has noted. -/
structure NotesFin (seed : UInt16) (e : Endpoint Lists) : Prop where
  taken : e.socket.core.ctrl.synReced = true → behindFin seed e.socket.core.ctrl.theirCtrlSeq →
    e.socket.core.ctrl.finReced = true
  due : e.socket.core.ackInfo.ctrlAckSet = true →
    behindFin seed e.socket.core.ackInfo.ctrlAckData → e.socket.core.ctrl.finReced = true
  told : ∀ d ∈ e.wire, d.packet.pType = .control → uPacketGetFlag d.packet UP_CTRL_ACK →
    behindFin seed d.packet.ackNum → e.socket.core.ctrl.finReced = true

section Fin

variable {seeds : Duo UInt16} {net : Duo (Endpoint Lists)} {cause : NetworkEvent} {side : Side}
  {event : SockEvent}

theorem heedsFin_act {p : UMPPacket} (acts : Acts net cause side event) (heeds : heedsFin net cause)
    (packet : event = .ctrlPacket p) (fin : uPacketGetFlag p UP_CTRL_FIN)
    (flag : uPacketGetFlag p UP_CTRL_SEQ)
    (inSequence : p.seqNum = (net.get side).socket.core.ctrl.theirCtrlSeq) :
    (net.get side).socket.core.ctrl.state = .established ∨
      (net.get side).socket.core.ctrl.state = .closing ∨
      (net.get side).socket.core.ctrl.finReced = true := by
  obtain ⟨d, -, same, decoded⟩ := acts.packet p (.inl packet)
  have control : p.pType = .control := by
    have allowed := acts.allowed
    rw [packet] at allowed
    exact allowed.2
  rw [same] at heeds
  exact heeds p decoded control fin flag inSequence

/-- A FIN that is counted is noted. -/
theorem TheirMove.noted {theirs theirs' : TheirSide} {state : UMPSockState} {p : UMPPacket}
    (move : TheirMove (.ctrlPacket p) state theirs theirs')
    (heeds : uPacketGetFlag p UP_CTRL_SEQ → p.seqNum = theirs.theirCtrlSeq →
      state = .established ∨ state = .closing ∨ theirs.finReced = true)
    (noSyn : uPacketGetFlag p UP_CTRL_SEQ → uPacketGetFlag p UP_CTRL_SYN = false)
    (fin : uPacketGetFlag p UP_CTRL_FIN) (counted : theirs'.theirCtrlSeq ≠ theirs.theirCtrlSeq) :
    theirs'.finReced = true := by
  cases move with
  | keep | ackSent | owe => exact absurd rfl counted
  | count q packet known numbered inSequence finReced kept seen =>
      rw [← SockEvent.ctrlPacket.inj packet] at numbered inSequence seen
      rcases heeds numbered inSequence with established | closing | before
      · exact seen (.inl established) fin
      · exact seen (.inr closing) fin
      · exact kept before
  | syn q packet fresh opening flag numbered =>
      rw [← SockEvent.ctrlPacket.inj packet] at flag numbered
      exact absurd (flag.symm.trans (noSyn numbered)) (by decide)

theorem NotesFin.step (related : net.Related (Speaks seeds)) (acts : Acts net cause side event)
    (heeds : heedsFin net cause) (notes : NotesFin (seeds.get side.other) (net.get side)) :
    NotesFin (seeds.get side.other) ((net.get side).take event) := by
  have here := related side
  obtain ⟨-, theirs⟩ := sides_step acts.allowed here.control.shaped.sound
  have kept : (net.get side).socket.core.ctrl.finReced = true →
      (sockStep (net.get side).socket event).core.ctrl.finReced = true := theirs.finReced
  have both : ((sockStep (net.get side).socket event).core.handshake.theirs.synReced = true →
      behindFin (seeds.get side.other)
        (sockStep (net.get side).socket event).core.handshake.theirs.theirCtrlSeq →
      (sockStep (net.get side).socket event).core.handshake.theirs.finReced = true) ∧
      ((sockStep (net.get side).socket event).core.handshake.theirs.ctrlAckSet = true →
      behindFin (seeds.get side.other)
        (sockStep (net.get side).socket event).core.handshake.theirs.ctrlAckData →
      (sockStep (net.get side).socket event).core.handshake.theirs.finReced = true) := by
    generalize (sockStep (net.get side).socket event).core.handshake.theirs = after at theirs
    cases theirs with
    | keep => exact ⟨notes.taken, notes.due⟩
    | ackSent => exact ⟨notes.taken, nofun⟩
    | owe p packet known =>
        have heard := Speaks.known related (acts.arrives related packet) known
        exact ⟨notes.taken, fun _ => notes.taken heard⟩
    | count p packet known numbered inSequence finReced keeps seen =>
        have noted : behindFin (seeds.get side.other)
            ((net.get side).socket.core.ctrl.theirCtrlSeq + 1) → finReced = true := by
          intro behind
          obtain ⟨index, -, ordinal, -⟩ := (acts.arrives related packet).sequenced numbered
          have number : (net.get side).socket.core.ctrl.theirCtrlSeq + 1 =
              place (seeds.get side.other) ((index + 1 : Nat) : Int) := by
            rw [show (net.get side).socket.core.ctrl.theirCtrlSeq = p.seqNum from inSequence.symm,
              ordinal.seqNum, place_add_one]
            rfl
          rw [number, behindFin, place_parity] at behind
          have fin : uPacketGetFlag p UP_CTRL_FIN = true := by
            rw [ordinal.fin]
            exact decide_eq_true (by omega)
          rcases heedsFin_act acts heeds packet fin numbered inSequence with
            established | closing | before
          · exact seen (.inl established) fin
          · exact seen (.inr closing) fin
          · exact keeps before
        exact ⟨fun _ => noted, fun _ => noted⟩
    | syn p packet fresh opening flag numbered =>
        have ahead : ¬ behindFin (seeds.get side.other) (p.seqNum + 1) := by
          intro behind
          obtain ⟨index, -, ordinal, -⟩ := (acts.arrives related packet).sequenced numbered
          have number : p.seqNum + 1 = place (seeds.get side.other) ((index + 1 : Nat) : Int) := by
            rw [ordinal.seqNum, place_add_one]
            rfl
          rw [number, behindFin, place_parity] at behind
          have even := of_decide_eq_true (ordinal.syn.symm.trans flag)
          omega
        exact ⟨fun _ behind => absurd behind ahead, fun _ behind => absurd behind ahead⟩
  refine ⟨both.1, both.2, ?_⟩
  intro d member control ack behind
  rcases wire_cases member with old | ⟨p, new, rfl⟩
  · exact kept (notes.told d old control ack behind)
  · obtain ⟨due, number⟩ := (here.control.sent new).ctrlAckNum here.control.shaped.shape control ack
    have behind : behindFin (seeds.get side.other) p.ackNum := behind
    rw [number] at behind
    exact kept (notes.due due behind)

/-- Both sockets note the FINs they acknowledge, in every run that passes over none. -/
theorem notesFin_of_run {clocks : Duo Clock} {events : List NetworkEvent}
    (run : (networkMachine Lists).RunWhere heedsFin (newNetwork Lists seeds clocks) events net) :
    ∀ side, NotesFin (seeds.get side.other) (net.get side) := by
  let Holds (net : Duo (Endpoint Lists)) : Prop :=
    net.Related (Speaks seeds) ∧ ∀ side, NotesFin (seeds.get side.other) (net.get side)
  have first : Holds (newNetwork Lists seeds clocks) := by
    refine ⟨newNetwork_speaks seeds clocks, ?_⟩
    rintro (_ | _)
    · exact ⟨nofun, nofun, nofun⟩
    · exact ⟨nofun, nofun, nofun⟩
  have always : Holds net := by
    refine run.invariant first ?_
    rintro net cause ⟨related, notes⟩ enabled heeds
    exact ⟨networkStep_speaks related enabled, networkStep_each
      (fun side => NotesFin (seeds.get side.other)) notes enabled
      fun side event acts => (notes side).step related acts heeds⟩
  exact always.2

/-- In a run that passes over no FIN, no SYN or FIN is acknowledged and forgotten. -/
theorem finNotForgotten_of_run {clocks : Duo Clock} {events : List NetworkEvent}
    (run : (networkMachine Lists).RunWhere heedsFin (newNetwork Lists seeds clocks) events net)
    (enabled : networkEnabled net cause) (heeds : heedsFin net cause) :
    FinNotForgotten net cause := by
  have related := speaks_of_run run
  have notes := notesFin_of_run run
  rintro side d p rfl decoded control
  have event : packetEvent p = .ctrlPacket p := by
    unfold packetEvent
    rw [control]
  have allowed := enabled.2 p decoded
  rw [event] at allowed
  have acts : Acts net (.deliver side d) side (.ctrlPacket p) := by
    refine ⟨allowed, ?_, ?_, .inl rfl⟩
    · rw [← event]
      simp [networkStep, decoded]
    · rintro q (same | same)
      · rw [← SockEvent.ctrlPacket.inj same]
        exact ⟨d, enabled.1, rfl, decoded⟩
      · contradiction
  have arrives := acts.arrives related rfl
  have here := related side
  obtain ⟨-, theirs⟩ := sides_step allowed here.control.shaped.sound
  refine ⟨?_, ?_, ?_⟩
  · rintro q ⟨-, ack, -, -⟩ -
    obtain ⟨d, member, type, flag, -⟩ := arrives.acks ack
    exact (related side.other).control.acks d member type flag
  · rintro q ⟨pending, ack, number, -⟩ fin
    obtain ⟨d, member, type, flag, same⟩ := arrives.acks ack
    have other := notes side.other
    rw [Side.other_other] at other
    refine other.told d member type flag ?_
    obtain ⟨index, last, waiting, -⟩ := here.control.counted.pending q pending
    have odd := of_decide_eq_true (waiting.ordinal.fin.symm.trans fin)
    have next : (net.get side).socket.core.ctrl.ourCtrlSeq = _ := here.control.counted.next
    rw [same, number, next, behindFin, place_parity]
    omega
  · intro fin counted
    refine theirs.noted ?_ ?_ fin counted
    · intro flag inSequence
      exact heedsFin_act acts heeds rfl fin flag inSequence
    · intro flag
      obtain ⟨index, -, ordinal, -⟩ := arrives.sequenced flag
      have odd := of_decide_eq_true (ordinal.fin.symm.trans fin)
      rw [ordinal.syn]
      exact decide_eq_false (by omega)

end Fin

/-- Two sockets with the numbers 100 and 7. -/
def exampleNetwork : Duo (Endpoint PlainLists) :=
  newNetwork PlainLists ⟨100, 7⟩ ⟨⟨fun _ => ⟨0, 0⟩, 0⟩, ⟨fun _ => ⟨0, 0⟩, 0⟩⟩

/-- The left socket opens, and the right one answers. -/
def answeredOpen : List Cue :=
  [.act .left (.userCtrl .connect), .act .left .handleCtrl, .act .left .sendCtrlPacket,
    .deliver .right 0, .act .right .sendCtrlPacket, .deliver .left 0, .act .left .sendCtrlPacket]

/-- The left socket closes, and the right one answers. -/
def answeredClose : List Cue :=
  [.act .left (.userCtrl .close), .act .left .handleCtrl, .act .left .sendCtrlPacket,
    .deliver .right 0, .act .right .sendCtrlPacket]

/-- The ack of the SYN arrives before the FIN. -/
def heededNetwork : Duo (Endpoint PlainLists) :=
  (networkMachine PlainLists).after exampleNetwork
    (cued exampleNetwork (answeredOpen ++ [.deliver .right 0] ++ answeredClose))

/-- The ack of the FIN arrives. -/
theorem finNotForgotten_heededNetwork :
    FinNotForgotten heededNetwork ((Cue.deliver .left 0).event heededNetwork) := by
  have run : (networkMachine PlainLists).RunWhere heedsFin exampleNetwork
      (cued exampleNetwork (answeredOpen ++ [.deliver .right 0] ++ answeredClose)) heededNetwork :=
    Machine.runWhere_of_check (by decide +kernel)
  exact finNotForgotten_of_run run (by decide +kernel) (by decide +kernel)

/-- The ack of the SYN is lost, and the FIN comes while the right socket is still
connecting: it is acknowledged and given up, and the right socket does not know of it. -/
theorem finNotForgotten_fails :
    ¬ ∀ (seeds : Duo UInt16) (clocks : Duo Clock) (events : List NetworkEvent)
      (net : Duo (Endpoint PlainLists)) (cause : NetworkEvent),
      (networkMachine PlainLists).Run (newNetwork PlainLists seeds clocks) events net →
        networkEnabled net cause → FinNotForgotten net cause := by
  intro always
  have run : (networkMachine PlainLists).Run exampleNetwork
      (cued exampleNetwork (answeredOpen ++ answeredClose)) _ :=
    Machine.runWhere_of_check (by decide +kernel)
  have kept := always _ _ _ _
    (.deliver .left ⟨ctrlAckAlone ⟨true, false, 102, 0, 0, ⟨0, 0⟩, false, false⟩, 65529, 0⟩) run
    (by decide +kernel)
  have discarded := (kept _ _ _ rfl (arrived_of_encoded (ctrlAckAlone_encoded _)) rfl).fin
    (uPacketToBinary (uPacketClearFlag (finPacket 101) UP_CTRL_ACK))
    ⟨by decide +kernel, by decide +kernel, by decide +kernel, by decide +kernel⟩ (by decide +kernel)
  exact absurd discarded (by decide +kernel)

end UserMessageProtocol
