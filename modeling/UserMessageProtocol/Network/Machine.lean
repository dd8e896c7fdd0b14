import UserMessageProtocol.Foundation.Pair
import UserMessageProtocol.Foundation.Runs
import UserMessageProtocol.Packet.RoundTrip
import UserMessageProtocol.Sender.Steps

/-!
Contract: two sockets and the datagrams between them.

Owns: the network as a machine (`networkMachine`): each socket takes the events of
its own, and any datagram that was ever put on the wire may arrive, at any time and
any number of times, or never. Each datagram keeps the positions that its numbers
stood for when it was sent.

Does not own: what the sockets do.
-/

set_option autoImplicit false

namespace UserMessageProtocol

/-! ### Datagrams -/

/-- A packet on the wire, with the position of its sequence number in the data of its
sender and that of its ack in the data of the receiver. -/
structure Datagram where
  packet : UMPPacket
  seqPosition : Nat
  ackPosition : Nat
deriving DecidableEq, Repr

/-- The packet decoded from a datagram's bytes. -/
def arrived (p : UMPPacket) : Option UMPPacket := p.rawData.bind decode

/-- The event by which a packet is handled. -/
def packetEvent (p : UMPPacket) : SockEvent :=
  match p.pType with
  | .control => .ctrlPacket p
  | .data => .dataPacket p

def SockEvent.isPacket : SockEvent → Bool
  | .ctrlPacket _ | .dataPacket _ => true
  | _ => false

/-! ### Endpoints -/

/-- A socket with what it put on the wire, the latest first, the positions of
`our_data_seq_base` and `their_data_seq_base`, and the messages its user passed in. -/
structure Endpoint (Lists : Type) where
  socket : UMPSocket Lists
  wire : List Datagram
  acked : Nat
  got : Nat
  passed : List (List UInt8)

section Endpoint

variable {Lists : Type} [ReceiveLists Lists]

namespace Endpoint

variable (e : Endpoint Lists)

/-- A packet as it is put on the wire. -/
def datagram (p : UMPPacket) : Datagram where
  packet := p
  seqPosition := e.acked + (p.seqNum - e.socket.core.snd.ourDataSeqBase).toNat
  ackPosition := e.got - (e.socket.core.rcv.theirDataSeqBase - p.ackNum).toNat

/-- An endpoint whose socket takes an event. The peer's numbers are counted from its
SYN on. -/
def take (event : SockEvent) : Endpoint Lists :=
  let u := sockStep e.socket event
  { socket := u
    wire := (sentBy e.socket event).map e.datagram ++ e.wire
    acked := e.acked +
      (u.core.snd.ourDataSeqBase - e.socket.core.snd.ourDataSeqBase).toNat
    got :=
      if e.socket.core.ctrl.synReced then
        e.got + (u.core.rcv.theirDataSeqBase - e.socket.core.rcv.theirDataSeqBase).toNat
      else 0
    passed :=
      match event with
      | .userSend data => e.passed ++ [data]
      | _ => e.passed }

@[simp] theorem take_socket (event : SockEvent) :
    (e.take event).socket = sockStep e.socket event := rfl

end Endpoint

/-- A new socket with nothing on the wire. -/
def Endpoint.new (seq : UInt16) (clock : Clock) : Endpoint Lists :=
  ⟨umpSockNew Lists seq clock, [], 0, 0, []⟩

end Endpoint

/-! ### The network -/

/-- What happens in the network: a socket takes an event of its own, or a datagram
of the other side arrives. -/
inductive NetworkEvent where
  | act (side : Side) (event : SockEvent)
  | deliver (side : Side) (d : Datagram)
deriving DecidableEq, Repr

section Network

variable {Lists : Type} [ReceiveLists Lists]

/-- A datagram arrives only if it was sent, and a packet is handled only when the
socket takes it. -/
def networkEnabled (net : Duo (Endpoint Lists)) : NetworkEvent → Prop
  | .act side event =>
      event.isPacket = false ∧ sockEnabled (net.get side).socket event
  | .deliver side d =>
      d ∈ (net.get side.other).wire ∧
        ∀ p ∈ arrived d.packet, sockEnabled (net.get side).socket (packetEvent p)

/-- Bytes that do not decode are dropped. -/
def networkStep (net : Duo (Endpoint Lists)) : NetworkEvent → Duo (Endpoint Lists)
  | .act side event => net.set side ((net.get side).take event)
  | .deliver side d =>
      match arrived d.packet with
      | none => net
      | some p => net.set side ((net.get side).take (packetEvent p))

instance (net : Duo (Endpoint Lists)) (event : NetworkEvent) :
    Decidable (networkEnabled net event) := by
  cases event <;> unfold networkEnabled <;> infer_instance

variable (Lists) in
/-- Two sockets that talk to each other. -/
def networkMachine : Machine (Duo (Endpoint Lists)) NetworkEvent where
  enabled := networkEnabled
  step := networkStep

instance (net : Duo (Endpoint Lists)) (event : NetworkEvent) :
    Decidable ((networkMachine Lists).enabled net event) :=
  inferInstanceAs (Decidable (networkEnabled net event))

variable (Lists) in
/-- Two new sockets, for the numbers they draw and their clocks. -/
def newNetwork (seqs : Duo UInt16) (clocks : Duo Clock) : Duo (Endpoint Lists) :=
  ⟨.new seqs.left clocks.left, .new seqs.right clocks.right⟩

/-- What a socket of the network is made to do. -/
structure Acts (net : Duo (Endpoint Lists)) (cause : NetworkEvent) (side : Side)
    (event : SockEvent) : Prop where
  allowed : sockEnabled (net.get side).socket event
  step : networkStep net cause = net.set side ((net.get side).take event)
  packet : ∀ p, event = .ctrlPacket p ∨ event = .dataPacket p →
    ∃ d ∈ (net.get side.other).wire, cause = .deliver side d ∧ arrived d.packet = some p
  own : event.isPacket = true ∨ cause = .act side event

theorem packetEvent_isPacket (p : UMPPacket) : (packetEvent p).isPacket = true := by
  unfold packetEvent
  split <;> rfl

theorem packetEvent_eq {p q : UMPPacket}
    (same : packetEvent p = .ctrlPacket q ∨ packetEvent p = .dataPacket q) : p = q := by
  unfold packetEvent at same
  split at same <;> simpa using same

/-- Every step changes nothing, or it is a step of one of the sockets. -/
theorem networkStep_cases {net : Duo (Endpoint Lists)} {cause : NetworkEvent}
    (enabled : networkEnabled net cause) :
    networkStep net cause = net ∨ ∃ side event, Acts net cause side event := by
  cases cause with
  | act side event =>
      refine .inr ⟨side, event, enabled.2, rfl, ?_, .inr rfl⟩
      rintro p (rfl | rfl)
      · exact absurd enabled.1 (by simp [SockEvent.isPacket])
      · exact absurd enabled.1 (by simp [SockEvent.isPacket])
  | deliver side d =>
      obtain ⟨sent, allowed⟩ := enabled
      cases decoded : arrived d.packet with
      | none =>
          left
          simp [networkStep, decoded]
      | some p =>
          refine .inr ⟨side, packetEvent p, allowed p decoded, by simp [networkStep, decoded], ?_,
            .inl (packetEvent_isPacket p)⟩
          intro q same
          exact ⟨d, sent, rfl, by rw [decoded, packetEvent_eq same]⟩

/-- What holds of each endpoint is kept when the one that acts keeps it. -/
theorem networkStep_each (property : Side → Endpoint Lists → Prop) {net : Duo (Endpoint Lists)}
    {cause : NetworkEvent} (each : ∀ side, property side (net.get side))
    (enabled : networkEnabled net cause)
    (keeps : ∀ side event, Acts net cause side event → property side ((net.get side).take event)) :
    ∀ side, property side ((networkStep net cause).get side) := by
  rcases networkStep_cases enabled with same | ⟨side, event, acts⟩
  · rw [same]
    exact each
  · rw [acts.step]
    intro here
    rcases side.eq_or_other here with rfl | rfl
    · rw [Duo.get_set_self]
      exact keeps here event acts
    · rw [Duo.get_set_other]
      exact each side.other

end Network

/-! ### Runs told by cues -/

/-- An event of the network, a datagram being named by its place on the wire, the latest
first. -/
inductive Cue where
  | act (side : Side) (event : SockEvent)
  | deliver (side : Side) (place : Nat)

section Cues

variable {Lists : Type} [ReceiveLists Lists]

/-- The event a cue stands for. Where nothing was sent, nothing arrives. -/
def Cue.event (net : Duo (Endpoint Lists)) : Cue → NetworkEvent
  | .act side event => .act side event
  | .deliver side place =>
      match (net.get side.other).wire[place]? with
      | some d => .deliver side d
      | none => .act side .sendReset

/-- The events that cues stand for from a state on. -/
def cued (net : Duo (Endpoint Lists)) : List Cue → List NetworkEvent
  | [] => []
  | cue :: rest => cue.event net :: cued (networkStep net (cue.event net)) rest

end Cues

end UserMessageProtocol
