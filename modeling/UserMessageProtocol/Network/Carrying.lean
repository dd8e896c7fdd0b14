import UserMessageProtocol.Network.Messages
import UserMessageProtocol.Network.Threads
import UserMessageProtocol.Sender.ShortMessages
import UserMessageProtocol.Socket.PublicState

/-!
Contract: the network while short messages are passed one after another.

Owns: what the network brings (`arrivesSafely`), and what holds of two sockets whose users pass
short messages in turn (`Carrying`).

Does not own: who passes them.
-/

set_option autoImplicit false

namespace UserMessageProtocol

/-! ### Short messages in turn -/

/-- What the network brings: each socket opens once, what arrives is fresh, and packets are
inserted safely. -/
def arrivesSafely (net : Duo (Endpoint GLists)) (cause : NetworkEvent) : Prop :=
  opensOnceEach net cause ∧ arrivesFresh net cause ∧ takesEach takesSafely net cause

instance (net : Duo (Endpoint GLists)) (cause : NetworkEvent) :
    Decidable (arrivesSafely net cause) := by
  unfold arrivesSafely
  infer_instance

/-- A message that is passed is short. -/
def postsShortEach (limit : Nat) (net : Duo (Endpoint GLists)) : NetworkEvent → Prop
  | .act side event => postsShort limit (net.get side).socket event
  | .deliver _ _ => True

/-- What holds of two sockets whose users pass short messages one after another. -/
structure Carrying (seeds : Duo UInt16) (net : Duo (Endpoint GLists)) : Prop where
  converses : Converses seeds net
  short : ∀ side, (net.get side).socket.core.snd.sndPacketsCount ≤ (32768 : Nat)

section Carrying

variable {seeds : Duo UInt16} {net : Duo (Endpoint GLists)} {cause : NetworkEvent} {side : Side}
  {event : SockEvent}

theorem acts_deliver {d : Datagram} {p : UMPPacket} (enabled : networkEnabled net (.deliver side d))
    (decoded : arrived d.packet = some p) :
    Acts net (.deliver side d) side (packetEvent p) where
  allowed := enabled.2 p decoded
  step := by simp [networkStep, decoded]
  packet := by
    intro q same
    exact ⟨d, enabled.1, rfl, by rw [decoded, packetEvent_eq same]⟩
  own := .inl (packetEvent_isPacket p)

/-- Short messages end only when they are complete. -/
theorem Carrying.inTime (carrying : Carrying seeds net) (enabled : networkEnabled net cause)
    (opens : opensOnceEach net cause) (fresh : arrivesFresh net cause) :
    conversesInTime net cause := by
  refine ⟨?_, fresh⟩
  cases cause with
  | act side event =>
      refine ⟨opens, ?_⟩
      obtain ⟨own, -⟩ := enabled
      cases event with
      | dataPacket p => cases own
      | _ => trivial
  | deliver side d =>
      intro p decoded
      have acts := acts_deliver enabled decoded
      have related := carrying.converses.flows.meet.related
      obtain ⟨start, sent, r, flow⟩ := carrying.converses.flows.flow side
      refine ⟨acts.opensOnce opens, ?_⟩
      exact endsMessages_of_short (related side).control.shaped flow.outgoing.tracks
        (flow.acksTransmitted (acts.acksArrive related fresh)) (carrying.short side)

theorem Acts.postsShort {limit : Nat} (acts : Acts net cause side event)
    (posts : postsShortEach limit net cause) :
    UserMessageProtocol.postsShort limit (net.get side).socket event := by
  rcases acts.own with packet | own
  · cases event with
    | userSend data => cases packet
    | _ => trivial
  · rw [own] at posts
    exact posts

theorem Carrying.step (carrying : Carrying seeds net) (enabled : networkEnabled net cause)
    (safely : arrivesSafely net cause) (inTurn : passesInTurnEach net cause)
    (posts : postsShortEach 32768 net cause) : Carrying seeds (networkStep net cause) := by
  obtain ⟨opens, fresh, takes⟩ := safely
  refine ⟨carrying.converses.step enabled ⟨carrying.inTime enabled opens fresh, inTurn, takes⟩, ?_⟩
  apply networkStep_each (fun _ e => e.socket.core.snd.sndPacketsCount ≤ (32768 : Nat))
    carrying.short enabled
  intro side event acts
  exact sockStep_short (carrying.short side) (acts.postsShort posts)

theorem opensOnce_onSide (opens : opensOnceEach net cause)
    (does : cause.onSide side = some event) : opensOnce (net.get side).socket event := by
  cases cause with
  | act here own =>
      rcases here.eq_or_other side with rfl | rfl
      · rw [onSide_act_self] at does
        rw [← Option.some.inj does]
        exact opens
      · rw [onSide_act_other] at does
        cases does
  | deliver here d =>
      rcases here.eq_or_other side with rfl | rfl
      · rw [onSide_deliver_self] at does
        obtain ⟨p, -, rfl⟩ := Option.map_eq_some_iff.mp does
        intro handles
        exact absurd (handles ▸ packetEvent_isPacket p) (by decide)
      · rw [onSide_deliver_other] at does
        cases does

/-- Behind the opening of a connection there is none any more. -/
theorem Carrying.opened (carrying : Carrying seeds net) (enabled : networkEnabled net cause)
    (opens : opensOnceEach net cause) (side : Side)
    (opened : ¬ (net.get side).socket.core.handshake.Opening) :
    ¬ ((networkStep net cause).get side).socket.core.handshake.Opening := by
  rw [networkStep_onSide]
  cases does : cause.onSide side with
  | none => exact opened
  | some event =>
      intro opening
      have sound := (carrying.converses.flows.meet.related side).control.shaped.sound
      exact opened (opening_before (networkEnabled_onSide enabled does)
        (opensOnce_onSide opens does) sound opening)

theorem networkStep_published (side : Side) (before : Published (net.get side).socket.core) :
    Published ((networkStep net cause).get side).socket.core := by
  rw [networkStep_onSide]
  cases cause.onSide side with
  | none => exact before
  | some event => exact sockStep_published event before

/-- A step of the network that passes no message of a side. -/
theorem networkStep_passed (enabled : networkEnabled net cause) (side : Side)
    (unposted : ∀ data, cause ≠ .act side (.userSend data)) :
    ((networkStep net cause).get side).passed = (net.get side).passed := by
  rcases networkStep_cases enabled with same | ⟨here, event, acts⟩
  · rw [same]
  · rw [acts.step]
    rcases here.eq_or_other side with rfl | rfl
    · rw [Duo.get_set_self]
      apply take_passed
      rintro data rfl
      rcases acts.own with packet | own
      · cases packet
      · exact unposted data own
    · rw [Duo.get_set_other]

end Carrying

end UserMessageProtocol
