import UserMessageProtocol.Foundation.Nesting
import UserMessageProtocol.Network.Machine

/-!
Contract: the sockets of the network as threads for their users.

Owns: what an event of the network makes a socket do (`NetworkEvent.onSide`), and a socket as
a part of the network (`onNetwork`).

Does not own: the users.
-/

set_option autoImplicit false

namespace UserMessageProtocol

/-! ### Sockets of the network -/

/-- What an event of the network makes the socket of a side do. -/
def NetworkEvent.onSide (side : Side) : NetworkEvent → Option SockEvent
  | .act here event => if here = side then some event else none
  | .deliver here d => if here = side then (arrived d.packet).map packetEvent else none

section Sockets

variable {Lists : Type} [ReceiveLists Lists]

/-- A socket of the network, as its users see it. -/
def onNetwork (side : Side) (t : CallThread (UMPSocket Lists) SockEvent) :
    t.Part (networkMachine Lists) where
  state net := (net.get side).socket
  event _ := NetworkEvent.onSide side
  posts cause := (cause.onSide side).any t.posts
  foreign cause := (cause.onSide side).all t.foreign

theorem onSide_act_self (side : Side) (event : SockEvent) :
    (NetworkEvent.act side event).onSide side = some event := if_pos rfl

theorem onSide_act_other (side : Side) (event : SockEvent) :
    (NetworkEvent.act side event).onSide side.other = none := if_neg (Side.other_ne side).symm

theorem onSide_deliver_self (side : Side) (d : Datagram) :
    (NetworkEvent.deliver side d).onSide side = (arrived d.packet).map packetEvent := if_pos rfl

theorem onSide_deliver_other (side : Side) (d : Datagram) :
    (NetworkEvent.deliver side d).onSide side.other = none := if_neg (Side.other_ne side).symm

theorem networkStep_onSide {net : Duo (Endpoint Lists)} {cause : NetworkEvent} {side : Side} :
    ((networkStep net cause).get side).socket =
      (cause.onSide side).elim (net.get side).socket (sockStep (net.get side).socket) := by
  cases cause with
  | act here event =>
      rcases here.eq_or_other side with rfl | rfl
      · rw [onSide_act_self, networkStep, Duo.get_set_self]
        rfl
      · rw [onSide_act_other, networkStep, Duo.get_set_other]
        rfl
  | deliver here d =>
      cases decoded : arrived d.packet with
      | none =>
          have still : networkStep net (.deliver here d) = net := by simp [networkStep, decoded]
          rcases here.eq_or_other side with rfl | rfl
          · rw [onSide_deliver_self, decoded, still]
            rfl
          · rw [onSide_deliver_other, still]
            rfl
      | some p =>
          have steps : networkStep net (.deliver here d) =
              net.set here ((net.get here).take (packetEvent p)) := by simp [networkStep, decoded]
          rcases here.eq_or_other side with rfl | rfl
          · rw [onSide_deliver_self, decoded, steps, Duo.get_set_self]
            rfl
          · rw [onSide_deliver_other, steps, Duo.get_set_other]
            rfl

omit [ReceiveLists Lists] in
theorem networkEnabled_onSide {net : Duo (Endpoint Lists)} {cause : NetworkEvent} {side : Side}
    {event : SockEvent} (allowed : networkEnabled net cause)
    (does : cause.onSide side = some event) : sockEnabled (net.get side).socket event := by
  cases cause with
  | act here own =>
      rcases here.eq_or_other side with rfl | rfl
      · rw [onSide_act_self] at does
        rw [← Option.some.inj does]
        exact allowed.2
      · rw [onSide_act_other] at does
        cases does
  | deliver here d =>
      rcases here.eq_or_other side with rfl | rfl
      · rw [onSide_deliver_self] at does
        obtain ⟨p, decoded, rfl⟩ := Option.map_eq_some_iff.mp does
        exact allowed.2 p decoded
      · rw [onSide_deliver_other] at does
        cases does

/-- A socket of the network is a part of it. -/
theorem onNetwork_faithful (side : Side) {t : CallThread (UMPSocket Lists) SockEvent}
    (same : t.machine = sockMachine Lists) : (onNetwork side t).Faithful where
  takes := by
    intro net cause event allowed does
    have does : cause.onSide side = some event := does
    refine ⟨?_, ?_, ?_⟩
    · rw [same]
      exact networkEnabled_onSide allowed does
    · show (cause.onSide side).any t.posts = _
      rw [does]
      rfl
    · show ((networkStep net cause).get side).socket = _
      rw [networkStep_onSide, does, same]
      rfl
  rests := by
    intro net cause allowed does
    have does : cause.onSide side = none := does
    refine ⟨?_, ?_⟩
    · show (cause.onSide side).any t.posts = _
      rw [does]
      rfl
    · show ((networkStep net cause).get side).socket = _
      rw [networkStep_onSide, does]
      rfl

end Sockets

end UserMessageProtocol
