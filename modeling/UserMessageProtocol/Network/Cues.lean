import UserMessageProtocol.Network.Control

/-!
Contract: runs of two sockets told by cues, without decoding.

Owns: the network behind a cue when each packet is taken in the form in which it is received
(`Cue.step`), and that allowed cues are a run of the machine (`run_of_cues`).

Does not own: cues (`Network.Machine`).
-/

set_option autoImplicit false

namespace UserMessageProtocol

variable {Lists : Type} [ReceiveLists Lists]

/-- The network behind a cue; what arrives is taken in the form in which it is received. -/
def Cue.step (net : Duo (Endpoint Lists)) : Cue → Duo (Endpoint Lists)
  | .act side event => net.set side ((net.get side).take event)
  | .deliver side place =>
      match (net.get side.other).wire[place]? with
      | some d => net.set side ((net.get side).take (packetEvent (receivedForm d.packet)))
      | none => net

/-- A cue that `condition` allows. -/
def Cue.Allowed (condition : Duo (Endpoint Lists) → NetworkEvent → Prop)
    (net : Duo (Endpoint Lists)) : Cue → Prop
  | .act side event => event.isPacket = false ∧ sockEnabled (net.get side).socket event ∧
      condition net (.act side event)
  | .deliver side place =>
      match (net.get side.other).wire[place]? with
      | some d => sockEnabled (net.get side).socket (packetEvent (receivedForm d.packet)) ∧
          condition net (.deliver side d)
      | none => False

def cuesAllowed (condition : Duo (Endpoint Lists) → NetworkEvent → Prop) :
    Duo (Endpoint Lists) → List Cue → Prop
  | _, [] => True
  | net, cue :: rest => cue.Allowed condition net ∧ cuesAllowed condition (cue.step net) rest

section Cues

variable {condition : Duo (Endpoint Lists) → NetworkEvent → Prop}
  [∀ net cause, Decidable (condition net cause)]

instance (net : Duo (Endpoint Lists)) (cue : Cue) : Decidable (cue.Allowed condition net) := by
  unfold Cue.Allowed
  split
  · infer_instance
  · split <;> infer_instance

instance decidableCuesAllowed :
    (net : Duo (Endpoint Lists)) → (cues : List Cue) → Decidable (cuesAllowed condition net cues)
  | _, [] => instDecidableTrue
  | net, cue :: rest =>
      have := decidableCuesAllowed (cue.step net) rest
      inferInstanceAs (Decidable (cue.Allowed condition net ∧ _))

end Cues

section Cues

variable {condition : Duo (Endpoint Lists) → NetworkEvent → Prop} {seeds : Duo UInt16}
  {net : Duo (Endpoint Lists)} {cue : Cue} {cues : List Cue} {clocks : Duo Clock}
  {events : List NetworkEvent}

/-- What an allowed cue stands for. -/
theorem Cue.Allowed.event (allowed : cue.Allowed condition net)
    (related : net.Related (Speaks seeds)) : networkEnabled net (cue.event net) ∧
      condition net (cue.event net) ∧ networkStep net (cue.event net) = cue.step net := by
  cases cue with
  | act side event => exact ⟨⟨allowed.1, allowed.2.1⟩, allowed.2.2, rfl⟩
  | deliver side place =>
      cases found : (net.get side.other).wire[place]? with
      | none => simp only [Cue.Allowed, found] at allowed
      | some d =>
          simp only [Cue.Allowed, found] at allowed
          have member := List.mem_of_getElem? found
          have decoded := arrived_of_encoded ((related side.other).control.encoded d member)
          simp only [Cue.event, Cue.step, found]
          refine ⟨⟨member, fun p decoded' => ?_⟩, allowed.2, ?_⟩
          · rw [Option.some.inj (decoded'.symm.trans decoded)]
            exact allowed.1
          · simp only [networkStep, decoded]

theorem run_of_cues (run : (networkMachine Lists).RunWhere condition
      (newNetwork Lists seeds clocks) events net) (allowed : cuesAllowed condition net cues) :
    ∃ later, (networkMachine Lists).RunWhere condition (newNetwork Lists seeds clocks) later
      (cues.foldl Cue.step net) := by
  induction cues generalizing net events with
  | nil => exact ⟨events, run⟩
  | cons cue rest inductionHypothesis =>
      obtain ⟨enabled, holds, same⟩ := allowed.1.event (speaks_of_run run)
      have next := Machine.RunWhere.go run enabled holds
      rw [show (networkMachine Lists).step net (cue.event net) = cue.step net from same] at next
      exact inductionHypothesis next allowed.2

end Cues

end UserMessageProtocol
