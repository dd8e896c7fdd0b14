import UserMessageProtocol.Foundation.Runs

/-!
Contract: one machine does what another one allows.

Owns: forward simulations, in which a step of the lower machine is matched by a run of the
upper one (`Machine.Simulates`), what they say of whole runs and of what is noted along
them, and their composition.

Does not own: any particular machine.
-/

set_option autoImplicit false

namespace Machine

variable {Low LowEvent High HighEvent : Type}

/-- Related states stay related when the lower machine takes a step and the upper one a run
that matches it. -/
def Simulates (low : Machine Low LowEvent) (high : Machine High HighEvent)
    (rel : Low → High → Prop) : Prop :=
  ∀ state event above, rel state above → low.enabled state event →
    ∃ events after, high.Run above events after ∧ rel (low.step state event) after

variable {low : Machine Low LowEvent} {high : Machine High HighEvent} {rel : Low → High → Prop}

section

variable {Note : Type} {note : High → HighEvent → Note → Note} {above : High} {notes : Note}
  {related : High × Note → Prop}

/-- A step that the upper machine does not see. -/
theorem noting_idle (same : related (above, notes)) :
    ∃ events after, (high.noting note).Run (above, notes) events after ∧ related after :=
  ⟨[], (above, notes), .stay, same⟩

/-- A step that is one step of the upper machine, with what is noted of it. -/
theorem noting_one (event : HighEvent) (allowed : high.enabled above event)
    (still : related (high.step above event, note above event notes)) :
    ∃ events after, (high.noting note).Run (above, notes) events after ∧ related after :=
  ⟨[] ++ [event], _, .go .stay allowed trivial, still⟩

end

/-- Every run of the lower machine is matched by one of the upper machine. -/
theorem Simulates.run (simulates : Simulates low high rel) {start state : Low} {above : High}
    {events : List LowEvent} (run : low.Run start events state) (atStart : rel start above) :
    ∃ matching after, high.Run above matching after ∧ rel state after := by
  induction run with
  | stay => exact ⟨[], above, .stay, atStart⟩
  | go _ allowed _ inductionHypothesis =>
      obtain ⟨before, reached, first, related⟩ := inductionHypothesis
      obtain ⟨last, after, second, still⟩ := simulates _ _ _ related allowed
      exact ⟨before ++ last, after, first.trans second, still⟩

/-- Simulations compose. -/
theorem Simulates.trans {Top TopEvent : Type} {top : Machine Top TopEvent}
    {rel' : High → Top → Prop} (lower : Simulates low high rel) (upper : Simulates high top rel') :
    Simulates low top fun state summit => ∃ between, rel state between ∧ rel' between summit := by
  rintro state event summit ⟨between, related, related'⟩ allowed
  obtain ⟨events, after, run, still⟩ := lower state event between related allowed
  obtain ⟨above, final, run', still'⟩ := upper.run run related'
  exact ⟨above, final, run', after, still, still'⟩

/-- What is noted along a run is what the machine that notes it ends with. -/
theorem noting_run {State Event Note : Type} {machine : Machine State Event}
    {note : State → Event → Note → Note} {start : State} {notes : Note} {events : List Event}
    {noted : State × Note} (run : (machine.noting note).Run (start, notes) events noted) :
    machine.Run start events noted.1 ∧ noted.2 = machine.noted note start events notes := by
  induction run with
  | stay => exact ⟨.stay, rfl⟩
  | go run allowed _ inductionHypothesis =>
      obtain ⟨before, same⟩ := inductionHypothesis
      refine ⟨.go before allowed trivial, ?_⟩
      rw [noted_append, before.after_eq, ← same]
      rfl

theorem Run.noting {State Event Note : Type} {machine : Machine State Event}
    (note : State → Event → Note → Note) {start state : State} (notes : Note)
    {events : List Event} (run : machine.Run start events state) :
    (machine.noting note).Run (start, notes) events
      (state, machine.noted note start events notes) := by
  induction run with
  | stay => exact .stay
  | go run allowed _ inductionHypothesis =>
      rw [noted_append, run.after_eq]
      exact .go inductionHypothesis allowed trivial

/-- Machines that note their runs and simulate each other note matching runs. -/
theorem Simulates.noted {LowNote HighNote : Type} {noteLow : Low → LowEvent → LowNote → LowNote}
    {noteHigh : High → HighEvent → HighNote → HighNote}
    {rel : Low × LowNote → High × HighNote → Prop}
    (simulates : Simulates (low.noting noteLow) (high.noting noteHigh) rel) {start state : Low}
    {above : High} {notes : LowNote} {notes' : HighNote} {events : List LowEvent}
    (run : low.Run start events state) (atStart : rel (start, notes) (above, notes')) :
    ∃ matching after, high.Run above matching after ∧
      rel (state, low.noted noteLow start events notes)
        (after, high.noted noteHigh above matching notes') := by
  obtain ⟨matching, ⟨after, last⟩, run', related⟩ := simulates.run (run.noting noteLow notes) atStart
  obtain ⟨reached, same⟩ := noting_run run'
  exact ⟨matching, after, reached, same ▸ related⟩

end Machine
