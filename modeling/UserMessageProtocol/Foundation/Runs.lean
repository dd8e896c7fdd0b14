import Mathlib.Data.List.Induction

/-!
Contract: runs of a machine that takes events one after another.

Owns: `Machine`, its runs (`Run`), runs whose every step meets a condition
(`RunWhere`), the rules by which a property of a step becomes a property of a run, what
is noted along a run (`noted`), and runs that do not end (`Endless`).

Does not own: any particular machine.
-/

set_option autoImplicit false

/-- A machine: which events a state allows, and what they lead to. -/
structure Machine (State Event : Type) where
  enabled : State → Event → Prop
  step : State → Event → State

namespace Machine

variable {State Event : Type} (machine : Machine State Event)

/-- The runs whose every step meets `condition`. -/
inductive RunWhere (condition : State → Event → Prop) (start : State) :
    List Event → State → Prop where
  | stay : RunWhere condition start [] start
  | go {events : List Event} {state : State} {event : Event}
      (run : RunWhere condition start events state) (allowed : machine.enabled state event)
      (met : condition state event) :
      RunWhere condition start (events ++ [event]) (machine.step state event)

/-- All runs. -/
def Run : State → List Event → State → Prop := machine.RunWhere fun _ _ => True

variable {machine} {condition : State → Event → Prop} {start state : State} {events : List Event}

/-- A property of the start that every step keeps holds at the end. -/
theorem RunWhere.invariant {Holds : State → Prop} (run : machine.RunWhere condition start events state)
    (atStart : Holds start)
    (kept : ∀ state event, Holds state → machine.enabled state event → condition state event →
      Holds (machine.step state event)) : Holds state := by
  induction run with
  | stay => exact atStart
  | go _ allowed met inductionHypothesis => exact kept _ _ inductionHypothesis allowed met

/-- A weaker condition allows more runs. -/
theorem RunWhere.mono {weaker : State → Event → Prop}
    (run : machine.RunWhere condition start events state)
    (weakens : ∀ state event, condition state event → weaker state event) :
    machine.RunWhere weaker start events state := by
  induction run with
  | stay => exact .stay
  | go _ allowed met inductionHypothesis => exact .go inductionHypothesis allowed (weakens _ _ met)

theorem RunWhere.toRun (run : machine.RunWhere condition start events state) :
    machine.Run start events state := run.mono fun _ _ _ => trivial

/-- One run after another. -/
theorem RunWhere.trans {later : List Event} {final : State}
    (first : machine.RunWhere condition start events state)
    (second : machine.RunWhere condition state later final) :
    machine.RunWhere condition start (events ++ later) final := by
  induction second with
  | stay => simpa using first
  | go _ allowed met inductionHypothesis =>
      rw [← List.append_assoc]
      exact .go inductionHypothesis allowed met

/-- The state after a list of events, whether allowed or not. -/
def after (machine : Machine State Event) (state : State) (events : List Event) : State :=
  events.foldl machine.step state

theorem RunWhere.after_eq (run : machine.RunWhere condition start events state) :
    machine.after start events = state := by
  induction run with
  | stay => rfl
  | go _ _ _ inductionHypothesis =>
      rw [after, List.foldl_append]
      rw [after] at inductionHypothesis
      rw [inductionHypothesis]
      rfl

/-- What a run does first is a run. -/
theorem RunWhere.first {later : List Event}
    (run : machine.RunWhere condition start (events ++ later) state) :
    machine.RunWhere condition start events (machine.after start events) := by
  induction later using List.reverseRecOn generalizing state with
  | nil =>
      rw [List.append_nil] at run
      rw [run.after_eq]
      exact run
  | append_singleton later event inductionHypothesis =>
      rw [← List.append_assoc] at run
      generalize appended : events ++ later ++ [event] = all at run
      cases run with
      | stay => simp at appended
      | go before _ _ =>
          obtain ⟨same, -⟩ := List.append_inj' appended rfl
          rw [← same] at before
          exact inductionHypothesis before

/-- A run meets a condition exactly when each of its steps does. -/
theorem RunWhere.each_iff (run : machine.Run start events state) :
    machine.RunWhere condition start events state ↔ ∀ earlier event later,
      events = earlier ++ event :: later → condition (machine.after start earlier) event := by
  constructor
  · intro meets earlier event later same
    have parts : events = (earlier ++ [event]) ++ later := by
      rw [same, List.append_assoc]
      rfl
    rw [parts] at meets
    have before := meets.first
    generalize machine.after start (earlier ++ [event]) = reached at before
    generalize appended : earlier ++ [event] = all at before
    cases before with
    | stay => simp at appended
    | go run _ met =>
        obtain ⟨rfl, last⟩ := List.append_inj' appended rfl
        rw [run.after_eq, List.head_eq_of_cons_eq last]
        exact met
  · intro each
    induction run with
    | stay => exact .stay
    | @go events state event run allowed _ inductionHypothesis =>
        have met := each events event [] rfl
        rw [run.after_eq] at met
        apply RunWhere.go _ allowed met
        apply inductionHypothesis
        intro earlier other later same
        apply each earlier other (later ++ [event])
        rw [same, List.append_assoc]
        rfl

/-- What holds of the events of a run can be asked of its steps. -/
theorem RunWhere.with_events {property : Event → Prop}
    (run : machine.RunWhere condition start events state)
    (each : ∀ event ∈ events, property event) :
    machine.RunWhere (fun state event => condition state event ∧ property event) start events
      state := by
  induction run with
  | stay => exact .stay
  | go _ allowed met inductionHypothesis =>
      have before := inductionHypothesis fun event member =>
        each event (List.mem_append_left _ member)
      exact .go before allowed ⟨met, each _ (List.mem_append_right _ (List.mem_singleton_self _))⟩

/-- How many of some events meet a test, each in the state it comes to. -/
def tally (machine : Machine State Event) (test : State → Event → Bool) : State → List Event → Nat
  | _, [] => 0
  | state, event :: rest =>
      (test state event).toNat + tally machine test (machine.step state event) rest

theorem tally_append (test : State → Event → Bool) (state : State) (events later : List Event) :
    machine.tally test state (events ++ later) =
      machine.tally test state events + machine.tally test (machine.after state events) later := by
  induction events generalizing state with
  | nil => rw [List.nil_append, tally, Nat.zero_add]; rfl
  | cons event rest inductionHypothesis =>
      rw [List.cons_append, tally, tally, inductionHypothesis, Nat.add_assoc]
      rfl

/-- A measure that grows by one with each event that meets a test counts them. -/
theorem RunWhere.tally_eq {Holds : State → Prop} {measure : State → Nat}
    {test : State → Event → Bool} (run : machine.RunWhere condition start events state)
    (atStart : Holds start)
    (kept : ∀ state event, Holds state → machine.enabled state event → condition state event →
      Holds (machine.step state event) ∧
        measure (machine.step state event) = measure state + (test state event).toNat) :
    measure state = measure start + machine.tally test start events := by
  have all : Holds state ∧ measure state = measure start + machine.tally test start events := by
    induction run with
    | stay => exact ⟨atStart, rfl⟩
    | go run allowed met inductionHypothesis =>
        obtain ⟨holds, counted⟩ := inductionHypothesis
        obtain ⟨still, grown⟩ := kept _ _ holds allowed met
        refine ⟨still, ?_⟩
        rw [tally_append, run.after_eq, grown, counted, Nat.add_assoc]
        rfl
  exact all.2

/-- What is spent along a run is at most what is earned, when each step pays for itself out
of the credit of the state. -/
theorem RunWhere.tally_le {Holds : State → Prop} {credit : State → Nat}
    {spends earns : State → Event → Bool} (run : machine.RunWhere condition start events state)
    (atStart : Holds start)
    (kept : ∀ state event, Holds state → machine.enabled state event → condition state event →
      Holds (machine.step state event) ∧
        (spends state event).toNat + credit (machine.step state event) ≤
          (earns state event).toNat + credit state) :
    machine.tally spends start events + credit state ≤
      machine.tally earns start events + credit start := by
  have all : Holds state ∧ machine.tally spends start events + credit state ≤
      machine.tally earns start events + credit start := by
    induction run with
    | stay => exact ⟨atStart, Nat.le_refl _⟩
    | @go events state event run allowed met inductionHypothesis =>
        obtain ⟨holds, paid⟩ := inductionHypothesis
        obtain ⟨still, pays⟩ := kept _ _ holds allowed met
        have last (test : State → Event → Bool) :
            machine.tally test state [event] = (test state event).toNat := Nat.add_zero _
        refine ⟨still, ?_⟩
        rw [tally_append, tally_append, run.after_eq, last, last]
        omega
  exact all.2

/-- What is noted along some events, each in the state it comes to. -/
def noted {Note : Type} (machine : Machine State Event) (note : State → Event → Note → Note) :
    State → List Event → Note → Note
  | _, [], notes => notes
  | state, event :: rest, notes =>
      noted machine note (machine.step state event) rest (note state event notes)

theorem noted_append {Note : Type} (note : State → Event → Note → Note) (state : State)
    (events later : List Event) (notes : Note) :
    machine.noted note state (events ++ later) notes =
      machine.noted note (machine.after state events) later
        (machine.noted note state events notes) := by
  induction events generalizing state notes with
  | nil => rfl
  | cons event rest inductionHypothesis =>
      rw [List.cons_append, noted, inductionHypothesis]
      rfl

/-- The machine together with what is noted along its run, so that a condition on a
step can speak of what happened before. -/
def noting {Note : Type} (machine : Machine State Event) (note : State → Event → Note → Note) :
    Machine (State × Note) Event where
  enabled := fun noted event => machine.enabled noted.1 event
  step := fun noted event => (machine.step noted.1 event, note noted.1 event noted.2)

instance {Note : Type} (note : State → Event → Note → Note) (noted : State × Note) (event : Event)
    [Decidable (machine.enabled noted.1 event)] :
    Decidable ((machine.noting note).enabled noted event) :=
  inferInstanceAs (Decidable (machine.enabled noted.1 event))

/-- A property of the start and of what is noted there, kept by every step. -/
theorem RunWhere.noted_invariant {Note : Type} {note : State → Event → Note → Note}
    {Holds : State → Note → Prop} {notes : Note}
    (run : machine.RunWhere condition start events state) (atStart : Holds start notes)
    (kept : ∀ state event notes, Holds state notes → machine.enabled state event →
      condition state event → Holds (machine.step state event) (note state event notes)) :
    Holds state (machine.noted note start events notes) := by
  induction run with
  | stay => exact atStart
  | go run allowed met inductionHypothesis =>
      rw [noted_append, run.after_eq]
      exact kept _ _ _ inductionHypothesis allowed met

/-- A run from `start` that does not end. -/
def Endless (machine : Machine State Event) (start : State) : Prop :=
  ∃ (states : Nat → State) (events : Nat → Event), states 0 = start ∧
    ∀ n, machine.enabled (states n) (events n) ∧
      states (n + 1) = machine.step (states n) (events n)

/-- A property that always allows an event which keeps it makes a run endless. -/
theorem endless_of_next {Holds : State → Prop} (next : State → Event) (atStart : Holds start)
    (goes : ∀ state, Holds state →
      machine.enabled state (next state) ∧ Holds (machine.step state (next state))) :
    machine.Endless start := by
  let states : Nat → State := Nat.rec start fun _ state => machine.step state (next state)
  have holds (n : Nat) : Holds (states n) := by
    induction n with
    | zero => exact atStart
    | succ n inductionHypothesis => exact (goes (states n) inductionHypothesis).2
  exact ⟨states, fun n => next (states n), rfl, fun n => ⟨(goes (states n) (holds n)).1, rfl⟩⟩

/-- Whether a list of events is a run whose steps meet a condition. -/
def check (machine : Machine State Event) (condition : State → Event → Prop)
    [∀ state event, Decidable (machine.enabled state event)]
    [∀ state event, Decidable (condition state event)] : State → List Event → Bool
  | _, [] => true
  | state, event :: rest =>
      decide (machine.enabled state event) && decide (condition state event) &&
        check machine condition (machine.step state event) rest

theorem check_append [∀ state event, Decidable (machine.enabled state event)]
    [∀ state event, Decidable (condition state event)] (state : State)
    (events later : List Event) :
    machine.check condition state (events ++ later) =
      (machine.check condition state events &&
        machine.check condition (machine.after state events) later) := by
  induction events generalizing state with
  | nil => rfl
  | cons event rest inductionHypothesis =>
      rw [List.cons_append, check, check, inductionHypothesis, ← Bool.and_assoc]
      rfl

theorem runWhere_of_check [∀ state event, Decidable (machine.enabled state event)]
    [∀ state event, Decidable (condition state event)]
    (passed : machine.check condition start events = true) :
    machine.RunWhere condition start events (machine.after start events) := by
  induction events generalizing start with
  | nil => exact .stay
  | cons event rest inductionHypothesis =>
      simp only [check, Bool.and_eq_true, decide_eq_true_eq] at passed
      have first : machine.RunWhere condition start ([] ++ [event]) (machine.step start event) :=
        .go .stay passed.1.1 passed.1.2
      exact first.trans (inductionHypothesis passed.2)

/-- A checked list of events is one run after another. -/
theorem runWhere_split [∀ state event, Decidable (machine.enabled state event)]
    [∀ state event, Decidable (condition state event)] {later : List Event}
    (passed : machine.check condition start (events ++ later) = true) :
    machine.RunWhere condition start events (machine.after start events) ∧
      machine.check condition (machine.after start events) later = true := by
  rw [check_append, Bool.and_eq_true] at passed
  exact ⟨runWhere_of_check passed.1, passed.2⟩

end Machine
