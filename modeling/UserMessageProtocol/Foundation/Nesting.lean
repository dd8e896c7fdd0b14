import UserMessageProtocol.Foundation.Callers

/-!
Contract: a thread that is part of something larger answers its users as it does alone.

Owns: a thread inside a larger machine (`CallThread.Part`), the machine as a thread for the
users of that part (`CallThread.Part.whole`), that it is lawful when the part is
(`CallThread.Part.Faithful.lawful`), and a thread beside the users of another part
(`CallThread.Part.besideCallers`).

Does not own: any particular thread, and what users that call one after another get
(`Foundation.Callers`).
-/

set_option autoImplicit false

/-- What an event makes the thread do. -/
def CallerEvent.cause {Cause : Type} : CallerEvent Cause → Option Cause
  | .post cause | .thread cause => some cause
  | .set | .wake _ | .answer _ => none

namespace CallThread

variable {State Event Whole Cause : Type}

/-- A thread inside a machine: its state, what the causes of the machine make it do, the
causes that leave a call for it, and those that are not its own. -/
structure Part (t : CallThread State Event) (machine : Machine Whole Cause) where
  state : Whole → State
  event : Whole → Cause → Option Event
  posts : Cause → Bool
  foreign : Cause → Bool

namespace Part

variable {t : CallThread State Event} {machine : Machine Whole Cause} (part : t.Part machine)

/-- The machine, as the users of the part see it. -/
def whole : CallThread Whole Cause where
  machine := machine
  view w := t.view (part.state w)
  posts := part.posts
  foreign := part.foreign

/-- A cause makes the part do one of its events, or leaves it alone. -/
structure Faithful : Prop where
  takes : ∀ w cause event, machine.enabled w cause → part.event w cause = some event →
    t.machine.enabled (part.state w) event ∧ part.posts cause = t.posts event ∧
      part.state (machine.step w cause) = t.machine.step (part.state w) event
  rests : ∀ w cause, machine.enabled w cause → part.event w cause = none →
    part.posts cause = false ∧ part.state (machine.step w cause) = part.state w

variable {part}

/-- A lawful thread stays so inside a machine. -/
theorem Faithful.lawful (faithful : part.Faithful) (lawful : t.Lawful) : part.whole.Lawful where
  post := by
    intro w cause allowed posts
    cases does : part.event w cause with
    | none =>
        obtain ⟨leaves, -⟩ := faithful.rests w cause allowed does
        exact absurd (leaves.symm.trans posts) (by decide)
    | some event =>
        obtain ⟨able, same, stepped⟩ := faithful.takes w cause event allowed does
        obtain ⟨free, after⟩ := lawful.post _ event able (same.symm.trans posts)
        refine ⟨free, ?_⟩
        show t.view (part.state (machine.step w cause)) = _
        rw [stepped, after]
        rfl
  move := by
    intro w cause allowed own
    cases does : part.event w cause with
    | none =>
        obtain ⟨-, rests⟩ := faithful.rests w cause allowed does
        refine ⟨t.view (part.state w), .inl rfl, ?_⟩
        show CallRecord.Replied _ (t.view (part.state (machine.step w cause)))
        rw [rests]
        exact .none
    | some event =>
        obtain ⟨able, same, stepped⟩ := faithful.takes w cause event allowed does
        obtain ⟨begun, begins, replied⟩ := lawful.move _ event able (same.symm.trans own)
        refine ⟨begun, begins, ?_⟩
        show CallRecord.Replied _ (t.view (part.state (machine.step w cause)))
        rw [stepped]
        exact replied

end Part

/-! ### Beside the users of another part -/

variable (t : CallThread Whole Cause) {other : CallThread Whole Cause}

/-- A thread that is the same machine as another one, beside the users of that one. -/
def besideCallers (other : CallThread Whole Cause) : t.Part other.callers where
  state c := c.thread
  event _ := CallerEvent.cause
  posts event := event.cause.any t.posts
  foreign event := event.cause.all t.foreign

variable (other) in
theorem callerStep_thread (c : Callers Whole) (event : CallerEvent Cause) :
    (other.callerStep c event).thread =
      event.cause.elim c.thread (other.machine.step c.thread) := by
  cases event with
  | thread cause =>
      unfold callerStep
      dsimp only
      split <;> rfl
  | _ => rfl

theorem callerEnabled_cause {c : Callers Whole} {event : CallerEvent Cause} {cause : Cause}
    (allowed : other.callerEnabled c event) (causes : event.cause = some cause) :
    other.machine.enabled c.thread cause := by
  cases event with
  | post first | thread first =>
      obtain rfl := Option.some.inj causes
      exact allowed.1
  | set | wake i | answer i => cases causes

variable (other) in
/-- The users of another part leave the thread to what the machine does. -/
theorem besideCallers_faithful (same : t.machine = other.machine) :
    (t.besideCallers other).Faithful where
  takes := by
    intro c event cause allowed causes
    have does : event.cause = some cause := causes
    refine ⟨?_, ?_, ?_⟩
    · rw [same]
      exact callerEnabled_cause allowed does
    · show event.cause.any t.posts = _
      rw [does]
      rfl
    · show (other.callerStep c event).thread = _
      rw [callerStep_thread, does, same]
      rfl
  rests := by
    intro c event allowed causes
    have does : event.cause = none := causes
    refine ⟨?_, ?_⟩
    · show event.cause.any t.posts = _
      rw [does]
      rfl
    · show (other.callerStep c event).thread = _
      rw [callerStep_thread, does]
      rfl

end CallThread
