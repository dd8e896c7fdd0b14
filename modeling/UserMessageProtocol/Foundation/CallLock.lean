import UserMessageProtocol.Foundation.Runs

/-!
Contract: calls that users leave for a thread under a mutex.

A user writes the parameter of a call while it has the mutex. The thread tries the
mutex, and with a call there it keeps the mutex and is locked until it completes the
call: it clears the parameter, releases the mutex and sets the done event.

Owns: one such lock (`CallLock`), the moves of a thread that keeps to this
(`CallLock.Moves`), what holds in every run of such a thread, and the lock with the
replies to its calls (`CallRecord`).

Does not own: any particular call.
-/

set_option autoImplicit false

/-- A lock, the thread's hold on its mutex, whether a call is there, and how many calls
were completed. -/
structure CallLock where
  locked : Bool
  held : Bool
  called : Bool
  done : Nat
deriving DecidableEq, Repr

namespace CallLock

/-- The thread takes up the call that is there. -/
def take (c : CallLock) : CallLock := { c with locked := true, held := true }

/-- Whether the thread takes up a call when it tries the mutex. -/
def ready (c : CallLock) : Bool := !c.locked && !c.held && c.called

/-- The thread tries the mutex. -/
def attempt (c : CallLock) : CallLock := if c.ready then c.take else c

/-- The thread completes the call. -/
def complete (c : CallLock) : CallLock := ⟨false, false, false, c.done + 1⟩

/-- Some attempts of a locked thread to complete its call; only the first of them does. -/
inductive Ends (c : CallLock) : CallLock → Prop where
  | none : Ends c c
  | once (locked : c.locked = true) : Ends c c.complete

/-- What one step does; `picks` says whether the thread takes up a call. -/
inductive Moves (c : CallLock) : Bool → CallLock → Prop where
  | ends {d : CallLock} (ends : Ends c d) : Moves c false d
  | write (free : c.held = false) : Moves c false { c with called := true }
  | pick {d : CallLock} (unlocked : c.locked = false) (free : c.held = false)
      (called : c.called = true) (ends : Ends c.take d) : Moves c true d

/-- The lock is locked exactly while the thread has the mutex, and only with a call. -/
structure Sound (c : CallLock) : Prop where
  held : c.locked = c.held
  called : c.locked = true → c.called = true

/-- Calls completed and in hand. -/
def picked (c : CallLock) : Nat := c.done + c.held.toNat

variable {c d e : CallLock} {picks : Bool}

/-- An attempt, behind which calls may be completed. -/
theorem Moves.attempt (ends : Ends c.attempt d) : Moves c c.ready d := by
  rw [CallLock.attempt] at ends
  split at ends
  · rename_i isReady
    rw [isReady]
    simp only [ready, Bool.and_eq_true, Bool.not_eq_true'] at isReady
    exact .pick isReady.1.1 isReady.1.2 isReady.2 ends
  · rename_i notReady
    rw [Bool.not_eq_true] at notReady
    rw [notReady]
    exact .ends ends

theorem Ends.locked (ends : Ends c d) (locked : d.locked = true) : c.locked = true := by
  cases ends with
  | none => exact locked
  | once => cases locked

/-- A lock that is locked where `P` holds. -/
theorem Sound.locked_iff {P : Prop} [Decidable P] {held called : Bool} {done : Nat}
    (sound : Sound ⟨decide P, held, called, done⟩) : P ↔ held = true := by
  have same : decide P = held := sound.held
  rw [← same, decide_eq_true_iff]

theorem Sound.called_of {P : Prop} [Decidable P] {held called : Bool} {done : Nat}
    (sound : Sound ⟨decide P, held, called, done⟩) (locked : P) : called = true :=
  sound.called (decide_eq_true locked)

theorem Sound.ends (sound : Sound c) (ends : Ends c d) : Sound d := by
  cases ends with
  | none => exact sound
  | once locked => exact ⟨rfl, fun again => by cases again⟩

theorem Sound.ends_picked (sound : Sound c) (ends : Ends c d) : d.picked = c.picked := by
  cases ends with
  | none => rfl
  | once locked =>
      have held := sound.held
      rw [locked] at held
      rw [picked, picked, ← held]
      rfl

theorem Sound.take (called : c.called = true) : Sound c.take := ⟨rfl, fun _ => called⟩

theorem Sound.moves (sound : Sound c) (moves : Moves c picks d) : Sound d := by
  cases moves with
  | ends ends => exact sound.ends ends
  | write free => exact ⟨sound.held, fun _ => rfl⟩
  | pick unlocked free called ends => exact (Sound.take called).ends ends

/-- Each call that is picked up is completed or in hand. -/
theorem Sound.moves_picked (sound : Sound c) (moves : Moves c picks d) :
    d.picked = c.picked + picks.toNat := by
  cases moves with
  | ends ends => exact sound.ends_picked ends
  | write free => rfl
  | pick unlocked free called ends =>
      rw [(Sound.take called).ends_picked ends, picked, picked, free]
      rfl

section Runs

variable {State Event : Type} {machine : Machine State Event} (view : State → CallLock)
  {test : State → Event → Bool} {start state : State} {events : List Event}

theorem sound_of_run (run : machine.Run start events state) (atStart : Sound (view start))
    (moves : ∀ state event, machine.enabled state event →
      Moves (view state) (test state event) (view (machine.step state event))) :
    Sound (view state) := by
  let Holds (state : State) : Prop := Sound (view state)
  have first : Holds start := atStart
  apply Machine.RunWhere.invariant run first
  intro state event sound allowed _
  exact sound.moves (moves state event allowed)

/-- The calls completed and in hand are those that were picked up. -/
theorem picked_of_run (run : machine.Run start events state) (atStart : Sound (view start))
    (moves : ∀ state event, machine.enabled state event →
      Moves (view state) (test state event) (view (machine.step state event))) :
    (view state).picked = (view start).picked + machine.tally test start events := by
  let Holds (state : State) : Prop := Sound (view state)
  have first : Holds start := atStart
  apply Machine.RunWhere.tally_eq run first
  intro state event sound allowed _
  have moved := moves state event allowed
  exact ⟨sound.moves moved, sound.moves_picked moved⟩

end Runs

end CallLock

/-! ### Replies -/

/-- A lock with the replies to its calls, the latest first, and the one kept for the
user. -/
structure CallRecord where
  locked : Bool
  held : Bool
  called : Bool
  ok : Bool
  replies : List Bool
deriving DecidableEq, Repr

namespace CallRecord

/-- The lock without the replies. -/
def lock (c : CallRecord) : CallLock := ⟨c.locked, c.held, c.called, c.replies.length⟩

def take (c : CallRecord) : CallRecord := { c with locked := true, held := true }

def attempt (c : CallRecord) : CallRecord := if c.lock.ready then c.take else c

/-- The thread completes the call with a reply. -/
def reply (c : CallRecord) (ok : Bool) : CallRecord := ⟨false, false, false, ok, ok :: c.replies⟩

/-- Some attempts of a locked thread to reply; only the first of them does. -/
inductive Replied (c : CallRecord) : CallRecord → Prop where
  | none : Replied c c
  | once (locked : c.locked = true) (ok : Bool) : Replied c (c.reply ok)

variable {c d e : CallRecord}

theorem Replied.trans (first : Replied c d) (second : Replied d e) : Replied c e := by
  cases first with
  | none => exact second
  | once locked =>
      cases second with
      | none => exact .once locked _
      | once again => cases again

theorem Replied.ends (replied : Replied c d) : c.lock.Ends d.lock := by
  cases replied with
  | none => exact .none
  | once locked => exact .once locked

/-- The replies behind some attempts: those before, or one more, which is kept. -/
theorem Replied.cases (replied : Replied c d) :
    d.replies = c.replies ∧ d.ok = c.ok ∨ c.locked = true ∧ d.replies = d.ok :: c.replies := by
  cases replied with
  | none => exact .inl ⟨rfl, rfl⟩
  | once locked ok => exact .inr ⟨locked, rfl⟩

theorem attempt_lock : c.attempt.lock = c.lock.attempt := by
  unfold attempt CallLock.attempt
  split <;> rfl

theorem attempt_locked (locked : c.locked = true) : c.attempt = c := by
  apply if_neg
  simp [CallLock.ready, lock, locked]

theorem attempt_held (held : c.held = true) : c.attempt = c := by
  apply if_neg
  simp [CallLock.ready, lock, held]

theorem attempt_idle (idle : c.called = false) : c.attempt = c := by
  apply if_neg
  simp [CallLock.ready, lock, idle]

theorem attempt_ready (unlocked : c.locked = false) (free : c.held = false)
    (called : c.called = true) : c.attempt = c.take := by
  apply if_pos
  simp [CallLock.ready, lock, unlocked, free, called]

end CallRecord
