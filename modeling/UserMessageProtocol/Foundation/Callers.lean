import UserMessageProtocol.Foundation.CallLock

/-!
Contract: users who leave calls for a thread and wait for one event.

A user writes the parameter of a call and resets the done event while it has the mutex.
Then it waits for the event, which the end of a wait resets, and reads the reply. A
thread that completes a call releases the mutex and sets the event behind that.

Owns: the thread as its users see it (`CallThread`), any number of users beside it
(`CallThread.callers`), when each call gets its own answer (`OwnAnswers`), and the run
theorem for calls that are made one after another (`ownAnswers_of_run`).

Does not own: any particular thread.
-/

set_option autoImplicit false

/-- Where the user of a call is, behind its critical section. -/
inductive CallPhase where
  | waiting
  | woken
  | returned (ok : Bool)
deriving DecidableEq, Repr

/-- What became of the parameter of a call. -/
inductive CallFate where
  | held
  | dropped
  | completed (ok : Bool)
deriving DecidableEq, Repr

structure UserCall where
  phase : CallPhase
  fate : CallFate
deriving DecidableEq, Repr

namespace UserCall

/-- A call that the thread has and its user waits for. -/
def posted : UserCall := ⟨.waiting, .held⟩

def isReturned (call : UserCall) : Bool :=
  match call.phase with
  | .returned _ => true
  | _ => false

/-- Another parameter is written to the place of those that the thread has. -/
def overwrite (call : UserCall) : UserCall :=
  match call.fate with
  | .held => { call with fate := .dropped }
  | _ => call

/-- The thread completes the call that it has. -/
def complete (call : UserCall) (ok : Bool) : UserCall :=
  match call.fate with
  | .held => { call with fate := .completed ok }
  | _ => call

/-- A call that returned what became of it. -/
def Settled (call : UserCall) : Prop := ∃ ok, call = ⟨.returned ok, .completed ok⟩

variable {call : UserCall} {calls : List UserCall}

theorem map_settled {f : UserCall → UserCall} (settled : ∀ call ∈ calls, call.Settled)
    (same : ∀ ok, f ⟨.returned ok, .completed ok⟩ = ⟨.returned ok, .completed ok⟩) :
    calls.map f = calls := by
  calc
    calls.map f = calls.map id := by
      apply List.map_congr_left
      intro call member
      obtain ⟨ok, rfl⟩ := settled call member
      exact same ok
    _ = calls := List.map_id calls

/-- Behind calls that are settled only the latest one can be in some other phase. -/
theorem unsettled_zero {past : List UserCall} {latest found : UserCall} {i : Nat}
    (settled : ∀ call ∈ past, call.Settled) (here : (latest :: past)[i]? = some found)
    (going : found.isReturned = false) : i = 0 ∧ found = latest := by
  cases i with
  | zero => exact ⟨rfl, (Option.some.inj here).symm⟩
  | succ i =>
      rw [List.getElem?_cons_succ] at here
      obtain ⟨ok, same⟩ := settled found (List.mem_of_getElem? here)
      rw [same] at going
      cases going

end UserCall

/-- A thread as its users see it: the record of its calls, the critical sections that leave
a call, and the events that are not the thread's own. -/
structure CallThread (State Event : Type) where
  machine : Machine State Event
  view : State → CallRecord
  posts : Event → Bool
  foreign : Event → Bool

/-- A thread and the calls of its users, the latest first. -/
structure Callers (State : Type) where
  thread : State
  done : Bool
  owed : Bool
  calls : List UserCall

/-- What happens: a critical section that leaves a call, an event of the thread, the done
event set, the end of a wait, and the reading of a reply. -/
inductive CallerEvent (Event : Type) where
  | post (event : Event)
  | thread (event : Event)
  | set
  | wake (i : Nat)
  | answer (i : Nat)

namespace CallThread

variable {State Event : Type} (t : CallThread State Event)

/-- A call is completed by an event of the thread. -/
def ends (state : State) (event : Event) : Bool :=
  (t.view (t.machine.step state event)).replies.length ≠ (t.view state).replies.length

/-- A thread that completed a call sets the event before it does anything else. -/
def callerEnabled (c : Callers State) : CallerEvent Event → Prop
  | .post event => t.machine.enabled c.thread event ∧ t.posts event = true
  | .thread event => t.machine.enabled c.thread event ∧ t.posts event = false ∧
      (c.owed = false ∨ t.foreign event = true)
  | .set => c.owed = true
  | .wake i => c.done = true ∧ c.calls[i]?.map UserCall.phase = some .waiting
  | .answer i => c.calls[i]?.map UserCall.phase = some .woken

def callerStep (c : Callers State) : CallerEvent Event → Callers State
  | .post event =>
      { thread := t.machine.step c.thread event
        done := false
        owed := c.owed
        calls := .posted :: c.calls.map UserCall.overwrite }
  | .thread event =>
      let after := t.machine.step c.thread event
      if t.ends c.thread event then
        { c with
          thread := after
          owed := true
          calls := c.calls.map fun call => call.complete (t.view after).ok }
      else { c with thread := after }
  | .set => { c with done := true, owed := false }
  | .wake i =>
      { c with
        done := false
        calls := c.calls.modify i fun call => { call with phase := .woken } }
  | .answer i =>
      { c with
        calls := c.calls.modify i fun call =>
          { call with phase := .returned (t.view c.thread).ok } }

/-- Any number of users beside a thread. -/
def callers : Machine (Callers State) (CallerEvent Event) where
  enabled := t.callerEnabled
  step := t.callerStep

instance [∀ state event, Decidable (t.machine.enabled state event)] (c : Callers State)
    (event : CallerEvent Event) : Decidable (t.callers.enabled c event) :=
  match event with
  | .post event =>
      inferInstanceAs (Decidable (t.machine.enabled c.thread event ∧ t.posts event = true))
  | .thread event =>
      inferInstanceAs (Decidable (t.machine.enabled c.thread event ∧ t.posts event = false ∧
        (c.owed = false ∨ t.foreign event = true)))
  | .set => inferInstanceAs (Decidable (c.owed = true))
  | .wake i =>
      inferInstanceAs (Decidable (c.done = true ∧ c.calls[i]?.map UserCall.phase = some .waiting))
  | .answer i => inferInstanceAs (Decidable (c.calls[i]?.map UserCall.phase = some .woken))

/-- A call that returned got the outcome of its own parameter, which the thread no longer
has; while its user waits its parameter is with the thread, or it is answered. -/
structure OwnAnswer (c : Callers State) (call : UserCall) : Prop where
  returned : ∀ ok, call.phase = .returned ok → call.fate = .completed ok
  waiting : call.phase = .waiting →
    call.fate = .held ∧ (t.view c.thread).called = true ∨
      (∃ ok, call.fate = .completed ok) ∧ (c.done = true ∨ c.owed = true)
  kept : call.fate ≠ .dropped

/-- Each call gets its own answer, and the thread has no parameter but that of a call. -/
structure OwnAnswers (c : Callers State) : Prop where
  own : ∀ call ∈ c.calls, t.OwnAnswer c call
  referenced : (t.view c.thread).called = true → ∃ call ∈ c.calls, call.fate = .held

/-- A call is left only when all calls before it have returned. -/
def oneAtATime (c : Callers State) : CallerEvent Event → Prop
  | .post _ => ∀ call ∈ c.calls, call.isReturned = true
  | _ => True

instance (c : Callers State) (event : CallerEvent Event) : Decidable (oneAtATime c event) :=
  match event with
  | .post _ => by unfold oneAtATime; infer_instance
  | .thread _ | .set | .wake _ | .answer _ => instDecidableTrue

/-- What the events of a thread do to its calls. -/
structure Lawful : Prop where
  post : ∀ state event, t.machine.enabled state event → t.posts event = true →
    (t.view state).held = false ∧
      t.view (t.machine.step state event) = { t.view state with called := true }
  move : ∀ state event, t.machine.enabled state event → t.posts event = false →
    ∃ begun, (begun = t.view state ∨ begun = (t.view state).attempt) ∧
      begun.Replied (t.view (t.machine.step state event))

/-- Where the latest call of users stands that call one after another. -/
inductive Latest (c : Callers State) : Prop where
  | none (settled : ∀ call ∈ c.calls, call.Settled) (empty : (t.view c.thread).called = false)
      (unset : c.done = false) (quit : c.owed = false)
  | pending (past : List UserCall) (settled : ∀ call ∈ past, call.Settled)
      (calls : c.calls = .posted :: past) (called : (t.view c.thread).called = true)
      (unset : c.done = false) (quit : c.owed = false)
  | completed (past : List UserCall) (settled : ∀ call ∈ past, call.Settled)
      (calls : c.calls = ⟨.waiting, .completed (t.view c.thread).ok⟩ :: past)
      (empty : (t.view c.thread).called = false) (once : c.owed = !c.done)
  | woken (past : List UserCall) (settled : ∀ call ∈ past, call.Settled)
      (calls : c.calls = ⟨.woken, .completed (t.view c.thread).ok⟩ :: past)
      (empty : (t.view c.thread).called = false) (unset : c.done = false) (quit : c.owed = false)

variable {t} {c : Callers State}

theorem OwnAnswer.settled {call : UserCall} (settled : call.Settled) : t.OwnAnswer c call := by
  obtain ⟨ok, rfl⟩ := settled
  constructor
  · intro ok' returned
    cases returned
    rfl
  · intro waits
    cases waits
  · simp

theorem OwnAnswers.cons {past : List UserCall} {latest : UserCall} (calls : c.calls = latest :: past)
    (settled : ∀ call ∈ past, call.Settled) (own : t.OwnAnswer c latest)
    (referenced : (t.view c.thread).called = true → latest.fate = .held) : t.OwnAnswers c where
  own := by
    rw [calls]
    intro call member
    rcases List.mem_cons.mp member with rfl | before
    · exact own
    · exact .settled (settled call before)
  referenced := by
    intro called
    rw [calls]
    exact ⟨latest, List.mem_cons_self, referenced called⟩

theorem Latest.ownAnswers (latest : t.Latest c) : t.OwnAnswers c := by
  cases latest with
  | none settled empty unset quit =>
      refine ⟨fun call member => .settled (settled call member), ?_⟩
      intro called
      exact absurd (empty.symm.trans called) (by decide)
  | pending past settled calls called unset quit =>
      refine .cons calls settled ⟨?_, fun _ => .inl ⟨rfl, called⟩, by decide⟩ fun _ => rfl
      intro ok returned
      cases returned
  | completed past settled calls empty once =>
      refine .cons calls settled ⟨?_, fun _ => .inr ⟨⟨_, rfl⟩, ?_⟩, by simp⟩ ?_
      · intro ok returned
        cases returned
      · rw [once]
        cases c.done <;> simp
      · intro called
        exact absurd (empty.symm.trans called) (by decide)
  | woken past settled calls empty unset quit =>
      refine .cons calls settled ⟨?_, ?_, by simp⟩ ?_
      · intro ok returned
        cases returned
      · intro waits
        cases waits
      · intro called
        exact absurd (empty.symm.trans called) (by decide)

/-! ### The thread -/

/-- A step of the thread completes no call, or the one that it has. -/
theorem Lawful.thread_cases (lawful : t.Lawful) {state : State} {event : Event}
    (sound : (t.view state).lock.Sound) (allowed : t.machine.enabled state event)
    (own : t.posts event = false) :
    t.ends state event = false ∧
        (t.view (t.machine.step state event)).called = (t.view state).called ∧
        (t.view (t.machine.step state event)).ok = (t.view state).ok ∨
      t.ends state event = true ∧ (t.view state).called = true ∧
        (t.view (t.machine.step state event)).called = false := by
  obtain ⟨begun, begins, replied⟩ := lawful.move state event allowed own
  have same : begun.called = (t.view state).called ∧ begun.ok = (t.view state).ok ∧
      begun.replies = (t.view state).replies := by
    rcases begins with rfl | rfl
    · exact ⟨rfl, rfl, rfl⟩
    · unfold CallRecord.attempt
      split <;> exact ⟨rfl, rfl, rfl⟩
  have soundly : begun.lock.Sound := by
    rcases begins with rfl | rfl
    · exact sound
    · rw [CallRecord.attempt_lock]
      exact sound.moves (.attempt .none)
  unfold ends
  generalize t.view (t.machine.step state event) = after at replied ⊢
  cases replied with
  | none =>
      left
      rw [same.2.2]
      exact ⟨by simp, same.1, same.2.1⟩
  | once locked ok =>
      right
      refine ⟨?_, same.1.symm.trans (soundly.called locked), rfl⟩
      rw [CallRecord.reply, same.2.2, List.length_cons]
      simp

theorem Lawful.sound (lawful : t.Lawful) {state : State} {event : Event}
    (sound : (t.view state).lock.Sound) (allowed : t.machine.enabled state event) :
    (t.view (t.machine.step state event)).lock.Sound := by
  cases own : t.posts event with
  | true =>
      obtain ⟨-, after⟩ := lawful.post state event allowed own
      rw [after]
      exact ⟨sound.held, fun _ => rfl⟩
  | false =>
      obtain ⟨begun, begins, replied⟩ := lawful.move state event allowed own
      rcases begins with rfl | rfl
      · exact sound.ends replied.ends
      · have ends := replied.ends
        rw [CallRecord.attempt_lock] at ends
        exact sound.moves (.attempt ends)

/-! ### Steps -/

theorem Latest.post {event : Event} (latest : t.Latest c) (lawful : t.Lawful)
    (allowed : t.callerEnabled c (.post event))
    (returned : ∀ call ∈ c.calls, call.isReturned = true) :
    t.Latest (t.callerStep c (.post event)) := by
  obtain ⟨-, after⟩ := lawful.post c.thread event allowed.1 allowed.2
  have going {past : List UserCall} {call : UserCall} (calls : c.calls = call :: past)
      (going : call.isReturned = false) : False := by
    have back := returned call (calls ▸ List.mem_cons_self)
    exact absurd (going.symm.trans back) (by decide)
  cases latest with
  | none settled empty unset quit =>
      refine .pending c.calls settled ?_ ?_ rfl quit
      · show UserCall.posted :: c.calls.map UserCall.overwrite = _
        rw [UserCall.map_settled settled fun _ => rfl]
      · show (t.view (t.machine.step c.thread event)).called = true
        rw [after]
  | pending past settled calls => exact (going calls rfl).elim
  | completed past settled calls => exact (going calls rfl).elim
  | woken past settled calls => exact (going calls rfl).elim

theorem Latest.thread {event : Event} (latest : t.Latest c) (lawful : t.Lawful)
    (sound : (t.view c.thread).lock.Sound) (allowed : t.callerEnabled c (.thread event)) :
    t.Latest (t.callerStep c (.thread event)) := by
  unfold callerStep
  dsimp only
  rcases lawful.thread_cases sound allowed.1 allowed.2.1 with
    ⟨goesOn, sameCalled, sameOk⟩ | ⟨ends, called, empty⟩
  · rw [goesOn, if_neg (by decide)]
    cases latest with
    | none settled empty unset quit => exact .none settled (sameCalled.trans empty) unset quit
    | pending past settled calls called unset quit =>
        exact .pending past settled calls (sameCalled.trans called) unset quit
    | completed past settled calls empty once =>
        rw [← sameOk] at calls
        exact .completed past settled calls (sameCalled.trans empty) once
    | woken past settled calls empty unset quit =>
        rw [← sameOk] at calls
        exact .woken past settled calls (sameCalled.trans empty) unset quit
  · rw [ends, if_pos rfl]
    have some (empty : (t.view c.thread).called = false) : False :=
      absurd (empty.symm.trans called) (by decide)
    cases latest with
    | none settled empty => exact (some empty).elim
    | pending past settled calls called unset quit =>
        refine .completed past settled ?_ empty ?_
        · show c.calls.map _ = _
          rw [calls, List.map_cons, UserCall.map_settled settled fun _ => rfl]
          rfl
        · show true = !c.done
          rw [unset]
          rfl
    | completed past settled calls empty => exact (some empty).elim
    | woken past settled calls empty => exact (some empty).elim

theorem Latest.set (latest : t.Latest c) (owed : c.owed = true) :
    t.Latest (t.callerStep c .set) := by
  have debt (quit : c.owed = false) : False := absurd (quit.symm.trans owed) (by decide)
  cases latest with
  | none settled empty unset quit => exact (debt quit).elim
  | pending past settled calls called unset quit => exact (debt quit).elim
  | completed past settled calls empty once => exact .completed past settled calls empty rfl
  | woken past settled calls empty unset quit => exact (debt quit).elim

/-- Only the user of a completed call can be woken. -/
theorem Latest.wake {i : Nat} (latest : t.Latest c) (allowed : t.callerEnabled c (.wake i)) :
    t.Latest (t.callerStep c (.wake i)) := by
  obtain ⟨set, phase⟩ := allowed
  obtain ⟨found, here, waits⟩ := Option.map_eq_some_iff.mp phase
  cases latest with
  | none settled empty unset quit => exact absurd (unset.symm.trans set) (by decide)
  | pending past settled calls called unset quit => exact absurd (unset.symm.trans set) (by decide)
  | completed past settled calls empty once =>
      rw [calls] at here
      obtain ⟨rfl, -⟩ := UserCall.unsettled_zero settled here (by rw [UserCall.isReturned, waits])
      refine .woken past settled ?_ empty rfl ?_
      · show c.calls.modify 0 _ = _
        rw [calls, List.modify_zero_cons]
        rfl
      · show c.owed = false
        rw [once, set]
        rfl
  | woken past settled calls empty unset quit => exact absurd (unset.symm.trans set) (by decide)

theorem Latest.answer {i : Nat} (latest : t.Latest c) (allowed : t.callerEnabled c (.answer i)) :
    t.Latest (t.callerStep c (.answer i)) := by
  obtain ⟨found, here, woken⟩ := Option.map_eq_some_iff.mp allowed
  have going : found.isReturned = false := by rw [UserCall.isReturned, woken]
  have waits {past : List UserCall} {call : UserCall} (settled : ∀ call ∈ past, call.Settled)
      (calls : c.calls = call :: past) (waits : call.phase = .waiting) : False := by
    rw [calls] at here
    obtain ⟨-, same⟩ := UserCall.unsettled_zero settled here going
    rw [same, waits] at woken
    cases woken
  cases latest with
  | none settled empty unset quit =>
      obtain ⟨ok, same⟩ := settled found (List.mem_of_getElem? here)
      rw [same] at woken
      cases woken
  | pending past settled calls => exact (waits settled calls rfl).elim
  | completed past settled calls => exact (waits settled calls rfl).elim
  | woken past settled calls empty unset quit =>
      rw [calls] at here
      obtain ⟨rfl, -⟩ := UserCall.unsettled_zero settled here going
      refine .none ?_ empty unset quit
      show ∀ call ∈ c.calls.modify 0 _, call.Settled
      rw [calls, List.modify_zero_cons]
      intro call member
      rcases List.mem_cons.mp member with rfl | before
      · exact ⟨_, rfl⟩
      · exact settled call before

/-! ### Runs -/

variable (t) in
/-- What holds of users that call one after another. -/
structure Orderly (c : Callers State) : Prop where
  sound : (t.view c.thread).lock.Sound
  latest : t.Latest c

theorem Orderly.step (orderly : t.Orderly c) (lawful : t.Lawful) {event : CallerEvent Event}
    (allowed : t.callerEnabled c event) (single : oneAtATime c event) :
    t.Orderly (t.callerStep c event) := by
  obtain ⟨sound, latest⟩ := orderly
  cases event with
  | post event => exact ⟨lawful.sound sound allowed.1, latest.post lawful allowed single⟩
  | thread event =>
      refine ⟨?_, latest.thread lawful sound allowed⟩
      unfold callerStep
      dsimp only
      split <;> exact lawful.sound sound allowed.1
  | set => exact ⟨sound, latest.set allowed⟩
  | wake i => exact ⟨sound, latest.wake allowed⟩
  | answer i => exact ⟨sound, latest.answer allowed⟩

/-- A thread no call was left for. -/
def start (state : State) : Callers State := ⟨state, false, false, []⟩

theorem orderly_start {state : State} (sound : (t.view state).lock.Sound)
    (empty : (t.view state).called = false) : t.Orderly (start state) :=
  ⟨sound, .none (by simp [start]) empty rfl rfl⟩

theorem orderly_of_run {state : State} {events : List (CallerEvent Event)} (lawful : t.Lawful)
    (sound : (t.view state).lock.Sound) (empty : (t.view state).called = false)
    (run : t.callers.RunWhere oneAtATime (start state) events c) : t.Orderly c := by
  refine run.invariant (orderly_start sound empty) ?_
  intro c event orderly allowed single
  exact orderly.step lawful allowed single

/-- Calls that are made one after another get their own answers. -/
theorem ownAnswers_of_run {state : State} {events : List (CallerEvent Event)} (lawful : t.Lawful)
    (sound : (t.view state).lock.Sound) (empty : (t.view state).called = false)
    (run : t.callers.RunWhere oneAtATime (start state) events c) : t.OwnAnswers c :=
  (orderly_of_run lawful sound empty run).latest.ownAnswers

/-- A call that is left while the user of another one waits can spoil an answer. -/
theorem Latest.overlap {event : Event} (latest : t.Latest c)
    (waits : ∃ call ∈ c.calls, call.phase = .waiting) :
    ∃ later after, t.callers.Run (t.callerStep c (.post event)) later after ∧
      ¬ t.OwnAnswers after := by
  obtain ⟨call, member, waiting⟩ := waits
  have absent {past : List UserCall} (settled : ∀ call ∈ past, call.Settled) (inside : call ∈ past) :
      False := by
    obtain ⟨ok, same⟩ := settled call inside
    rw [same] at waiting
    cases waiting
  cases latest with
  | none settled empty unset quit => exact (absent settled member).elim
  | pending past settled calls called unset quit =>
      refine ⟨[], _, .stay, ?_⟩
      intro answers
      have dropped : (⟨.waiting, .dropped⟩ : UserCall) ∈ (t.callerStep c (.post event)).calls := by
        show _ ∈ UserCall.posted :: c.calls.map UserCall.overwrite
        rw [calls]
        exact List.mem_cons_of_mem _ List.mem_cons_self
      exact (answers.own _ dropped).kept rfl
  | completed past settled calls empty once =>
      cases set : c.done with
      | true =>
          -- the answer is taken back before its user is woken
          refine ⟨[], _, .stay, ?_⟩
          intro answers
          have lost : (⟨.waiting, .completed (t.view c.thread).ok⟩ : UserCall) ∈
              (t.callerStep c (.post event)).calls := by
            show _ ∈ UserCall.posted :: c.calls.map UserCall.overwrite
            rw [calls]
            exact List.mem_cons_of_mem _ List.mem_cons_self
          rcases (answers.own _ lost).waiting rfl with ⟨held, -⟩ | ⟨-, done | owed⟩
          · cases held
          · cases done
          · have quit : c.owed = false := once.trans (congrArg (!·) set)
            exact absurd (quit.symm.trans owed) (by decide)
      | false =>
          -- the event is set for the one before, and the user of the new call is woken
          have debt : c.owed = true := once.trans (congrArg (!·) set)
          let posted := t.callerStep c (.post event)
          let woken := t.callerStep (t.callerStep posted .set) (.wake 0)
          have sets : t.callers.Run posted ([] ++ [.set]) (t.callerStep posted .set) :=
            .go .stay debt trivial
          have wakes : t.callers.Run posted ([] ++ [.set] ++ [.wake 0]) woken :=
            .go sets (And.intro rfl rfl : t.callerEnabled _ (.wake 0)) trivial
          have reads : t.callers.Run posted ([] ++ [.set] ++ [.wake 0] ++ [.answer 0])
              (t.callerStep woken (.answer 0)) :=
            .go wakes (by rfl : t.callerEnabled woken (.answer 0)) trivial
          refine ⟨_, _, reads, ?_⟩
          intro answers
          have wrong := (answers.own _ List.mem_cons_self).returned _ rfl
          cases wrong
  | woken past settled calls empty unset quit =>
      rw [calls] at member
      rcases List.mem_cons.mp member with same | before
      · rw [same] at waiting
        cases waiting
      · exact (absent settled before).elim

end CallThread
