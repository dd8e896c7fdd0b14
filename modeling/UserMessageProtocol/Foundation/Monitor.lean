import Mathlib.Data.Fintype.Defs
import Mathlib.Logic.Function.Basic
import UserMessageProtocol.Foundation.Runs

/-!
Contract: threads that share data under one mutex and one condition variable.

A thread goes from one label of its code to the next, one instruction at a time, and other
threads go on between two instructions. A thread that waits for the condition gives up the
mutex; it is woken by a signal, by a broadcast, without any cause, or because its time is
over, and has to get the mutex again.

Owns: the code of such threads (`MonitorCode`), their machine (`monitorMachine`), what each
of its steps does (`Does`), and that threads that keep to the mutex exclude each other
(`Exclusive`).

Does not own: any particular code; critical sections as single steps (Foundation.Sections).
-/

set_option autoImplicit false

/-! ### Code -/

inductive Instr (Data Local Result : Type) where
  | lock (next : Local)
  | unlock (next : Local)
  /-- A read or a write of the shared data. -/
  | access (run : Data → Data × Local)
  /-- The condition is waited for; `next` is told whether it was in time. -/
  | wait (timed : Bool) (next : Bool → Local)
  | signal (next : Local)
  | broadcast (next : Local)
  | done (result : Result)

/-- The code of all threads: the instruction at each label, the labels at which calls begin,
and those at which a thread is meant to have the mutex. -/
structure MonitorCode (Data Local Result : Type) where
  instr : Local → Instr Data Local Result
  entry : Local → Bool
  inside : Local → Bool

namespace MonitorCode

variable {Data Local Result : Type} (code : MonitorCode Data Local Result)

/-- What an instruction asks of the labels on both of its sides. -/
def Keeps (l : Local) : Instr Data Local Result → Prop
  | .lock next => code.inside l = false ∧ code.inside next = true
  | .unlock next => code.inside l = true ∧ code.inside next = false
  | .access run => code.inside l = true ∧ ∀ data, code.inside (run data).2 = true
  | .wait _ next => code.inside l = true ∧ ∀ inTime, code.inside (next inTime) = true
  | .signal next => code.inside l = true ∧ code.inside next = true
  | .broadcast next => code.inside l = true ∧ code.inside next = true
  | .done _ => code.inside l = false

/-- Data is read and written, and the condition used, only with the mutex. -/
structure Disciplined : Prop where
  entry : ∀ l, code.entry l = true → code.inside l = false
  keeps : ∀ l, code.Keeps l (code.instr l)

variable {code}

theorem Disciplined.keeps_of (disciplined : code.Disciplined) {l : Local}
    {instr : Instr Data Local Result} (here : code.instr l = instr) : code.Keeps l instr :=
  here ▸ disciplined.keeps l

end MonitorCode

/-! ### Threads -/

/-- Where a thread is: at a label, waiting for the condition that the instruction at a label
waits for, or woken and without the mutex. -/
inductive Standing (Local : Type) where
  | running (l : Local)
  | asleep (l : Local)
  | awake (l : Local) (inTime : Bool)
deriving DecidableEq

namespace Standing

variable {Local : Type}

def isAsleep : Standing Local → Bool
  | .asleep _ => true
  | _ => false

/-- A thread that waits is woken in time. -/
def rouse : Standing Local → Standing Local
  | .asleep l => .awake l true
  | standing => standing

theorem isAsleep_iff {standing : Standing Local} :
    standing.isAsleep = true ↔ ∃ l, standing = .asleep l := by
  cases standing <;> simp [isAsleep]

end Standing

structure Monitor (Thread Data Local : Type) where
  data : Data
  owner : Option Thread
  threads : Thread → Standing Local

/-- What happens: a thread begins a call, takes an instruction, or signals some thread that
waits, and a thread is woken without a cause or because its time is over. -/
inductive MonitorEvent (Thread Local : Type) where
  | call (t : Thread) (l : Local)
  | step (t : Thread)
  | signal (t : Thread) (woken : Option Thread)
  | wake (t : Thread)
  | expire (t : Thread)

namespace MonitorCode

variable {Thread Data Local Result : Type} [DecidableEq Thread]
  (code : MonitorCode Data Local Result)

/-- A mutex is got only while nobody has it. -/
def canStep (free : Bool) : Standing Local → Bool
  | .running l =>
      match code.instr l with
      | .lock _ => free
      | .unlock _ | .access _ | .wait _ _ | .broadcast _ => true
      | .signal _ | .done _ => false
  | .awake _ _ => free
  | .asleep _ => false

def isDone (l : Local) : Bool :=
  match code.instr l with
  | .done _ => true
  | _ => false

def isWait (l : Local) : Bool :=
  match code.instr l with
  | .wait _ _ => true
  | _ => false

/-- A wait that ends when its time is over. -/
def isTimed (l : Local) : Bool :=
  match code.instr l with
  | .wait timed _ => timed
  | _ => false

def canCall : Standing Local → Bool
  | .running l => code.isDone l
  | _ => false

def canSignal : Standing Local → Bool
  | .running l =>
      match code.instr l with
      | .signal _ => true
      | _ => false
  | _ => false

def canExpire : Standing Local → Bool
  | .asleep l => code.isTimed l
  | _ => false

/-- A signal wakes a thread if there is one to wake. -/
def wakes (s : Monitor Thread Data Local) : Option Thread → Prop
  | some w => (s.threads w).isAsleep = true
  | none => ∀ w, (s.threads w).isAsleep = false

def monitorEnabled (s : Monitor Thread Data Local) : MonitorEvent Thread Local → Prop
  | .call t l => code.canCall (s.threads t) = true ∧ code.entry l = true
  | .step t => code.canStep s.owner.isNone (s.threads t) = true
  | .signal t woken => code.canSignal (s.threads t) = true ∧ wakes s woken
  | .wake t => (s.threads t).isAsleep = true
  | .expire t => code.canExpire (s.threads t) = true

/-- The thread goes on with its standing. -/
def move (s : Monitor Thread Data Local) (t : Thread) (standing : Standing Local) :
    Monitor Thread Data Local :=
  { s with threads := Function.update s.threads t standing }

/-- What an instruction other than a signal does. -/
def perform (s : Monitor Thread Data Local) (t : Thread) (l : Local) :
    Instr Data Local Result → Monitor Thread Data Local
  | .lock next => { move s t (.running next) with owner := some t }
  | .unlock next => { move s t (.running next) with owner := none }
  | .access run => { move s t (.running (run s.data).2) with data := (run s.data).1 }
  | .wait _ _ => { move s t (.asleep l) with owner := none }
  | .broadcast next => move { s with threads := fun u => (s.threads u).rouse } t (.running next)
  | .signal _ | .done _ => s

/-- The label behind a wait or a signal. -/
def resume (l : Local) (inTime : Bool) : Local :=
  match code.instr l with
  | .wait _ next => next inTime
  | .signal next => next
  | _ => l

def rouseOne (s : Monitor Thread Data Local) : Option Thread → Monitor Thread Data Local
  | some w => move s w (s.threads w).rouse
  | none => s

def monitorStep (s : Monitor Thread Data Local) :
    MonitorEvent Thread Local → Monitor Thread Data Local
  | .call t l => move s t (.running l)
  | .step t =>
      match s.threads t with
      | .running l => perform s t l (code.instr l)
      | .awake l inTime => { move s t (.running (code.resume l inTime)) with owner := some t }
      | .asleep _ => s
  | .signal t woken =>
      match s.threads t with
      | .running l => move (rouseOne s woken) t (.running (code.resume l true))
      | _ => s
  | .wake t => move s t (s.threads t).rouse
  | .expire t =>
      match s.threads t with
      | .asleep l => move s t (.awake l false)
      | _ => s

/-- Threads that run some code and share data. -/
def monitorMachine : Machine (Monitor Thread Data Local) (MonitorEvent Thread Local) where
  enabled := code.monitorEnabled
  step := code.monitorStep

instance [Fintype Thread] (s : Monitor Thread Data Local) :
    (woken : Option Thread) → Decidable (wakes s woken)
  | some w => inferInstanceAs (Decidable ((s.threads w).isAsleep = true))
  | none => inferInstanceAs (Decidable (∀ w, (s.threads w).isAsleep = false))

instance [Fintype Thread] (s : Monitor Thread Data Local) :
    (event : MonitorEvent Thread Local) → Decidable (code.monitorMachine.enabled s event)
  | .call t l => inferInstanceAs (Decidable (code.canCall (s.threads t) = true ∧ code.entry l = true))
  | .step t => inferInstanceAs (Decidable (code.canStep s.owner.isNone (s.threads t) = true))
  | .signal t woken =>
      inferInstanceAs (Decidable (code.canSignal (s.threads t) = true ∧ wakes s woken))
  | .wake t => inferInstanceAs (Decidable ((s.threads t).isAsleep = true))
  | .expire t => inferInstanceAs (Decidable (code.canExpire (s.threads t) = true))

/-! ### What a step does -/

/-- The steps of the machine, each with the instruction that is taken. -/
inductive Does (s : Monitor Thread Data Local) :
    MonitorEvent Thread Local → Monitor Thread Data Local → Prop where
  | call {t : Thread} {k l : Local} (here : s.threads t = .running k) (ended : code.isDone k = true)
      (entry : code.entry l = true) : Does s (.call t l) (move s t (.running l))
  | lock {t : Thread} {l next : Local} (here : s.threads t = .running l)
      (instr : code.instr l = .lock next) (free : s.owner = none) :
      Does s (.step t) { move s t (.running next) with owner := some t }
  | unlock {t : Thread} {l next : Local} (here : s.threads t = .running l)
      (instr : code.instr l = .unlock next) :
      Does s (.step t) { move s t (.running next) with owner := none }
  | access {t : Thread} {l : Local} {run : Data → Data × Local} (here : s.threads t = .running l)
      (instr : code.instr l = .access run) :
      Does s (.step t) { move s t (.running (run s.data).2) with data := (run s.data).1 }
  | wait {t : Thread} {l : Local} {timed : Bool} {next : Bool → Local}
      (here : s.threads t = .running l) (instr : code.instr l = .wait timed next) :
      Does s (.step t) { move s t (.asleep l) with owner := none }
  | retake {t : Thread} {l : Local} {inTime : Bool} (here : s.threads t = .awake l inTime)
      (free : s.owner = none) :
      Does s (.step t) { move s t (.running (code.resume l inTime)) with owner := some t }
  | broadcast {t : Thread} {l next : Local} (here : s.threads t = .running l)
      (instr : code.instr l = .broadcast next) :
      Does s (.step t) (move { s with threads := fun u => (s.threads u).rouse } t (.running next))
  | signal {t : Thread} {l next : Local} {woken : Option Thread} (here : s.threads t = .running l)
      (instr : code.instr l = .signal next) (chosen : wakes s woken) :
      Does s (.signal t woken) (move (rouseOne s woken) t (.running next))
  | wake {t : Thread} {l : Local} (here : s.threads t = .asleep l) :
      Does s (.wake t) (move s t (.awake l true))
  | expire {t : Thread} {l : Local} (here : s.threads t = .asleep l) (timed : code.isTimed l = true) :
      Does s (.expire t) (move s t (.awake l false))

theorem does_step {s : Monitor Thread Data Local} {event : MonitorEvent Thread Local}
    (enabled : code.monitorEnabled s event) : code.Does s event (code.monitorStep s event) := by
  cases event with
  | call t l =>
      obtain ⟨ended, entry⟩ := enabled
      cases here : s.threads t with
      | running k =>
          rw [here] at ended
          exact .call here ended entry
      | asleep k | awake k inTime =>
          rw [here] at ended
          cases ended
  | step t =>
      simp only [monitorEnabled] at enabled
      simp only [monitorStep]
      cases here : s.threads t with
      | running l =>
          rw [here] at enabled
          simp only [canStep] at enabled
          dsimp only
          cases instr : code.instr l with
          | lock next =>
              rw [instr] at enabled
              exact .lock here instr (Option.isNone_iff_eq_none.mp enabled)
          | unlock next => exact .unlock here instr
          | access run => exact .access here instr
          | wait timed next => exact .wait here instr
          | broadcast next => exact .broadcast here instr
          | signal next | done result =>
              rw [instr] at enabled
              cases enabled
      | asleep l =>
          rw [here] at enabled
          cases enabled
      | awake l inTime =>
          rw [here] at enabled
          exact .retake here (Option.isNone_iff_eq_none.mp enabled)
  | signal t woken =>
      obtain ⟨isSignal, chosen⟩ := enabled
      cases here : s.threads t with
      | running l =>
          simp only [monitorStep, here]
          simp only [here, canSignal] at isSignal
          split at isSignal
          · rename_i next instr
            have resumed : code.resume l true = next := by
              unfold resume
              rw [instr]
            rw [resumed]
            exact .signal here instr chosen
          · cases isSignal
      | asleep l | awake l inTime =>
          rw [here] at isSignal
          cases isSignal
  | wake t =>
      obtain ⟨l, here⟩ := Standing.isAsleep_iff.mp enabled
      simp only [monitorStep, here]
      exact .wake here
  | expire t =>
      simp only [monitorEnabled] at enabled
      cases here : s.threads t with
      | asleep l =>
          rw [here] at enabled
          simp only [monitorStep, here]
          exact .expire here enabled
      | running l | awake l inTime =>
          rw [here] at enabled
          cases enabled

/-! ### Mutual exclusion -/

/-- Whether a thread is meant to have the mutex. -/
def holds : Standing Local → Bool
  | .running l => code.inside l
  | _ => false

/-- A thread has the mutex exactly where it is meant to, and waits only where it says so. -/
structure Exclusive (s : Monitor Thread Data Local) : Prop where
  owner : ∀ t, s.owner = some t ↔ code.holds (s.threads t) = true
  asleep : ∀ t l, s.threads t = .asleep l → code.isWait l = true
  awake : ∀ t l inTime, s.threads t = .awake l inTime →
    code.isWait l = true ∧ (inTime = false → code.isTimed l = true)

omit [DecidableEq Thread] in
/-- A thread at a label inside has the mutex. -/
theorem Exclusive.owns {s : Monitor Thread Data Local} (exclusive : code.Exclusive s) {t : Thread}
    {l : Local} (here : s.threads t = .running l) (inside : code.inside l = true) :
    s.owner = some t := by
  rw [exclusive.owner t, here]
  exact inside

variable {code} {s : Monitor Thread Data Local}

/-- One thread moves on and keeps or gets or gives up the mutex. -/
theorem Exclusive.moved (exclusive : code.Exclusive s) {t : Thread} {standing : Standing Local}
    {data : Data} {owner : Option Thread}
    (mine : owner = some t ↔ code.holds standing = true)
    (others : ∀ u, u ≠ t → (owner = some u ↔ s.owner = some u))
    (asleep : ∀ l, standing = .asleep l → code.isWait l = true)
    (awake : ∀ l inTime, standing = .awake l inTime →
      code.isWait l = true ∧ (inTime = false → code.isTimed l = true)) :
    code.Exclusive ⟨data, owner, Function.update s.threads t standing⟩ where
  owner := by
    intro u
    dsimp only
    by_cases same : u = t
    · rw [same, Function.update_self]
      exact mine
    · rw [Function.update_of_ne same, others u same]
      exact exclusive.owner u
  asleep := by
    intro u l here
    dsimp only at here
    by_cases same : u = t
    · rw [same, Function.update_self] at here
      exact asleep l here
    · rw [Function.update_of_ne same] at here
      exact exclusive.asleep u l here
  awake := by
    intro u l inTime here
    dsimp only at here
    by_cases same : u = t
    · rw [same, Function.update_self] at here
      exact awake l inTime here
    · rw [Function.update_of_ne same] at here
      exact exclusive.awake u l inTime here

omit [DecidableEq Thread] in
/-- Some waiting threads are woken in time. -/
theorem Exclusive.roused (exclusive : code.Exclusive s) {threads : Thread → Standing Local}
    (each : ∀ u, threads u = s.threads u ∨ threads u = (s.threads u).rouse) :
    code.Exclusive { s with threads := threads } := by
  have cases (u : Thread) : threads u = s.threads u ∨
      ∃ l, s.threads u = .asleep l ∧ threads u = .awake l true := by
    rcases each u with same | roused
    · exact .inl same
    · cases here : s.threads u with
      | asleep l =>
          rw [here] at roused
          exact .inr ⟨l, rfl, roused⟩
      | running l =>
          rw [here] at roused
          exact .inl roused
      | awake l inTime =>
          rw [here] at roused
          exact .inl roused
  constructor
  · intro u
    dsimp only
    rcases cases u with same | ⟨l, before, after⟩
    · rw [same]
      exact exclusive.owner u
    · rw [after, exclusive.owner u, before]
      rfl
  · intro u l here
    dsimp only at here
    rcases cases u with same | ⟨k, before, after⟩
    · exact exclusive.asleep u l (same.symm.trans here)
    · rw [after] at here
      cases here
  · intro u l inTime here
    dsimp only at here
    rcases cases u with same | ⟨k, before, after⟩
    · exact exclusive.awake u l inTime (same.symm.trans here)
    · rw [after] at here
      cases here
      exact ⟨exclusive.asleep u _ before, nofun⟩

theorem isDone_outside (disciplined : code.Disciplined) {l : Local} (ended : code.isDone l = true) :
    code.inside l = false := by
  unfold isDone at ended
  split at ended
  · exact disciplined.keeps_of ‹_›
  · cases ended

theorem isWait_resume (disciplined : code.Disciplined) {l : Local} (waits : code.isWait l = true)
    (inTime : Bool) : code.inside (code.resume l inTime) = true := by
  unfold isWait at waits
  unfold resume
  cases instr : code.instr l with
  | wait timed next => exact (disciplined.keeps_of instr).2 inTime
  | _ =>
      rw [instr] at waits
      cases waits

theorem Exclusive.step (exclusive : code.Exclusive s) (disciplined : code.Disciplined)
    {event : MonitorEvent Thread Local} {s' : Monitor Thread Data Local}
    (does : code.Does s event s') : code.Exclusive s' := by
  cases does with
  | @call t k l here ended entry =>
      have outside := disciplined.entry l entry
      have notOwner : ¬ s.owner = some t := by
        rw [exclusive.owner t, here, holds, isDone_outside disciplined ended]
        decide
      refine exclusive.moved ?_ (fun _ _ => Iff.rfl) nofun nofun
      rw [holds, outside]
      exact ⟨fun owns => absurd owns notOwner, nofun⟩
  | @lock t l next here instr free =>
      have keeps := disciplined.keeps_of instr
      refine exclusive.moved ⟨fun _ => keeps.2, fun _ => rfl⟩ ?_ nofun nofun
      intro u other
      rw [free]
      simp [other.symm]
  | @unlock t l next here instr =>
      have keeps := disciplined.keeps_of instr
      refine exclusive.moved ?_ ?_ nofun nofun
      · rw [holds, keeps.2]
        simp
      · intro u other
        rw [exclusive.owns code here keeps.1]
        simp [other.symm]
  | @access t l run here instr =>
      have keeps := disciplined.keeps_of instr
      refine exclusive.moved ?_ (fun _ _ => Iff.rfl) nofun nofun
      exact ⟨fun _ => keeps.2 _, fun _ => exclusive.owns code here keeps.1⟩
  | @wait t l timed next here instr =>
      have keeps := disciplined.keeps_of instr
      refine exclusive.moved ?_ ?_ ?_ nofun
      · simp [holds]
      · intro u other
        rw [exclusive.owns code here keeps.1]
        simp [other.symm]
      · intro k same
        cases same
        unfold isWait
        rw [instr]
  | @retake t l inTime here free =>
      have inside := isWait_resume disciplined (exclusive.awake t l inTime here).1 inTime
      refine exclusive.moved ⟨fun _ => inside, fun _ => rfl⟩ ?_ nofun nofun
      intro u other
      rw [free]
      simp [other.symm]
  | @broadcast t l next here instr =>
      have keeps := disciplined.keeps_of instr
      have roused : code.Exclusive { s with threads := fun u => (s.threads u).rouse } :=
        exclusive.roused fun u => .inr rfl
      refine roused.moved ?_ (fun _ _ => Iff.rfl) nofun nofun
      exact ⟨fun _ => keeps.2, fun _ => exclusive.owns code here keeps.1⟩
  | @signal t l next woken here instr chosen =>
      have keeps := disciplined.keeps_of instr
      have owns := exclusive.owns code here keeps.1
      cases woken with
      | none =>
          refine exclusive.moved ?_ (fun _ _ => Iff.rfl) nofun nofun
          exact ⟨fun _ => keeps.2, fun _ => owns⟩
      | some w =>
          have roused : code.Exclusive (rouseOne s (some w)) := by
            apply exclusive.roused
            intro u
            by_cases same : u = w
            · rw [same]
              exact .inr (Function.update_self w _ _)
            · exact .inl (Function.update_of_ne same _ _)
          refine roused.moved ?_ (fun _ _ => Iff.rfl) nofun nofun
          exact ⟨fun _ => keeps.2, fun _ => owns⟩
  | @wake t l here =>
      refine exclusive.moved ?_ (fun _ _ => Iff.rfl) nofun ?_
      · rw [exclusive.owner t, here]
        simp [holds]
      · intro k inTime same
        cases same
        exact ⟨exclusive.asleep t l here, nofun⟩
  | @expire t l here timed =>
      refine exclusive.moved ?_ (fun _ _ => Iff.rfl) nofun ?_
      · rw [exclusive.owner t, here]
        simp [holds]
      · intro k inTime same
        cases same
        exact ⟨exclusive.asleep t l here, fun _ => timed⟩

/-- A monitor that nobody has entered: every thread is through with some call. -/
structure Fresh (code : MonitorCode Data Local Result) (s : Monitor Thread Data Local) : Prop where
  free : s.owner = none
  idle : ∀ t, ∃ l, s.threads t = .running l ∧ code.isDone l = true

omit [DecidableEq Thread] in
theorem Fresh.exclusive (fresh : Fresh code s) (disciplined : code.Disciplined) :
    code.Exclusive s where
  owner := by
    intro t
    obtain ⟨l, here, ended⟩ := fresh.idle t
    rw [here, holds, isDone_outside disciplined ended, fresh.free]
    simp
  asleep := by
    intro t l here
    obtain ⟨k, running, -⟩ := fresh.idle t
    cases running.symm.trans here
  awake := by
    intro t l inTime here
    obtain ⟨k, running, -⟩ := fresh.idle t
    cases running.symm.trans here

end MonitorCode
