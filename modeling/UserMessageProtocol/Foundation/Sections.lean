import UserMessageProtocol.Foundation.Monitor
import UserMessageProtocol.Foundation.Simulation

/-!
Contract: threads that keep to one mutex behave as if each critical section were one step.

Owns: what a whole critical section does (`Begins`, `Completes`), the machine that takes one
in a step (`sectionMachine`), what callers see of both machines (`Observation`), and the
simulation of the threads by the sections (`sections_simulate`).

Does not own: any particular code.
-/

set_option autoImplicit false

/-- Where a thread without the mutex is: at a label, or at the wait of a label. -/
inductive Stage (Local : Type) where
  | outside (l : Local)
  | blocked (l : Local)
deriving DecidableEq

structure Sections (Thread Data Local : Type) where
  data : Data
  stages : Thread → Stage Local

/-- A call begins, or a thread takes a critical section from its first instruction to where
it gives the mutex up, which leads to `data` and `stage`. -/
inductive SectionEvent (Thread Data Local : Type) where
  | call (t : Thread) (l : Local)
  | enter (t : Thread) (data : Data) (stage : Stage Local)

/-- What the callers see. -/
inductive Observation (Thread Local Result : Type) where
  | called (t : Thread) (l : Local)
  | returned (t : Thread) (result : Result)

namespace Standing

variable {Local : Type}

/-- A thread that was woken still waits for the mutex. -/
def stage : Standing Local → Stage Local
  | .running l => .outside l
  | .asleep l | .awake l _ => .blocked l

theorem running_of_stage {standing : Standing Local} {l : Local}
    (outside : standing.stage = .outside l) : standing = .running l := by
  cases standing with
  | running k =>
      cases outside
      rfl
  | asleep k | awake k inTime => cases outside

@[simp]
theorem stage_rouse (standing : Standing Local) : standing.rouse.stage = standing.stage := by
  cases standing <;> rfl

end Standing

namespace MonitorCode

variable {Thread Data Local Result : Type} (code : MonitorCode Data Local Result)

/-- The label at which a critical section goes on once the thread has the mutex. -/
inductive Begins : Stage Local → Local → Prop where
  | lock {l next : Local} (instr : code.instr l = .lock next) : Begins (.outside l) next
  | retake {l : Local} (inTime : Bool) (waits : code.isWait l = true)
      (late : inTime = false → code.isTimed l = true) : Begins (.blocked l) (code.resume l inTime)

/-- What the rest of a critical section leads to. -/
inductive Completes : Data → Local → Data → Stage Local → Prop where
  | access {data data' : Data} {l : Local} {stage : Stage Local} {run : Data → Data × Local}
      (instr : code.instr l = .access run)
      (rest : Completes (run data).1 (run data).2 data' stage) : Completes data l data' stage
  | signal {data data' : Data} {l next : Local} {stage : Stage Local}
      (instr : code.instr l = .signal next) (rest : Completes data next data' stage) :
      Completes data l data' stage
  | broadcast {data data' : Data} {l next : Local} {stage : Stage Local}
      (instr : code.instr l = .broadcast next) (rest : Completes data next data' stage) :
      Completes data l data' stage
  | unlock {data : Data} {l next : Local} (instr : code.instr l = .unlock next) :
      Completes data l data (.outside next)
  | wait {data : Data} {l : Local} {timed : Bool} {next : Bool → Local}
      (instr : code.instr l = .wait timed next) : Completes data l data (.blocked l)

variable {code} in
/-- A critical section leads to one end. -/
theorem Completes.unique {data first second : Data} {l : Local} {stage stage' : Stage Local}
    (one : code.Completes data l first stage) (other : code.Completes data l second stage') :
    second = first ∧ stage' = stage := by
  induction one with
  | access instr _ inductionHypothesis =>
      cases other with
      | access instr' rest =>
          cases instr.symm.trans instr'
          exact inductionHypothesis rest
      | signal instr' _ | broadcast instr' _ | unlock instr' | wait instr' =>
          cases instr.symm.trans instr'
  | signal instr _ inductionHypothesis =>
      cases other with
      | signal instr' rest =>
          cases instr.symm.trans instr'
          exact inductionHypothesis rest
      | access instr' _ | broadcast instr' _ | unlock instr' | wait instr' =>
          cases instr.symm.trans instr'
  | broadcast instr _ inductionHypothesis =>
      cases other with
      | broadcast instr' rest =>
          cases instr.symm.trans instr'
          exact inductionHypothesis rest
      | access instr' _ | signal instr' _ | unlock instr' | wait instr' =>
          cases instr.symm.trans instr'
  | unlock instr =>
      cases other with
      | unlock instr' =>
          cases instr.symm.trans instr'
          exact ⟨rfl, rfl⟩
      | access instr' _ | signal instr' _ | broadcast instr' _ | wait instr' =>
          cases instr.symm.trans instr'
  | wait instr =>
      cases other with
      | wait instr' => exact ⟨rfl, rfl⟩
      | access instr' _ | signal instr' _ | broadcast instr' _ | unlock instr' =>
          cases instr.symm.trans instr'

def sectionEnabled (c : Sections Thread Data Local) : SectionEvent Thread Data Local → Prop
  | .call t l => (∃ k, c.stages t = .outside k ∧ code.isDone k = true) ∧ code.entry l = true
  | .enter t data stage => ∃ l, code.Begins (c.stages t) l ∧ code.Completes c.data l data stage

section

variable [DecidableEq Thread]

def sectionStep (c : Sections Thread Data Local) :
    SectionEvent Thread Data Local → Sections Thread Data Local
  | .call t l => { c with stages := Function.update c.stages t (.outside l) }
  | .enter t data stage => ⟨data, Function.update c.stages t stage⟩

/-- Threads whose critical sections are single steps. -/
def sectionMachine : Machine (Sections Thread Data Local) (SectionEvent Thread Data Local) where
  enabled := code.sectionEnabled
  step := sectionStep

end

/-! ### What callers see -/

/-- A thread that comes to the end of its code returns. -/
def returns (t : Thread) (l : Local) : List (Observation Thread Local Result) :=
  match code.instr l with
  | .done result => [.returned t result]
  | _ => []

def monitorSeen (s : Monitor Thread Data Local) (event : MonitorEvent Thread Local)
    (seen : List (Observation Thread Local Result)) : List (Observation Thread Local Result) :=
  match event with
  | .call t l => seen ++ [.called t l]
  | .step t =>
      match s.threads t with
      | .running l =>
          match code.instr l with
          | .unlock next => seen ++ code.returns t next
          | _ => seen
      | _ => seen
  | _ => seen

def sectionSeen (_ : Sections Thread Data Local) (event : SectionEvent Thread Data Local)
    (seen : List (Observation Thread Local Result)) : List (Observation Thread Local Result) :=
  match event with
  | .call t l => seen ++ [.called t l]
  | .enter t _ (.outside l) => seen ++ code.returns t l
  | .enter _ _ (.blocked _) => seen

/-! ### The simulation -/

/-- The thread with the mutex is in the middle of a section that the sections have not seen
yet; what is left of it completes the section. -/
structure Abstracts (s : Monitor Thread Data Local) (c : Sections Thread Data Local) : Prop where
  exclusive : code.Exclusive s
  free : s.owner = none → s.data = c.data
  others : ∀ t, s.owner ≠ some t → (s.threads t).stage = c.stages t
  mine : ∀ t, s.owner = some t → ∃ l k, s.threads t = .running k ∧ code.Begins (c.stages t) l ∧
    ∀ data stage, code.Completes s.data k data stage → code.Completes c.data l data stage

/-- Both machines, with what the callers have seen. -/
def Shows (low : Monitor Thread Data Local × List (Observation Thread Local Result))
    (high : Sections Thread Data Local × List (Observation Thread Local Result)) : Prop :=
  code.Abstracts low.1 high.1 ∧ low.2 = high.2

variable {code} {s : Monitor Thread Data Local} {c : Sections Thread Data Local}

/-- A thread that is not at a label does not have the mutex. -/
theorem Exclusive.not_owner (exclusive : code.Exclusive s) {t : Thread}
    (out : code.holds (s.threads t) = false) : s.owner ≠ some t := by
  rw [Ne, exclusive.owner t, out]
  decide

/-- The rest of the section of the thread that has the mutex. -/
theorem Abstracts.rest (abstracts : code.Abstracts s c) {t : Thread} {k : Local}
    (here : s.threads t = .running k) (inside : code.inside k = true) :
    ∃ l, code.Begins (c.stages t) l ∧
      ∀ data stage, code.Completes s.data k data stage → code.Completes c.data l data stage := by
  obtain ⟨l, k', here', begins, rest⟩ := abstracts.mine t (abstracts.exclusive.owns code here inside)
  cases here.symm.trans here'
  exact ⟨l, begins, rest⟩

/-- Nobody is in a section at the start. -/
theorem Fresh.abstracts (fresh : Fresh code s) (disciplined : code.Disciplined) :
    code.Abstracts s ⟨s.data, fun t => (s.threads t).stage⟩ where
  exclusive := fresh.exclusive disciplined
  free := fun _ => rfl
  others := fun _ _ => rfl
  mine := by
    intro t owner
    cases fresh.free.symm.trans owner

/-- While nobody has the mutex, the sections have seen everything. -/
theorem Abstracts.settled (abstracts : code.Abstracts s c) (free : s.owner = none) :
    c = ⟨s.data, fun t => (s.threads t).stage⟩ := by
  have stages : c.stages = fun t => (s.threads t).stage := by
    funext t
    rw [abstracts.others t (by rw [free]; nofun)]
  rw [abstracts.free free, ← stages]

variable [DecidableEq Thread]

/-- A signal wakes a thread, which still waits for the mutex. -/
theorem stage_rouseOne (s : Monitor Thread Data Local) (w u : Thread) :
    (Function.update s.threads w (s.threads w).rouse u).stage = (s.threads u).stage := by
  by_cases same : u = w
  · rw [same, Function.update_self, Standing.stage_rouse]
  · rw [Function.update_of_ne same]

/-- A thread gets the mutex and begins a section. -/
theorem Abstracts.got (abstracts : code.Abstracts s c) {t : Thread} {next : Local}
    (free : s.owner = none) (begins : code.Begins (c.stages t) next)
    (exclusive : code.Exclusive ⟨s.data, some t, Function.update s.threads t (.running next)⟩) :
    code.Abstracts ⟨s.data, some t, Function.update s.threads t (.running next)⟩ c := by
  refine ⟨exclusive, nofun, ?_, ?_⟩
  · intro u other
    have different : u ≠ t := fun same => other (congrArg some same.symm)
    dsimp only
    rw [Function.update_of_ne different]
    apply abstracts.others
    rw [free]
    nofun
  · intro u owner
    cases owner
    refine ⟨next, next, Function.update_self .., begins, ?_⟩
    intro data stage completes
    rw [← abstracts.free free]
    exact completes

/-- The thread with the mutex goes on in its section. -/
theorem Abstracts.went (abstracts : code.Abstracts s c) {t : Thread} {l k : Local} {data : Data}
    {threads : Thread → Standing Local} (here : s.threads t = .running l)
    (inside : code.inside l = true) (others : ∀ u, (threads u).stage = (s.threads u).stage)
    (rest : ∀ data' stage, code.Completes data k data' stage → code.Completes s.data l data' stage)
    (exclusive : code.Exclusive ⟨data, s.owner, Function.update threads t (.running k)⟩) :
    code.Abstracts ⟨data, s.owner, Function.update threads t (.running k)⟩ c := by
  have owns := abstracts.exclusive.owns code here inside
  obtain ⟨first, begins, completes⟩ := abstracts.rest here inside
  refine ⟨exclusive, ?_, ?_, ?_⟩
  · intro free
    cases owns.symm.trans free
  · intro u other
    have different : u ≠ t := fun same => other (owns.trans (congrArg some same.symm))
    dsimp only
    rw [Function.update_of_ne different, others]
    exact abstracts.others u other
  · intro u owner
    cases owns.symm.trans owner
    refine ⟨first, k, Function.update_self .., begins, ?_⟩
    intro data' stage left
    exact completes _ _ (rest _ _ left)

/-- The thread with the mutex gives it up, and its section is over. -/
theorem Abstracts.ended (abstracts : code.Abstracts s c) {t : Thread} {l : Local}
    {standing : Standing Local} (here : s.threads t = .running l) (inside : code.inside l = true)
    (exclusive : code.Exclusive ⟨s.data, none, Function.update s.threads t standing⟩) :
    code.Abstracts ⟨s.data, none, Function.update s.threads t standing⟩
      ⟨s.data, Function.update c.stages t standing.stage⟩ := by
  refine ⟨exclusive, fun _ => rfl, ?_, nofun⟩
  intro u _
  dsimp only
  by_cases same : u = t
  · rw [same, Function.update_self, Function.update_self]
  · rw [Function.update_of_ne same, Function.update_of_ne same]
    apply abstracts.others
    rw [abstracts.exclusive.owns code here inside]
    exact fun owner => same (Option.some.inj owner).symm

/-- A thread without the mutex changes, and the sections do not see it. -/
theorem Abstracts.changed (abstracts : code.Abstracts s c) {t : Thread}
    {standing : Standing Local} {stages : Thread → Stage Local} (other : s.owner ≠ some t)
    (mine : stages t = standing.stage) (rest : ∀ u, u ≠ t → stages u = c.stages u)
    (exclusive : code.Exclusive ⟨s.data, s.owner, Function.update s.threads t standing⟩) :
    code.Abstracts ⟨s.data, s.owner, Function.update s.threads t standing⟩ ⟨c.data, stages⟩ := by
  refine ⟨exclusive, abstracts.free, ?_, ?_⟩
  · intro u different
    dsimp only
    by_cases same : u = t
    · rw [same, Function.update_self, mine]
    · rw [Function.update_of_ne same, rest u same]
      exact abstracts.others u different
  · intro u owner
    have different : u ≠ t := fun same => other (owner.trans (congrArg some same))
    obtain ⟨l, k, here, begins, completes⟩ := abstracts.mine u owner
    refine ⟨l, k, (Function.update_of_ne different ..).trans here, ?_, completes⟩
    dsimp only
    rw [rest u different]
    exact begins

/-- Whatever the threads do step by step, sections taken whole could have done, and the
callers see the same. -/
theorem sections_simulate (disciplined : code.Disciplined) :
    Machine.Simulates
      ((code.monitorMachine :
        Machine (Monitor Thread Data Local) (MonitorEvent Thread Local)).noting code.monitorSeen)
      ((code.sectionMachine :
        Machine (Sections Thread Data Local) (SectionEvent Thread Data Local)).noting
          code.sectionSeen) code.Shows := by
  rintro ⟨s, seen⟩ event ⟨c, shown⟩ ⟨abstracts, same⟩ allowed
  dsimp only at abstracts same
  subst same
  have does : code.Does s event (code.monitorStep s event) := code.does_step allowed
  have exclusive := abstracts.exclusive.step disciplined does
  change ∃ events after, _ ∧
    code.Shows (code.monitorStep s event, code.monitorSeen s event seen) after
  have idle (related : code.Abstracts (code.monitorStep s event) c)
      (unseen : code.monitorSeen s event seen = seen) :
      ∃ events after, (code.sectionMachine.noting code.sectionSeen).Run (c, seen) events after ∧
        code.Shows (code.monitorStep s event, code.monitorSeen s event seen) after :=
    Machine.noting_idle ⟨related, unseen⟩
  have one (event' : SectionEvent Thread Data Local) (possible : code.sectionEnabled c event')
      (related : code.Abstracts (code.monitorStep s event) (sectionStep c event'))
      (alike : code.monitorSeen s event seen = code.sectionSeen c event' seen) :
      ∃ events after, (code.sectionMachine.noting code.sectionSeen).Run (c, seen) events after ∧
        code.Shows (code.monitorStep s event, code.monitorSeen s event seen) after :=
    Machine.noting_one event' possible ⟨related, alike⟩
  generalize code.monitorStep s event = s' at does exclusive idle one ⊢
  cases does with
  | @call t k l here ended entry =>
      have outside := isDone_outside disciplined ended
      have notOwner := abstracts.exclusive.not_owner ((congrArg code.holds here).trans outside)
      have stage : c.stages t = .outside k := by
        rw [← abstracts.others t notOwner, here]
        rfl
      refine one (.call t l) ⟨⟨k, stage, ended⟩, entry⟩ ?_ rfl
      exact abstracts.changed notOwner (Function.update_self ..)
        (fun u other => Function.update_of_ne other ..) exclusive
  | @lock t l next here instr free =>
      have stage : c.stages t = .outside l := by
        rw [← abstracts.others t (by rw [free]; nofun), here]
        rfl
      refine idle (abstracts.got free ?_ exclusive) (by simp only [monitorSeen, here, instr])
      rw [stage]
      exact .lock instr
  | @retake t l inTime here free =>
      have stage : c.stages t = .blocked l := by
        rw [← abstracts.others t (by rw [free]; nofun), here]
        rfl
      obtain ⟨waits, late⟩ := abstracts.exclusive.awake t l inTime here
      refine idle (abstracts.got free ?_ exclusive) (by simp only [monitorSeen, here])
      rw [stage]
      exact .retake inTime waits late
  | @access t l run here instr =>
      have inside := (disciplined.keeps_of instr).1
      refine idle (abstracts.went here inside (fun _ => rfl) ?_ exclusive)
        (by simp only [monitorSeen, here, instr])
      exact fun _ _ rest => .access instr rest
  | @broadcast t l next here instr =>
      have inside := (disciplined.keeps_of instr).1
      refine idle (abstracts.went here inside (fun u => Standing.stage_rouse _) ?_ exclusive)
        (by simp only [monitorSeen, here, instr])
      exact fun _ _ rest => .broadcast instr rest
  | @signal t l next woken here instr chosen =>
      have inside := (disciplined.keeps_of instr).1
      have left (data' : Data) (stage : Stage Local) (rest : code.Completes s.data next data' stage) :
          code.Completes s.data l data' stage := .signal instr rest
      cases woken with
      | none => exact idle (abstracts.went here inside (fun _ => rfl) left exclusive) rfl
      | some w => exact idle (abstracts.went here inside (stage_rouseOne s w) left exclusive) rfl
  | @unlock t l next here instr =>
      have inside := (disciplined.keeps_of instr).1
      obtain ⟨first, begins, completes⟩ := abstracts.rest here inside
      refine one (.enter t s.data (.outside next)) ⟨first, begins, completes _ _ (.unlock instr)⟩ ?_ ?_
      · exact abstracts.ended here inside exclusive
      · simp only [monitorSeen, here, instr]
        rfl
  | @wait t l timed next here instr =>
      have inside := (disciplined.keeps_of instr).1
      obtain ⟨first, begins, completes⟩ := abstracts.rest here inside
      refine one (.enter t s.data (.blocked l)) ⟨first, begins, completes _ _ (.wait instr)⟩ ?_ ?_
      · exact abstracts.ended here inside exclusive
      · simp only [monitorSeen, here, instr]
        rfl
  | @wake t l here =>
      have notOwner := abstracts.exclusive.not_owner (congrArg code.holds here)
      refine idle (abstracts.changed notOwner ?_ (fun _ _ => rfl) exclusive) rfl
      rw [← abstracts.others t notOwner, here]
      rfl
  | @expire t l here timed =>
      have notOwner := abstracts.exclusive.not_owner (congrArg code.holds here)
      refine idle (abstracts.changed notOwner ?_ (fun _ _ => rfl) exclusive) rfl
      rw [← abstracts.others t notOwner, here]
      rfl

/-! ### Sections that nobody disturbs -/

/-- What one thread does in its section. -/
def isOf (t : Thread) : MonitorEvent Thread Local → Prop
  | .step u | .signal u _ => u = t
  | _ => False

variable (code) in
/-- One thread can go on alone to a state that meets `ends`. -/
def Alone (t : Thread) (s : Monitor Thread Data Local) (ends : Monitor Thread Data Local → Prop) :
    Prop :=
  ∃ events s', code.monitorMachine.Run s events s' ∧ (∀ event ∈ events, isOf t event) ∧ ends s'

theorem Alone.go {t : Thread} {ends : Monitor Thread Data Local → Prop}
    (event : MonitorEvent Thread Local) (mine : isOf t event) (allowed : code.monitorEnabled s event)
    (rest : code.Alone t (code.monitorStep s event) ends) : code.Alone t s ends := by
  obtain ⟨events, s', run, each, reached⟩ := rest
  have first : code.monitorMachine.Run s ([] ++ [event]) (code.monitorStep s event) :=
    .go .stay allowed trivial
  refine ⟨[event] ++ events, s', first.trans run, ?_, reached⟩
  intro other member
  rcases List.mem_cons.mp member with rfl | later
  · exact mine
  · exact each other later

theorem Alone.mono {t : Thread} {ends ends' : Monitor Thread Data Local → Prop}
    (alone : code.Alone t s ends) (weaker : ∀ s', ends s' → ends' s') : code.Alone t s ends' := by
  obtain ⟨events, s', run, each, reached⟩ := alone
  exact ⟨events, s', run, each, weaker s' reached⟩

/-- A thread that is not asleep takes its next step. -/
theorem Alone.step {t : Thread} {ends : Monitor Thread Data Local → Prop}
    (able : code.canStep s.owner.isNone (s.threads t) = true)
    (rest : code.Alone t (code.monitorStep s (.step t)) ends) : code.Alone t s ends :=
  .go (.step t) rfl able rest

omit [DecidableEq Thread] in
/-- A signal can always be given. -/
theorem exists_wakes (s : Monitor Thread Data Local) : ∃ woken, wakes s woken := by
  by_cases waiting : ∃ w, (s.threads w).isAsleep = true
  · obtain ⟨w, asleep⟩ := waiting
    exact ⟨some w, asleep⟩
  · exact ⟨none, fun w => Bool.eq_false_iff.mpr fun asleep => waiting ⟨w, asleep⟩⟩

/-- The thread that has the mutex can go on alone to the end of its section. -/
theorem Completes.alone {data data' : Data} {l : Local} {stage : Stage Local}
    (completes : code.Completes data l data' stage) {s : Monitor Thread Data Local} {t : Thread}
    (same : s.data = data) (here : s.threads t = .running l) :
    code.Alone t s fun s' => s'.data = data' ∧ s'.owner = none ∧ (s'.threads t).stage = stage := by
  induction completes generalizing s with
  | @access data data' l stage run instr _ inductionHypothesis =>
      refine .step (by simp only [canStep, here, instr]) ?_
      apply inductionHypothesis
      · simp only [monitorStep, here, perform, instr, same]
      · simp only [monitorStep, here, perform, instr, move, Function.update_self, same]
  | @signal data data' l next stage instr _ inductionHypothesis =>
      obtain ⟨woken, chosen⟩ := exists_wakes s
      refine .go (.signal t woken) rfl ⟨by simp only [canSignal, here, instr], chosen⟩ ?_
      apply inductionHypothesis
      · simp only [monitorStep, here]
        cases woken with
        | none => exact same
        | some w => exact same
      · simp only [monitorStep, here, resume, instr, move, Function.update_self]
  | @broadcast data data' l next stage instr _ inductionHypothesis =>
      refine .step (by simp only [canStep, here, instr]) ?_
      apply inductionHypothesis
      · simp only [monitorStep, here, perform, instr, move, same]
      · simp only [monitorStep, here, perform, instr, move, Function.update_self]
  | @unlock data l next instr =>
      refine .step (by simp only [canStep, here, instr]) ⟨[], _, .stay, List.forall_mem_nil _, ?_⟩
      simp only [monitorStep, here, perform, instr, move, Function.update_self, Standing.stage,
        and_self, same]
  | @wait data l timed next instr =>
      refine .step (by simp only [canStep, here, instr]) ⟨[], _, .stay, List.forall_mem_nil _, ?_⟩
      simp only [monitorStep, here, perform, instr, move, Function.update_self, Standing.stage,
        and_self, same]

end MonitorCode
