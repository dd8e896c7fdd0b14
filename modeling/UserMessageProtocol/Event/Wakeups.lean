import UserMessageProtocol.Event.MEvent

/-!
Contract: which of the threads that wait for an event are woken.

Owns: what a thread knows of the event at each label (`knows`), which threads will see to
the others (`promising`), the invariant of both (`Wakeful`), that no wake-up is lost
(`noWakeUpLost_of_run`) and that each set lets one waiter through at most
(`passes_le_sets`).

Does not own: the event as its callers see it (Event.Cell).
-/

set_option autoImplicit false

namespace UserMessageProtocol

namespace MEventPoint

/-- What the thread at a label has seen of the event. -/
def knows (e : MEvent) : MEventPoint → Bool
  | .setTest | .broadcastAll | .waitAuto => e.isset
  | .setSignal | .waitClear | .timedClear => e.isset && e.autoReset
  | .setBroadcast => e.isset && !e.autoReset
  | .waitCond | .timedCond => !e.isset
  | .timedAuto r => !r || e.isset
  | _ => true

/-- A thread at such a label is about to wake others, or to take the event away from them. -/
def urgent (autoReset : Bool) : MEventPoint → Bool
  | .setTest | .setSignal | .setBroadcast | .broadcastAll => true
  | .waitTest | .waitAuto | .waitClear | .timedTest true | .timedAuto true | .timedClear => autoReset
  | _ => false

theorem knows_outside {l : MEventPoint} (outside : mEventCode.inside l = false) (e : MEvent) :
    l.knows e = true := by
  cases l with
  | setLock | broadcastLock | resetLock | waitLock | timedLock | returned => rfl
  | _ => cases outside

theorem inside_of_urgent {l : MEventPoint} {autoReset : Bool} (urgent : l.urgent autoReset = true) :
    mEventCode.inside l = true := by
  cases l with
  | setLock | broadcastLock | resetLock | waitLock | timedLock | returned => cases urgent
  | _ => rfl

/-- What an access does to what the thread knows and is about to do. -/
structure Follows (e : MEvent) (l : MEventPoint) (next : MEvent × MEventPoint) : Prop where
  auto : next.1.autoReset = e.autoReset
  knows : next.2.knows next.1 = true
  urgent : l.urgent e.autoReset = true → next.1.isset = true → next.2.urgent e.autoReset = true
  raised : e.isset = false → next.1.isset = true → next.2.urgent e.autoReset = true

theorem follows_access {e : MEvent} {l : MEventPoint} {run : MEvent → MEvent × MEventPoint}
    (instr : mEventCode.instr l = .access run) (knows : l.knows e = true) :
    Follows e l (run e) := by
  obtain ⟨isset, autoReset⟩ := e
  cases l with
  | setStore | broadcastStore | resetStore =>
      cases instr
      exact ⟨rfl, rfl, by simp [urgent], by simp [urgent]⟩
  | waitClear | timedClear =>
      cases instr
      exact ⟨rfl, rfl, nofun, by simp⟩
  | setTest | waitTest | waitAuto =>
      cases instr
      cases isset <;> cases autoReset <;>
        first | exact absurd knows (by decide) | exact ⟨rfl, rfl, by decide, by decide⟩
  | timedTest r | timedAuto r =>
      cases instr
      cases r <;> cases isset <;> cases autoReset <;>
        first | exact absurd knows (by decide) | exact ⟨rfl, rfl, by decide, by decide⟩
  | _ => cases instr

end MEventPoint

/-- A thread that will see to it that a waiter goes through: it was woken for an event that
lets one through, or is about to wake others. -/
def promising (autoReset : Bool) : Standing MEventPoint → Bool
  | .awake _ true => autoReset
  | .running l => l.urgent autoReset
  | _ => false

section

variable {Thread : Type}

/-- While the event is set and a thread sleeps, some thread will see to it. -/
structure Wakeful (autoReset : Bool) (s : Monitor Thread MEvent MEventPoint) : Prop where
  exclusive : mEventCode.Exclusive s
  auto : s.data.autoReset = autoReset
  knows : ∀ t l, s.threads t = .running l → l.knows s.data = true
  wakes : s.data.isset = true → ∀ u, (s.threads u).isAsleep = true →
    ∃ w, promising autoReset (s.threads w) = true

theorem Wakeful.start {start : Monitor Thread MEvent MEventPoint}
    (fresh : MonitorCode.Fresh mEventCode start) : Wakeful start.data.autoReset start where
  exclusive := fresh.exclusive mEventCode_disciplined
  auto := rfl
  knows := by
    intro t l here
    obtain ⟨k, running, ended⟩ := fresh.idle t
    cases here.symm.trans running
    exact MEventPoint.knows_outside (MonitorCode.isDone_outside mEventCode_disciplined ended) _
  wakes := by
    intro _ u asleep
    obtain ⟨k, running, -⟩ := fresh.idle u
    rw [running] at asleep
    cases asleep

variable {autoReset : Bool} {s s' : Monitor Thread MEvent MEventPoint}

variable [DecidableEq Thread]

/-- One thread moves on; its part of the invariant is enough. -/
theorem Wakeful.moved (wakeful : Wakeful autoReset s) {t : Thread}
    {standing : Standing MEventPoint} {data : MEvent} {owner : Option Thread}
    (exclusive : mEventCode.Exclusive ⟨data, owner, Function.update s.threads t standing⟩)
    (auto : data.autoReset = s.data.autoReset)
    (same : data = s.data ∨ s.owner = some t)
    (knows : ∀ l, standing = .running l → l.knows data = true)
    (asleep : standing.isAsleep = true → data.isset = false)
    (promised : s.data.isset = true → data.isset = true →
      promising autoReset (s.threads t) = true → ∀ u, (s.threads u).isAsleep = true →
      promising autoReset standing = true ∨ ∃ w, w ≠ t ∧ promising autoReset (s.threads w) = true)
    (raised : s.data.isset = false → data.isset = true → promising autoReset standing = true) :
    Wakeful autoReset ⟨data, owner, Function.update s.threads t standing⟩ where
  exclusive := exclusive
  auto := auto.trans wakeful.auto
  knows := by
    intro u l here
    dsimp only at here ⊢
    by_cases mine : u = t
    · rw [mine, Function.update_self] at here
      exact knows l here
    · rw [Function.update_of_ne mine] at here
      rcases same with rfl | owns
      · exact wakeful.knows u l here
      · -- only the thread with the mutex changes the event, all others are outside
        apply MEventPoint.knows_outside
        rw [Bool.eq_false_iff]
        intro inside
        have owns' := wakeful.exclusive.owns mEventCode here inside
        exact mine (Option.some.inj (owns'.symm.trans owns))
  wakes := by
    intro set u sleeps
    dsimp only at set sleeps ⊢
    by_cases mine : u = t
    · rw [mine, Function.update_self] at sleeps
      cases (asleep sleeps).symm.trans set
    · rw [Function.update_of_ne mine] at sleeps
      have mine (promise : promising autoReset standing = true) :
          ∃ w, promising autoReset (Function.update s.threads t standing w) = true :=
        ⟨t, by rw [Function.update_self]; exact promise⟩
      have theirs {w : Thread} (other : w ≠ t) (promise : promising autoReset (s.threads w) = true) :
          ∃ w, promising autoReset (Function.update s.threads t standing w) = true :=
        ⟨w, by rw [Function.update_of_ne other]; exact promise⟩
      cases before : s.data.isset with
      | false => exact mine (raised before set)
      | true =>
          obtain ⟨w, promise⟩ := wakeful.wakes before u sleeps
          by_cases chosen : w = t
          · rw [chosen] at promise
            rcases promised before set promise u sleeps with now | ⟨v, other, now⟩
            · exact mine now
            · exact theirs other now
          · exact theirs chosen promise

/-- One thread moves on and leaves the event as it is. -/
theorem Wakeful.passed (wakeful : Wakeful autoReset s) {t : Thread}
    {standing : Standing MEventPoint} {owner : Option Thread}
    (exclusive : mEventCode.Exclusive ⟨s.data, owner, Function.update s.threads t standing⟩)
    (knows : ∀ l, standing = .running l → l.knows s.data = true)
    (asleep : standing.isAsleep = true → s.data.isset = false)
    (promised : promising autoReset (s.threads t) = true → promising autoReset standing = true) :
    Wakeful autoReset ⟨s.data, owner, Function.update s.threads t standing⟩ := by
  refine wakeful.moved exclusive rfl (.inl rfl) knows asleep ?_ ?_
  · exact fun _ _ promise _ _ => .inl (promised promise)
  · intro unset set
    cases unset.symm.trans set

omit [DecidableEq Thread] in
/-- Some waiters are woken. -/
theorem Wakeful.roused (wakeful : Wakeful autoReset s) {threads : Thread → Standing MEventPoint}
    (each : ∀ u, threads u = s.threads u ∨ threads u = (s.threads u).rouse) :
    Wakeful autoReset { s with threads := threads } where
  exclusive := wakeful.exclusive.roused each
  auto := wakeful.auto
  knows := by
    intro t l here
    dsimp only at here ⊢
    rcases each t with same | roused
    · exact wakeful.knows t l (same.symm.trans here)
    · cases before : s.threads t with
      | running k =>
          rw [roused, before] at here
          cases here
          exact wakeful.knows t l before
      | asleep k | awake k inTime =>
          rw [roused, before] at here
          cases here
  wakes := by
    intro set u asleep
    dsimp only at set asleep ⊢
    have slept : (s.threads u).isAsleep = true := by
      rcases each u with same | roused
      · rw [same] at asleep
        exact asleep
      · rw [roused] at asleep
        cases before : s.threads u with
        | asleep k => rfl
        | running k | awake k inTime =>
            rw [before] at asleep
            cases asleep
    obtain ⟨w, promise⟩ := wakeful.wakes set u slept
    refine ⟨w, ?_⟩
    rcases each w with same | roused
    · rw [same]
      exact promise
    · rw [roused]
      cases before : s.threads w with
      | asleep k =>
          rw [before] at promise
          cases promise
      | running k | awake k inTime =>
          rw [before] at promise
          exact promise

/-- Waiters are woken by threads that are not among them. -/
theorem not_asleep_rouse (standing : Standing MEventPoint) : standing.rouse.isAsleep = false := by
  cases standing <;> rfl

namespace MEventPoint

theorem knows_locked {l next : MEventPoint} (instr : mEventCode.instr l = .lock next) (e : MEvent) :
    next.knows e = true := by
  cases l with
  | setLock | broadcastLock | resetLock | waitLock | timedLock =>
      cases instr
      rfl
  | _ => cases instr

theorem not_urgent_unlock {l next : MEventPoint} (instr : mEventCode.instr l = .unlock next)
    (autoReset : Bool) : l.urgent autoReset = false := by
  cases l with
  | setUnlock | broadcastUnlock | resetUnlock | waitUnlock | timedUnlock => rfl
  | _ => cases instr

theorem unset_of_wait {l : MEventPoint} {timed : Bool} {next : Bool → MEventPoint} {e : MEvent}
    (instr : mEventCode.instr l = .wait timed next) (knows : l.knows e = true) :
    e.isset = false := by
  cases l with
  | waitCond | timedCond => simpa [MEventPoint.knows] using knows
  | _ => cases instr

theorem not_urgent_wait {l : MEventPoint} (waits : mEventCode.isWait l = true) (autoReset : Bool) :
    l.urgent autoReset = false := by
  cases l with
  | waitCond | timedCond => rfl
  | _ => cases waits

theorem knows_resumed {l : MEventPoint} (waits : mEventCode.isWait l = true) (inTime : Bool)
    (e : MEvent) : (mEventCode.resume l inTime).knows e = true := by
  cases l with
  | waitCond | timedCond => rfl
  | _ => cases waits

theorem urgent_resumed {l : MEventPoint} (waits : mEventCode.isWait l = true) (autoReset : Bool) :
    (mEventCode.resume l true).urgent autoReset = autoReset := by
  cases l with
  | waitCond | timedCond => rfl
  | _ => cases waits

theorem knows_woken {l next : MEventPoint} (e : MEvent)
    (instr : mEventCode.instr l = .signal next ∨ mEventCode.instr l = .broadcast next) :
    next.knows e = true := by
  cases l with
  | setSignal =>
      rcases instr with signal | broadcast
      · cases signal
        rfl
      · cases broadcast
  | setBroadcast | broadcastAll =>
      rcases instr with signal | broadcast
      · cases signal
      · cases broadcast
        rfl
  | _ => rcases instr with signal | broadcast <;> contradiction

/-- A single waiter is woken only when one is let through. -/
theorem auto_of_signal {l next : MEventPoint} {e : MEvent}
    (instr : mEventCode.instr l = .signal next) (knows : l.knows e = true) :
    e.autoReset = true := by
  cases l with
  | setSignal => exact (Bool.and_eq_true_iff.mp knows).2
  | _ => cases instr

end MEventPoint

theorem Wakeful.step (wakeful : Wakeful autoReset s) {event : MonitorEvent Thread MEventPoint}
    (does : mEventCode.Does s event s') : Wakeful autoReset s' := by
  have exclusive := wakeful.exclusive.step mEventCode_disciplined does
  have keeps {l : MEventPoint} {instr : Instr MEvent MEventPoint Bool}
      (here : mEventCode.instr l = instr) := mEventCode_disciplined.keeps_of here
  cases does with
  | @call t k l here ended entry =>
      have outside := mEventCode_disciplined.entry l entry
      refine wakeful.passed exclusive ?_ (fun asleep => by cases asleep) ?_
      · intro m same
        cases same
        exact MEventPoint.knows_outside outside _
      · intro promise
        rw [here] at promise
        have inside := MEventPoint.inside_of_urgent promise
        rw [MonitorCode.isDone_outside mEventCode_disciplined ended] at inside
        cases inside
  | @lock t l next here instr free =>
      refine wakeful.passed exclusive ?_ (fun asleep => by cases asleep) ?_
      · intro m same
        cases same
        exact MEventPoint.knows_locked instr _
      · intro promise
        rw [here] at promise
        cases (keeps instr).1.symm.trans (MEventPoint.inside_of_urgent promise)
  | @unlock t l next here instr =>
      refine wakeful.passed exclusive ?_ (fun asleep => by cases asleep) ?_
      · intro m same
        cases same
        exact MEventPoint.knows_outside (keeps instr).2 _
      · intro promise
        rw [here] at promise
        cases promise.symm.trans (MEventPoint.not_urgent_unlock instr autoReset)
  | @access t l run here instr =>
      have follows := MEventPoint.follows_access instr (wakeful.knows t l here)
      obtain rfl := wakeful.auto
      refine wakeful.moved exclusive follows.auto ?_ ?_ (fun asleep => by cases asleep) ?_
        follows.raised
      · exact .inr (wakeful.exclusive.owns mEventCode here (keeps instr).1)
      · intro m same
        cases same
        exact follows.knows
      · intro _ set promise _ _
        rw [here] at promise
        exact .inl (follows.urgent promise set)
  | @wait t l timed next here instr =>
      have waits : mEventCode.isWait l = true := by
        unfold MonitorCode.isWait
        rw [instr]
      refine wakeful.passed exclusive (fun _ same => by cases same) ?_ ?_
      · exact fun _ => MEventPoint.unset_of_wait instr (wakeful.knows t l here)
      · intro promise
        rw [here] at promise
        cases promise.symm.trans (MEventPoint.not_urgent_wait waits autoReset)
  | @retake t l inTime here free =>
      have waits := (wakeful.exclusive.awake t l inTime here).1
      refine wakeful.passed exclusive ?_ (fun asleep => by cases asleep) ?_
      · intro m same
        cases same
        exact MEventPoint.knows_resumed waits inTime _
      · intro promise
        rw [here] at promise
        cases inTime with
        | false => cases promise
        | true => exact (MEventPoint.urgent_resumed waits autoReset).trans promise
  | @broadcast t l next here instr =>
      have roused : Wakeful autoReset { s with threads := fun u => (s.threads u).rouse } :=
        wakeful.roused fun u => .inr rfl
      refine roused.moved exclusive rfl (.inl rfl) ?_ (fun asleep => by cases asleep) ?_ ?_
      · intro m same
        cases same
        exact MEventPoint.knows_woken _ (.inr instr)
      · intro _ _ _ u asleep
        cases (not_asleep_rouse _).symm.trans asleep
      · intro unset set
        cases unset.symm.trans set
  | @signal t l next woken here instr chosen =>
      have auto : autoReset = true := by
        rw [← wakeful.auto]
        exact MEventPoint.auto_of_signal instr (wakeful.knows t l here)
      have knows (m : MEventPoint) (same : Standing.running next = .running m) :
          m.knows s.data = true := by
        cases same
        exact MEventPoint.knows_woken _ (.inl instr)
      cases woken with
      | none =>
          refine wakeful.moved exclusive rfl (.inl rfl) knows (fun asleep => by cases asleep) ?_ ?_
          · intro _ _ _ u asleep
            cases (chosen u).symm.trans asleep
          · intro unset set
            cases unset.symm.trans set
      | some w =>
          have each (u : Thread) :
              Function.update s.threads w (s.threads w).rouse u = s.threads u ∨
              Function.update s.threads w (s.threads w).rouse u = (s.threads u).rouse := by
            by_cases same : u = w
            · rw [same, Function.update_self]
              exact .inr rfl
            · exact .inl (Function.update_of_ne same _ _)
          have roused : Wakeful autoReset (MonitorCode.rouseOne s (some w)) := wakeful.roused each
          refine roused.moved exclusive rfl (.inl rfl) knows (fun asleep => by cases asleep) ?_ ?_
          · intro _ _ _ _ _
            obtain ⟨k, asleep⟩ := Standing.isAsleep_iff.mp chosen
            refine .inr ⟨w, ?_, ?_⟩
            · intro same
              rw [same, here] at asleep
              cases asleep
            · simp only [MonitorCode.rouseOne, MonitorCode.move, Function.update_self, asleep,
                Standing.rouse, promising, auto]
          · intro unset set
            cases unset.symm.trans set
  | @wake t l here =>
      refine wakeful.passed exclusive (fun _ same => by cases same) (fun asleep => by cases asleep) ?_
      intro promise
      rw [here] at promise
      cases promise
  | @expire t l here timed =>
      refine wakeful.passed exclusive (fun _ same => by cases same) (fun asleep => by cases asleep) ?_
      intro promise
      rw [here] at promise
      cases promise

theorem wakeful_of_run {start : Monitor Thread MEvent MEventPoint}
    {events : List (MonitorEvent Thread MEventPoint)}
    (run : mEventCode.monitorMachine.Run start events s)
    (fresh : MonitorCode.Fresh mEventCode start) : Wakeful start.data.autoReset s := by
  refine run.invariant (Wakeful.start fresh) ?_
  intro _ _ wakeful enabled _
  exact wakeful.step (mEventCode.does_step enabled)

/-! ### Waiters -/

/-- A thread that waits for the event and whose time is not over. -/
def waitsInTime : Standing MEventPoint → Bool
  | .asleep _ | .awake _ true => true
  | _ => false

omit [DecidableEq Thread] in
/-- While the event is set and nobody is in a critical section, a waiter is awake. -/
theorem Wakeful.awake (wakeful : Wakeful autoReset s) (free : s.owner = none)
    (isset : s.data.isset = true) {t : Thread} (waits : waitsInTime (s.threads t) = true) :
    ∃ w l, s.threads w = .awake l true := by
  have woken (w : Thread) (promise : promising autoReset (s.threads w) = true) :
      ∃ l, s.threads w = .awake l true := by
    cases here : s.threads w with
    | awake l inTime =>
        rw [here] at promise
        cases inTime with
        | true => exact ⟨l, rfl⟩
        | false => cases promise
    | running l =>
        rw [here] at promise
        have owns := wakeful.exclusive.owns mEventCode here (MEventPoint.inside_of_urgent promise)
        cases free.symm.trans owns
    | asleep l =>
        rw [here] at promise
        cases promise
  cases here : s.threads t with
  | asleep l =>
      obtain ⟨w, promise⟩ := wakeful.wakes isset t (by rw [here]; rfl)
      exact ⟨w, woken w promise⟩
  | awake l inTime =>
      cases inTime with
      | true => exact ⟨t, l, here⟩
      | false =>
          rw [here] at waits
          cases waits
  | running l =>
      rw [here] at waits
      cases waits

/-- No wake-up is lost: when the event is set, nobody is in a critical section and a thread
waits, then some waiter need only get the mutex, and returns without anything else happening. -/
theorem noWakeUpLost_of_run {start : Monitor Thread MEvent MEventPoint}
    {events : List (MonitorEvent Thread MEventPoint)} {t : Thread}
    (fresh : MonitorCode.Fresh mEventCode start)
    (run : mEventCode.monitorMachine.Run start events s) (free : s.owner = none)
    (isset : s.data.isset = true) (waits : waitsInTime (s.threads t) = true) :
    ∃ w, waitsInTime (s.threads w) = true ∧
      mEventCode.Alone w s fun s' => s'.threads w = .running (.returned true) ∧
        s'.owner = none ∧ s'.data.isset = !start.data.autoReset := by
  have wakeful := wakeful_of_run run fresh
  obtain ⟨w, l, here⟩ := wakeful.awake free isset waits
  refine ⟨w, by rw [here]; rfl, ?_⟩
  have completes : mEventCode.Completes s.data (mEventCode.resume l true) s.data.pass
      (.outside (.returned true)) := by
    have isWait := (wakeful.exclusive.awake w l true here).1
    cases l with
    | waitCond => exact completes_wait isset
    | timedCond => exact completes_timed isset
    | _ => cases isWait
  refine .step (by rw [here, free]; rfl) ?_
  have taken : mEventCode.monitorStep s (.step w) =
      { MonitorCode.move s w (.running (mEventCode.resume l true)) with owner := some w } := by
    simp only [MonitorCode.monitorStep, here]
  have got : (mEventCode.monitorStep s (.step w)).threads w =
      .running (mEventCode.resume l true) := by
    rw [taken]
    exact Function.update_self ..
  have same : (mEventCode.monitorStep s (.step w)).data = s.data := by rw [taken]; rfl
  refine (completes.alone same got).mono ?_
  rintro s' ⟨data, released, stage⟩
  refine ⟨Standing.running_of_stage stage, released, ?_⟩
  rw [data, MEvent.pass, wakeful.auto]
  cases start.data.autoReset with
  | true => rfl
  | false => exact isset

theorem noWakeUpLost_of_set : ∃ w,
    waitsInTime ((mEventCode.monitorMachine.after idleEvent setWhileWaiting).threads w) = true ∧
      mEventCode.Alone w (mEventCode.monitorMachine.after idleEvent setWhileWaiting) fun s' =>
        s'.threads w = .running (.returned true) ∧ s'.owner = none ∧ s'.data.isset = false :=
  noWakeUpLost_of_run (t := false) idleEvent_fresh setWhileWaiting_run rfl rfl rfl

/-! ### One waiter for each set -/

/-- A wait that is about to return `true`. -/
def isThrough : Standing MEventPoint → Bool
  | .running .waitUnlock | .running (.timedUnlock true) => true
  | _ => false

/-- A wait returns `true`. -/
def passes (s : Monitor Thread MEvent MEventPoint) : MonitorEvent Thread MEventPoint → Bool
  | .step t => isThrough (s.threads t)
  | _ => false

/-- The event is set, by `m_event_set` or `m_event_broadcast`. -/
def sets (s : Monitor Thread MEvent MEventPoint) : MonitorEvent Thread MEventPoint → Bool
  | .step t => s.threads t = .running .setStore || s.threads t = .running .broadcastStore
  | _ => false

/-- The waiters that the sets so far have still to let through. -/
def credit (s : Monitor Thread MEvent MEventPoint) : Nat :=
  s.data.isset.toNat + (s.owner.any fun t => isThrough (s.threads t)).toNat

namespace MEventPoint

/-- An access sets the event, or takes as much as it gives. -/
theorem credit_access {e : MEvent} {l : MEventPoint} {run : MEvent → MEvent × MEventPoint}
    (instr : mEventCode.instr l = .access run) (knows : l.knows e = true)
    (auto : e.autoReset = true) :
    (run e).1.isset.toNat + (isThrough (.running (run e).2)).toNat ≤
      (decide (Standing.running l = .running .setStore) ||
        decide (Standing.running l = .running .broadcastStore)).toNat + e.isset.toNat := by
  obtain ⟨isset, autoReset⟩ := e
  cases auto
  cases l with
  | setStore | broadcastStore | resetStore =>
      cases instr
      cases isset <;> decide
  | waitClear | timedClear =>
      cases instr
      cases isset <;> first | exact absurd knows (by decide) | decide
  | setTest | waitTest | waitAuto =>
      cases instr
      cases isset <;> first | exact absurd knows (by decide) | decide
  | timedTest r | timedAuto r =>
      cases instr
      cases r <;> cases isset <;> first | exact absurd knows (by decide) | decide
  | _ => cases instr

end MEventPoint

/-- A thread without the mutex does not count. -/
theorem any_passed_update {t : Thread} {owner : Option Thread} (other : owner ≠ some t)
    (threads : Thread → Standing MEventPoint) (standing : Standing MEventPoint) :
    (owner.any fun u => isThrough (Function.update threads t standing u)) =
      owner.any fun u => isThrough (threads u) := by
  cases owner with
  | none => rfl
  | some u =>
      have different : u ≠ t := fun same => other (congrArg some same)
      simp only [Option.any_some, Function.update_of_ne different]

theorem not_passed_locked {l next : MEventPoint} (instr : mEventCode.instr l = .lock next) :
    isThrough (.running next) = false ∧ isThrough (.running l) = false ∧ l ≠ .setStore ∧
      l ≠ .broadcastStore := by
  cases l with
  | setLock | broadcastLock | resetLock | waitLock | timedLock =>
      cases instr
      decide
  | _ => cases instr

/-- A wait returns behind its unlock. -/
theorem unlock_of_passed {l : MEventPoint} (past : isThrough (.running l) = true) :
    ∃ next, mEventCode.instr l = .unlock next := by
  cases l with
  | waitUnlock | timedUnlock r => exact ⟨_, rfl⟩
  | _ => cases past

/-- A wake-up is given by a set, which is nothing a waiter passes by. -/
theorem not_passed_woken {l next : MEventPoint}
    (instr : mEventCode.instr l = .signal next ∨ mEventCode.instr l = .broadcast next) :
    isThrough (.running next) = false := by
  cases l with
  | setSignal =>
      rcases instr with signal | broadcast
      · cases signal
        rfl
      · cases broadcast
  | setBroadcast | broadcastAll =>
      rcases instr with signal | broadcast
      · cases signal
      · cases broadcast
        rfl
  | _ => rcases instr with signal | broadcast <;> contradiction

theorem not_passed_resumed {l : MEventPoint} (waits : mEventCode.isWait l = true) (inTime : Bool) :
    isThrough (.running (mEventCode.resume l inTime)) = false := by
  cases l with
  | waitCond | timedCond => rfl
  | _ => cases waits

theorem Wakeful.credit_step (wakeful : Wakeful true s) {event : MonitorEvent Thread MEventPoint}
    (does : mEventCode.Does s event s') :
    (passes s event).toNat + credit s' ≤ (sets s event).toNat + credit s := by
  have owns {t : Thread} {l : MEventPoint} {instr : Instr MEvent MEventPoint Bool}
      (here : s.threads t = .running l) (same : mEventCode.instr l = instr)
      (inside : mEventCode.inside l = true) : s.owner = some t :=
    wakeful.exclusive.owns mEventCode here inside
  have keeps {l : MEventPoint} {instr : Instr MEvent MEventPoint Bool}
      (here : mEventCode.instr l = instr) := mEventCode_disciplined.keeps_of here
  have notPassed {t : Thread} {l : MEventPoint} {instr : Instr MEvent MEventPoint Bool}
      (here : s.threads t = .running l) (same : mEventCode.instr l = instr)
      (other : ∀ next, instr ≠ .unlock next) : isThrough (.running l) = false := by
    rw [Bool.eq_false_iff]
    intro past
    obtain ⟨next, unlock⟩ := unlock_of_passed past
    exact other next (same.symm.trans unlock)
  cases does with
  | @call t k l here ended entry =>
      have other := wakeful.exclusive.not_owner ((congrArg mEventCode.holds here).trans
        (MonitorCode.isDone_outside mEventCode_disciplined ended))
      simp only [passes, sets, credit, MonitorCode.move, any_passed_update other]
      exact Nat.le_refl _
  | @lock t l next here instr free =>
      obtain ⟨first, second, third, fourth⟩ := not_passed_locked instr
      simp [passes, sets, credit, MonitorCode.move, here, first, second, third, fourth, free]
  | @unlock t l next here instr =>
      have owner := owns here instr (keeps instr).1
      simp [passes, sets, credit, MonitorCode.move, here, owner]
      omega
  | @access t l run here instr =>
      have owner := owns here instr (keeps instr).1
      have pays := MEventPoint.credit_access instr (wakeful.knows t l here) wakeful.auto
      have still := notPassed here instr fun _ same => by cases same
      simp only [passes, sets, credit, MonitorCode.move, here, owner, Option.any_some,
        Function.update_self, still]
      omega
  | @wait t l timed next here instr =>
      have owner := owns here instr (keeps instr).1
      have still := notPassed here instr fun _ same => by cases same
      simp only [passes, credit, MonitorCode.move, here, still, Option.any_none, Bool.toNat_false]
      omega
  | @retake t l inTime here free =>
      have resumed := not_passed_resumed (wakeful.exclusive.awake t l inTime here).1 inTime
      have waiting : isThrough (.awake l inTime) = false := rfl
      simp [passes, credit, MonitorCode.move, here, free, waiting, resumed]
  | @broadcast t l next here instr =>
      have owner := owns here instr (keeps instr).1
      have still := notPassed here instr fun _ same => by cases same
      have later := not_passed_woken (.inr instr)
      simp [passes, credit, MonitorCode.move, here, owner, still, later]
  | @signal t l next woken here instr chosen =>
      have owner := owns here instr (keeps instr).1
      have later := not_passed_woken (.inl instr)
      have same : (MonitorCode.rouseOne s woken).owner = some t ∧
          (MonitorCode.rouseOne s woken).data = s.data := by
        cases woken <;> exact ⟨owner, rfl⟩
      simp [passes, credit, MonitorCode.move, same.1, same.2, later]
      omega
  | @wake t l here =>
      have other := wakeful.exclusive.not_owner (congrArg mEventCode.holds here)
      simp only [passes, sets, credit, MonitorCode.move, any_passed_update other]
      exact Nat.le_refl _
  | @expire t l here timed =>
      have other := wakeful.exclusive.not_owner (congrArg mEventCode.holds here)
      simp only [passes, sets, credit, MonitorCode.move, any_passed_update other]
      exact Nat.le_refl _

/-- An event for one waiter answers at most as many waits with `true` as it was set, one more
if it was set at the start: no set is taken twice, and no waiter goes through without one. -/
theorem passes_le_sets {start : Monitor Thread MEvent MEventPoint}
    {events : List (MonitorEvent Thread MEventPoint)}
    (fresh : MonitorCode.Fresh mEventCode start) (auto : start.data.autoReset = true)
    (run : mEventCode.monitorMachine.Run start events s) :
    mEventCode.monitorMachine.tally passes start events ≤
      mEventCode.monitorMachine.tally sets start events + start.data.isset.toNat := by
  have first : Wakeful true start := auto ▸ Wakeful.start fresh
  have paid : mEventCode.monitorMachine.tally passes start events + credit s ≤
      mEventCode.monitorMachine.tally sets start events + credit start := by
    refine run.tally_le first ?_
    intro _ _ wakeful enabled _
    have does := mEventCode.does_step enabled
    exact ⟨wakeful.step does, wakeful.credit_step does⟩
  have none : credit start = start.data.isset.toNat := by
    simp only [credit, fresh.free, Option.any_none, Bool.toNat_false, Nat.add_zero]
  omega

theorem passes_le_sets_of_set :
    mEventCode.monitorMachine.tally passes idleEvent (setWhileWaiting ++ wokenThenReturns) = 1 ∧
      1 ≤ mEventCode.monitorMachine.tally sets idleEvent (setWhileWaiting ++ wokenThenReturns) :=
  ⟨by decide, passes_le_sets idleEvent_fresh rfl wokenThenReturns_run⟩

end

end UserMessageProtocol
