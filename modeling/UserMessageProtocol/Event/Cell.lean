import UserMessageProtocol.Event.MEvent

/-!
Contract: what callers may rely on of an event.

Owns: the event as an object whose calls take effect in one step (`cellMachine`), and that
the code of `mevent.c` run by any number of threads shows nothing else
(`mEvent_linearizable`).

Does not own: the code itself (Event.MEvent).
-/

set_option autoImplicit false

namespace UserMessageProtocol

/-- What a caller wants: the event set, reset, or to wait for it, for some time only or
without a limit. -/
inductive CellCall where
  | raise
  | clear
  | await (timed : Bool)
deriving DecidableEq

/-- A caller that waits has found the event not set. -/
inductive Caller where
  | idle
  | asks (call : CellCall)
  | waits (timed : Bool)
deriving DecidableEq

structure EventCell (Thread : Type) where
  isset : Bool
  callers : Thread → Caller

/-- A call comes, is served, finds the event not set and waits, or gives up waiting. -/
inductive CellEvent (Thread : Type) where
  | call (t : Thread) (call : CellCall)
  | serve (t : Thread)
  | block (t : Thread)
  | giveUp (t : Thread)

section

variable {Thread : Type} [DecidableEq Thread]

/-- A waiter is served only while the event is set. -/
def Caller.canServe (isset : Bool) : Caller → Bool
  | .asks .raise | .asks .clear => true
  | .asks (.await _) | .waits _ => isset
  | .idle => false

/-- The event after a call was served. -/
def Caller.served (autoReset isset : Bool) : Caller → Bool
  | .asks .raise => true
  | .asks .clear => false
  | .asks (.await _) | .waits _ => isset && !autoReset
  | .idle => isset

def cellEnabled (c : EventCell Thread) : CellEvent Thread → Prop
  | .call t _ => c.callers t = .idle
  | .serve t => (c.callers t).canServe c.isset = true
  | .block t => c.isset = false ∧ ∃ timed, c.callers t = .asks (.await timed)
  | .giveUp t => c.callers t = .waits true

def cellStep (autoReset : Bool) (c : EventCell Thread) : CellEvent Thread → EventCell Thread
  | .call t call => { c with callers := Function.update c.callers t (.asks call) }
  | .serve t => ⟨(c.callers t).served autoReset c.isset, Function.update c.callers t .idle⟩
  | .block t =>
      match c.callers t with
      | .asks (.await timed) => { c with callers := Function.update c.callers t (.waits timed) }
      | _ => c
  | .giveUp t => { c with callers := Function.update c.callers t .idle }

/-- An event that takes each call in one step. -/
def cellMachine (autoReset : Bool) : Machine (EventCell Thread) (CellEvent Thread) where
  enabled := cellEnabled
  step := cellStep autoReset

/-- Only a waiter that gives up is answered `false`. -/
def cellSeen (_ : EventCell Thread) (event : CellEvent Thread)
    (seen : List (Observation Thread CellCall Bool)) : List (Observation Thread CellCall Bool) :=
  match event with
  | .call t call => seen ++ [.called t call]
  | .serve t => seen ++ [.returned t true]
  | .block _ => seen
  | .giveUp t => seen ++ [.returned t false]

end

/-! ### What the labels of the code mean -/

namespace MEventPoint

/-- What the call that begins at a label wants. -/
def asks : MEventPoint → CellCall
  | .setLock | .broadcastLock => .raise
  | .resetLock => .clear
  | .timedLock => .await true
  | _ => .await false

/-- A caller between its critical sections. -/
def caller : Stage MEventPoint → Caller
  | .outside (.returned _) => .idle
  | .outside l => .asks l.asks
  | .blocked .timedCond => .waits true
  | .blocked _ => .waits false

end MEventPoint

def ofCell {Thread : Type} :
    Observation Thread MEventPoint Bool → Observation Thread CellCall Bool
  | .called t l => .called t l.asks
  | .returned t result => .returned t result

section

variable {Thread : Type}

theorem ofCell_append (seen : List (Observation Thread MEventPoint Bool))
    (last : Observation Thread MEventPoint Bool) :
    (seen ++ [last]).map ofCell = seen.map ofCell ++ [ofCell last] :=
  List.map_append

/-- The sections of the code and the event they stand for. -/
def StandsFor (autoReset : Bool) (c : Sections Thread MEvent MEventPoint) (cell : EventCell Thread) :
    Prop :=
  c.data = ⟨cell.isset, autoReset⟩ ∧ cell.callers = fun t => MEventPoint.caller (c.stages t)

def ShowsCell (autoReset : Bool)
    (low : Sections Thread MEvent MEventPoint × List (Observation Thread MEventPoint Bool))
    (high : EventCell Thread × List (Observation Thread CellCall Bool)) : Prop :=
  StandsFor autoReset low.1 high.1 ∧ high.2 = low.2.map ofCell

/-- What one critical section of a thread is for its caller: it is served, begins to wait,
waits on, or gives up. -/
inductive Turns (autoReset isset : Bool) (caller : Caller) :
    MEvent → Stage MEventPoint → Prop where
  | served (can : caller.canServe isset = true) :
      Turns autoReset isset caller ⟨caller.served autoReset isset, autoReset⟩
        (.outside (.returned true))
  | blocked {timed : Bool} {l : MEventPoint} (unset : isset = false)
      (was : caller = .asks (.await timed))
      (now : MEventPoint.caller (.blocked l) = .waits timed) :
      Turns autoReset isset caller ⟨isset, autoReset⟩ (.blocked l)
  | still {l : MEventPoint} (same : MEventPoint.caller (.blocked l) = caller) :
      Turns autoReset isset caller ⟨isset, autoReset⟩ (.blocked l)
  | gaveUp (was : caller = .waits true) :
      Turns autoReset isset caller ⟨isset, autoReset⟩ (.outside (.returned false))

theorem pass_eq (autoReset : Bool) :
    (⟨true, autoReset⟩ : MEvent).pass = ⟨true && !autoReset, autoReset⟩ := by
  cases autoReset <;> rfl

/-- A waiter that gets the mutex. -/
theorem turns_await {autoReset isset : Bool} {caller : Caller} {first cond : MEventPoint}
    {data : MEvent} {stage : Stage MEventPoint}
    (passes : isset = true → mEventCode.Completes ⟨isset, autoReset⟩ first
      (MEvent.pass ⟨isset, autoReset⟩) (.outside (.returned true)))
    (blocks : isset = false →
      mEventCode.Completes ⟨isset, autoReset⟩ first ⟨isset, autoReset⟩ (.blocked cond))
    (can : caller.canServe isset = isset)
    (served : caller.served autoReset isset = (isset && !autoReset))
    (waits : isset = false → Turns autoReset isset caller ⟨isset, autoReset⟩ (.blocked cond))
    (completes : mEventCode.Completes ⟨isset, autoReset⟩ first data stage) :
    Turns autoReset isset caller data stage := by
  cases isset with
  | false =>
      obtain ⟨rfl, rfl⟩ := (blocks rfl).unique completes
      exact waits rfl
  | true =>
      obtain ⟨rfl, rfl⟩ := (passes rfl).unique completes
      rw [pass_eq, ← served]
      exact .served can

/-- Every critical section of the code is a turn of its caller. -/
theorem turns_of_section {autoReset isset : Bool} {before stage : Stage MEventPoint}
    {first : MEventPoint} {data : MEvent} (begins : mEventCode.Begins before first)
    (completes : mEventCode.Completes ⟨isset, autoReset⟩ first data stage) :
    Turns autoReset isset (MEventPoint.caller before) data stage := by
  cases begins with
  | @lock l next instr =>
      cases l with
      | setLock =>
          cases instr
          obtain ⟨rfl, rfl⟩ := (completes_set _).unique completes
          exact .served rfl
      | broadcastLock =>
          cases instr
          obtain ⟨rfl, rfl⟩ := (completes_broadcast _).unique completes
          exact .served rfl
      | resetLock =>
          cases instr
          obtain ⟨rfl, rfl⟩ := (completes_reset _).unique completes
          exact .served rfl
      | waitLock =>
          cases instr
          refine turns_await (fun set => completes_wait set)
            (fun unset => completes_wait_blocked unset) rfl rfl ?_ completes
          exact fun unset => .blocked unset rfl rfl
      | timedLock =>
          cases instr
          refine turns_await (fun set => completes_timed set)
                (fun unset => completes_timed_blocked unset) rfl rfl ?_ completes
          exact fun unset => .blocked unset rfl rfl
      | _ => cases instr
  | @retake l inTime waits late =>
      cases l with
      | waitCond =>
          change mEventCode.Completes _ .waitTest data stage at completes
          exact turns_await (fun set => completes_wait set)
            (fun unset => completes_wait_blocked unset) rfl rfl
            (fun _ => .still rfl) completes
      | timedCond =>
          cases inTime with
          | true =>
              change mEventCode.Completes _ (.timedTest true) data stage at completes
              exact turns_await (fun set => completes_timed set)
                (fun unset => completes_timed_blocked unset) rfl rfl
                (fun _ => .still rfl) completes
          | false =>
              obtain ⟨rfl, rfl⟩ := completes_timed_late.unique completes
              exact .gaveUp rfl
      | _ => cases waits

/-- An event that nobody is in a call to. -/
def freshCell (isset : Bool) : EventCell Thread := ⟨isset, fun _ => .idle⟩

theorem freshCell_shows {start : Monitor Thread MEvent MEventPoint}
    (fresh : MonitorCode.Fresh mEventCode start) :
    ShowsCell start.data.autoReset (⟨start.data, fun t => (start.threads t).stage⟩, [])
      (freshCell start.data.isset, []) := by
  refine ⟨⟨rfl, ?_⟩, rfl⟩
  funext t
  obtain ⟨l, here, ended⟩ := fresh.idle t
  dsimp only
  rw [here]
  cases l with
  | returned result => rfl
  | _ => cases ended

variable [DecidableEq Thread]

theorem callers_update {callers : Thread → Caller} {stages : Thread → Stage MEventPoint}
    (same : callers = fun u => MEventPoint.caller (stages u)) (t : Thread)
    (stage : Stage MEventPoint) :
    (fun u => MEventPoint.caller (Function.update stages t stage u)) =
      Function.update callers t (MEventPoint.caller stage) := by
  rw [same]
  funext u
  by_cases here : u = t
  · rw [here, Function.update_self, Function.update_self]
  · rw [Function.update_of_ne here, Function.update_of_ne here]

theorem section_simulated {autoReset : Bool} {c : Sections Thread MEvent MEventPoint}
    {cell : EventCell Thread} (stands : StandsFor autoReset c cell) {t : Thread} {data : MEvent}
    {stage : Stage MEventPoint}
    (turns : Turns autoReset cell.isset (cell.callers t) data stage)
    (seen : List (Observation Thread MEventPoint Bool)) :
    ∃ events after, ((cellMachine autoReset).noting cellSeen).Run
      (cell, seen.map ofCell) events after ∧
      ShowsCell autoReset (⟨data, Function.update c.stages t stage⟩,
        mEventCode.sectionSeen c (.enter t data stage) seen) after := by
  obtain ⟨same, callers⟩ := stands
  have callersOf := callers_update callers t stage
  cases turns with
  | served can =>
      refine Machine.noting_one (.serve t) can ⟨⟨rfl, callersOf.symm⟩, ?_⟩
      exact (ofCell_append seen (.returned t true)).symm
  | @blocked timed l unset was now =>
      refine Machine.noting_one (.block t) ⟨unset, timed, was⟩ ⟨⟨?_, ?_⟩, rfl⟩
      · simp only [cellMachine, cellStep, was]
      · simp only [cellMachine, cellStep, was]
        rw [callersOf, now]
  | still now =>
      refine Machine.noting_idle ⟨⟨rfl, ?_⟩, rfl⟩
      dsimp only
      rw [callersOf, now, Function.update_eq_self]
  | gaveUp was =>
      refine Machine.noting_one (.giveUp t) was ⟨⟨rfl, callersOf.symm⟩, ?_⟩
      exact (ofCell_append seen (.returned t false)).symm

theorem cell_simulates (autoReset : Bool) :
    Machine.Simulates
      ((mEventCode.sectionMachine : Machine (Sections Thread MEvent MEventPoint)
        (SectionEvent Thread MEvent MEventPoint)).noting mEventCode.sectionSeen)
      ((cellMachine autoReset).noting cellSeen) (ShowsCell autoReset) := by
  rintro ⟨c, seen⟩ event ⟨cell, shown⟩ ⟨⟨same, callers⟩, alike⟩ allowed
  dsimp only at same callers alike
  subst alike
  cases event with
  | call t l =>
      obtain ⟨⟨k, here, ended⟩, entry⟩ := allowed
      have idle : cell.callers t = .idle := by
        rw [callers]
        dsimp only
        rw [here]
        cases k with
        | returned result => rfl
        | _ => cases ended
      have asks : MEventPoint.caller (.outside l) = .asks l.asks := by
        cases l with
        | returned result => cases entry
        | _ => rfl
      refine Machine.noting_one (.call t l.asks) idle ⟨⟨same, ?_⟩, ?_⟩
      · exact ((callers_update callers t _).trans (congrArg _ asks)).symm
      · exact (ofCell_append seen (.called t l)).symm
  | enter t data stage =>
      obtain ⟨first, begins, completes⟩ := allowed
      dsimp only at begins completes
      rw [same] at completes
      have turns := turns_of_section begins completes
      have mine : MEventPoint.caller (c.stages t) = cell.callers t := by rw [callers]
      rw [mine] at turns
      exact section_simulated ⟨same, callers⟩ turns seen

/-- However the instructions of any number of threads interleave, their callers see what
an event shows that takes each call in one step, call after call and answer after answer;
and whenever nobody is in a critical section, the two events agree. -/
theorem mEvent_linearizable {start s : Monitor Thread MEvent MEventPoint}
    {events : List (MonitorEvent Thread MEventPoint)}
    (fresh : MonitorCode.Fresh mEventCode start)
    (run : mEventCode.monitorMachine.Run start events s) :
    ∃ matching cell,
      (cellMachine start.data.autoReset).Run (freshCell start.data.isset) matching cell ∧
      (cellMachine start.data.autoReset).noted cellSeen (freshCell start.data.isset) matching [] =
        (mEventCode.monitorMachine.noted mEventCode.monitorSeen start events []).map ofCell ∧
      (s.owner = none → s.data = ⟨cell.isset, start.data.autoReset⟩ ∧
        ∀ t, cell.callers t = MEventPoint.caller (s.threads t).stage) := by
  have sections : Machine.Simulates
      ((mEventCode.monitorMachine : Machine (Monitor Thread MEvent MEventPoint)
        (MonitorEvent Thread MEventPoint)).noting mEventCode.monitorSeen) _ mEventCode.Shows :=
    MonitorCode.sections_simulate mEventCode_disciplined
  have simulates := sections.trans (cell_simulates start.data.autoReset)
  have atStart : mEventCode.Shows (start, []) (⟨start.data, fun t => (start.threads t).stage⟩, []) :=
    ⟨fresh.abstracts mEventCode_disciplined, rfl⟩
  obtain ⟨matching, cell, reached, ⟨c, seen⟩, ⟨abstracts, same⟩, ⟨stands, shown⟩⟩ :=
    simulates.noted run ⟨_, atStart, freshCell_shows fresh⟩
  dsimp only at abstracts same stands shown
  refine ⟨matching, cell, reached, ?_, ?_⟩
  · rw [shown, ← same]
  · intro free
    obtain ⟨data, callers⟩ := stands
    rw [abstracts.settled free] at data callers
    exact ⟨data, fun t => congrFun callers t⟩

theorem mEvent_linearizable_of_set : ∃ matching cell,
    (cellMachine true).Run (freshCell false) matching cell ∧
    (cellMachine true).noted cellSeen (freshCell false) matching [] =
      [.called false (.await true), .called true .raise, .returned true true,
        .returned false true] ∧
    cell.isset = false := by
  obtain ⟨matching, cell, reached, seen, settled⟩ :=
    mEvent_linearizable idleEvent_fresh wokenThenReturns_run
  refine ⟨matching, cell, reached, seen, ?_⟩
  obtain ⟨data, -⟩ := settled rfl
  exact (congrArg MEvent.isset data).symm.trans rfl

end

end UserMessageProtocol
