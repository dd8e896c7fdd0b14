import UserMessageProtocol.Foundation.Sections

/-!
Contract: the events that threads of the program wait for and wake each other with
(`mevent.c`), instruction by instruction.

Owns: the data of an event, the code of its functions (`mEventCode`), that the code keeps to
the mutex (`mEventCode_disciplined`), and what each of its critical sections does.

Does not own: what callers may rely on (Event.Cell), and which waiters are woken
(Event.Wakeups).
-/

set_option autoImplicit false

namespace UserMessageProtocol

structure MEvent where
  isset : Bool
  autoReset : Bool
deriving DecidableEq

/-- The labels of the functions of an event, with the local variable `r` of
`_m_event_timed_wait` where it is live. -/
inductive MEventPoint where
  -- m_event_set
  | setLock | setStore | setTest | setSignal | setBroadcast | setUnlock
  -- m_event_broadcast
  | broadcastLock | broadcastStore | broadcastAll | broadcastUnlock
  -- m_event_reset
  | resetLock | resetStore | resetUnlock
  -- m_event_wait
  | waitLock | waitTest | waitCond | waitAuto | waitClear | waitUnlock
  -- _m_event_timed_wait
  | timedLock | timedTest (r : Bool) | timedCond | timedAuto (r : Bool) | timedClear
  | timedUnlock (r : Bool)
  | returned (result : Bool)
deriving DecidableEq

/-- A function without a result returns `true` here. -/
def mEventInstr : MEventPoint → Instr MEvent MEventPoint Bool
  | .setLock => .lock .setStore
  | .setStore => .access fun e => ({ e with isset := true }, .setTest)
  | .setTest => .access fun e => (e, if e.autoReset then .setSignal else .setBroadcast)
  | .setSignal => .signal .setUnlock
  | .setBroadcast => .broadcast .setUnlock
  | .setUnlock => .unlock (.returned true)
  | .broadcastLock => .lock .broadcastStore
  | .broadcastStore => .access fun e => ({ e with isset := true }, .broadcastAll)
  | .broadcastAll => .broadcast .broadcastUnlock
  | .broadcastUnlock => .unlock (.returned true)
  | .resetLock => .lock .resetStore
  | .resetStore => .access fun e => ({ e with isset := false }, .resetUnlock)
  | .resetUnlock => .unlock (.returned true)
  | .waitLock => .lock .waitTest
  | .waitTest => .access fun e => (e, if e.isset = false then .waitCond else .waitAuto)
  | .waitCond => .wait false fun _ => .waitTest
  | .waitAuto => .access fun e => (e, if e.autoReset then .waitClear else .waitUnlock)
  | .waitClear => .access fun e => ({ e with isset := false }, .waitUnlock)
  | .waitUnlock => .unlock (.returned true)
  | .timedLock => .lock (.timedTest true)
  | .timedTest r => .access fun e => (e, if e.isset = false ∧ r then .timedCond else .timedAuto r)
  | .timedCond => .wait true .timedTest
  | .timedAuto r => .access fun e => (e, if r ∧ e.autoReset then .timedClear else .timedUnlock r)
  | .timedClear => .access fun e => ({ e with isset := false }, .timedUnlock true)
  | .timedUnlock r => .unlock (.returned r)
  | .returned result => .done result

/-- `m_event_timed_wait` waits without a limit when the time is negative. -/
def mEventTimedWait (milliseconds : Int) : MEventPoint :=
  if milliseconds < 0 then .waitLock else .timedLock

/-- What is asked of an event. -/
inductive MEventCall where
  | set
  | broadcast
  | reset
  | wait
  | timedWait (milliseconds : Int)
deriving DecidableEq

def MEventCall.begins : MEventCall → MEventPoint
  | .set => .setLock
  | .broadcast => .broadcastLock
  | .reset => .resetLock
  | .wait => .waitLock
  | .timedWait milliseconds => mEventTimedWait milliseconds

namespace MEventPoint

def isEntry : MEventPoint → Bool
  | .setLock | .broadcastLock | .resetLock | .waitLock | .timedLock => true
  | _ => false

/-- Behind the lock and before the unlock. -/
def isInside : MEventPoint → Bool
  | .setLock | .broadcastLock | .resetLock | .waitLock | .timedLock | .returned _ => false
  | _ => true

end MEventPoint

def mEventCode : MonitorCode MEvent MEventPoint Bool where
  instr := mEventInstr
  entry := MEventPoint.isEntry
  inside := MEventPoint.isInside

/-- Events are read and written, and their condition used, only with their mutex. -/
theorem mEventCode_disciplined : mEventCode.Disciplined where
  entry := by
    intro l entry
    cases l with
    | setLock | broadcastLock | resetLock | waitLock | timedLock => rfl
    | _ => cases entry
  keeps := by
    intro l
    cases l with
    | setLock | broadcastLock | resetLock | waitLock | timedLock | setUnlock | broadcastUnlock
      | resetUnlock | waitUnlock | timedUnlock | setSignal | setBroadcast | broadcastAll =>
        exact ⟨rfl, rfl⟩
    | returned => exact rfl
    | setStore | broadcastStore | resetStore | waitClear | timedClear | waitCond | timedCond =>
        exact ⟨rfl, fun _ => rfl⟩
    | setTest | waitTest | waitAuto | timedTest | timedAuto =>
        refine ⟨rfl, fun e => ?_⟩
        dsimp only
        split <;> rfl

/-! ### Critical sections -/

namespace MEvent

/-- A waiter that gets through takes the event with it when it is one for a single waiter. -/
def pass (e : MEvent) : MEvent :=
  if e.autoReset then { e with isset := false } else e

end MEvent

section

variable (e : MEvent)

theorem completes_set : mEventCode.Completes e .setStore { e with isset := true }
    (.outside (.returned true)) := by
  refine .access rfl (.access rfl ?_)
  dsimp only
  split
  · exact .signal rfl (.unlock rfl)
  · exact .broadcast rfl (.unlock rfl)

theorem completes_broadcast : mEventCode.Completes e .broadcastStore { e with isset := true }
    (.outside (.returned true)) :=
  .access rfl (.broadcast rfl (.unlock rfl))

theorem completes_reset : mEventCode.Completes e .resetStore { e with isset := false }
    (.outside (.returned true)) :=
  .access rfl (.unlock rfl)

variable {e}

theorem completes_wait (isset : e.isset = true) :
    mEventCode.Completes e .waitTest e.pass (.outside (.returned true)) := by
  refine .access rfl ?_
  rw [if_neg (by simp [isset])]
  refine .access rfl ?_
  unfold MEvent.pass
  dsimp only
  split
  · exact .access rfl (.unlock rfl)
  · exact .unlock rfl

theorem completes_wait_blocked (unset : e.isset = false) :
    mEventCode.Completes e .waitTest e (.blocked .waitCond) := by
  refine .access rfl ?_
  rw [if_pos unset]
  exact .wait rfl

theorem completes_timed (isset : e.isset = true) :
    mEventCode.Completes e (.timedTest true) e.pass (.outside (.returned true)) := by
  refine .access rfl ?_
  rw [if_neg (by simp [isset])]
  refine .access rfl ?_
  unfold MEvent.pass
  simp only [true_and]
  split
  · exact .access rfl (.unlock rfl)
  · exact .unlock rfl

theorem completes_timed_blocked (unset : e.isset = false) :
    mEventCode.Completes e (.timedTest true) e (.blocked .timedCond) := by
  refine .access rfl ?_
  rw [if_pos ⟨unset, rfl⟩]
  exact .wait rfl

/-- A waiter whose time is over leaves the event as it is, also when it is set by now. -/
theorem completes_timed_late :
    mEventCode.Completes e (.timedTest false) e (.outside (.returned false)) := by
  refine .access rfl ?_
  rw [if_neg (by simp)]
  refine .access rfl ?_
  rw [if_neg (by simp)]
  exact .unlock rfl

end

/-! ### A run -/

/-- An event for one waiter, and two threads. -/
def idleEvent : Monitor Bool MEvent MEventPoint :=
  ⟨⟨false, true⟩, none, fun _ => .running (.returned true)⟩

theorem idleEvent_fresh : MonitorCode.Fresh mEventCode idleEvent where
  free := rfl
  idle := fun _ => ⟨.returned true, rfl, rfl⟩

/-- One thread waits, and the other one sets the event. -/
def setWhileWaiting : List (MonitorEvent Bool MEventPoint) :=
  [.call false (MEventCall.timedWait 20).begins, .step false, .step false, .step false,
    .call true MEventCall.set.begins, .step true, .step true, .step true, .signal true (some false),
    .step true]

/-- The thread that was woken takes the event. -/
def wokenThenReturns : List (MonitorEvent Bool MEventPoint) :=
  [.step false, .step false, .step false, .step false, .step false]

theorem setWhileWaiting_run : mEventCode.monitorMachine.Run idleEvent setWhileWaiting
    (mEventCode.monitorMachine.after idleEvent setWhileWaiting) :=
  Machine.runWhere_of_check (by decide)

theorem wokenThenReturns_run :
    mEventCode.monitorMachine.Run idleEvent (setWhileWaiting ++ wokenThenReturns)
      (mEventCode.monitorMachine.after idleEvent (setWhileWaiting ++ wokenThenReturns)) :=
  Machine.runWhere_of_check (by decide)

end UserMessageProtocol
