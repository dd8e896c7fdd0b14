import UserMessageProtocol.Foundation.Callers

/-!
Contract: the reply that a user has not read yet, of users who call one after another.

Owns: whether the latest call was completed with `TRUE` and did not return yet
(`CallThread.unread`), and what each step does to it.

Does not own: what the reply stands for.
-/

set_option autoImplicit false

/-- The call was completed with `TRUE`, and its user did not read the reply yet. -/
def UserCall.unread (call : UserCall) : Bool :=
  match call.phase, call.fate with
  | .returned _, _ => false
  | _, .completed ok => ok
  | _, _ => false

namespace CallThread

variable {State Event : Type} {t : CallThread State Event} {c : Callers State}

/-- The latest call was completed with `TRUE`, and its user did not read the reply yet. -/
def unread (c : Callers State) : Bool := c.calls.head?.any UserCall.unread

theorem unread_cons {call : UserCall} {past : List UserCall} (calls : c.calls = call :: past) :
    unread c = call.unread := by
  rw [unread, calls]
  rfl

theorem unread_settled (settled : ∀ call ∈ c.calls, call.Settled) : unread c = false := by
  cases calls : c.calls with
  | nil =>
      rw [unread, calls]
      rfl
  | cons call past =>
      obtain ⟨ok, same⟩ := settled call (calls ▸ List.mem_cons_self)
      rw [unread_cons calls, same]
      rfl

/-- A call that is left has no reply yet. -/
theorem unread_post (event : Event) : unread (t.callerStep c (.post event)) = false := rfl

/-- When all calls have returned the thread has no parameter, and every reply was read. -/
theorem Latest.returned (latest : t.Latest c) (all : ∀ call ∈ c.calls, call.isReturned = true) :
    (t.view c.thread).called = false ∧ unread c = false := by
  have absent {call : UserCall} {past : List UserCall} (calls : c.calls = call :: past)
      (going : call.isReturned = false) : False := by
    have back := all call (calls ▸ List.mem_cons_self)
    exact absurd (going.symm.trans back) (by decide)
  cases latest with
  | none settled empty unset quit => exact ⟨empty, unread_settled settled⟩
  | pending past settled calls called unset quit => exact (absent calls rfl).elim
  | completed past settled calls empty once => exact (absent calls rfl).elim
  | woken past settled calls empty unset quit => exact (absent calls rfl).elim

/-- A step of the thread that completes a call leaves its reply, and there was none. -/
theorem Latest.unread_thread {event : Event} (latest : t.Latest c) (lawful : t.Lawful)
    (sound : (t.view c.thread).lock.Sound) (allowed : t.callerEnabled c (.thread event)) :
    t.ends c.thread event = false ∧ unread (t.callerStep c (.thread event)) = unread c ∨
      t.ends c.thread event = true ∧ unread c = false ∧
        unread (t.callerStep c (.thread event)) =
          (t.view (t.machine.step c.thread event)).ok := by
  unfold callerStep
  dsimp only
  rcases lawful.thread_cases sound allowed.1 allowed.2.1 with ⟨goesOn, -⟩ | ⟨ends, called, -⟩
  · left
    rw [goesOn]
    exact ⟨rfl, rfl⟩
  · right
    have some (empty : (t.view c.thread).called = false) : False :=
      absurd (empty.symm.trans called) (by decide)
    rw [ends, if_pos rfl]
    cases latest with
    | none settled empty => exact (some empty).elim
    | pending past settled calls =>
        refine ⟨rfl, unread_cons calls, ?_⟩
        rw [unread]
        dsimp only
        rw [calls]
        rfl
    | completed past settled calls empty => exact (some empty).elim
    | woken past settled calls empty => exact (some empty).elim

theorem Latest.unread_wake {i : Nat} (latest : t.Latest c) (allowed : t.callerEnabled c (.wake i)) :
    unread (t.callerStep c (.wake i)) = unread c := by
  obtain ⟨set, phase⟩ := allowed
  obtain ⟨found, here, waits⟩ := Option.map_eq_some_iff.mp phase
  cases latest with
  | none settled empty unset quit => exact absurd (unset.symm.trans set) (by decide)
  | pending past settled calls called unset quit => exact absurd (unset.symm.trans set) (by decide)
  | completed past settled calls empty once =>
      rw [calls] at here
      obtain ⟨rfl, -⟩ := UserCall.unsettled_zero settled here (by rw [UserCall.isReturned, waits])
      have woken : (t.callerStep c (.wake 0)).calls =
          ⟨.woken, .completed (t.view c.thread).ok⟩ :: past := by
        show c.calls.modify 0 _ = _
        rw [calls, List.modify_zero_cons]
      rw [unread_cons woken, unread_cons calls]
      rfl
  | woken past settled calls empty unset quit => exact absurd (unset.symm.trans set) (by decide)

/-- A user reads the reply to its own call. -/
theorem Latest.unread_answer {i : Nat} (latest : t.Latest c)
    (allowed : t.callerEnabled c (.answer i)) :
    unread c = (t.view c.thread).ok ∧ unread (t.callerStep c (.answer i)) = false := by
  obtain ⟨found, here, woken⟩ := Option.map_eq_some_iff.mp allowed
  have going : found.isReturned = false := by rw [UserCall.isReturned, woken]
  have waits {past : List UserCall} {call : UserCall} (settled : ∀ call ∈ past, call.Settled)
      (calls : c.calls = call :: past) (waits : call.phase = .waiting) : False := by
    rw [calls] at here
    obtain ⟨-, same⟩ := UserCall.unsettled_zero settled here going
    rw [same, waits] at woken
    cases woken
  cases latest with
  | none settled empty unset quit =>
      obtain ⟨ok, same⟩ := settled found (List.mem_of_getElem? here)
      rw [same] at woken
      cases woken
  | pending past settled calls => exact (waits settled calls rfl).elim
  | completed past settled calls => exact (waits settled calls rfl).elim
  | woken past settled calls empty unset quit =>
      rw [calls] at here
      obtain ⟨rfl, -⟩ := UserCall.unsettled_zero settled here going
      refine ⟨unread_cons calls, ?_⟩
      have returned : (t.callerStep c (.answer 0)).calls =
          ⟨.returned (t.view c.thread).ok, .completed (t.view c.thread).ok⟩ :: past := by
        show c.calls.modify 0 _ = _
        rw [calls, List.modify_zero_cons]
      rw [unread_cons returned]
      rfl

end CallThread
