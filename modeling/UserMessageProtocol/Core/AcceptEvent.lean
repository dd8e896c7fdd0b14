import UserMessageProtocol.Core.Machine
import UserMessageProtocol.Event.Cell

/-!
Contract: `accept_ok` of a core is an event that takes each call in one step.

Owns: the simulation of the core by the event (`acceptOk_simulated`), with one thread that
waits in `ump_accept` and one that stands for all socket threads.

Does not own: the event (Event.Cell), nor the core (Core.Machine).
-/

set_option autoImplicit false

namespace UserMessageProtocol

section

variable {Lists : Type} [ReceiveLists Lists]

theorem receiveThreadFunc_acceptOk (u_core : UMPCore Lists) (d : RecData) (seq : UInt16)
    (clock : Clock) :
    (receiveThreadFunc u_core d seq clock).core.acceptOk = u_core.acceptOk := by
  have queued (w : UMPCore Lists) (id : SockId) (u_p : UMPPacket) :
      (queuePacket w id u_p).core.acceptOk = w.acceptOk := by
    unfold queuePacket
    dsimp only
    split <;> rfl
  have found (u_p : UMPPacket) :
      (receiver u_core d.sender u_p seq clock).1.acceptOk = u_core.acceptOk := by
    unfold receiver
    split
    · rfl
    · split
      · dsimp only
        split <;> rfl
      · rfl
  unfold receiveThreadFunc
  split
  · rfl
  · dsimp only
    split
    · rfl
    · rename_i u_p _
      split
      · exact found u_p
      · exact (queued _ _ u_p).trans (found u_p)

/-- A caller is let through by the return of a wait, and only a socket sets the event. -/
theorem coreStep_acceptOk (u_core : UMPCore Lists) (event : CoreEvent) :
    (event = .acceptWait ∧ (coreStep u_core event).acceptOk = false) ∨
      (event ≠ .acceptWait ∧ ((coreStep u_core event).acceptOk = u_core.acceptOk ∨
        (coreStep u_core event).acceptOk = true)) := by
  have socket (id : SockId) (made : SockEvent) :
      (stepSock u_core id made).acceptOk = u_core.acceptOk ∨
        (stepSock u_core id made).acceptOk = true := by
    show (u_core.acceptOk || _) = _ ∨ (u_core.acceptOk || _) = true
    cases u_core.acceptOk with
    | true => exact .inl rfl
    | false =>
        rw [Bool.false_or]
        exact (Bool.eq_false_or_eq_true _).symm
  cases event with
  | acceptWait => exact .inl ⟨rfl, rfl⟩
  | receive d seq clock => exact .inr ⟨nofun, .inl (receiveThreadFunc_acceptOk u_core d seq clock)⟩
  | connect theirAddr seq clock =>
      refine .inr ⟨nofun, .inl ?_⟩
      show (umpConnect u_core theirAddr seq clock).acceptOk = _
      unfold umpConnect
      repeat (split; rfl)
      split
      · dsimp only
        split <;> rfl
      · rfl
  | finishConnect theirAddr id connectR =>
      cases connectR with
      | true => exact .inr ⟨nofun, .inl rfl⟩
      | false => exact .inr ⟨nofun, .inl rfl⟩
  | accept order =>
      refine .inr ⟨nofun, .inl ?_⟩
      show (umpAccept u_core order).acceptOk = _
      unfold umpAccept
      dsimp only
      split <;> rfl
  | close id =>
      refine .inr ⟨nofun, .inl ?_⟩
      show (umpClose u_core id).acceptOk = _
      unfold umpClose
      dsimp only
      rw [AList.lookup_erase]
  | clean cur => exact .inr ⟨nofun, .inl rfl⟩
  | fetch id => exact .inr ⟨nofun, .inl rfl⟩
  | call id made => exact .inr ⟨nofun, socket id made⟩
  | handle id made => exact .inr ⟨nofun, socket id made⟩

/-- The event of a core, with nobody in a call to it. -/
def acceptCell (u_core : UMPCore Lists) : EventCell Bool := freshCell u_core.acceptOk

/-- Whatever a core does, its `accept_ok` behaves as an event for one waiter. -/
theorem acceptOk_simulated :
    Machine.Simulates (coreMachine Lists) (cellMachine true) fun u_core cell =>
      cell = acceptCell u_core := by
  rintro u_core event cell rfl allowed
  have served (t : Bool) (call : CellCall) (can : (Caller.asks call).canServe u_core.acceptOk = true)
      (set : (coreStep u_core event).acceptOk =
        (Caller.asks call).served true u_core.acceptOk) :
      ∃ events after, (cellMachine true).Run (acceptCell u_core) events after ∧
        after = acceptCell ((coreMachine Lists).step u_core event) := by
    let asked := cellStep true (acceptCell u_core) (.call t call)
    have caller : asked.callers t = .asks call := Function.update_self ..
    have first : (cellMachine true).Run (acceptCell u_core) ([] ++ [.call t call]) asked :=
      .go .stay rfl trivial
    have able : (cellMachine true).enabled asked (.serve t) := by
      change (asked.callers t).canServe u_core.acceptOk = true
      rw [caller]
      exact can
    refine ⟨_, cellStep true asked (.serve t), .go first able trivial, ?_⟩
    have callers : Function.update asked.callers t .idle = fun _ => .idle := by
      show Function.update (Function.update (fun _ : Bool => Caller.idle) t (.asks call)) t .idle = _
      rw [Function.update_idem]
      exact Function.update_eq_self ..
    unfold acceptCell freshCell
    rw [cellStep, caller, callers]
    exact congrArg freshCell set.symm
  rcases coreStep_acceptOk u_core event with ⟨rfl, reset⟩ | ⟨other, same | set⟩
  · have isset : u_core.acceptOk = true := allowed
    refine served false (.await false) isset ?_
    rw [reset, isset]
    rfl
  · refine ⟨[], _, .stay, ?_⟩
    unfold acceptCell
    exact congrArg freshCell same.symm
  · exact served true .raise rfl set

end

end UserMessageProtocol
