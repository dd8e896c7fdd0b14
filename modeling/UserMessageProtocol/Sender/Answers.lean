import UserMessageProtocol.Foundation.Callers
import UserMessageProtocol.Sender.IndexSafety
import UserMessageProtocol.Socket.Iteration
import UserMessageProtocol.Socket.Locks

/-!
Contract: every send call gets its own answer.

Owns: the socket as the threads that call `ump_sock_send` see it (`sendThread`), the
machine of these threads (`sendCallers`), and the theorem `sendAnswers_of_run`.

A thread of a user takes three steps: the critical section under `snd_para_lock`, which
also resets `snd_done`, the wait for `snd_done`, and the reading of `snd_ok`. The socket
thread releases `snd_para_lock` within the handler that ends a message, and sets
`snd_done` in a step of its own.

Does not own: how a message is ended.
-/

set_option autoImplicit false

namespace UserMessageProtocol

def SockEvent.isSendCall : SockEvent → Bool
  | .userSend _ => true
  | _ => false

section Sends

variable (Lists : Type) [ReceiveLists Lists]

/-- A socket, seen by the callers of `ump_sock_send`. -/
def sendThread : CallThread (UMPSocket Lists) SockEvent where
  machine := sockMachine Lists
  view u := sendCall u.core
  posts := SockEvent.isSendCall
  foreign := SockEvent.isUserCall

instance (u : UMPSocket Lists) (event : SockEvent) :
    Decidable ((sendThread Lists).machine.enabled u event) :=
  inferInstanceAs (Decidable (sockEnabled u event))

/-- Any number of threads that call `ump_sock_send` on a socket. -/
def sendCallers : Machine (Callers (UMPSocket Lists)) (CallerEvent SockEvent) :=
  (sendThread Lists).callers

instance (c : Callers (UMPSocket Lists)) (event : CallerEvent SockEvent) :
    Decidable ((sendCallers Lists).enabled c event) :=
  inferInstanceAs (Decidable ((sendThread Lists).callers.enabled c event))

theorem sendThread_lawful : (sendThread Lists).Lawful where
  post := by
    intro u event allowed posts
    cases event with
    | userSend data => exact ⟨allowed.1, rfl⟩
    | _ => cases posts
  move := by
    intro u event allowed own
    have replied := (sockStep_replies u event).send
    cases event with
    | userSend => cases own
    | handleSend => exact ⟨(sendCall u.core).attempt, .inr rfl, replied⟩
    | _ => exact ⟨sendCall u.core, .inl rfl, replied⟩

variable {Lists}

theorem sendCall_sound_new (seq : UInt16) (clock : Clock) :
    (sendCall (umpSockNew Lists seq clock).core).lock.Sound :=
  ⟨rfl, by simp [sendCall, CallRecord.lock, umpSockNew, umpSockNewCore]⟩

section Runs

variable {seq : UInt16} {clock : Clock} {events : List (CallerEvent SockEvent)}
  {c : Callers (UMPSocket Lists)}

/-- When send calls are made one after another, each gets its own answer. -/
theorem sendAnswers_of_run
    (run : (sendCallers Lists).RunWhere CallThread.oneAtATime
      (CallThread.start (umpSockNew Lists seq clock)) events c) :
    (sendThread Lists).OwnAnswers c :=
  CallThread.ownAnswers_of_run (sendThread_lawful Lists) (sendCall_sound_new seq clock) rfl run

/-- The first send call that is left while another one waits can spoil an answer. -/
theorem sendAnswers_overlap {data : List UInt8}
    (run : (sendCallers Lists).RunWhere CallThread.oneAtATime
      (CallThread.start (umpSockNew Lists seq clock)) events c)
    (waits : ∃ call ∈ c.calls, call.phase = .waiting) :
    ∃ later after, (sendCallers Lists).Run
        ((sendCallers Lists).step c (.post (.userSend data))) later after ∧
      ¬ (sendThread Lists).OwnAnswers after :=
  (CallThread.orderly_of_run (sendThread_lawful Lists) (sendCall_sound_new seq clock) rfl
    run).latest.overlap waits

end Runs

end Sends

/-- Two threads send one after the other. -/
def twoSends : List (CallerEvent SockEvent) :=
  (passiveOpen 7 100).map .thread ++
    [.post (.userSend [1]), .thread .handleSend, .thread .sendData,
      .thread (.dataPacket (dataAck 101 50)), .set, .wake 0, .answer 0, .post (.userSend [2]),
      .thread .handleSend, .thread .sendData]

/-- The theorem holds of a run in which one call has returned and the next one waits. -/
theorem sendAnswers_twoSends :
    (sendThread PlainLists).OwnAnswers
      ((sendCallers PlainLists).after
        (CallThread.start (umpSockNew PlainLists 100 ⟨fun _ => ⟨0, 0⟩, 0⟩)) twoSends) :=
  sendAnswers_of_run (Machine.runWhere_of_check (by decide +kernel))

/-- Two threads leave their packets before the socket thread looks, and the first one is woken by
the answer to the second one. -/
def overwrittenSend : List (CallerEvent SockEvent) :=
  (passiveOpen 7 100).map .thread ++
    [.post (.userSend [1]), .post (.userSend [2]), .thread .handleSend, .thread .sendData,
      .thread (.dataPacket (dataAck 101 50)), .set, .wake 1, .answer 1]

/-- The first call returns TRUE, though its packets were dropped. -/
theorem sendAnswers_fails :
    ¬ ∀ (seq : UInt16) (clock : Clock) (events : List (CallerEvent SockEvent))
      (c : Callers (UMPSocket PlainLists)),
      (sendCallers PlainLists).Run (CallThread.start (umpSockNew PlainLists seq clock)) events c →
        c.thread.core.ctrl.state = .established → (sendThread PlainLists).OwnAnswers c := by
  intro always
  have run : (sendCallers PlainLists).Run
      (CallThread.start (umpSockNew PlainLists 100 ⟨fun _ => ⟨0, 0⟩, 0⟩)) overwrittenSend
      ((sendCallers PlainLists).after
        (CallThread.start (umpSockNew PlainLists 100 ⟨fun _ => ⟨0, 0⟩, 0⟩)) overwrittenSend) :=
    Machine.runWhere_of_check (by decide +kernel)
  have answers := always 100 _ _ _ run (by decide +kernel)
  have second : (⟨.returned true, .dropped⟩ : UserCall) ∈
      ((sendCallers PlainLists).after
        (CallThread.start (umpSockNew PlainLists 100 ⟨fun _ => ⟨0, 0⟩, 0⟩))
        overwrittenSend).calls := by decide +kernel
  exact absurd rfl (answers.own _ second).kept

end UserMessageProtocol
