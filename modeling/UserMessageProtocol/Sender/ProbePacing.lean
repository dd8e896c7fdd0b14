import UserMessageProtocol.Sender.FireTimes
import UserMessageProtocol.Socket.Iteration
import UserMessageProtocol.Socket.Stamps

/-!
Contract: how far window probes are apart.

Owns: the times of the probes of a run (`probeTimes`), that two of them keep the
delay (`Paced`), and the condition under which they do (`restartedOrLate`).

Does not own: the answers to probes (`Receiver.Probes`).
-/

set_option autoImplicit false

namespace UserMessageProtocol

section Probes

variable {Lists : Type} [ReceiveLists Lists]

/-- `ump_act_req_wnd` sends a probe, the only thing it logs. -/
def sendsProbe (u : UMPSocket Lists) (event : SockEvent) : Bool :=
  event = .actReqWnd && decide ((sockStep u event).core.log ≠ u.core.log)

/-- The readings at which probes were sent, the latest first. -/
def probeTimes (u : UMPSocket Lists) (event : SockEvent) (times : List GTimeVal) : List GTimeVal :=
  if sendsProbe u event then u.core.now :: times else times

/-- Two probes are `REQ_WND_DELAY` apart, up to a millisecond. -/
def Paced (later earlier : GTimeVal) : Prop :=
  earlier.micros + (REQ_WND_DELAY - 1) * 1000 ≤ later.micros

instance (later earlier : GTimeVal) : Decidable (Paced later earlier) := by
  unfold Paced
  infer_instance

/-- An iteration that finds `act_req_wnd` set behind a probe: the pacing clock was
restarted since, or the delay has passed since the probe as well. -/
def restartedOrLate (noted : UMPSocket Lists × List GTimeVal) (event : SockEvent) : Prop :=
  event = .actReqWnd → noted.1.core.snd.actReqWnd = true → ∀ last ∈ noted.2.head?,
    last.micros ≤ noted.1.core.snd.lastReqWndTime.micros ∨ Paced noted.1.core.now last

instance (noted : UMPSocket Lists × List GTimeVal) (event : SockEvent) :
    Decidable (restartedOrLate noted event) := by
  unfold restartedOrLate
  infer_instance

theorem sendsProbe_iff (u : UMPSocket Lists) (event : SockEvent) :
    sendsProbe u event = true ↔ event = .actReqWnd ∧ u.core.snd.actReqWnd = true ∧
      REQ_WND_DELAY ≤ umpTimeSub u.core.now u.core.snd.lastReqWndTime := by
  unfold sendsProbe
  rw [Bool.and_eq_true, decide_eq_true_eq, decide_eq_true_eq]
  constructor
  · rintro ⟨rfl, logged⟩
    refine ⟨rfl, ?_⟩
    by_contra early
    apply logged
    show (umpActReqWnd u.core).log = u.core.log
    unfold umpActReqWnd
    dsimp only
    split
    · rfl
    · rename_i asking
      split
      · rename_i due
        exact absurd ⟨by simpa using asking, due⟩ early
      · rfl
  · rintro ⟨rfl, asking, due⟩
    refine ⟨rfl, ?_⟩
    have sent : (umpActReqWnd u.core).log = .sendto (reqWndPacket u.core.snd) :: u.core.log := by
      unfold umpActReqWnd
      dsimp only
      rw [if_neg (by simp [asking]), if_pos due]
      rfl
    show (umpActReqWnd u.core).log ≠ u.core.log
    rw [sent]
    exact List.cons_ne_self _ _

/-- Behind the readings made so far, and far enough apart. -/
structure Pacing (clock : Clock) (u : UMPSocket Lists) (times : List GTimeVal) : Prop where
  readings : u.core.clock.readings = clock.readings
  asked : u.core.snd.lastReqWndTime.Unix
  past : u.core.snd.lastReqWndTime.micros ≤ u.core.now.micros
  before : ∀ time ∈ times, time.micros ≤ u.core.now.micros
  paced : times.Pairwise Paced

/-- The time of the last zero window is a reading made before. -/
theorem stampStep_lastReqWndTime {k k' : Stamps} {event : SockEvent}
    (step : StampStep k event k') :
    k'.lastReqWndTime = k.lastReqWndTime ∨
      k'.lastReqWndTime = k.clock.now ∧ k.clock.ticks < k'.clock.ticks := by
  cases step with
  | read event n => exact .inl rfl
  | close event n => exact .inl rfl
  | window p n =>
      unfold Stamps.notifyWnd
      split
      · split
        · refine .inr ⟨rfl, ?_⟩
          show k.clock.ticks < k.clock.ticks + 1 + n
          omega
        · exact .inl rfl
      · exact .inl rfl
  | acked n => exact .inl rfl
  | beat => exact .inl rfl

/-- A probe that is due comes the delay behind the last restart. -/
theorem elapsedMs_of_due {now last : GTimeVal} (unix : now.Unix) (unix' : last.Unix)
    (order : last.micros ≤ now.micros) {delay : Int} (positive : 0 ≤ delay)
    (due : delay ≤ umpTimeSub now last) : delay ≤ elapsedMs now last := by
  have forward := elapsedMs_nonneg unix unix' order
  rw [umpTimeSub_eq unix unix'] at due
  obtain ⟨turns, wrapped⟩ := glong_turns (elapsedMs now last)
  have range := glong_range (elapsedMs now last)
  omega

variable {u : UMPSocket Lists} {event : SockEvent} {clock : Clock} {times : List GTimeVal}

/-- No later probe comes too early if the latest one does not. -/
theorem paced_cons {now : GTimeVal} (paced : times.Pairwise Paced)
    (head : ∀ last ∈ times.head?, Paced now last) : (now :: times).Pairwise Paced := by
  refine List.pairwise_cons.mpr ⟨?_, paced⟩
  cases times with
  | nil => simp
  | cons last earlier =>
      have behind : Paced now last := head last rfl
      intro time member
      rcases List.mem_cons.mp member with rfl | before
      · exact behind
      · have apart : Paced last time := List.rel_of_pairwise_cons paced before
        have delay : REQ_WND_DELAY = 500 := rfl
        unfold Paced at *
        omega

theorem pacing_step (lawful : clock.Lawful) (pacing : Pacing clock u times)
    (restarts : restartedOrLate (u, times) event) :
    Pacing clock (sockStep u event) (probeTimes u event times) := by
  obtain ⟨readings, onward⟩ := sockStep_onward lawful pacing.readings event
  have unix : u.core.now.Unix := by
    rw [now_eq pacing.readings]
    exact lawful.unix _
  have asks : (sockStep u event).core.snd.lastReqWndTime = u.core.snd.lastReqWndTime ∨
      (sockStep u event).core.snd.lastReqWndTime = u.core.now := by
    rcases stampStep_lastReqWndTime (stamps_step u event) with kept | ⟨restarted, -⟩
    · exact .inl kept
    · exact .inr restarted
  refine ⟨readings, ?_, ?_, ?_, ?_⟩
  · rcases asks with kept | restarted
    · rw [kept]
      exact pacing.asked
    · rw [restarted]
      exact unix
  · rcases asks with kept | restarted
    · rw [kept]
      exact Int.le_trans pacing.past onward
    · rw [restarted]
      exact onward
  · intro time member
    have before : time.micros ≤ u.core.now.micros := by
      unfold probeTimes at member
      split at member
      · rcases List.mem_cons.mp member with rfl | old
        · exact Int.le_refl _
        · exact pacing.before time old
      · exact pacing.before time member
    exact Int.le_trans before onward
  · unfold probeTimes
    split
    · rename_i sent
      obtain ⟨arrived, asking, due⟩ := (sendsProbe_iff u event).mp sent
      have waited := elapsedMs_of_due unix pacing.asked pacing.past (by decide) due
      have bounds := elapsedMs_bounds u.core.now u.core.snd.lastReqWndTime
      apply paced_cons pacing.paced
      intro last latest
      rcases restarts arrived asking last latest with restarted | late
      · have delay : REQ_WND_DELAY = 500 := rfl
        have restarted : last.micros ≤ u.core.snd.lastReqWndTime.micros := restarted
        unfold Paced
        omega
      · exact late
    · exact pacing.paced

/-- In every run in which each iteration behind a probe finds the pacing clock
restarted, or comes late enough, all probes keep the delay. -/
theorem probesPaced_of_run {seq : UInt16} (lawful : clock.Lawful) {events : List SockEvent}
    {noted : UMPSocket Lists × List GTimeVal}
    (run : ((sockMachine Lists).noting probeTimes).RunWhere restartedOrLate
      (umpSockNew Lists seq clock, []) events noted) : noted.2.Pairwise Paced := by
  let Holds (noted : UMPSocket Lists × List GTimeVal) : Prop := Pacing clock noted.1 noted.2
  have first : Holds (umpSockNew Lists seq clock, []) :=
    ⟨rfl, GTimeVal.unix_zero, (lawful.unix _).micros_nonneg, by simp, .nil⟩
  have all : Holds noted := by
    apply run.invariant first
    intro noted event pacing _ restarts
    exact pacing_step lawful pacing restarts
  exact all.paced

end Probes

/-! ### Examples -/

/-- An iteration without packets or calls. -/
def idleIteration : List SockEvent := callEvents ++ .bufferLoad 0 :: timedEvents

/-- The peer closes its window with the ack of the first of two packets, and two
iterations follow. -/
def closedWindowRun : List SockEvent :=
  narrowOpen ++ [.userSend [1, 2], .handleSend, .sendData, .dataPacket (dataAck 101 0)] ++
    idleIteration ++ idleIteration

/-- A clock whose readings are a second apart, for a minute. -/
def minuteClock : Clock := ⟨fun n => ⟨1700000000 + min n 60, 0⟩, 0⟩

theorem minuteClock_lawful : minuteClock.Lawful where
  unix := by
    intro n
    exact ⟨by simp only [minuteClock]; omega, by simp only [minuteClock]; omega,
      Int.le_refl 0, by simp only [minuteClock]; omega⟩
  forward := by
    intro n
    simp only [minuteClock, GTimeVal.micros]
    omega

def slowProbes : UMPSocket GLists × List GTimeVal :=
  ((sockMachine GLists).noting probeTimes).after (umpSockNew GLists 100 minuteClock, [])
    closedWindowRun

/-- Two probes, two seconds apart. -/
theorem probesPaced_slowProbes : slowProbes.2.length = 2 ∧ slowProbes.2.Pairwise Paced := by
  have run : ((sockMachine GLists).noting probeTimes).RunWhere restartedOrLate
      (umpSockNew GLists 100 minuteClock, []) closedWindowRun slowProbes :=
    Machine.runWhere_of_check (by decide +kernel)
  exact ⟨by decide +kernel, probesPaced_of_run minuteClock_lawful run⟩

/-- A clock that goes on by 600 ms once, at its seventh reading. -/
def jumpingClock : Clock := ⟨fun n => ⟨1700000000, if n < 6 then 0 else 600000⟩, 0⟩

theorem jumpingClock_lawful : jumpingClock.Lawful where
  unix := by
    intro n
    simp only [jumpingClock]
    split <;> decide
  forward := by
    intro n
    simp only [jumpingClock, GTimeVal.micros]
    omega

/-- The probe does not restart the pacing clock, and the next iteration sends another
one at the same time. -/
theorem probesPaced_fails : ¬ ∀ (seq : UInt16) (clock : Clock), clock.Lawful →
    ∀ (events : List SockEvent) (noted : UMPSocket GLists × List GTimeVal),
      ((sockMachine GLists).noting probeTimes).Run (umpSockNew GLists seq clock, []) events noted →
        noted.2.Pairwise Paced := by
  intro always
  have run : ((sockMachine GLists).noting probeTimes).Run (umpSockNew GLists 100 jumpingClock, [])
      closedWindowRun (((sockMachine GLists).noting probeTimes).after
        (umpSockNew GLists 100 jumpingClock, []) closedWindowRun) :=
    Machine.runWhere_of_check (by decide +kernel)
  have paced := always _ _ jumpingClock_lawful _ _ run
  revert paced
  decide +kernel

end UserMessageProtocol
