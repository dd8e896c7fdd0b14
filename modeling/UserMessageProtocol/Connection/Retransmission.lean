import UserMessageProtocol.Connection.CtrlTimer
import UserMessageProtocol.Foundation.Backoff
import UserMessageProtocol.Sender.Steps
import UserMessageProtocol.Socket.Stamps

/-!
Contract: how often a SYN or FIN goes out, how far its transmissions are apart, and when
the socket gives up.

Owns: the transmissions of a run (`transmissions`), the gaps between those of one packet
(`retryGap`), and the theorem that every run keeps to them (`retriesInTime_of_run`).

Does not own: what acknowledges a SYN or FIN (`Connection.Acknowledgement`).
-/

set_option autoImplicit false

namespace UserMessageProtocol

/-- The microseconds from the transmission with `k` others before it to the next one, up
to the millisecond `ump_time_sub` rounds away. -/
def retryGap : Nat → Int := doubling (UMP_CTRL_TIMEOUT * 1000) 1000

section Transmissions

variable {Lists : Type} [ReceiveLists Lists]

/-- The step queues a SYN or FIN. -/
def queues (u : UMPSocket Lists) (event : SockEvent) : Bool :=
  queuedCount u.core.log < queuedCount (sockStep u event).core.log

/-- The step puts a SYN or FIN on the wire. -/
def transmits (u : UMPSocket Lists) (event : SockEvent) : Bool :=
  event = .sendCtrlPacket && (sentBy u event).any isSynOrFin

/-- When the packets went out, those of the packet queued last first, and of each packet
the latest time first. -/
def transmissions (u : UMPSocket Lists) (event : SockEvent) (times : List (List GTimeVal)) :
    List (List GTimeVal) :=
  if queues u event then [] :: times
  else if transmits u event then (u.core.now :: times.headD []) :: times.tail
  else times

/-- A SYN or FIN goes out four times at most, with gaps that double, and the connection is
given up for want of its ack only behind the fourth time and its gap. -/
structure RetriesInTime (u : UMPSocket Lists) (times : List (List GTimeVal)) : Prop where
  few : ∀ packet ∈ times, packet.length ≤ 4
  spaced : ∀ packet ∈ times, Spaced retryGap (packet.map GTimeVal.micros)
  givesUp : u.core.ctrl.errorOccured = false →
    (sockStep u .ctrlTimeout).core.ctrl.errorOccured = true →
      ∃ packet ∈ times.head?, packet.length = 4 ∧
        ∀ first ∈ packet.getLast?, first.micros + 44996000 ≤ u.core.now.micros

/-! ### Timers that expired -/

/-- A timer that has expired was set the delay before, up to a millisecond, whether or not
its time was past the last second of the platform's clock. -/
theorem late_of_expired {now last : GTimeVal} (unix : now.Unix) (unix' : last.Unix)
    (order : last.micros ≤ now.micros) {delay : Int} (positive : 0 ≤ delay)
    (small : delay ≤ 24000)
    (due : 0 ≤ umpTimeSub now (gTimeValAdd last (glong (delay * 1000)))) :
    last.micros + (delay * 1000 - 1000) ≤ now.micros := by
  have fits : glong (delay * 1000) = delay * 1000 := glong_eq (by omega) (by omega)
  rw [fits] at due
  obtain ⟨turns, resend⟩ := gTimeValAdd_turns last (delay * 1000)
  have usec := gTimeValAdd_usec last unix' (delay * 1000)
  have below := unix.second
  have above := unix.usec
  rw [umpTimeSub_wraps (glong_eq (by omega) (by omega))] at due
  have bounds := elapsedMs_bounds now (gTimeValAdd last (delay * 1000))
  obtain ⟨wraps, wrapped⟩ := glong_turns (elapsedMs now (gTimeValAdd last (delay * 1000)))
  have range := glong_range (elapsedMs now (gTimeValAdd last (delay * 1000)))
  omega

/-- The timeouts of the four transmissions. -/
theorem rto_cases {k : Nat} {rto : Int} (few : k ≤ 3) (doubled : rto = UMP_CTRL_TIMEOUT * 2 ^ k) :
    0 ≤ rto ∧ rto ≤ 24000 ∧ (rto < TIMEOUT_LIMIT ↔ k < 3) := by
  have base : UMP_CTRL_TIMEOUT = 3000 := rfl
  have limit : TIMEOUT_LIMIT = 15000 := rfl
  rw [base] at doubled
  rw [limit]
  have small : k = 0 ∨ k = 1 ∨ k = 2 ∨ k = 3 := by omega
  rcases small with rfl | rfl | rfl | rfl <;> norm_num at doubled <;> omega

/-- Where a packet stands that waits for its ack with `k` timers expired. -/
structure Attempt (t : CtrlTimer) (now : GTimeVal) (packet : List GTimeVal) (k : Nat) : Prop where
  few : k ≤ 3
  rto : t.rto = UMP_CTRL_TIMEOUT * 2 ^ k
  count : packet.length = k + t.sent.toNat
  timer : t.sent = true → ∀ last ∈ packet.head?,
    t.resendTime = gTimeValAdd last (glong (t.rto * 1000))
  due : t.sent = false → ∀ last ∈ packet.head?,
    last.micros + retryGap (packet.length - 1) ≤ now.micros

section Attempts

variable {t : CtrlTimer} {now later : GTimeVal} {packet : List GTimeVal} {k : Nat}

theorem attempt_queued (p : UMPPacket) : Attempt (t.queue p) now [] 0 where
  few := by omega
  rto := by simp [CtrlTimer.queue]
  count := rfl
  timer := fun sent => by cases sent
  due := by simp

theorem Attempt.onward (attempt : Attempt t now packet k) (forward : now.micros ≤ later.micros) :
    Attempt t later packet k where
  few := attempt.few
  rto := attempt.rto
  count := attempt.count
  timer := attempt.timer
  due := fun unsent last head => Int.le_trans (attempt.due unsent last head) forward

theorem Attempt.send (attempt : Attempt t now packet k) (unsent : t.sent = false) (p : UMPPacket) :
    Attempt (t.send p now) later (now :: packet) k where
  few := attempt.few
  rto := attempt.rto
  count := by
    have count := attempt.count
    rw [unsent] at count
    rw [List.length_cons, count]
    rfl
  timer := by
    intro _ last head
    obtain rfl := Option.some.inj head
    rfl
  due := fun sent => by cases sent

/-- An expired timer was set long enough ago. -/
theorem Attempt.late (attempt : Attempt t now packet k) (expired : t.Expired now)
    (unix : now.Unix) (past : ∀ time ∈ packet, time.Unix ∧ time.micros ≤ now.micros) :
    ∀ last ∈ packet.head?, last.micros + retryGap (packet.length - 1) ≤ now.micros := by
  intro last head
  obtain ⟨-, sent, due⟩ := expired
  obtain ⟨unix', order⟩ := past last (List.mem_of_mem_head? head)
  obtain ⟨positive, small, -⟩ := rto_cases attempt.few attempt.rto
  have count := attempt.count
  rw [sent] at count
  have index : packet.length - 1 = k := by rw [count]; rfl
  rw [attempt.timer sent last head] at due
  have late := late_of_expired unix unix' order positive small due
  rw [attempt.rto] at late
  rw [index]
  unfold retryGap doubling
  linarith

theorem Attempt.again (attempt : Attempt t now packet k) (expired : t.Expired now)
    (early : t.rto < TIMEOUT_LIMIT) (unix : now.Unix)
    (past : ∀ time ∈ packet, time.Unix ∧ time.micros ≤ now.micros) :
    Attempt t.again now packet (k + 1) where
  few := by
    have less := (rto_cases attempt.few attempt.rto).2.2.mp early
    omega
  rto := by
    obtain ⟨positive, small, -⟩ := rto_cases attempt.few attempt.rto
    have fits : glong (2 * t.rto) = 2 * t.rto := glong_eq (by omega) (by omega)
    have doubled : t.again.rto = 2 * t.rto := fits
    rw [doubled, attempt.rto, pow_succ]
    ring
  count := by
    have count := attempt.count
    rw [expired.2.1] at count
    exact count
  timer := fun sent => by cases sent
  due := fun _ => attempt.late expired unix past

end Attempts

/-! ### What a step transmits -/

variable {u : UMPSocket Lists} {event : SockEvent}

theorem transmits_iff
    (synOrFin : ∀ p, u.core.ctrl.ctrlPacketToSend = some p → isSynOrFin p = true) :
    transmits u event = true ↔ event = .sendCtrlPacket ∧
      u.core.ctrl.ctrlPacketToSend.isSome = true ∧ u.core.ctrl.ctrlPacketSent = false := by
  unfold transmits
  rw [Bool.and_eq_true, decide_eq_true_eq]
  have lone : isSynOrFin (ctrlAckAlone u.core.ackInfo) = false := by
    unfold isSynOrFin
    rw [ctrlAckAlone_getFlag _ UP_CTRL_SYN (by decide) (by decide),
      ctrlAckAlone_getFlag _ UP_CTRL_FIN (by decide) (by decide)]
    simp
  have alone (log : traffic (sockStep u .sendCtrlPacket).core.log =
      traffic (sendCtrlAckAlone u.core).log) :
      (sentBy u .sendCtrlPacket).any isSynOrFin = false := by
    unfold sendCtrlAckAlone at log
    split at log
    · have logged : traffic (sockStep u .sendCtrlPacket).core.log =
          [.sendto (ctrlAckAlone u.core.ackInfo)] ++ traffic u.core.log := by simpa using log
      rw [sentBy_eq logged]
      simpa [Action.sent] using lone
    · have logged : traffic (sockStep u .sendCtrlPacket).core.log = [] ++ traffic u.core.log := by
        simpa using log
      rw [sentBy_eq logged]
      rfl
  constructor
  · rintro ⟨rfl, sends⟩
    refine ⟨rfl, ?_⟩
    cases pending : u.core.ctrl.ctrlPacketToSend with
    | none =>
        rw [alone (by simp [sockStep, umpHandleSendCtrlPacket, pending])] at sends
        cases sends
    | some p =>
        refine ⟨rfl, ?_⟩
        by_contra sent
        rw [alone (by simp [sockStep, umpHandleSendCtrlPacket, pending, sent])] at sends
        cases sends
  · rintro ⟨rfl, waits, unsent⟩
    refine ⟨rfl, ?_⟩
    obtain ⟨p, pending⟩ := Option.isSome_iff_exists.mp waits
    have logged : traffic (sockStep u .sendCtrlPacket).core.log =
        [.sendto (pendingOnWire u.core.ackInfo p)] ++ traffic u.core.log := by
      simp [sockStep, umpHandleSendCtrlPacket, pending, unsent]
    rw [sentBy_eq logged]
    simp [Action.sent, isSynOrFin_onWire, synOrFin p pending]

/-! ### Runs -/

/-- The transmissions noted so far. -/
structure Recorded (now : GTimeVal) (times : List (List GTimeVal)) : Prop where
  few : ∀ packet ∈ times, packet.length ≤ 4
  spaced : ∀ packet ∈ times, Spaced retryGap (packet.map GTimeVal.micros)
  past : ∀ packet ∈ times, ∀ time ∈ packet, time.Unix ∧ time.micros ≤ now.micros

/-- The packet that waits for its ack is the one queued last. -/
structure Awaits (t : CtrlTimer) (now : GTimeVal) (times : List (List GTimeVal)) : Prop where
  synOrFin : ∀ p, t.pending = some p → isSynOrFin p = true
  attempt : t.pending.isSome = true →
    ∃ packet earlier k, times = packet :: earlier ∧ Attempt t now packet k

section Notes

variable {t t' : CtrlTimer} {now later : GTimeVal} {packet : List GTimeVal}
  {times earlier : List (List GTimeVal)} {k : Nat}

theorem Recorded.onward (recorded : Recorded now times) (forward : now.micros ≤ later.micros) :
    Recorded later times where
  few := recorded.few
  spaced := recorded.spaced
  past := by
    intro packet member time inside
    obtain ⟨unix, before⟩ := recorded.past packet member time inside
    exact ⟨unix, Int.le_trans before forward⟩

theorem Awaits.onward (waits : Awaits t now times) (forward : now.micros ≤ later.micros) :
    Awaits t later times where
  synOrFin := waits.synOrFin
  attempt := by
    intro pending
    obtain ⟨packet, earlier, k, rfl, attempt⟩ := waits.attempt pending
    exact ⟨packet, earlier, k, rfl, attempt.onward forward⟩

theorem Recorded.queue (recorded : Recorded now times) : Recorded now ([] :: times) where
  few := List.forall_mem_cons.mpr ⟨Nat.zero_le 4, recorded.few⟩
  spaced := List.forall_mem_cons.mpr ⟨trivial, recorded.spaced⟩
  past := List.forall_mem_cons.mpr ⟨by simp, recorded.past⟩

/-- The packet that waits goes out, late enough behind the last time. -/
theorem Recorded.transmit (recorded : Recorded now (packet :: earlier)) (unix : now.Unix)
    (attempt : Attempt t now packet k) (unsent : t.sent = false) :
    Recorded now ((now :: packet) :: earlier) where
  few := by
    refine List.forall_mem_cons.mpr ⟨?_, (List.forall_mem_cons.mp recorded.few).2⟩
    have count := attempt.count
    have few := attempt.few
    rw [unsent] at count
    rw [List.length_cons, count]
    simp only [Bool.toNat_false]
    omega
  spaced := by
    obtain ⟨latest, others⟩ := List.forall_mem_cons.mp recorded.spaced
    refine List.forall_mem_cons.mpr ⟨?_, others⟩
    rw [List.map_cons]
    apply latest.cons
    intro last head
    rw [List.head?_map, Option.mem_def, Option.map_eq_some_iff] at head
    obtain ⟨time, head, rfl⟩ := head
    rw [List.length_map]
    exact attempt.due unsent time head
  past := by
    obtain ⟨latest, others⟩ := List.forall_mem_cons.mp recorded.past
    exact List.forall_mem_cons.mpr
      ⟨List.forall_mem_cons.mpr ⟨⟨unix, Int.le_refl _⟩, latest⟩, others⟩

theorem waits_dropped : Awaits t.drop now times where
  synOrFin := by simp [CtrlTimer.drop]
  attempt := by simp [CtrlTimer.drop]

/-- A step of the timer and what it adds to the notes. -/
theorem Awaits.step {event : SockEvent} {queued sends : Bool} (waits : Awaits t now times)
    (recorded : Recorded now times) (unix : now.Unix) (step : TimerStep t now event t')
    (queuesOne : queued = decide (t.queued < t'.queued))
    (sendsIt : sends = true ↔
      event = .sendCtrlPacket ∧ t.pending.isSome = true ∧ t.sent = false)
    {noted : List (List GTimeVal)}
    (notes : noted = if queued then [] :: times
      else if sends then (now :: times.headD []) :: times.tail else times) :
    Awaits t' now noted ∧ Recorded now noted := by
  have rest (same : t'.queued = t.queued) (unsent : sends = false) : noted = times := by
    rw [notes, queuesOne, same, unsent]
    simp
  have silent (other : event ≠ .sendCtrlPacket) : sends = false := by
    rw [Bool.eq_false_iff]
    exact fun sent => other (sendsIt.mp sent).1
  cases step with
  | keep event idle =>
      have unsent : sends = false := by
        rw [Bool.eq_false_iff]
        intro sent
        obtain ⟨here, pending, unsent⟩ := sendsIt.mp sent
        rcases idle here with none | already
        · simp [none] at pending
        · simp [already] at unsent
      rw [rest rfl unsent]
      exact ⟨waits, recorded⟩
  | queue event p synOrFin other =>
      have one : queued = true := by simp [queuesOne, CtrlTimer.queue]
      rw [notes, one, if_pos rfl]
      refine ⟨⟨?_, fun _ => ⟨[], times, 0, rfl, attempt_queued p⟩⟩, recorded.queue⟩
      intro q pending
      obtain rfl := Option.some.inj pending
      exact synOrFin
  | drop event other =>
      rw [rest rfl (silent other)]
      exact ⟨waits_dropped, recorded⟩
  | send p q pending unsent same =>
      have isPending : t.pending.isSome = true := by simp [pending]
      have sent : sends = true := sendsIt.mpr ⟨rfl, isPending, unsent⟩
      have none : queued = false := by simp [queuesOne, CtrlTimer.send]
      obtain ⟨packet, earlier, k, rfl, attempt⟩ := waits.attempt isPending
      rw [notes, none, sent]
      refine ⟨⟨?_, fun _ => ⟨_, earlier, k, rfl, attempt.send unsent q⟩⟩,
        recorded.transmit unix attempt unsent⟩
      intro r waiting
      obtain rfl := Option.some.inj waiting
      exact same.trans (waits.synOrFin p pending)
  | again expired early =>
      rw [rest rfl (silent (by simp))]
      refine ⟨⟨waits.synOrFin, ?_⟩, recorded⟩
      intro pending
      obtain ⟨packet, earlier, k, rfl, attempt⟩ := waits.attempt pending
      have past := recorded.past packet List.mem_cons_self
      exact ⟨packet, earlier, k + 1, rfl, attempt.again expired early unix past⟩
  | giveUp expired late =>
      rw [rest rfl (silent (by simp))]
      exact ⟨waits_dropped, recorded⟩

end Notes

/-- What holds along a run. -/
structure Retrying (clock : Clock) (u : UMPSocket Lists) (times : List (List GTimeVal)) : Prop where
  readings : u.core.clock.readings = clock.readings
  waits : Awaits u.core.ctrlTimer u.core.now times
  recorded : Recorded u.core.now times

variable {clock : Clock} {times : List (List GTimeVal)}

omit [ReceiveLists Lists] in
theorem Retrying.unix (lawful : clock.Lawful) (retrying : Retrying clock u times) :
    u.core.now.Unix := by
  rw [now_eq retrying.readings]
  exact lawful.unix _

theorem Retrying.step (lawful : clock.Lawful) (retrying : Retrying clock u times)
    (event : SockEvent) : Retrying clock (sockStep u event) (transmissions u event times) := by
  obtain ⟨readings, onward⟩ := sockStep_onward lawful retrying.readings event
  obtain ⟨waits, recorded⟩ := retrying.waits.step retrying.recorded (retrying.unix lawful)
    (ctrlTimer_step u event) rfl (transmits_iff retrying.waits.synOrFin) rfl
  exact ⟨readings, waits.onward onward, recorded.onward onward⟩

/-- The socket gives up behind the fourth transmission and its gap. -/
theorem Retrying.givesUp (lawful : clock.Lawful) (retrying : Retrying clock u times)
    (alive : u.core.ctrl.errorOccured = false)
    (failed : (sockStep u .ctrlTimeout).core.ctrl.errorOccured = true) :
    ∃ packet ∈ times.head?, packet.length = 4 ∧
      ∀ first ∈ packet.getLast?, first.micros + 44996000 ≤ u.core.now.micros := by
  obtain ⟨expired, late⟩ := umpHandleCtrlTimeout_failed u.core alive failed
  obtain ⟨packet, earlier, k, rfl, attempt⟩ := retrying.waits.attempt expired.1
  have last : k = 3 := by
    have few := attempt.few
    have tooFew := (rto_cases attempt.few attempt.rto).2.2
    have late : ¬ u.core.ctrlTimer.rto < TIMEOUT_LIMIT := Int.not_lt.mpr late
    omega
  have count : packet.length = 4 := by
    rw [attempt.count, expired.2.1, last]
    rfl
  refine ⟨packet, rfl, count, ?_⟩
  intro first earliest
  have behind := attempt.late expired (retrying.unix lawful)
    (retrying.recorded.past packet List.mem_cons_self)
  have spaced : Spaced retryGap (u.core.now.micros :: packet.map GTimeVal.micros) := by
    apply (retrying.recorded.spaced packet List.mem_cons_self).cons
    intro last head
    rw [List.head?_map, Option.mem_def, Option.map_eq_some_iff] at head
    obtain ⟨time, head, rfl⟩ := head
    rw [List.length_map]
    exact behind time head
  have start : first.micros ∈ (u.core.now.micros :: packet.map GTimeVal.micros).getLast? := by
    rw [List.getLast?_cons, List.getLast?_map, earliest]
    rfl
  have whole := spaced.span start
  rw [List.length_map, count, retryGap, sum_doubling] at whole
  have base : UMP_CTRL_TIMEOUT = 3000 := rfl
  rw [base] at whole
  norm_num at whole
  linarith

/-- In every run a SYN or FIN goes out four times at most, three, six and twelve seconds
apart, and the connection is given up for want of its ack only forty-five seconds behind
the first time. -/
theorem retriesInTime_of_run {seq : UInt16} (lawful : clock.Lawful) {events : List SockEvent}
    {noted : UMPSocket Lists × List (List GTimeVal)}
    (run : ((sockMachine Lists).noting transmissions).Run (umpSockNew Lists seq clock, []) events
      noted) : RetriesInTime noted.1 noted.2 := by
  let Holds (noted : UMPSocket Lists × List (List GTimeVal)) : Prop :=
    Retrying clock noted.1 noted.2
  have first : Holds (umpSockNew Lists seq clock, []) :=
    ⟨rfl, ⟨by simp [umpSockNew, umpSockNewCore, SocketCore.ctrlTimer],
      by simp [umpSockNew, umpSockNewCore, SocketCore.ctrlTimer]⟩, by simp, by simp, by simp⟩
  have all : Holds noted := by
    apply run.invariant first
    intro noted event retrying _ _
    exact retrying.step lawful event
  exact ⟨all.recorded.few, all.recorded.spaced, all.givesUp lawful⟩

end Transmissions

/-! ### A peer that does not answer -/

/-- A clock whose readings are half a minute apart, for a while. -/
def halfMinutes : Clock := ⟨fun n => ⟨1700000000 + 30 * min n 60, 0⟩, 0⟩

theorem halfMinutes_lawful : halfMinutes.Lawful where
  unix := by
    intro n
    exact ⟨by simp only [halfMinutes]; omega, by simp only [halfMinutes]; omega, Int.le_refl 0,
      by simp only [halfMinutes]; omega⟩
  forward := by
    intro n
    simp only [halfMinutes, GTimeVal.micros]
    omega

/-- An active open that nobody answers. -/
def unansweredOpen : List SockEvent :=
  [.userCtrl .connect, .handleCtrl, .sendCtrlPacket, .ctrlTimeout, .sendCtrlPacket, .ctrlTimeout,
    .sendCtrlPacket, .ctrlTimeout, .sendCtrlPacket]

def unansweredSocket : UMPSocket GLists × List (List GTimeVal) :=
  ((sockMachine GLists).noting transmissions).after (umpSockNew GLists 100 halfMinutes, [])
    unansweredOpen

/-- The SYN went out four times, and the socket gives up. -/
theorem retriesInTime_unansweredSocket :
    unansweredSocket.2.map List.length = [4] ∧
      (sockStep unansweredSocket.1 .ctrlTimeout).core.ctrl.errorOccured = true ∧
        RetriesInTime unansweredSocket.1 unansweredSocket.2 := by
  have run : ((sockMachine GLists).noting transmissions).Run
      (umpSockNew GLists 100 halfMinutes, []) unansweredOpen unansweredSocket :=
    Machine.runWhere_of_check (by decide +kernel)
  exact ⟨by decide +kernel, by decide +kernel, retriesInTime_of_run halfMinutes_lawful run⟩

end UserMessageProtocol
