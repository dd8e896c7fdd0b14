import UserMessageProtocol.Receiver.Probes
import UserMessageProtocol.Socket.Stamps

/-!
Contract: heartbeats and delayed acks on a 32-bit clock.

Owns: when heartbeats were made and acks sent in a run (`Made`), what the delays ask
of the next ones (`DelaysKept`), and that this is met exactly while the time since the
last one does not wrap.

Does not own: what an ack says (`Receiver.DelayedAcks`).
-/

set_option autoImplicit false

namespace UserMessageProtocol

/-! ### Elapsed time, wrapped -/

/-- A wrapped difference exceeds a limit while the difference lies, up to turns,
between the limit and half a turn. -/
theorem glong_gt_iff {limit : Int} (positive : 0 ≤ limit) (value : Int) :
    glong value > limit ↔ limit < value % 4294967296 ∧ value % 4294967296 < 2147483648 := by
  obtain ⟨turns, wrapped⟩ := glong_turns value
  have range := glong_range value
  omega

/-- More than `limit` milliseconds, and fewer than 2^31, from the last event to `now`,
up to turns of 2^32. -/
def WithinHalfTurn (limit : Int) (now last : GTimeVal) : Prop :=
  limit < elapsedMs now last % 4294967296 ∧ elapsedMs now last % 4294967296 < 2147483648

instance (limit : Int) (now last : GTimeVal) : Decidable (WithinHalfTurn limit now last) := by
  unfold WithinHalfTurn
  infer_instance

/-! ### What was made -/

/-- The readings of the last heartbeat and of the last ack. -/
structure Made where
  beat : Option GTimeVal
  ack : Option GTimeVal
deriving DecidableEq, Repr

/-- `ump_refresh_our_ack_info` sends an ack. -/
def sendsAck (s : SocketCore) : Bool :=
  s.ackInfo.pushAck ||
    s.ackInfo.scheduleAck && !decide (umpTimeSub s.now s.ackInfo.lastAckT < ACK_DELAY)

def noteMade {Lists : Type} (u : UMPSocket Lists) (event : SockEvent) (made : Made) : Made :=
  match event with
  | .heartbeat => if heartbeatDue u.core then { made with beat := some u.core.now } else made
  | .refreshAck =>
      if sendsAck u.core then { made with ack := some (umpRefreshOurAckInfo u.core).ackInfo.lastAckT }
      else made
  | _ => made

/-- Nothing was made yet, or more than `ms` milliseconds ago. -/
def Overdue (ms : Int) (last : Option GTimeVal) (now : GTimeVal) : Prop :=
  ∀ time ∈ last, time.micros + 1000 * ms < now.micros

/-- What the handlers owe in a state: an established socket schedules an ack once the
heartbeat is overdue, and a scheduled ack is sent once the delay has passed. -/
structure DelaysKept (s : SocketCore) (made : Made) : Prop where
  beats : s.ctrl.state = .established → Overdue (HEATTBEAT_INTERVAL + 1) made.beat s.now →
    heartbeatDue s = true ∧ umpHandleSendHeartbeat s =
      { s with ackInfo := umpSetOurAckInfo s.ackInfo false, lastHeartbeat := s.now }.tick
  acks : s.ackInfo.scheduleAck = true →
    (∀ time ∈ made.ack, time.micros + 1000 * (ACK_DELAY + 1) ≤ s.now.micros) →
      sendsAck s = true ∧ (umpRefreshOurAckInfo s).ackInfo.dataAckSet = true ∧
        (umpRefreshOurAckInfo s).ackInfo.dataAckSeq = s.rcv.theirDataSeqBase

section Handlers

variable (s : SocketCore)

theorem umpHandleSendHeartbeat_due (due : heartbeatDue s = true) : umpHandleSendHeartbeat s =
    { s with ackInfo := umpSetOurAckInfo s.ackInfo false, lastHeartbeat := s.now }.tick := by
  simp only [heartbeatDue, Bool.and_eq_true, beq_iff_eq, decide_eq_true_eq] at due
  obtain ⟨established, late⟩ := due
  unfold umpHandleSendHeartbeat
  rw [if_neg (not_not.mpr established)]
  exact if_pos late

theorem umpHandleSendHeartbeat_lastHeartbeat : (umpHandleSendHeartbeat s).lastHeartbeat =
    if heartbeatDue s then s.now else s.lastHeartbeat := by
  by_cases due : heartbeatDue s = true
  · rw [if_pos due, umpHandleSendHeartbeat_due s due]
    rfl
  · rw [if_neg due]
    simp only [heartbeatDue, Bool.and_eq_true, beq_iff_eq, decide_eq_true_eq] at due
    unfold umpHandleSendHeartbeat
    dsimp only
    split
    · rfl
    · rename_i established
      split
      · rename_i late
        exact absurd ⟨not_not.mp established, late⟩ due
      · rfl

theorem umpRefreshOurAckInfo_sends (sends : sendsAck s = true) :
    (umpRefreshOurAckInfo s).ackInfo.dataAckSet = true ∧
      (umpRefreshOurAckInfo s).ackInfo.dataAckSeq = s.rcv.theirDataSeqBase := by
  unfold umpRefreshOurAckInfo
  split
  · exact ⟨rfl, rfl⟩
  · rename_i push
    simp only [sendsAck, Bool.or_eq_true, push, Bool.and_eq_true, Bool.not_eq_true',
      decide_eq_false_iff_not, false_or, Bool.false_eq_true] at sends
    rw [if_pos sends.1]
    dsimp only
    rw [if_neg sends.2]
    exact ⟨rfl, rfl⟩

theorem umpRefreshOurAckInfo_lastAckT (silent : sendsAck s = false) :
    (umpRefreshOurAckInfo s).ackInfo.lastAckT = s.ackInfo.lastAckT := by
  simp only [sendsAck, Bool.or_eq_false_iff, Bool.and_eq_false_iff] at silent
  unfold umpRefreshOurAckInfo
  rw [if_neg (by simp [silent.1])]
  dsimp only
  split
  · rename_i scheduled
    split
    · rfl
    · rename_i late
      rcases silent.2 with none | early
      · exact absurd (scheduled.symm.trans none) (by decide)
      · simp [late] at early
  · rfl

end Handlers

/-! ### Runs -/

/-- The times kept are those of the last heartbeat and the last ack, or zero. -/
structure Remembers (clock : Clock) (s : SocketCore) (made : Made) : Prop where
  readings : s.clock.readings = clock.readings
  beat : s.lastHeartbeat = made.beat.getD ⟨0, 0⟩
  ack : s.ackInfo.lastAckT = made.ack.getD ⟨0, 0⟩
  unix : s.lastHeartbeat.Unix ∧ s.ackInfo.lastAckT.Unix
  past : s.lastHeartbeat.micros ≤ s.now.micros ∧ s.ackInfo.lastAckT.micros ≤ s.now.micros

/-- A time kept is a reading of the step, or was kept before. -/
theorem stampStep_made {k k' : Stamps} {event : SockEvent} (step : StampStep k event k') :
    (k'.lastHeartbeat = k.lastHeartbeat ∨ event = .heartbeat ∧ k'.lastHeartbeat = k.clock.now) ∧
      (k'.lastAckT = k.lastAckT ∨ event = .refreshAck ∧ ∃ n, k.clock.ticks ≤ n ∧
        n < k'.clock.ticks ∧ k'.lastAckT = k.clock.readings n) := by
  cases step with
  | read event n => exact ⟨.inl rfl, .inl rfl⟩
  | close event n => exact ⟨.inl rfl, .inl rfl⟩
  | window p n =>
      unfold Stamps.notifyWnd
      split
      · split <;> exact ⟨.inl rfl, .inl rfl⟩
      · exact ⟨.inl rfl, .inl rfl⟩
  | acked n =>
      exact ⟨.inl rfl, .inr ⟨rfl, k.clock.ticks + n, Nat.le_add_right _ _, Nat.lt_succ_self _, rfl⟩⟩
  | beat => exact ⟨.inr ⟨rfl, rfl⟩, .inl rfl⟩

section Runs

variable {Lists : Type} [ReceiveLists Lists] {clock : Clock}

theorem noteMade_beat {u : UMPSocket Lists} {event : SockEvent} (made : Made)
    (kept : event ≠ .heartbeat → (sockStep u event).core.lastHeartbeat = u.core.lastHeartbeat)
    (before : u.core.lastHeartbeat = made.beat.getD ⟨0, 0⟩) :
    (sockStep u event).core.lastHeartbeat = (noteMade u event made).beat.getD ⟨0, 0⟩ := by
  cases event with
  | heartbeat =>
      show (umpHandleSendHeartbeat u.core).lastHeartbeat = _
      rw [umpHandleSendHeartbeat_lastHeartbeat]
      simp only [noteMade]
      split
      · rfl
      · exact before
  | refreshAck =>
      rw [kept (by simp), before]
      simp only [noteMade]
      split <;> rfl
  | _ => exact (kept (by simp)).trans before

theorem noteMade_ack {u : UMPSocket Lists} {event : SockEvent} (made : Made)
    (kept : event ≠ .refreshAck → (sockStep u event).core.ackInfo.lastAckT = u.core.ackInfo.lastAckT)
    (before : u.core.ackInfo.lastAckT = made.ack.getD ⟨0, 0⟩) :
    (sockStep u event).core.ackInfo.lastAckT = (noteMade u event made).ack.getD ⟨0, 0⟩ := by
  cases event with
  | refreshAck =>
      show (umpRefreshOurAckInfo u.core).ackInfo.lastAckT = _
      simp only [noteMade]
      split
      · rfl
      · rename_i silent
        exact (umpRefreshOurAckInfo_lastAckT _ ((Bool.not_eq_true _).mp silent)).trans before
  | heartbeat =>
      rw [kept (by simp), before]
      simp only [noteMade]
      split <;> rfl
  | _ => exact (kept (by simp)).trans before

theorem remembers_step (lawful : clock.Lawful) {u : UMPSocket Lists} {made : Made}
    (remembers : Remembers clock u.core made) (event : SockEvent) :
    Remembers clock (sockStep u event).core (noteMade u event made) := by
  obtain ⟨beats, acks⟩ := stampStep_made (stamps_step u event)
  obtain ⟨readings, onward⟩ := sockStep_onward lawful remembers.readings event
  have beats : (sockStep u event).core.lastHeartbeat = u.core.lastHeartbeat ∨
      event = .heartbeat ∧ (sockStep u event).core.lastHeartbeat = u.core.now := beats
  have acks : (sockStep u event).core.ackInfo.lastAckT = u.core.ackInfo.lastAckT ∨
      event = .refreshAck ∧ ∃ n, u.core.clock.ticks ≤ n ∧
        n < (sockStep u event).core.clock.ticks ∧
          (sockStep u event).core.ackInfo.lastAckT = u.core.clock.readings n := acks
  refine ⟨readings, ?_, ?_, ⟨?_, ?_⟩, ?_, ?_⟩
  · apply noteMade_beat made _ remembers.beat
    intro other
    rcases beats with kept | ⟨beaten, -⟩
    · exact kept
    · exact absurd beaten other
  · apply noteMade_ack made _ remembers.ack
    intro other
    rcases acks with kept | ⟨acked, -⟩
    · exact kept
    · exact absurd acked other
  · rcases beats with kept | ⟨-, beaten⟩
    · rw [kept]
      exact remembers.unix.1
    · rw [beaten, now_eq remembers.readings]
      exact lawful.unix _
  · rcases acks with kept | ⟨-, n, -, -, acked⟩
    · rw [kept]
      exact remembers.unix.2
    · rw [acked, remembers.readings]
      exact lawful.unix _
  · rcases beats with kept | ⟨-, beaten⟩
    · rw [kept]
      exact Int.le_trans remembers.past.1 onward
    · rw [beaten]
      exact onward
  · rcases acks with kept | ⟨-, n, -, made, acked⟩
    · rw [kept]
      exact Int.le_trans remembers.past.2 onward
    · rw [acked, remembers.readings, now_eq readings]
      exact lawful.mono (Nat.le_of_lt made)

theorem remembers_of_run (lawful : clock.Lawful) {seq : UInt16} {events : List SockEvent}
    {state : UMPSocket Lists × Made}
    (run : ((sockMachine Lists).noting noteMade).Run (umpSockNew Lists seq clock, ⟨none, none⟩)
      events state) : Remembers clock state.1.core state.2 := by
  let Holds (state : UMPSocket Lists × Made) : Prop := Remembers clock state.1.core state.2
  have zero : 0 ≤ clock.now.micros := (lawful.unix _).micros_nonneg
  have first : Holds (umpSockNew Lists seq clock, ⟨none, none⟩) :=
    ⟨rfl, rfl, rfl, ⟨GTimeVal.unix_zero, GTimeVal.unix_zero⟩, zero, zero⟩
  apply Machine.RunWhere.invariant run first
  intro state event remembers _ _
  exact remembers_step lawful remembers event

/-! ### Delays -/

/-- The condition: when a heartbeat or an ack is overdue, the milliseconds since the
last one, or since 1970 when there was none, do not lie in the negative half of a turn,
or before the limit behind whole turns. -/
structure InTime (s : SocketCore) (made : Made) : Prop where
  beats : s.ctrl.state = .established → Overdue (HEATTBEAT_INTERVAL + 1) made.beat s.now →
    WithinHalfTurn HEATTBEAT_INTERVAL s.now (made.beat.getD ⟨0, 0⟩)
  acks : s.ackInfo.scheduleAck = true →
    (∀ time ∈ made.ack, time.micros + 1000 * (ACK_DELAY + 1) ≤ s.now.micros) →
      s.ackInfo.pushAck = true ∨ WithinHalfTurn (ACK_DELAY - 1) s.now (made.ack.getD ⟨0, 0⟩)

theorem heartbeatDue_iff {s : SocketCore} (unix : s.now.Unix) (unix' : s.lastHeartbeat.Unix)
    (established : s.ctrl.state = .established) :
    heartbeatDue s = true ↔ WithinHalfTurn HEATTBEAT_INTERVAL s.now s.lastHeartbeat := by
  unfold heartbeatDue WithinHalfTurn
  rw [← glong_gt_iff (by decide), ← umpTimeSub_eq unix unix']
  simp [established]

theorem sendsAck_iff {s : SocketCore} (unix : s.now.Unix) (unix' : s.ackInfo.lastAckT.Unix)
    (scheduled : s.ackInfo.scheduleAck = true) :
    sendsAck s = true ↔
      s.ackInfo.pushAck = true ∨ WithinHalfTurn (ACK_DELAY - 1) s.now s.ackInfo.lastAckT := by
  unfold sendsAck WithinHalfTurn
  rw [← glong_gt_iff (by decide), ← umpTimeSub_eq unix unix']
  simp only [scheduled, Bool.true_and, Bool.or_eq_true, Bool.not_eq_true', decide_eq_false_iff_not]
  have delay : ACK_DELAY = 100 := rfl
  constructor
  · rintro (push | late)
    · exact .inl push
    · exact .inr (by omega)
  · rintro (push | late)
    · exact .inl push
    · exact .inr (by omega)

/-- In every state of every run, heartbeats and acks come as the delays ask exactly when
the elapsed time has not wrapped. -/
theorem delaysKept_iff (lawful : clock.Lawful) {seq : UInt16} {events : List SockEvent}
    {state : UMPSocket Lists × Made}
    (run : ((sockMachine Lists).noting noteMade).Run (umpSockNew Lists seq clock, ⟨none, none⟩)
      events state) : DelaysKept state.1.core state.2 ↔ InTime state.1.core state.2 := by
  have remembers := remembers_of_run lawful run
  have unix : state.1.core.now.Unix := by
    rw [now_eq remembers.readings]
    exact lawful.unix _
  have beat (established : state.1.core.ctrl.state = .established) :=
    heartbeatDue_iff unix remembers.unix.1 established
  have ack (scheduled : state.1.core.ackInfo.scheduleAck = true) :=
    sendsAck_iff unix remembers.unix.2 scheduled
  rw [remembers.beat] at beat
  rw [remembers.ack] at ack
  constructor
  · intro kept
    constructor
    · intro established overdue
      exact (beat established).mp (kept.beats established overdue).1
    · intro scheduled overdue
      exact (ack scheduled).mp (kept.acks scheduled overdue).1
  · intro inTime
    constructor
    · intro established overdue
      have due := (beat established).mpr (inTime.beats established overdue)
      exact ⟨due, umpHandleSendHeartbeat_due _ due⟩
    · intro scheduled overdue
      have sends := (ack scheduled).mpr (inTime.acks scheduled overdue)
      exact ⟨sends, umpRefreshOurAckInfo_sends _ sends⟩

end Runs

/-! ### Examples -/

/-- A clock that goes on by 600 ms once, at its fifth reading. -/
def octoberClock : Clock := ⟨fun n => ⟨1698000000, if n < 4 then 0 else 600000⟩, 0⟩

theorem octoberClock_lawful : octoberClock.Lawful where
  unix := by
    intro n
    simp only [octoberClock]
    split <;> decide
  forward := by
    intro n
    simp only [octoberClock, GTimeVal.micros]
    omega

/-- One message is acknowledged, and behind it another one comes. -/
def octoberLife : List SockEvent :=
  passiveOpen 7 100 ++
    [.dataPacket (dataMessage 7), .refreshAck, .sendData, .dataPacket (dataMessage 8)]

def octoberSocket : UMPSocket GLists × Made :=
  ((sockMachine GLists).noting noteMade).after (umpSockNew GLists 100 octoberClock, ⟨none, none⟩)
    octoberLife

/-- The first heartbeat is due, and so is an ack 600 ms behind the last one. -/
theorem delaysKept_october : octoberSocket.1.core.ackInfo.scheduleAck = true ∧
    octoberSocket.2 = ⟨none, some ⟨1698000000, 0⟩⟩ ∧
      DelaysKept octoberSocket.1.core octoberSocket.2 := by
  have run : ((sockMachine GLists).noting noteMade).Run
      (umpSockNew GLists 100 octoberClock, ⟨none, none⟩) octoberLife octoberSocket :=
    Machine.runWhere_of_check (by decide +kernel)
  refine ⟨by decide +kernel, by decide +kernel, (delaysKept_iff octoberClock_lawful run).mpr ?_⟩
  exact ⟨fun _ _ => by decide +kernel, fun _ _ => .inr (by decide +kernel)⟩

/-- A connection opened at a time, before the first heartbeat. -/
def openedAt (sec : Int) : UMPSocket GLists × Made :=
  ((sockMachine GLists).noting noteMade).after
    (umpSockNew GLists 100 (.stopped ⟨sec, 0⟩), ⟨none, none⟩) (passiveOpen 7 100)

/-- Three weeks later no heartbeat comes, as the time since 1970 is negative. -/
theorem delaysKept_fails : ¬ ∀ (seq : UInt16) (clock : Clock), clock.Lawful →
    ∀ (events : List SockEvent) (state : UMPSocket GLists × Made),
      ((sockMachine GLists).noting noteMade).Run (umpSockNew GLists seq clock, ⟨none, none⟩)
        events state → DelaysKept state.1.core state.2 := by
  intro always
  have run : ((sockMachine GLists).noting noteMade).Run
      (umpSockNew GLists 100 (.stopped ⟨1700000000, 0⟩), ⟨none, none⟩) (passiveOpen 7 100)
      (openedAt 1700000000) := Machine.runWhere_of_check (by decide +kernel)
  have kept := always _ _ (Clock.stopped_lawful (by decide)) _ _ run
  have none : (openedAt 1700000000).2.beat = none := by decide +kernel
  have due := (kept.beats (by decide +kernel) (by simp [Overdue, none])).1
  revert due
  decide +kernel

end UserMessageProtocol
