import UserMessageProtocol.Sender.FireTimes
import UserMessageProtocol.Socket.Stamps

/-!
Contract: the first timer stands for all.

Owns: when a look at the head of the timer list answers for the whole list
(`HeadSuffices`), the condition under which timers are registered in the order
they fire (`registersInOrder`), and that the list is ordered in such runs
(`Ordered`).

Does not own: the delay of a single timer (`Sender.FireTimes`).
-/

set_option autoImplicit false

namespace UserMessageProtocol

/-! ### The list as a whole -/

/-- What `get_next_timeout` and `tm_get_next_event` find at the head is right for
the whole list: a timeout is reported, and empties the list, exactly when some entry
fired, and the next event is the earliest of all. -/
structure HeadSuffices (tl : List TmEntry) (now : GTimeVal) : Prop where
  fires : getNextTimeout tl now = true ↔ ∃ entry ∈ tl, elapsedMs entry.fireTime now ≤ 0
  empties : ∀ s : SocketCore, s.snd.tmList = tl → s.now = now →
    (umpHandleDataTimeout s).snd.tmList = if getNextTimeout tl now then [] else tl
  earliest : ∀ entry ∈ tl, tmGetNextEvent tl now ≤ max (elapsedMs entry.fireTime now) 0
  attained : tl ≠ [] → ∃ entry ∈ tl, tmGetNextEvent tl now = max (elapsedMs entry.fireTime now) 0

/-- An entry as `tm_register_packet` makes it without overflow. -/
structure Timed (clock : Clock) (entry : TmEntry) : Prop where
  shown : ∃ n, n < clock.ticks ∧ clock.readings n = entry.regTime
  fires : entry.fireTime.Unix
  soon : entry.fireTime.micros ≤ entry.regTime.micros + 2147483648

/-- The entries stand in the order in which they fire. -/
structure Ordered (clock : Clock) (tl : List TmEntry) : Prop where
  timed : ∀ entry ∈ tl, Timed clock entry
  sorted : tl.Pairwise fun first second => first.fireTime.micros ≤ second.fireTime.micros

theorem umpHandleDataTimeout_tmList (s : SocketCore) :
    (umpHandleDataTimeout s).snd.tmList =
      if getNextTimeout s.snd.tmList s.now then [] else s.snd.tmList := by
  unfold umpHandleDataTimeout
  split
  · rename_i empty
    rw [empty]
    rfl
  · dsimp only
    split
    · split
      · have parted (t : SocketCore) : (umpConnectionErrorOccured t).snd.tmList = t.snd.tmList := by
          simp [umpConnectionErrorOccured, endedSend_tmList]
        rw [parted, umpEndSend_snd, endedSend_tmList]
      · obtain ⟨backPoint, rewound⟩ := rewindAfterTimeout_eq { s.snd with tmList := [] }
        exact congrArg SendSide.tmList rewound
    · rfl

/-- In an ordered list the first entry fires first, at every time the timers have not
been overdue for more than 31 bits of milliseconds. -/
theorem Ordered.headSuffices {clock : Clock} {tl : List TmEntry} (ordered : Ordered clock tl)
    {now : GTimeVal} (unix : now.Unix)
    (past : ∀ n, n < clock.ticks → (clock.readings n).micros ≤ now.micros)
    (fresh : ∀ entry ∈ tl, now.micros - entry.fireTime.micros ≤ 2147483647000) :
    HeadSuffices tl now := by
  have exact' : ∀ entry ∈ tl, umpTimeSub entry.fireTime now = elapsedMs entry.fireTime now := by
    intro entry member
    obtain ⟨⟨n, made, shown⟩, fires, soon⟩ := ordered.timed entry member
    have registered := past n made
    have overdue := fresh entry member
    have bounds := elapsedMs_bounds entry.fireTime now
    rw [shown] at registered
    exact umpTimeSub_exact fires unix (by omega) (by omega)
  cases tl with
  | nil =>
      refine ⟨by simp [getNextTimeout], ?_, by simp, by simp⟩
      intro s list _
      rw [umpHandleDataTimeout_tmList, list]
      rfl
  | cons first rest =>
      have head := exact' first List.mem_cons_self
      have least : ∀ entry ∈ first :: rest,
          elapsedMs first.fireTime now ≤ elapsedMs entry.fireTime now := by
        intro entry member
        rcases List.mem_cons.mp member with rfl | behind
        · exact Int.le_refl _
        · exact elapsedMs_mono (ordered.timed first List.mem_cons_self).fires
            (ordered.timed entry member).fires (List.rel_of_pairwise_cons ordered.sorted behind)
      refine ⟨?_, ?_, ?_, ?_⟩
      · simp only [getNextTimeout, head, Bool.not_eq_true', decide_eq_false_iff_not, Int.not_lt]
        constructor
        · intro fired
          exact ⟨first, List.mem_cons_self, by omega⟩
        · intro ⟨entry, member, fired⟩
          have := least entry member
          omega
      · intro s list time
        rw [umpHandleDataTimeout_tmList, list, time]
      · intro entry member
        have := least entry member
        simp only [tmGetNextEvent, head]
        omega
      · intro _
        refine ⟨first, List.mem_cons_self, ?_⟩
        simp only [tmGetNextEvent, head]

/-! ### Steps -/

/-- A packet that is transmitted now fires no earlier than the timers that run
already, and its delay does not overflow. -/
def registersInOrder {Lists : Type} (u : UMPSocket Lists) (event : SockEvent) : Prop :=
  event = .sendData → u.core.snd.sndLocked = .locked →
    u.core.snd.ourDataPos < u.core.snd.ourWndPos →
      0 < fullDelay u.core.snd ∧ fullDelay u.core.snd < 2147483648 ∧
        u.core.now.micros + fullDelay u.core.snd < 2147483648000000 ∧
        ∀ entry ∈ u.core.snd.tmList,
          entry.fireTime.micros ≤ u.core.now.micros + fullDelay u.core.snd

instance {Lists : Type} (u : UMPSocket Lists) (event : SockEvent) :
    Decidable (registersInOrder u event) := by
  unfold registersInOrder
  infer_instance

theorem tmAckPacket_suffix (tl : List TmEntry) (seq upperBoundSeq : UInt16) :
    (tmAckPacket tl seq upperBoundSeq).2 <:+ tl := by
  have loop (tl : List TmEntry) : (tmAckLoop seq tl).2 <:+ tl := by
    induction tl with
    | nil => exact List.suffix_refl _
    | cons entry rest inductionHypothesis =>
        unfold tmAckLoop
        split
        · exact List.suffix_cons entry rest
        · exact inductionHypothesis.trans (List.suffix_cons entry rest)
  cases tl with
  | nil => exact List.suffix_refl _
  | cons first rest =>
      simp only [tmAckPacket]
      split
      · exact loop _
      · exact List.suffix_refl _

/-- Acks only remove timers, from the front. -/
theorem ackStep_tmList {snd snd' : SendSide} {p : UMPPacket} {added : List Action}
    (step : AckStep snd p snd' added) : snd'.tmList <:+ snd.tmList := by
  have recounts : (recounted snd p.ackNum).tmList <:+ snd.tmList := by
    rcases recounted_cases snd p.ackNum with ⟨same, -⟩ | ⟨-, -, counted⟩ | ⟨-, _, rewound⟩
    · exact same.symm ▸ List.suffix_refl _
    · exact counted.symm ▸ List.suffix_refl _
    · rw [rewound]
      exact List.nil_suffix
  have notifies (snd : SendSide) (now : GTimeVal) : (notified snd p now).tmList = snd.tmList := by
    rcases notified_eq snd p now with ⟨same, -⟩ | ⟨-, time, changed⟩
    · rw [same]
    · rw [changed]
      rfl
  cases step with
  | noAck now flag => exact (notifies snd now).symm ▸ List.suffix_refl _
  | outside flag range => exact recounts
  | old now flag range same =>
      rw [notifies]
      exact recounts
  | new now time fastRetran cwnd rtoCpt flag range ahead grown =>
      have ended (snd : SendSide) : (endedByAck snd p.ackNum).tmList = snd.tmList := by
        unfold endedByAck
        split
        · exact endedSend_tmList snd true
        · rfl
      obtain ⟨backPoint, advanced⟩ := advanceBase_eq (recounted snd p.ackNum) p.ackNum
      have before : (acknowledgedBy snd p now).tmList = (recounted snd p.ackNum).tmList := by
        unfold acknowledgedBy
        rw [notifies, advanced]
      rw [ended, settled_eq]
      have left := tmAckPacket_suffix (acknowledgedBy snd p now).tmList p.ackNum
        (acknowledgedBy snd p now).ourDataSent
      exact left.trans (before ▸ recounts)

/-- Timers are registered by transmission alone. -/
theorem sendStep_tmList {s : SocketCore} {after : Handshake} {event : SockEvent}
    {snd : SendSide} {added : List Action} (step : SendStep s after event snd added) :
    snd.tmList <:+ s.snd.tmList ∨
      (event = .sendData ∧ s.snd.sndLocked = .locked ∧ s.snd.ourDataPos < s.snd.ourWndPos ∧
        ∃ p : UMPPacket, packetAt s.snd s.snd.ourDataPos = some p ∧
          snd.tmList = tmRegisterPacket s.snd.tmList p.seqNum (packetTimeout s.snd) s.now) := by
  cases step with
  | idle event unheard untaken => exact .inl (List.suffix_refl _)
  | signal event p kind => exact .inl (List.suffix_refl _)
  | probe asking => exact .inl (List.suffix_refl _)
  | post data => exact .inl (List.suffix_refl _)
  | refuse packets unlocked posted => exact .inl (List.suffix_refl _)
  | start packets unlocked posted some established noError => exact .inl (List.suffix_refl _)
  | giveUp event noData parted untaken =>
      rw [endedSend_tmList]
      exact .inl (List.suffix_refl _)
  | syn p taken => exact .inl (List.suffix_refl _)
  | transmit p locked window found =>
      rw [afterTransmit_eq, outgoingPacket_seqNum]
      exact .inr ⟨rfl, locked, window, p, found, rfl⟩
  | expired parted =>
      rw [endedSend_tmList]
      exact .inl List.nil_suffix
  | rewind =>
      obtain ⟨backPoint, rewound⟩ := rewindAfterTimeout_eq { s.snd with tmList := [] }
      rw [rewound]
      exact .inl List.nil_suffix
  | ack p heard snd added step => exact .inl (ackStep_tmList step)

theorem Ordered.suffix {clock : Clock} {tl left : List TmEntry} (ordered : Ordered clock tl)
    (suffix : left <:+ tl) : Ordered clock left where
  timed := fun entry member => ordered.timed entry (suffix.mem member)
  sorted := ordered.sorted.sublist suffix.sublist

/-- Later readings leave the timers as they are. -/
theorem Ordered.clock {clock later : Clock} {tl : List TmEntry} (ordered : Ordered clock tl)
    (same : later.readings = clock.readings) (more : clock.ticks ≤ later.ticks) :
    Ordered later tl where
  timed := by
    intro entry member
    obtain ⟨⟨n, made, shown⟩, fires, soon⟩ := ordered.timed entry member
    refine ⟨⟨n, by omega, ?_⟩, fires, soon⟩
    rw [same]
    exact shown
  sorted := ordered.sorted

theorem ordered_register {clock : Clock} {snd : SendSide} (ordered : Ordered clock snd.tmList)
    (unix : clock.now.Unix) (positive : 0 < fullDelay snd) (fits : fullDelay snd < 2147483648)
    (late : clock.now.micros + fullDelay snd < 2147483648000000)
    (last : ∀ entry ∈ snd.tmList,
      entry.fireTime.micros ≤ clock.now.micros + fullDelay snd) (seq : UInt16) :
    Ordered clock.tick (tmRegisterPacket snd.tmList seq (packetTimeout snd) clock.now) := by
  have timeout : 1000 * packetTimeout snd = fullDelay snd := packetTimeout_eq positive (by omega)
  have sum : (gTimeValAdd clock.now (glong (fullDelay snd))).micros =
      clock.now.micros + fullDelay snd :=
    (fireTime_micros_iff unix positive (by omega)).mpr ⟨fits, late⟩
  have usec := gTimeValAdd_usec clock.now unix (glong (fullDelay snd))
  have started := unix.started
  have some := unix.usec
  have before : Ordered clock.tick snd.tmList := ordered.clock rfl (Nat.le_add_right _ 1)
  unfold tmRegisterPacket
  rw [timeout]
  generalize gTimeValAdd clock.now (glong (fullDelay snd)) = fireTime at sum usec
  have fires : fireTime.Unix := by
    unfold GTimeVal.micros at sum late
    exact ⟨by omega, by omega, usec.1, usec.2⟩
  constructor
  · intro entry member
    rcases List.mem_append.mp member with old | new
    · exact before.timed entry old
    · obtain rfl := List.mem_singleton.mp new
      exact ⟨⟨clock.ticks, Nat.lt_succ_self _, rfl⟩, fires, by dsimp only; omega⟩
  · rw [List.pairwise_append]
    refine ⟨before.sorted, List.pairwise_singleton _ _, ?_⟩
    intro entry member new isNew
    obtain rfl := List.mem_singleton.mp isNew
    dsimp only
    rw [sum]
    exact last entry member

section Runs

variable {Lists : Type} [ReceiveLists Lists]

theorem ordered_step {u : UMPSocket Lists} {event : SockEvent}
    (ordered : Ordered u.core.clock u.core.snd.tmList)
    (unix : ∀ n, (u.core.clock.readings n).Unix) (inOrder : registersInOrder u event) :
    Ordered (sockStep u event).core.clock (sockStep u event).core.snd.tmList := by
  obtain ⟨same, more⟩ := stampStep_clock (stamps_step u event)
  obtain ⟨added, step, -⟩ := send_step u event
  rcases sendStep_tmList step with fewer | ⟨rfl, locked, window, p, found, registered⟩
  · exact (ordered.suffix fewer).clock same more
  · obtain ⟨positive, fits, late, last⟩ := inOrder rfl locked window
    have ticked : (sockStep u .sendData).core.clock = u.core.clock.tick := by
      show (umpHandleSendData u.core).clock = _
      unfold umpHandleSendData
      rw [locked]
      dsimp only
      unfold umpSndlockedHandleSendData
      rw [if_pos window, found]
      rfl
    rw [registered, ticked]
    exact ordered_register ordered (unix _) positive fits late last p.seqNum

/-- In every run in which timers are registered in the order they fire, the head of
the list answers for all timers, at every time from the last reading on. -/
theorem headSuffices_of_run {seq : UInt16} {clock : Clock} (lawful : clock.Lawful)
    {events : List SockEvent} {u : UMPSocket Lists}
    (run : (sockMachine Lists).RunWhere registersInOrder (umpSockNew Lists seq clock) events u)
    (now : GTimeVal) (unix : now.Unix)
    (past : ∀ n, n < u.core.clock.ticks → (clock.readings n).micros ≤ now.micros)
    (fresh : ∀ entry ∈ u.core.snd.tmList,
      now.micros - entry.fireTime.micros ≤ 2147483647000) :
    HeadSuffices u.core.snd.tmList now := by
  let Holds (u : UMPSocket Lists) : Prop :=
    u.core.clock.readings = clock.readings ∧ Ordered u.core.clock u.core.snd.tmList
  have first : Holds (umpSockNew Lists seq clock) := ⟨rfl, ⟨by simp [umpSockNew, umpSockNewCore],
    by simp [umpSockNew, umpSockNewCore]⟩⟩
  have all : Holds u := by
    apply run.invariant first
    intro u event before _ inOrder
    obtain ⟨same, ordered⟩ := before
    have unix : ∀ n, (u.core.clock.readings n).Unix := by
      rw [same]
      exact lawful.unix
    exact ⟨(stampStep_clock (stamps_step u event)).1.trans same, ordered_step ordered unix inOrder⟩
  obtain ⟨same, ordered⟩ := all
  apply ordered.headSuffices unix _ fresh
  rw [same]
  exact past

end Runs

/-! ### Examples -/

/-- A connection whose one packet is sent. -/
def sentRun : List SockEvent := narrowOpen ++ [.userSend [1], .handleSend, .sendData]

def sentSocket : UMPSocket GLists :=
  (sockMachine GLists).after (umpSockNew GLists 100 novemberClock) sentRun

theorem headSuffices_onePacket : HeadSuffices sentSocket.core.snd.tmList ⟨1700000005, 0⟩ := by
  have run : (sockMachine GLists).RunWhere registersInOrder (umpSockNew GLists 100 novemberClock)
      sentRun sentSocket := Machine.runWhere_of_check (by decide +kernel)
  apply headSuffices_of_run (Clock.stopped_lawful (by decide)) run
  · decide
  · intro n _
    show GTimeVal.micros ⟨1700000000, 0⟩ ≤ _
    decide
  · decide +kernel

/-- Two heartbeats of the peer, and a message of four packets: three are sent, two of
them acknowledged, and the last one is sent. -/
def tailRun : List SockEvent :=
  narrowOpen ++ List.replicate 2 (.dataPacket (dataAck 100 50)) ++
    [.userSend [1, 2, 3, 4], .handleSend, .sendData, .sendData, .sendData,
      .dataPacket (dataAck 102 50), .sendData]

def tailSocket : UMPSocket GLists :=
  (sockMachine GLists).after (umpSockNew GLists 100 novemberClock) tailRun

/-- The packet sent with less of the window left and a smaller RTO fires half a minute
before the one at the head, and nobody looks at it. -/
theorem headSuffices_fails : ¬ ∀ (seq : UInt16) (clock : Clock), clock.Lawful →
    ∀ (events : List SockEvent) (u : UMPSocket GLists),
      (sockMachine GLists).Run (umpSockNew GLists seq clock) events u →
        ∀ now : GTimeVal, now.Unix →
          (∀ n, n < u.core.clock.ticks → (clock.readings n).micros ≤ now.micros) →
            HeadSuffices u.core.snd.tmList now := by
  intro always
  have run : (sockMachine GLists).Run (umpSockNew GLists 100 novemberClock) tailRun tailSocket :=
    Machine.runWhere_of_check (by decide +kernel)
  have past : ∀ n, n < tailSocket.core.clock.ticks →
      (novemberClock.readings n).micros ≤ GTimeVal.micros ⟨1700000030, 0⟩ := by
    intro n _
    show GTimeVal.micros ⟨1700000000, 0⟩ ≤ _
    decide
  have suffices' := always 100 novemberClock (Clock.stopped_lawful (by decide)) tailRun tailSocket run
    ⟨1700000030, 0⟩ (by decide) past
  have timers : tailSocket.core.snd.tmList =
      [⟨102, ⟨1700000000, 0⟩, ⟨1700000060, 0⟩⟩, ⟨103, ⟨1700000000, 0⟩, ⟨1700000027, 168000⟩⟩] := by
    decide +kernel
  rw [timers] at suffices'
  have expired := suffices'.fires.mpr ⟨_, List.mem_cons_of_mem _ List.mem_cons_self, by decide⟩
  exact absurd expired (by decide)

end UserMessageProtocol
