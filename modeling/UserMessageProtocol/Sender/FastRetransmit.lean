import UserMessageProtocol.Sender.IndexSafety

/-!
Contract: which acks count as repeated.

Owns: the rule for duplicate acks that the comment in `ump_handle_data_ack` gives,
and that the code keeps it exactly for acks other than the one of the base.

Does not own: the windows behind a fast retransmit (`Sender.Congestion`).
-/

set_option autoImplicit false

namespace UserMessageProtocol

section Rule

variable (snd : SendSide) (ackSeq : UInt16)

/-- Transmitted data is not acknowledged yet: the base is not behind `our_data_sent`. -/
def Outstanding : Prop := ¬ umpCmpInSndbase snd snd.ourDataSeqBase snd.ourDataSent > 0

instance : Decidable (Outstanding snd) := by
  unfold Outstanding
  infer_instance

/-- The ack is counted in `ack_rep_count`. -/
def Counts : Prop := (countRepeatedAck snd ackSeq).ackRepCount = snd.ackRepCount + 1

/-- The ack passes the test for a fast retransmit. -/
def Retransmits : Prop := (countRepeatedAck snd ackSeq).ackRepCount > 1

/-- An ack is counted and rewinds the sender only while data is outstanding, and then
an ack of the base is counted and the second one starts the fast retransmit. -/
structure DuplicateAcks : Prop where
  idle : ¬ Outstanding snd → recounted snd ackSeq = snd
  lost : Outstanding snd → ackSeq = snd.ourDataSeqBase →
    Counts snd ackSeq ∧ (1 ≤ snd.ackRepCount → Retransmits snd ackSeq)

/-- The code counts the acks of the base while nothing is outstanding. -/
theorem counts_iff : Counts snd ackSeq ↔ ackSeq = snd.ourDataSeqBase ∧ ¬ Outstanding snd := by
  unfold Counts Outstanding countRepeatedAck
  rw [not_not]
  split
  · rename_i both
    exact iff_of_true rfl both
  · rename_i neither
    apply iff_of_false _ neither
    omega

/-- An ack that is not counted leaves the sender alone. -/
theorem recounted_uncounted {snd : SendSide} {ackSeq : UInt16} (few : snd.ackRepCount ≤ 1)
    (uncounted : ¬ Counts snd ackSeq) : recounted snd ackSeq = snd := by
  rw [counts_iff] at uncounted
  have same : countRepeatedAck snd ackSeq = snd := by
    apply if_neg
    intro both
    exact uncounted ⟨both.1, fun outstanding => outstanding both.2⟩
  have notMany : ¬ snd.ackRepCount > 1 := by omega
  rw [recounted, same]
  exact if_neg notMany

/-- A counted ack does not. -/
theorem recounted_counted {snd : SendSide} {ackSeq : UInt16} (nonneg : 0 ≤ snd.ackRepCount)
    (few : snd.ackRepCount ≤ 1) (counted : Counts snd ackSeq) : recounted snd ackSeq ≠ snd := by
  intro same
  unfold Counts at counted
  have count : (recounted snd ackSeq).ackRepCount = if snd.ackRepCount + 1 > 1 then 0
      else snd.ackRepCount + 1 := by
    unfold recounted fastRetransmit
    rw [counted]
    split
    · rfl
    · exact counted
  rw [same] at count
  split at count <;> omega

theorem duplicateAcks_iff {snd : SendSide} {ackSeq : UInt16} (nonneg : 0 ≤ snd.ackRepCount)
    (few : snd.ackRepCount ≤ 1) :
    DuplicateAcks snd ackSeq ↔ ackSeq ≠ snd.ourDataSeqBase := by
  constructor
  · intro rule base
    by_cases outstanding : Outstanding snd
    · have counted := (rule.lost outstanding base).1
      exact ((counts_iff snd ackSeq).mp counted).2 outstanding
    · have counted := (counts_iff snd ackSeq).mpr ⟨base, outstanding⟩
      exact recounted_counted nonneg few counted (rule.idle outstanding)
  · intro other
    have uncounted : ¬ Counts snd ackSeq := fun counted => other ((counts_iff snd ackSeq).mp counted).1
    exact ⟨fun _ => recounted_uncounted few uncounted, fun _ base => absurd base other⟩

end Rule

/-! ### The count in every run -/

/-- The count is zero or one. -/
def Few (snd : SendSide) : Prop := 0 ≤ snd.ackRepCount ∧ snd.ackRepCount ≤ 1

section Count

variable {snd : SendSide} {p : UMPPacket}

theorem recounted_few (ackSeq : UInt16) (few : Few snd) : Few (recounted snd ackSeq) := by
  rcases recounted_cases snd ackSeq with ⟨same, -⟩ | ⟨-, none, counted⟩ | ⟨-, backPoint, rewound⟩
  · rw [same]
    exact few
  · rw [counted]
    have nonneg := few.1
    constructor
    · show 0 ≤ snd.ackRepCount + 1
      omega
    · show snd.ackRepCount + 1 ≤ 1
      omega
  · rw [rewound]
    exact ⟨Int.le_refl 0, Int.zero_le_ofNat 1⟩

theorem notified_ackRepCount (now : GTimeVal) :
    (notified snd p now).ackRepCount = snd.ackRepCount := by
  rcases notified_eq snd p now with ⟨same, -⟩ | ⟨-, time, changed⟩
  · rw [same]
  · rw [changed]
    rfl

theorem endedSend_ackRepCount (ok : Bool) : (endedSend snd ok).ackRepCount = snd.ackRepCount := by
  unfold endedSend
  split <;> rfl

theorem ackStep_few {snd' : SendSide} {added : List Action} (step : AckStep snd p snd' added)
    (few : Few snd) : Few snd' := by
  cases step with
  | noAck now flag =>
      unfold Few
      rw [notified_ackRepCount]
      exact few
  | outside flag range => exact recounted_few _ few
  | old now flag range same =>
      unfold Few
      rw [notified_ackRepCount]
      exact recounted_few _ few
  | new now time fastRetran cwnd rtoCpt flag range ahead grown =>
      obtain ⟨backPoint, advanced⟩ := advanceBase_eq (recounted snd p.ackNum) p.ackNum
      have reset : (acknowledgedBy snd p now).ackRepCount = 0 := by
        rw [acknowledgedBy, notified_ackRepCount, advanced]
      have settles : (settled (acknowledgedBy snd p now) p.ackNum fastRetran cwnd time
          rtoCpt).ackRepCount = 0 := by
        rw [settled_eq]
        exact reset
      unfold Few endedByAck
      split
      · rw [endedSend_ackRepCount, settles]
        decide
      · rw [settles]
        decide

theorem sendStep_few {s : SocketCore} {after : Handshake} {event : SockEvent}
    {added : List Action} (step : SendStep s after event snd added)
    (few : Few s.snd) : Few snd := by
  cases step with
  | idle event unheard untaken => exact few
  | signal event p kind => exact few
  | probe asking => exact few
  | post data => exact few
  | refuse packets unlocked posted => exact few
  | start packets unlocked posted some established noError => exact few
  | giveUp event noData parted untaken =>
      unfold Few
      rw [endedSend_ackRepCount]
      exact few
  | syn p taken => exact few
  | transmit p locked window found =>
      rw [afterTransmit_eq]
      exact few
  | expired parted =>
      unfold Few
      rw [endedSend_ackRepCount]
      exact few
  | rewind =>
      obtain ⟨backPoint, rewound⟩ := rewindAfterTimeout_eq { s.snd with tmList := [] }
      rw [rewound]
      exact ⟨Int.le_refl 0, Int.zero_le_ofNat 1⟩
  | ack p heard snd added step => exact ackStep_few step few

end Count

section Runs

variable {Lists : Type} [ReceiveLists Lists]

theorem few_of_run {seq : UInt16} {clock : Clock} {events : List SockEvent} {u : UMPSocket Lists}
    (run : (sockMachine Lists).Run (umpSockNew Lists seq clock) events u) :
    Few u.core.snd := by
  let Holds (u : UMPSocket Lists) : Prop := Few u.core.snd
  have first : Holds (umpSockNew Lists seq clock) := ⟨Int.le_refl 0, Int.zero_le_ofNat 1⟩
  apply Machine.RunWhere.invariant run first
  · intro u event few _ _
    obtain ⟨added, step, -⟩ := send_step u event
    exact sendStep_few step few

/-- In every reachable state the rule for duplicate acks holds of an ack exactly when
it is not the one of the base. -/
theorem duplicateAcks_of_run {seq : UInt16} {clock : Clock} {events : List SockEvent}
    {u : UMPSocket Lists} (run : (sockMachine Lists).Run (umpSockNew Lists seq clock) events u)
    (ackSeq : UInt16) : DuplicateAcks u.core.snd ackSeq ↔ ackSeq ≠ u.core.snd.ourDataSeqBase :=
  duplicateAcks_iff (few_of_run run).1 (few_of_run run).2

end Runs

/-- The rule for the acks of a message whose packet is on the wire. -/
theorem duplicateAcks_oneMessage :
    let u := (sockMachine GLists).after (umpSockNew GLists 100 ⟨fun _ => ⟨0, 0⟩, 0⟩)
      (passiveOpen 7 100 ++ [.userSend [1], .handleSend, .sendData])
    DuplicateAcks u.core.snd 101 ↔ 101 ≠ u.core.snd.ourDataSeqBase :=
  duplicateAcks_of_run (Machine.runWhere_of_check (by decide)) 101

/-- A connection on which nothing was sent gets the ack of a heartbeat. -/
def idleRun : List SockEvent := passiveOpen 7 100 ++ [.dataPacket (dataAck 100 50)]

/-- The second heartbeat starts a fast retransmit on an idle connection. -/
theorem duplicateAcks_fails : ¬ ∀ (seq : UInt16) (clock : Clock) (events : List SockEvent)
    (u : UMPSocket GLists), (sockMachine GLists).Run (umpSockNew GLists seq clock) events u →
      ∀ ackSeq, DuplicateAcks u.core.snd ackSeq := by
  intro always
  have run : (sockMachine GLists).Run (umpSockNew GLists 100 ⟨fun _ => ⟨0, 0⟩, 0⟩) idleRun _ :=
    Machine.runWhere_of_check (by decide)
  have rule := always _ _ _ _ run 100
  have idle : ¬ Outstanding ((sockMachine GLists).after
      (umpSockNew GLists 100 ⟨fun _ => ⟨0, 0⟩, 0⟩) idleRun).core.snd := by decide
  have rewound : (recounted ((sockMachine GLists).after
      (umpSockNew GLists 100 ⟨fun _ => ⟨0, 0⟩, 0⟩) idleRun).core.snd 100).fastRetran = true ∧
      ((sockMachine GLists).after
        (umpSockNew GLists 100 ⟨fun _ => ⟨0, 0⟩, 0⟩) idleRun).core.snd.fastRetran = false := by
    decide
  rw [rule.idle idle] at rewound
  exact absurd (rewound.1.symm.trans rewound.2) (by decide)

end UserMessageProtocol
