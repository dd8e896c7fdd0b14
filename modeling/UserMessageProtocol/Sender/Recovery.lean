import UserMessageProtocol.Sender.Congestion
import UserMessageProtocol.Sender.FastRetransmit

/-!
Contract: what a loss leaves of the congestion window.

Owns: how an event moves window, threshold and `fast_retran` (`WindowStep`), what is
noted of losses along a run (`Losses`), and when recovery leaves the sender with no
more than it had.

Does not own: that window and threshold stay positive (`Sender.Congestion`).
-/

set_option autoImplicit false

namespace UserMessageProtocol

/-! ### The window under acks -/

/-- `our_cwnd`, `our_ssthresh` and `fast_retran`. -/
structure CwndFields where
  cwnd : UInt16
  ssthresh : UInt16
  fastRetran : Bool
deriving DecidableEq, Repr

def SendSide.cwndFields (snd : SendSide) : CwndFields := ⟨snd.ourCwnd, snd.ourSsthresh, snd.fastRetran⟩

/-- What an ack can do to the window; `enters` says whether it starts a fast
retransmit. -/
inductive WindowStep (w : CwndFields) (enters : Prop) : CwndFields → Prop where
  | keep (other : ¬ enters) : WindowStep w enters w
  | enter (starts : enters) (cwnd : UInt16) :
      WindowStep w enters { w with cwnd := cwnd, fastRetran := true }
  | recover (other : ¬ enters) (recovering : w.fastRetran = true) :
      WindowStep w enters { w with cwnd := max w.ssthresh 1, fastRetran := false }
  | slowStart (other : ¬ enters) (steady : w.fastRetran = false) (below : w.cwnd < w.ssthresh) :
      WindowStep w enters { w with cwnd := increaseCwnd w.cwnd }
  | avoid (other : ¬ enters) (steady : w.fastRetran = false) (above : ¬ w.cwnd < w.ssthresh) :
      WindowStep w enters { w with cwnd := increaseCwnd w.cwnd }

section Stages

variable (s : SocketCore) (snd : SendSide) (p : UMPPacket) (ackSeq : UInt16)

theorem endedSend_cwndFields (ok : Bool) : (endedSend snd ok).cwndFields = snd.cwndFields := by
  unfold endedSend
  split <;> rfl

theorem notified_cwndFields (now : GTimeVal) :
    (notified snd p now).cwndFields = snd.cwndFields := by
  rcases notified_eq snd p now with ⟨same, -⟩ | ⟨-, time, changed⟩
  · rw [same]
  · rw [changed]
    rfl

theorem refreshCwnd_window {enters : Prop} (other : ¬ enters) :
    WindowStep s.snd.cwndFields enters (refreshCwnd s).snd.cwndFields := by
  unfold refreshCwnd
  split
  · rename_i recovering
    exact .recover other recovering
  · rename_i steady
    split
    · rename_i below
      exact .slowStart other ((Bool.not_eq_true _).mp steady) below
    · rename_i above
      dsimp only
      split
      · exact .avoid other ((Bool.not_eq_true _).mp steady) above
      · exact .keep other

/-- Behind the window nothing of it changes. -/
theorem finishAck_cwndFields :
    (finishAck s ackSeq).snd.cwndFields = (refreshCwnd s).snd.cwndFields := by
  have skipped : (skipAcknowledged (refreshCwnd s).snd).cwndFields =
      (refreshCwnd s).snd.cwndFields := by
    unfold skipAcknowledged
    split <;> rfl
  obtain ⟨rtoCpt, acknowledged⟩ := acknowledgeTimers_snd
    { refreshCwnd s with snd := skipAcknowledged (refreshCwnd s).snd } ackSeq
  have settled : (acknowledgeTimers
      { refreshCwnd s with snd := skipAcknowledged (refreshCwnd s).snd } ackSeq).snd.cwndFields =
      (refreshCwnd s).snd.cwndFields := by
    rw [acknowledged]
    exact skipped
  unfold finishAck
  dsimp only
  split
  · rw [umpEndSend_snd, endedSend_cwndFields]
    exact settled
  · exact settled

/-- A fast retransmit is started by an ack of the base alone. -/
theorem retransmits_base {snd : SendSide} {ackSeq : UInt16} (few : Few snd)
    (retransmits : Retransmits snd ackSeq) : ackSeq = snd.ourDataSeqBase := by
  unfold Retransmits countRepeatedAck at retransmits
  split at retransmits
  · rename_i repeated
    exact repeated.1
  · have := few.2
    omega

theorem recounted_steady (steady : ¬ Retransmits snd ackSeq) :
    (recounted snd ackSeq).cwndFields = snd.cwndFields := by
  have counted : (countRepeatedAck snd ackSeq).cwndFields = snd.cwndFields := by
    unfold countRepeatedAck
    split <;> rfl
  have few : ¬ (countRepeatedAck snd ackSeq).ackRepCount > 1 := steady
  unfold recounted fastRetransmit
  rw [if_neg few, counted]

theorem recounted_entered (many : Retransmits snd ackSeq) : ∃ cwnd,
    (recounted snd ackSeq).cwndFields =
      { snd.cwndFields with cwnd := cwnd, fastRetran := true } := by
  have counted : (countRepeatedAck snd ackSeq).ourSsthresh = snd.ourSsthresh := by
    unfold countRepeatedAck
    split <;> rfl
  obtain ⟨backPoint, refreshed⟩ := umpRefreshBackPoint_eq (countRepeatedAck snd ackSeq)
    (umpRelativeToSeqViaSndstartseq (countRepeatedAck snd ackSeq)
      (countRepeatedAck snd ackSeq).ourDataPos)
  have counts : (countRepeatedAck snd ackSeq).ackRepCount > 1 := many
  unfold recounted fastRetransmit
  rw [if_pos counts]
  dsimp only
  rw [refreshed]
  refine ⟨UInt16.ofNat (max ((countRepeatedAck snd ackSeq).ourSsthresh.toNat + 3) 1), ?_⟩
  exact congrArg (CwndFields.mk _ · true) counted

/-- An ack starts a fast retransmit, or recovers from one, or lets the window grow. -/
theorem umpHandleDataAck_window {s : SocketCore} (few : Few s.snd) :
    WindowStep s.snd.cwndFields (uPacketGetFlag p UP_DATA_ACK ∧ Retransmits s.snd p.ackNum)
      (umpHandleDataAck s p).snd.cwndFields := by
  unfold umpHandleDataAck
  split
  · rename_i flag
    dsimp only
    by_cases enters : Retransmits s.snd p.ackNum
    · obtain ⟨cwnd, entered⟩ := recounted_entered s.snd p.ackNum enters
      have step : WindowStep s.snd.cwndFields
          (uPacketGetFlag p UP_DATA_ACK ∧ Retransmits s.snd p.ackNum)
          (recounted s.snd p.ackNum).cwndFields := by
        rw [entered]
        exact .enter ⟨flag, enters⟩ cwnd
      have old : ¬ ackDiff (recounted s.snd p.ackNum) p.ackNum > 0 := by
        rw [ackDiff_recounted, retransmits_base few enters, Serial.offset_self]
        decide
      split
      · split
        · rename_i ahead
          exact absurd ahead old
        · rw [umpHandleWndNotify_snd, notified_cwndFields]
          exact step
      · exact step
    · have same := recounted_steady s.snd p.ackNum enters
      have other : ¬ (uPacketGetFlag p UP_DATA_ACK ∧ Retransmits s.snd p.ackNum) :=
        fun both => enters both.2
      split
      · split
        · rw [finishAck_cwndFields]
          have step := refreshCwnd_window (umpHandleWndNotify
            { s with snd := advanceBase (recounted s.snd p.ackNum) p.ackNum } p) other
          obtain ⟨backPoint, advanced⟩ := advanceBase_eq (recounted s.snd p.ackNum) p.ackNum
          have before : (umpHandleWndNotify
              { s with snd := advanceBase (recounted s.snd p.ackNum) p.ackNum } p).snd.cwndFields =
              s.snd.cwndFields := by
            rw [umpHandleWndNotify_snd, notified_cwndFields]
            show (advanceBase (recounted s.snd p.ackNum) p.ackNum).cwndFields = _
            rw [advanced]
            exact same
          rw [before] at step
          exact step
        · rw [umpHandleWndNotify_snd, notified_cwndFields]
          show WindowStep _ _ (recounted s.snd p.ackNum).cwndFields
          rw [same]
          exact .keep other
      · show WindowStep _ _ (recounted s.snd p.ackNum).cwndFields
        rw [same]
        exact .keep other
  · rename_i noAck
    rw [umpHandleWndNotify_snd, notified_cwndFields]
    exact .keep fun enters => noAck enters.1

end Stages

/-! ### Losses -/

/-- The window and the threshold when fast retransmit was entered. -/
structure Entry where
  window : UInt16
  threshold : UInt16
deriving DecidableEq, Repr

/-- What is noted of losses: the entries into the recovery that goes on, and the
window at the last timeout. -/
structure Losses where
  entries : List Entry
  expired : Option UInt16
deriving DecidableEq, Repr

instance (snd : SendSide) (ackSeq : UInt16) : Decidable (Retransmits snd ackSeq) := by
  unfold Retransmits
  infer_instance

section Losses

variable {Lists : Type}

/-- The event starts a fast retransmit. -/
def entersRecovery (u : UMPSocket Lists) (event : SockEvent) : Bool :=
  match event with
  | .dataPacket p =>
      u.core.ctrl.state != .connecting && uPacketGetFlag p UP_DATA_ACK &&
        decide (Retransmits u.core.snd p.ackNum)
  | _ => false

/-- A timer fires, and the connection goes on. -/
def timesOut (u : UMPSocket Lists) (event : SockEvent) : Bool :=
  event = .dataTimeout && getNextTimeout u.core.snd.tmList u.core.now &&
    decide (rtoGetRto u.core.snd.rtoCpt < TIMEOUT_LIMIT)

/-- What an event can do to the window. -/
inductive WindowEvent (u : UMPSocket Lists) : SockEvent → CwndFields → Prop where
  | ack (p : UMPPacket) (w : CwndFields)
      (step : WindowStep u.core.snd.cwndFields (entersRecovery u (.dataPacket p) = true) w) :
      WindowEvent u (.dataPacket p) w
  | timeout (fires : timesOut u .dataTimeout = true) :
      WindowEvent u .dataTimeout ⟨1, max (u.core.snd.ourCwnd / 2) 2, false⟩
  | keep (event : SockEvent) (noData : ∀ p, event ≠ .dataPacket p)
      (lasts : timesOut u event = false) : WindowEvent u event u.core.snd.cwndFields

theorem umpHandleDataTimeout_cwnd (u : UMPSocket Lists) :
    WindowEvent u .dataTimeout (umpHandleDataTimeout u.core).snd.cwndFields := by
  unfold umpHandleDataTimeout
  split
  · rename_i none
    exact .keep _ (by simp) (by simp [timesOut, getNextTimeout, none])
  · dsimp only
    split
    · rename_i fired
      split
      · rename_i given
        have lost (t : SocketCore) : (umpConnectionErrorOccured t).snd = endedSend t.snd false := by
          simp [umpConnectionErrorOccured]
        have limit : ¬ rtoGetRto u.core.snd.rtoCpt < TIMEOUT_LIMIT := Int.not_lt.mpr given
        rw [lost, endedSend_cwndFields, umpEndSend_snd, endedSend_cwndFields]
        exact .keep _ (by simp) (by simp [timesOut, limit])
      · rename_i goesOn
        have limit : rtoGetRto u.core.snd.rtoCpt < TIMEOUT_LIMIT := Int.not_le.mp goesOn
        obtain ⟨backPoint, rewound⟩ := rewindAfterTimeout_eq { u.core.snd with tmList := [] }
        show WindowEvent u _ (rewindAfterTimeout { u.core.snd with tmList := [] }).cwndFields
        rw [rewound]
        exact .timeout (by simp [timesOut, fired, limit])
    · rename_i notFired
      exact .keep _ (by simp) (by simp [timesOut, notFired])

variable [ReceiveLists Lists]

/-- A new ack ends the recovery. -/
def endsRecovery (u : UMPSocket Lists) (event : SockEvent) : Bool :=
  match event with
  | .dataPacket p =>
      u.core.snd.fastRetran && !(sockStep u (.dataPacket p)).core.snd.fastRetran
  | _ => false

/-- A new ack makes the window grow from below the threshold. -/
def slowStarts (u : UMPSocket Lists) (event : SockEvent) : Bool :=
  match event with
  | .dataPacket p =>
      !u.core.snd.fastRetran && !entersRecovery u (.dataPacket p) &&
        decide (u.core.snd.ourCwnd < u.core.snd.ourSsthresh) &&
        decide (u.core.snd.ourCwnd < (sockStep u (.dataPacket p)).core.snd.ourCwnd)
  | _ => false

/-- The notes behind an event. -/
def noteLosses (u : UMPSocket Lists) (event : SockEvent) (losses : Losses) : Losses :=
  if entersRecovery u event then
    { losses with entries := ⟨u.core.snd.ourCwnd, u.core.snd.ourSsthresh⟩ :: losses.entries }
  else if timesOut u event then ⟨[], some u.core.snd.ourCwnd⟩
  else if endsRecovery u event then { losses with entries := [] }
  else losses

theorem sendStep_cwndFields {s : SocketCore} {after : Handshake} {event : SockEvent}
    {snd : SendSide} {added : List Action} (step : SendStep s after event snd added)
    (noData : ∀ p, event ≠ .dataPacket p) (noTimeout : event ≠ .dataTimeout) :
    snd.cwndFields = s.snd.cwndFields := by
  cases step with
  | idle event unheard untaken => rfl
  | signal event p kind => rfl
  | probe asking => rfl
  | post data => rfl
  | refuse packets unlocked posted => rfl
  | start packets unlocked posted some established noError => rfl
  | giveUp event noData parted untaken => exact endedSend_cwndFields _ _
  | syn p taken => rfl
  | transmit p locked window found =>
      rw [afterTransmit_eq]
      rfl
  | expired parted => exact absurd rfl noTimeout
  | rewind => exact absurd rfl noTimeout
  | ack p heard snd added step => exact absurd rfl (noData p)

theorem window_step {u : UMPSocket Lists} (few : Few u.core.snd) (event : SockEvent) :
    WindowEvent u event (sockStep u event).core.snd.cwndFields := by
  by_cases data : ∃ p, event = .dataPacket p
  · obtain ⟨p, rfl⟩ := data
    apply WindowEvent.ack
    obtain ⟨ackInfo, sent⟩ := umpHandleDataPacket_snd u p
    show WindowStep _ _ (umpHandleDataPacket u p).core.snd.cwndFields
    rw [sent]
    split
    · rename_i connecting
      exact .keep (by simp [entersRecovery, connecting])
    · rename_i heard
      have step : WindowStep u.core.snd.cwndFields
          (uPacketGetFlag p UP_DATA_ACK ∧ Retransmits u.core.snd p.ackNum) _ :=
        umpHandleDataAck_window p (s := { u.core with ackInfo := ackInfo }) few
      have same : (entersRecovery u (.dataPacket p) = true) =
          (uPacketGetFlag p UP_DATA_ACK ∧ Retransmits u.core.snd p.ackNum) := by
        simp [entersRecovery, heard]
      rw [same]
      exact step
  · have noData (p : UMPPacket) : event ≠ .dataPacket p := fun arrived => data ⟨p, arrived⟩
    by_cases timeout : event = .dataTimeout
    · rw [timeout]
      exact umpHandleDataTimeout_cwnd u
    · obtain ⟨added, step, -⟩ := send_step u event
      rw [sendStep_cwndFields step noData timeout]
      exact .keep event noData (by simp [timesOut, timeout])

/-- What is noted fits the sender: recovery keeps the threshold it was entered with, and
a timeout leaves half of its window as the threshold. -/
structure Noted (u : UMPSocket Lists) (losses : Losses) : Prop where
  few : Few u.core.snd
  entered : ∀ entry ∈ losses.entries, entry.threshold = u.core.snd.ourSsthresh
  halved : ∀ window ∈ losses.expired, u.core.snd.ourSsthresh = max (window / 2) 2

theorem WindowStep.ssthresh {w w' : CwndFields} {enters : Prop} (step : WindowStep w enters w') :
    w'.ssthresh = w.ssthresh := by
  cases step <;> rfl

theorem noted_step {u : UMPSocket Lists} {losses : Losses} (noted : Noted u losses)
    (event : SockEvent) : Noted (sockStep u event) (noteLosses u event losses) := by
  have few : Few (sockStep u event).core.snd := by
    obtain ⟨added, step, -⟩ := send_step u event
    exact sendStep_few step noted.few
  have moves := window_step noted.few event
  have after : (sockStep u event).core.snd.ourSsthresh =
      (sockStep u event).core.snd.cwndFields.ssthresh := rfl
  generalize (sockStep u event).core.snd.cwndFields = w at moves after
  unfold noteLosses
  cases moves with
  | ack p w step =>
      have same : (sockStep u (.dataPacket p)).core.snd.ourSsthresh = u.core.snd.ourSsthresh :=
        after.trans step.ssthresh
      have lasts : timesOut u (.dataPacket p) = false := by simp [timesOut]
      rw [lasts]
      have entered : ∀ entry ∈ losses.entries,
          entry.threshold = (sockStep u (.dataPacket p)).core.snd.ourSsthresh := by
        intro entry member
        rw [same]
        exact noted.entered entry member
      have halved : ∀ window ∈ losses.expired,
          (sockStep u (.dataPacket p)).core.snd.ourSsthresh = max (window / 2) 2 := by
        intro window expired
        rw [same]
        exact noted.halved window expired
      split
      · refine ⟨few, ?_, halved⟩
        intro entry member
        rcases List.mem_cons.mp member with rfl | before
        · exact same.symm
        · exact entered entry before
      · split
        · rename_i absurd'
          exact absurd absurd' (by decide)
        · split
          · exact ⟨few, by simp, halved⟩
          · exact ⟨few, entered, halved⟩
  | timeout fires =>
      rw [fires]
      refine ⟨few, by simp [entersRecovery], ?_⟩
      intro window expired
      obtain rfl := Option.some.inj (Option.mem_def.mp expired)
      exact after
  | keep event noData lasts =>
      have none : entersRecovery u event = false ∧ endsRecovery u event = false := by
        cases event with
        | dataPacket p => exact absurd rfl (noData p)
        | _ => exact ⟨rfl, rfl⟩
      rw [none.1, none.2, lasts]
      refine ⟨few, ?_, ?_⟩
      · intro entry member
        exact (noted.entered entry member).trans after.symm
      · intro window expired
        exact after.trans (noted.halved window expired)

theorem noted_of_run {seq : UInt16} {clock : Clock} {events : List SockEvent}
    {state : UMPSocket Lists × Losses}
    (run : ((sockMachine Lists).noting noteLosses).Run (umpSockNew Lists seq clock, ⟨[], none⟩)
      events state) : Noted state.1 state.2 := by
  let Holds (state : UMPSocket Lists × Losses) : Prop := Noted state.1 state.2
  have first : Holds (umpSockNew Lists seq clock, ⟨[], none⟩) :=
    ⟨⟨Int.le_refl 0, Int.zero_le_ofNat 1⟩, by simp, by simp⟩
  apply Machine.RunWhere.invariant run first
  intro state event noted _ _
  exact noted_step noted event

/-! ### Behind a loss -/

/-- The ack that ends a recovery leaves a window of at most what there was when it was
entered, or two. -/
def RecoveryShrinks (u : UMPSocket Lists) (losses : Losses) (event : SockEvent) : Prop :=
  endsRecovery u event = true → ∀ entry ∈ losses.entries,
    (sockStep u event).core.snd.ourCwnd ≤ max entry.window 2

/-- Slow start ends at half of the window of the last timeout, or two. -/
def SlowStartBounded (u : UMPSocket Lists) (losses : Losses) (event : SockEvent) : Prop :=
  slowStarts u event = true → ∀ window ∈ losses.expired,
    (sockStep u event).core.snd.ourCwnd ≤ max (window / 2) 2

theorem toNat_max (a b : UInt16) : (max a b).toNat = max a.toNat b.toNat := by
  show (if a ≤ b then b else a).toNat = _
  simp only [UInt16.le_iff_toNat_le]
  split <;> omega

/-- A window that grew in slow start is at most the threshold. -/
theorem slowStart_bounded {u : UMPSocket Lists} (few : Few u.core.snd) {event : SockEvent}
    (grows : slowStarts u event = true) :
    (sockStep u event).core.snd.ourCwnd ≤ u.core.snd.ourSsthresh := by
  cases event with
  | dataPacket p =>
      simp only [slowStarts, Bool.and_eq_true, Bool.not_eq_true', decide_eq_true_eq] at grows
      obtain ⟨⟨⟨steady, other⟩, below⟩, more⟩ := grows
      have moves := window_step few (.dataPacket p)
      have after : (sockStep u (.dataPacket p)).core.snd.ourCwnd =
          (sockStep u (.dataPacket p)).core.snd.cwndFields.cwnd := rfl
      rw [after] at more ⊢
      generalize (sockStep u (.dataPacket p)).core.snd.cwndFields = w at moves more
      cases moves with
      | ack p w step =>
          cases step with
          | keep other => exact absurd more (UInt16.lt_irrefl _)
          | enter starts cwnd => exact absurd (starts.symm.trans other) (by decide)
          | recover other recovering => exact absurd (recovering.symm.trans steady) (by decide)
          | slowStart other steady below =>
              have limit := u.core.snd.ourSsthresh.toNat_lt
              have less := UInt16.lt_iff_toNat_lt.mp below
              show increaseCwnd u.core.snd.ourCwnd ≤ u.core.snd.ourSsthresh
              have less : u.core.snd.ourCwnd.toNat < u.core.snd.ourSsthresh.toNat := less
              apply UInt16.le_iff_toNat_le.mpr
              rw [increaseCwnd, UInt16.toNat_ofNat']
              omega
          | avoid other steady above => exact absurd below above
      | keep event noData lasts => exact absurd rfl (noData p)
  | _ => simp [slowStarts] at grows

/-- The window behind a recovery is the threshold. -/
theorem recovered_window {u : UMPSocket Lists} (few : Few u.core.snd) {event : SockEvent}
    (ends : endsRecovery u event = true) :
    (sockStep u event).core.snd.ourCwnd = max u.core.snd.ourSsthresh 1 := by
  cases event with
  | dataPacket p =>
      simp only [endsRecovery, Bool.and_eq_true, Bool.not_eq_true'] at ends
      obtain ⟨recovering, ended⟩ := ends
      have moves := window_step few (.dataPacket p)
      have after : (sockStep u (.dataPacket p)).core.snd.ourCwnd =
            (sockStep u (.dataPacket p)).core.snd.cwndFields.cwnd ∧
          (sockStep u (.dataPacket p)).core.snd.fastRetran =
            (sockStep u (.dataPacket p)).core.snd.cwndFields.fastRetran := ⟨rfl, rfl⟩
      rw [after.2] at ended
      rw [after.1]
      generalize (sockStep u (.dataPacket p)).core.snd.cwndFields = w at moves ended
      cases moves with
      | ack p w step =>
          cases step with
          | keep other => exact absurd (recovering.symm.trans ended) (by decide)
          | enter starts cwnd => exact absurd ended (by simp)
          | recover other recovering => rfl
          | slowStart other steady below => exact absurd (recovering.symm.trans steady) (by decide)
          | avoid other steady above => exact absurd (recovering.symm.trans steady) (by decide)
      | keep event noData lasts => exact absurd rfl (noData p)
  | _ => simp [endsRecovery] at ends

/-- In every run the window behind a loss is bounded as it should be exactly when the
recovery was entered with a threshold that is at most the window, or two. -/
theorem lossShrinks_iff {seq : UInt16} {clock : Clock} {events : List SockEvent}
    {state : UMPSocket Lists × Losses}
    (run : ((sockMachine Lists).noting noteLosses).Run (umpSockNew Lists seq clock, ⟨[], none⟩)
      events state) (event : SockEvent) :
    RecoveryShrinks state.1 state.2 event ∧ SlowStartBounded state.1 state.2 event ↔
      (endsRecovery state.1 event = true →
        ∀ entry ∈ state.2.entries, entry.threshold ≤ max entry.window 2) := by
  have noted := noted_of_run run
  have slow : SlowStartBounded state.1 state.2 event := by
    intro grows window expired
    rw [← noted.halved window expired]
    exact slowStart_bounded noted.few grows
  have same (ends : endsRecovery state.1 event = true) (entry : Entry)
      (member : entry ∈ state.2.entries) :
      (sockStep state.1 event).core.snd.ourCwnd ≤ max entry.window 2 ↔
        entry.threshold ≤ max entry.window 2 := by
    have two : (2 : UInt16).toNat = 2 := rfl
    have one : (1 : UInt16).toNat = 1 := rfl
    rw [recovered_window noted.few ends, noted.entered entry member]
    simp only [UInt16.le_iff_toNat_le, toNat_max]
    omega
  constructor
  · intro shrinks ends entry member
    exact (same ends entry member).mp (shrinks.1 ends entry member)
  · intro low
    refine ⟨?_, slow⟩
    intro ends entry member
    exact (same ends entry member).mpr (low ends entry member)

end Losses

/-! ### Examples -/

/-- Two acks on an idle connection start a fast retransmit, and a message of one packet
follows. -/
def enteredRun : List SockEvent :=
  passiveOpen 7 100 ++
    [.dataPacket (dataAck 100 50), .dataPacket (dataAck 100 50), .userSend [1], .handleSend,
      .sendData]

def enteredSocket : UMPSocket GLists × Losses :=
  ((sockMachine GLists).noting noteLosses).after
    (umpSockNew GLists 100 ⟨fun _ => ⟨0, 0⟩, 0⟩, ⟨[], none⟩) enteredRun

theorem enteredSocket_run : ((sockMachine GLists).noting noteLosses).Run
    (umpSockNew GLists 100 ⟨fun _ => ⟨0, 0⟩, 0⟩, ⟨[], none⟩) enteredRun enteredSocket :=
  Machine.runWhere_of_check (by decide +kernel)

/-- For the ack of that packet the two sides of the rule agree. -/
theorem lossShrinks_enteredSocket :
    RecoveryShrinks enteredSocket.1 enteredSocket.2 (.dataPacket (dataAck 101 50)) ∧
        SlowStartBounded enteredSocket.1 enteredSocket.2 (.dataPacket (dataAck 101 50)) ↔
      (endsRecovery enteredSocket.1 (.dataPacket (dataAck 101 50)) = true →
        ∀ entry ∈ enteredSocket.2.entries, entry.threshold ≤ max entry.window 2) :=
  lossShrinks_iff enteredSocket_run _

/-- The window was one when the loss was seen, and is 512 behind the recovery. -/
theorem lossShrinks_fails : ¬ ∀ (seq : UInt16) (clock : Clock) (events : List SockEvent)
    (state : UMPSocket GLists × Losses), ((sockMachine GLists).noting noteLosses).Run
      (umpSockNew GLists seq clock, ⟨[], none⟩) events state → ∀ event : SockEvent,
        RecoveryShrinks state.1 state.2 event := by
  intro always
  have shrinks := always _ _ _ _ enteredSocket_run (.dataPacket (dataAck 101 50))
    (by decide +kernel) ⟨1, 512⟩ (by decide +kernel)
  revert shrinks
  decide +kernel

end UserMessageProtocol
