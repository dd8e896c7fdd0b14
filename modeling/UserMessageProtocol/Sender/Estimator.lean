import UserMessageProtocol.Foundation.Smoothing
import UserMessageProtocol.Sender.Samples
import UserMessageProtocol.Socket.Elapsed

/-!
Contract: the RTO computer over a run.

Owns: what one sample makes of the computer, in its own rounded arithmetic
(`rtoRefreshRtt_takes`), the round trip times a socket takes into account (`rttSample`), the
losses that make it back off (`backsOff`), what both do to the computer in every step
(`rtoCpt_step`), and the theorem that the estimate comes to the round trip time of the path
while the RTO doubles with each loss (`estimates_of_run`).

Does not own: which packets the times are taken from (`Sender.Samples`), the smoothing itself
(`Foundation.Smoothing`), or the rounding (`Foundation.Rounding`).
-/

set_option autoImplicit false

namespace UserMessageProtocol

/-! ### The computer -/

/-- The smoothed round trip time and its deviation. -/
def RTOComputer.estimate (cpt : RTOComputer) : Estimate Rat := ⟨cpt.a.value, cpt.d.value⟩

/-- The RTO that belongs to the estimate, as `rto_refresh_rtt` computes it. -/
def RTOComputer.estimatedRto (cpt : RTOComputer) : Rat := max (cpt.a + 4 * cpt.d).value 16

/-- An RTO with some losses behind it: each doubles it, up to a minute and a half. -/
def backedOff (rto : Rat) (losses : Nat) : Rat :=
  if losses = 0 then rto else min (rto * 2 ^ losses) 90000

/-- What rounding adds to each part of the estimate in one step, in milliseconds. -/
def roundingError : Rat := 1 / 131072

/-- The gains of a new computer, and estimates that fit a clock of 32 bits. -/
structure Measuring (cpt : RTOComputer) : Prop where
  g : cpt.g.value = 1 / 8
  h : cpt.h.value = 1 / 4
  a : 0 ≤ cpt.a.value ∧ cpt.a.value ≤ 2 ^ (32 : Int)
  d : 0 ≤ cpt.d.value ∧ cpt.d.value ≤ 2 ^ (33 : Int)

section Computer

variable {cpt : RTOComputer} {rtt : Int}

open FloatFormat FloatFormat.Number

/-- The size of a number is not rounded. -/
theorem value_abs (x : Double) : (if x < 0 then -x else x).value = |x.value| := by
  have zero : (0 : Double).value = 0 := by decide +kernel
  split
  · rename_i negative
    have below : x.value < (0 : Double).value := negative
    rw [zero] at below
    exact (abs_of_neg below).symm
  · rename_i positive
    have above : ¬ x.value < (0 : Double).value := positive
    rw [zero] at above
    exact (abs_of_nonneg (not_lt.mp above)).symm

/-- A round trip time is a `double`. -/
theorem value_rtt (low : 0 ≤ rtt) (high : rtt < 2147483648) : (rtt : Double).value = rtt := by
  refine value_intCast ?_ (by decide)
  rw [abs_of_nonneg low]
  exact high.le.trans (by decide)

section Sample

variable (measuring : Measuring cpt) (low : 0 ≤ rtt) (high : rtt < 2147483648)
include measuring low high

theorem rtoRefreshRtt_mean : |(rtoRefreshRtt cpt rtt).a.value -
    smooth (1 / 8) cpt.a.value rtt| ≤ roundingError := by
  have rttLow : (0 : Rat) ≤ rtt := by exact_mod_cast low
  have rttHigh : (rtt : Rat) < 2147483648 := by exact_mod_cast high
  have gains : 0 ≤ cpt.g.value ∧ cpt.g.value ≤ 1 / 4 := by
    rw [measuring.g]
    norm_num
  have size : |cpt.a.value| ≤ 2 ^ (32 : Int) := by
    rw [abs_of_nonneg measuring.a.1]
    exact measuring.a.2
  have sampleSize : |(rtt : Double).value| ≤ 2 ^ (32 : Int) := by
    rw [value_rtt low high, abs_of_nonneg rttLow]
    exact rttHigh.le.trans (by norm_num)
  have close := smoothed_close gains.1 gains.2 size sampleSize (by decide)
  rw [value_rtt low high, measuring.g] at close
  exact close.trans (by norm_num [binary64, roundingError])

theorem rtoRefreshRtt_deviation : |(rtoRefreshRtt cpt rtt).d.value -
    smooth (1 / 4) cpt.d.value (|(rtt : Rat) - cpt.a.value|)| ≤ roundingError := by
  have rttLow : (0 : Rat) ≤ rtt := by exact_mod_cast low
  have rttHigh : (rtt : Rat) < 2147483648 := by exact_mod_cast high
  obtain ⟨aLow, aHigh⟩ := measuring.a
  let err : Double := rtt - cpt.a
  have apart : |(rtt : Rat) - cpt.a.value| ≤ 2 ^ (32 : Int) := by
    rw [abs_le]
    norm_num at aHigh ⊢
    constructor <;> linarith
  have errClose : |err.value - (rtt - cpt.a.value)| ≤ 1 / 1048576 := by
    have same : err.value = binary64.round (rtt - cpt.a.value) := by
      rw [value_sub, value_rtt low high]
    have rounded : |binary64.round (rtt - cpt.a.value) - (rtt - cpt.a.value)| ≤
        2 ^ ((32 : Int) - binary64.precision) := abs_round_sub_le apart (by decide)
    rw [same]
    exact rounded.trans (by norm_num [binary64])
  have errSize : |err.value| ≤ 2 ^ (33 : Int) := by
    have size := abs_sub_abs_le_abs_sub err.value (rtt - cpt.a.value)
    norm_num at apart ⊢
    linarith
  have gains : 0 ≤ cpt.h.value ∧ cpt.h.value ≤ 1 / 4 := by
    rw [measuring.h]
    norm_num
  have size : |cpt.d.value| ≤ 2 ^ (33 : Int) := by
    rw [abs_of_nonneg measuring.d.1]
    exact measuring.d.2
  have sampleSize : |(if err < 0 then -err else err).value| ≤ 2 ^ (33 : Int) := by
    rw [value_abs, abs_abs]
    exact errSize
  have close := smoothed_close gains.1 gains.2 size sampleSize (by decide)
  have error : 6 * (2 : Rat) ^ ((33 : Int) - binary64.precision) ≤ 6 / 1048576 := by
    norm_num [binary64]
  have sizes := (abs_abs_sub_abs_le err.value (rtt - cpt.a.value)).trans errClose
  rw [value_abs, measuring.h] at close
  have deviation : (rtoRefreshRtt cpt rtt).d =
      smoothed cpt.h cpt.d (if err < 0 then -err else err) := rfl
  rw [deviation]
  unfold smooth roundingError at *
  rw [abs_le] at *
  constructor <;> linarith [close.1, close.2, sizes.1, sizes.2]

/-- A sample makes of the estimate what smoothing makes of it, up to rounding. -/
theorem rtoRefreshRtt_takes :
    cpt.estimate.Takes (1 / 8) (1 / 4) roundingError rtt (rtoRefreshRtt cpt rtt).estimate :=
  ⟨rtoRefreshRtt_mean measuring low high, rtoRefreshRtt_deviation measuring low high⟩

theorem Measuring.refresh : Measuring (rtoRefreshRtt cpt rtt) := by
  have rttLow : (0 : Rat) ≤ rtt := by exact_mod_cast low
  have rttHigh : (rtt : Rat) < 2147483648 := by exact_mod_cast high
  obtain ⟨aLow, aHigh⟩ := measuring.a
  obtain ⟨dLow, dHigh⟩ := measuring.d
  have mean := (abs_le.mp (rtoRefreshRtt_mean measuring low high)).2
  have deviation := (abs_le.mp (rtoRefreshRtt_deviation measuring low high)).2
  have apart : |(rtt : Rat) - cpt.a.value| ≤ 2 ^ (32 : Int) := by
    rw [abs_le]
    norm_num at aHigh ⊢
    constructor <;> linarith
  unfold smooth roundingError at mean deviation
  norm_num at aHigh dHigh apart
  refine ⟨measuring.g, measuring.h, ⟨?_, ?_⟩, ⟨?_, ?_⟩⟩
  · apply smoothed_nonneg _ _ aLow ((value_rtt low high).symm ▸ rttLow) <;>
      norm_num [measuring.g]
  · norm_num
    linarith
  · apply smoothed_nonneg _ _ dLow ((value_abs _).symm ▸ abs_nonneg _) <;>
      norm_num [measuring.h]
  · norm_num
    linarith

end Sample

theorem measuring_new : Measuring rtoComputerNew := by
  refine ⟨rfl, rfl, ⟨le_refl 0, ?_⟩, ⟨?_, ?_⟩⟩ <;> norm_num [rtoComputerNew]

theorem rtoRefreshRtt_rto (cpt : RTOComputer) (rtt : Int) :
    (rtoRefreshRtt cpt rtt).rto.value = (rtoRefreshRtt cpt rtt).estimatedRto := by
  have sixteen : (16 : Double).value = 16 := by decide +kernel
  have larger (x : Double) : (if x > 16 then x else 16).value = max x.value 16 := by
    split
    · rename_i above
      have above : (16 : Double).value < x.value := above
      rw [sixteen] at above
      exact (max_eq_left above.le).symm
    · rename_i below
      have below : ¬ (16 : Double).value < x.value := below
      rw [sixteen] at below
      rw [sixteen]
      exact (max_eq_right (not_lt.mp below)).symm
  exact larger _

/-- Doubling is exact. -/
theorem rtoTimeoutOccur_rto (cpt : RTOComputer) :
    (rtoTimeoutOccur cpt).rto.value = min (cpt.rto.value * 2) 90000 := by
  have limit : (90000 : Double).value = 90000 := by decide +kernel
  have two : (2 : Double).value = 2 := by decide +kernel
  have doubled : (cpt.rto * 2).value = cpt.rto.value * 2 := by
    rw [value_mul, two, round_of_fits cpt.rto.fits.double]
  unfold rtoTimeoutOccur
  dsimp only
  split
  · rename_i below
    have below : (cpt.rto * 2).value < (90000 : Double).value := below
    rw [limit, doubled] at below
    rw [doubled, min_eq_left below.le]
  · rename_i above
    have above : ¬ (cpt.rto * 2).value < (90000 : Double).value := above
    rw [limit, doubled] at above
    rw [limit, min_eq_right (not_lt.mp above)]

end Computer

/-- One more loss. -/
theorem backedOff_succ (rto : Rat) (losses : Nat) :
    min (backedOff rto losses * 2) 90000 = backedOff rto (losses + 1) := by
  unfold backedOff
  rw [if_neg (Nat.succ_ne_zero losses)]
  split
  · rename_i none
    rw [none, zero_add, pow_one]
  · rw [pow_succ, ← mul_assoc]
    rcases le_total (rto * 2 ^ losses) 90000 with small | large
    · rw [min_eq_left small]
    · rw [min_eq_right large, min_eq_right (by norm_num), min_eq_right (by linarith)]

/-! ### Samples and losses -/

/-- The time `tm_ack_packet` finds for an ack, when it is used. -/
def ackSample (s : SocketCore) (ackSeq : UInt16) : Option Int :=
  (tmAckPacket s.snd.tmList ackSeq s.snd.ourDataSent).1.bind fun entry =>
    let rtt := umpTimeSub s.now entry.regTime
    if rtt ≥ 0 ∧ ackSeq ≥ s.snd.ourBackPoint then some (if rtt = 0 then RTT_MIN_MS else rtt)
    else none

/-- What a sample makes of the computer. -/
def sampled (cpt : RTOComputer) (sample : Option Int) : RTOComputer :=
  sample.elim cpt (rtoRefreshRtt cpt)

/-- A sample is positive, and a `glong`. -/
theorem ackSample_range {s : SocketCore} {ackSeq : UInt16} {rtt : Int}
    (sample : ackSample s ackSeq = some rtt) : 0 ≤ rtt ∧ rtt < 2147483648 := by
  obtain ⟨entry, -, used⟩ := Option.bind_eq_some_iff.mp sample
  have below : umpTimeSub s.now entry.regTime < 2147483648 := (glong_range _).2
  dsimp only at used
  split at used
  · rename_i taken
    obtain rfl := Option.some.inj used
    split
    · decide
    · exact ⟨taken.1, below⟩
  · cases used

theorem acknowledgeTimers_sampled (s : SocketCore) (ackSeq : UInt16) :
    (acknowledgeTimers s ackSeq).snd.rtoCpt = sampled s.snd.rtoCpt (ackSample s ackSeq) := by
  unfold acknowledgeTimers ackSample
  generalize tmAckPacket s.snd.tmList ackSeq s.snd.ourDataSent = acked
  obtain ⟨entry, tmList⟩ := acked
  cases entry with
  | none => rfl
  | some entry =>
      simp only [Option.bind_some]
      split
      · rename_i used
        have used : umpTimeSub s.now entry.regTime ≥ 0 ∧ ackSeq ≥ s.snd.ourBackPoint := used
        rw [if_pos used]
        rfl
      · rename_i unused
        have unused : ¬ (umpTimeSub s.now entry.regTime ≥ 0 ∧ ackSeq ≥ s.snd.ourBackPoint) := unused
        rw [if_neg unused]
        rfl

/-- What a loss makes of the computer. -/
def lost (cpt : RTOComputer) (loss : Bool) : RTOComputer :=
  if loss then rtoTimeoutOccur cpt else cpt

theorem recounted_rtoCpt (snd : SendSide) (ackSeq : UInt16) :
    (recounted snd ackSeq).rtoCpt = lost snd.rtoCpt (retransmits snd ackSeq) := by
  have counts : (countRepeatedAck snd ackSeq).rtoCpt = snd.rtoCpt := by
    unfold countRepeatedAck
    split <;> rfl
  by_cases many : 1 < (countRepeatedAck snd ackSeq).ackRepCount
  · have rewinds : retransmits snd ackSeq = true := decide_eq_true many
    have rewound : recounted snd ackSeq = _ := fastRetransmit_raised _ many
    rw [rewinds, rewound]
    exact congrArg rtoTimeoutOccur counts
  · have stays : retransmits snd ackSeq = false := decide_eq_false many
    have counted : recounted snd ackSeq = countRepeatedAck snd ackSeq := if_neg many
    rw [stays, counted]
    exact counts

theorem umpHandleWndNotify_rtoCpt (s : SocketCore) (p : UMPPacket) :
    (umpHandleWndNotify s p).snd.rtoCpt = s.snd.rtoCpt := by
  rw [umpHandleWndNotify_snd]
  rcases notified_eq s.snd p s.now with ⟨same, -⟩ | ⟨-, time, changed⟩
  · rw [same]
  · rw [changed]
    rfl

/-- What stands before the timers has seen the loss, not the sample. -/
theorem beforeTimers_rtoCpt (s : SocketCore) (p : UMPPacket) :
    (beforeTimers s p).snd.rtoCpt = lost s.snd.rtoCpt (retransmits s.snd p.ackNum) := by
  have skips (snd : SendSide) : (skipAcknowledged snd).rtoCpt = snd.rtoCpt := by
    unfold skipAcknowledged
    split <;> rfl
  obtain ⟨backPoint, advanced⟩ := advanceBase_eq (recounted s.snd p.ackNum) p.ackNum
  obtain ⟨fastRetran, cwnd, time, refreshed, -⟩ := refreshCwnd_snd
    (umpHandleWndNotify { s with snd := advanceBase (recounted s.snd p.ackNum) p.ackNum } p)
  show (skipAcknowledged (refreshCwnd _).snd).rtoCpt = _
  rw [skips, refreshed]
  dsimp only
  rw [umpHandleWndNotify_rtoCpt, advanced]
  exact recounted_rtoCpt s.snd p.ackNum

theorem umpEndSend_rtoCpt (s : SocketCore) (ok : Bool) :
    (umpEndSend s ok).snd.rtoCpt = s.snd.rtoCpt := by
  unfold umpEndSend
  split <;> rfl

/-- The time a packet with an ack hands to `rto_refresh_rtt`. -/
def newAckSample (s : SocketCore) (p : UMPPacket) : Option Int :=
  if uPacketGetFlag p UP_DATA_ACK ∧ ackInRange (recounted s.snd p.ackNum) p.ackNum ∧
      ackDiff (recounted s.snd p.ackNum) p.ackNum > 0 then
    ackSample (beforeTimers s p) p.ackNum
  else none

theorem newAckSample_range {s : SocketCore} {p : UMPPacket} {rtt : Int}
    (sample : newAckSample s p = some rtt) : 0 ≤ rtt ∧ rtt < 2147483648 := by
  unfold newAckSample at sample
  split at sample
  · exact ackSample_range sample
  · cases sample

/-- The computer behind an ack. -/
theorem umpHandleDataAck_rtoCpt (s : SocketCore) (p : UMPPacket) :
    (umpHandleDataAck s p).snd.rtoCpt =
      sampled (lost s.snd.rtoCpt (uPacketGetFlag p UP_DATA_ACK && retransmits s.snd p.ackNum))
        (newAckSample s p) := by
  by_cases flag : uPacketGetFlag p UP_DATA_ACK = true
  · rw [flag, Bool.true_and]
    by_cases range : ackInRange (recounted s.snd p.ackNum) p.ackNum = true
    · by_cases ahead : ackDiff (recounted s.snd p.ackNum) p.ackNum > 0
      · have taken : newAckSample s p = ackSample (beforeTimers s p) p.ackNum :=
          if_pos ⟨flag, range, ahead⟩
        rw [taken, ← beforeTimers_rtoCpt, ← acknowledgeTimers_sampled,
          umpHandleDataAck_timers flag range ahead]
        dsimp only
        split
        · exact umpEndSend_rtoCpt _ true
        · rfl
      · have untaken : newAckSample s p = none := if_neg fun all => ahead all.2.2
        rw [untaken]
        unfold umpHandleDataAck
        rw [if_pos flag]
        dsimp only
        rw [if_pos (by exact range), if_neg (by exact ahead), umpHandleWndNotify_rtoCpt]
        exact recounted_rtoCpt s.snd p.ackNum
    · have untaken : newAckSample s p = none := if_neg fun all => range all.2.1
      rw [untaken]
      unfold umpHandleDataAck
      rw [if_pos flag]
      dsimp only
      rw [if_neg (by exact range)]
      exact recounted_rtoCpt s.snd p.ackNum
  · have untaken : newAckSample s p = none := if_neg fun all => flag all.1
    rw [untaken, (Bool.not_eq_true _).mp flag]
    unfold umpHandleDataAck
    rw [if_neg flag]
    exact umpHandleWndNotify_rtoCpt s p

section Asked

variable (s : SocketCore) (ackInfo : UMPAckInfo) (p : UMPPacket)

theorem umpHandleWndNotify_asked : umpHandleWndNotify { s with ackInfo := ackInfo } p =
    { umpHandleWndNotify s p with ackInfo := ackInfo } := by
  unfold umpHandleWndNotify
  split
  · dsimp only
    split <;> rfl
  · rfl

theorem refreshCwnd_asked : refreshCwnd { s with ackInfo := ackInfo } =
    { refreshCwnd s with ackInfo := ackInfo } := by
  unfold refreshCwnd
  dsimp only
  split
  · rfl
  · split
    · rfl
    · by_cases late : umpTimeSub s.now s.snd.lastRefreshCwnd ≥ rtoGetEstimatedRtt s.snd.rtoCpt
      · rw [if_pos (by exact late), if_pos (by exact late)]
        rfl
      · rw [if_neg (by exact late), if_neg (by exact late)]
        rfl

/-- The ack a packet asks for has no part in the sample. -/
theorem newAckSample_asked : newAckSample { s with ackInfo := ackInfo } p = newAckSample s p := by
  have same : beforeTimers { s with ackInfo := ackInfo } p =
      { beforeTimers s p with ackInfo := ackInfo } := by
    have notifies := umpHandleWndNotify_asked
      { s with snd := advanceBase (recounted s.snd p.ackNum) p.ackNum } ackInfo p
    have refreshes := refreshCwnd_asked (umpHandleWndNotify
      { s with snd := advanceBase (recounted s.snd p.ackNum) p.ackNum } p) ackInfo
    unfold beforeTimers
    dsimp only at notifies refreshes ⊢
    rw [notifies, refreshes]
  unfold newAckSample ackSample
  rw [same]
  rfl

end Asked

section Events

variable {Lists : Type}

/-- The round trip time a step hands to `rto_refresh_rtt`. -/
def rttSample (u : UMPSocket Lists) : SockEvent → Option Int
  | .dataPacket p =>
      if u.core.ctrl.state = .connecting then none else newAckSample u.core p
  | _ => none

theorem rttSample_range {u : UMPSocket Lists} {event : SockEvent} {rtt : Int}
    (sample : rttSample u event = some rtt) : 0 ≤ rtt ∧ rtt < 2147483648 := by
  unfold rttSample at sample
  split at sample
  · split at sample
    · cases sample
    · exact newAckSample_range sample
  · cases sample

/-- The step calls `rto_timeout_occur`. -/
def backsOff (u : UMPSocket Lists) : SockEvent → Bool
  | .dataTimeout => getNextTimeout u.core.snd.tmList u.core.now &&
      decide (rtoGetRto u.core.snd.rtoCpt < TIMEOUT_LIMIT)
  | .dataPacket p => decide (u.core.ctrl.state ≠ .connecting) && uPacketGetFlag p UP_DATA_ACK &&
      retransmits u.core.snd p.ackNum
  | _ => false

variable {u : UMPSocket Lists} {event : SockEvent} [ReceiveLists Lists]

/-- Only acks and timeouts concern the computer. -/
theorem sockStep_rtoCpt_other (noData : ∀ p, event ≠ .dataPacket p)
    (noTimeout : event ≠ .dataTimeout) :
    (sockStep u event).core.snd.rtoCpt = u.core.snd.rtoCpt := by
  obtain ⟨added, step, -⟩ := send_step u event
  have ends (snd : SendSide) : (endedSend snd false).rtoCpt = snd.rtoCpt := by
    unfold endedSend
    split <;> rfl
  generalize (sockStep u event).core.snd = snd at step ⊢
  cases step with
  | idle | signal | probe | post | refuse | start | syn => rfl
  | giveUp => exact ends _
  | transmit p =>
      rw [afterTransmit_eq]
  | expired | rewind => exact absurd rfl noTimeout
  | ack p => exact absurd rfl (noData p)

omit [ReceiveLists Lists] in
theorem umpHandleDataTimeout_rtoCpt : (umpHandleDataTimeout u.core).snd.rtoCpt =
    lost u.core.snd.rtoCpt (backsOff u .dataTimeout) := by
  unfold umpHandleDataTimeout backsOff
  split
  · rename_i none
    rw [none]
    rfl
  · dsimp only
    split
    · rename_i fires
      rw [show getNextTimeout u.core.snd.tmList u.core.now = true from fires, Bool.true_and]
      split
      · rename_i late
        have given : ¬ rtoGetRto u.core.snd.rtoCpt < TIMEOUT_LIMIT := Int.not_lt.mpr late
        have ends (s : SocketCore) : (umpConnectionErrorOccured (umpEndSend s false)).snd.rtoCpt =
            s.snd.rtoCpt := by
          rw [umpConnectionErrorOccured_snd, ← umpEndSend_snd, umpEndSend_rtoCpt, umpEndSend_rtoCpt]
        rw [decide_eq_false given, ends]
        rfl
      · rename_i early
        have goesOn : rtoGetRto u.core.snd.rtoCpt < TIMEOUT_LIMIT := Int.not_le.mp early
        obtain ⟨backPoint, rewound⟩ := rewindAfterTimeout_eq { u.core.snd with tmList := [] }
        rw [decide_eq_true goesOn]
        exact congrArg SendSide.rtoCpt rewound
    · rename_i early
      have waits : getNextTimeout u.core.snd.tmList u.core.now = false :=
        (Bool.not_eq_true _).mp early
      rw [waits]
      rfl

theorem umpHandleDataPacket_rtoCpt (p : UMPPacket) : (umpHandleDataPacket u p).core.snd.rtoCpt =
    sampled (lost u.core.snd.rtoCpt (backsOff u (.dataPacket p)))
      (rttSample u (.dataPacket p)) := by
  have asked : ∃ ackInfo, (if uPacketGetFlag p UP_DATA_SEQ then
      { u with core := { u.core with ackInfo := umpSetOurAckInfo u.core.ackInfo false } }
      else u) = { u with core := { u.core with ackInfo := ackInfo } } := by
    split
    · exact ⟨_, rfl⟩
    · exact ⟨u.core.ackInfo, rfl⟩
  obtain ⟨ackInfo, asked⟩ := asked
  have acked := umpHandleDataAck_rtoCpt { u.core with ackInfo := ackInfo } p
  rw [newAckSample_asked] at acked
  have heard (other : u.core.ctrl.state ≠ .connecting) :
      (umpHandleDataAck { u.core with ackInfo := ackInfo } p).snd.rtoCpt =
        sampled (lost u.core.snd.rtoCpt (backsOff u (.dataPacket p)))
          (rttSample u (.dataPacket p)) := by
    have sample : rttSample u (.dataPacket p) = newAckSample u.core p := if_neg other
    have loss : backsOff u (.dataPacket p) =
        (uPacketGetFlag p UP_DATA_ACK && retransmits u.core.snd p.ackNum) := by
      simp [backsOff, other]
    rw [sample, loss]
    exact acked
  unfold umpHandleDataPacket
  dsimp only
  rw [asked]
  cases state : u.core.ctrl.state with
  | closed => exact heard (by simp [state])
  | connecting =>
      have sample : rttSample u (.dataPacket p) = none := if_pos state
      have loss : backsOff u (.dataPacket p) = false := by simp [backsOff, state]
      rw [sample, loss]
      rfl
  | established =>
      dsimp only
      unfold umpEstablishedHandleDataPacket
      dsimp only
      split
      · rw [storePacket_snd]
        exact heard (by simp [state])
      · exact heard (by simp [state])
  | closing => exact heard (by simp [state])

/-- The computer behind any step: a loss makes it back off, and then a sample is taken. -/
theorem rtoCpt_step : (sockStep u event).core.snd.rtoCpt =
    sampled (lost u.core.snd.rtoCpt (backsOff u event)) (rttSample u event) := by
  cases event with
  | dataPacket p => exact umpHandleDataPacket_rtoCpt p
  | dataTimeout => exact umpHandleDataTimeout_rtoCpt
  | userCtrl | userSend | userReceive | handleCtrl | handleSend | handleReceive | bufferLoad |
    ctrlPacket | refreshRwnd | refreshAck | actReqWnd | ctrlTimeout | sendCtrlPacket | heartbeat |
    sendData | sendReset => exact sockStep_rtoCpt_other (by simp) (by simp)

end Events

/-! ### Runs -/

/-- What a run hands to the computer: the samples, the first one first, and how many losses
there were since the last one. -/
structure RttNotes where
  samples : List Int
  losses : Nat
deriving DecidableEq, Repr

def noteRtt {Lists : Type} (u : UMPSocket Lists) (event : SockEvent) (notes : RttNotes) :
    RttNotes :=
  (rttSample u event).elim { notes with losses := notes.losses + (backsOff u event).toNat }
    fun rtt => ⟨notes.samples ++ [rtt], 0⟩

/-- The computer behind some samples, without a loss. -/
def pathComputer (samples : List Int) : RTOComputer := samples.foldl rtoRefreshRtt rtoComputerNew

/-- The RTO that belongs to some samples. -/
def pathRto (samples : List Int) : Rat := (pathComputer samples).rto.value

@[simp] theorem pathComputer_append (samples : List Int) (rtt : Int) :
    pathComputer (samples ++ [rtt]) = rtoRefreshRtt (pathComputer samples) rtt :=
  List.foldl_append

/-- The computer is what samples and losses have made of it. -/
structure Estimating (cpt : RTOComputer) (notes : RttNotes) : Prop where
  path : cpt = { pathComputer notes.samples with rto := cpt.rto }
  rto : cpt.rto.value = backedOff (pathRto notes.samples) notes.losses
  times : ∀ rtt ∈ notes.samples, 0 ≤ rtt ∧ rtt < 2147483648

/-- Samples are taken into account one by one, each up to rounding. -/
theorem pathComputer_takes (samples : List Int)
    (times : ∀ rtt ∈ samples, 0 ≤ rtt ∧ rtt < 2147483648) :
    Measuring (pathComputer samples) ∧
      Estimate.TakesAll (1 / 8) (1 / 4) roundingError ⟨0, 3000⟩
        (samples.map fun (rtt : Int) => (rtt : Rat)) (pathComputer samples).estimate := by
  induction samples using List.reverseRecOn with
  | nil => exact ⟨measuring_new, .none⟩
  | append_singleton samples rtt inductionHypothesis =>
      obtain ⟨measuring, others⟩ := inductionHypothesis fun other member =>
        times other (List.mem_append_left _ member)
      obtain ⟨low, high⟩ := times rtt (by simp)
      rw [pathComputer_append, List.map_append, List.map_singleton]
      exact ⟨measuring.refresh low high, .one others (rtoRefreshRtt_takes measuring low high)⟩

section Notes

variable {cpt : RTOComputer} {notes : RttNotes}

theorem estimating_new : Estimating rtoComputerNew ⟨[], 0⟩ :=
  ⟨rfl, rfl, by simp⟩

theorem Estimating.lost (estimating : Estimating cpt notes) (loss : Bool) :
    Estimating (lost cpt loss) { notes with losses := notes.losses + loss.toNat } := by
  cases loss with
  | false => exact estimating
  | true =>
      refine ⟨?_, ?_, estimating.times⟩
      · exact congrArg (fun (other : RTOComputer) =>
          { other with rto := (rtoTimeoutOccur cpt).rto }) estimating.path
      · show (rtoTimeoutOccur cpt).rto.value = _
        rw [rtoTimeoutOccur_rto, estimating.rto]
        exact backedOff_succ _ _

theorem Estimating.sampled (estimating : Estimating cpt notes) {rtt : Int} (low : 0 ≤ rtt)
    (high : rtt < 2147483648) : Estimating (rtoRefreshRtt cpt rtt) ⟨notes.samples ++ [rtt], 0⟩ := by
  have path : rtoRefreshRtt cpt rtt = pathComputer (notes.samples ++ [rtt]) := by
    rw [estimating.path, pathComputer_append]
    rfl
  refine ⟨?_, ?_, ?_⟩
  · rw [path]
  · rw [path]
    rfl
  · intro other member
    rcases List.mem_append.mp member with before | here
    · exact estimating.times other before
    · rw [List.mem_singleton.mp here]
      exact ⟨low, high⟩

variable {Lists : Type} [ReceiveLists Lists] {u : UMPSocket Lists}

theorem Estimating.step (estimating : Estimating u.core.snd.rtoCpt notes) (event : SockEvent) :
    Estimating (sockStep u event).core.snd.rtoCpt (noteRtt u event notes) := by
  have lost := estimating.lost (backsOff u event)
  rw [rtoCpt_step]
  unfold noteRtt
  cases sample : rttSample u event with
  | none => exact lost
  | some rtt =>
      obtain ⟨low, high⟩ := rttSample_range sample
      exact lost.sampled low high

theorem estimating_of_run {seq : UInt16} {clock : Clock} {events : List SockEvent}
    {condition : UMPSocket Lists × RttNotes → SockEvent → Prop} {noted : UMPSocket Lists × RttNotes}
    (run : ((sockMachine Lists).noting noteRtt).RunWhere condition
      (umpSockNew Lists seq clock, ⟨[], 0⟩) events noted) :
    Estimating noted.1.core.snd.rtoCpt noted.2 := by
  let Holds (noted : UMPSocket Lists × RttNotes) : Prop :=
    Estimating noted.1.core.snd.rtoCpt noted.2
  have first : Holds (umpSockNew Lists seq clock, ⟨[], 0⟩) := estimating_new
  apply run.invariant first
  intro noted event estimating _ _
  exact estimating.step event

end Notes

/-- The computer knows a path whose round trip time stays within `spread` of `target`: the
smoothed time comes to it by an eighth of what is left with each sample, the deviation goes
down to twice the spread, both up to a ten thousandth of a millisecond for the rounding, and the
RTO is theirs, doubled for each loss since. -/
structure Estimates (cpt : RTOComputer) (notes : RttNotes) (target spread : Rat) : Prop where
  mean : |cpt.a.value - target| ≤
    (7 / 8) ^ notes.samples.length * |target| + spread + 1 / 10000
  nonneg : 0 ≤ cpt.d.value
  deviation : cpt.d.value ≤ (3 / 4) ^ notes.samples.length * 3000 +
    2 * ((7 / 8) ^ notes.samples.length * |target|) + 2 * spread + 1 / 10000
  fresh : notes.samples = [] → cpt.rto.value = backedOff 6000 notes.losses
  rto : notes.samples ≠ [] → cpt.rto.value = backedOff cpt.estimatedRto notes.losses

/-- The RTO of some samples is that of their estimate. -/
theorem pathRto_sampled {samples : List Int} (some : samples ≠ []) :
    pathRto samples = (pathComputer samples).estimatedRto := by
  obtain ⟨others, rtt, rfl⟩ := List.eq_nil_or_concat samples |>.resolve_left some
  unfold pathRto
  rw [List.concat_eq_append, pathComputer_append, rtoRefreshRtt_rto]

/-- In every run whose samples lie within `spread` of the round trip time of the path, the
estimate comes to that time, whatever is lost in between. -/
theorem estimates_of_run {Lists : Type} [ReceiveLists Lists] {seq : UInt16} {clock : Clock}
    {events : List SockEvent} {noted : UMPSocket Lists × RttNotes}
    (run : ((sockMachine Lists).noting noteRtt).Run (umpSockNew Lists seq clock, ⟨[], 0⟩) events
      noted) {target spread : Rat} (spreads : 0 ≤ spread)
    (within : ∀ rtt ∈ noted.2.samples, |(rtt : Rat) - target| ≤ spread) :
    Estimates noted.1.core.snd.rtoCpt noted.2 target spread := by
  obtain ⟨path, rto, times⟩ := estimating_of_run run
  obtain ⟨measuring, taken⟩ := pathComputer_takes noted.2.samples times
  have close : ∀ rtt ∈ noted.2.samples.map fun (rtt : Int) => (rtt : Rat),
      |rtt - target| ≤ spread := by
    intro rtt member
    obtain ⟨sample, inside, rfl⟩ := List.mem_map.mp member
    exact within sample inside
  have errs : 0 ≤ roundingError := by norm_num [roundingError]
  have mean := Estimate.mean_close (by norm_num) (by norm_num) spreads errs taken close
  have deviation := Estimate.deviation_close (by norm_num) (by norm_num) (by norm_num) spreads
    errs taken close
  have a : noted.1.core.snd.rtoCpt.a = (pathComputer noted.2.samples).a :=
    (congrArg RTOComputer.a path :)
  have d : noted.1.core.snd.rtoCpt.d = (pathComputer noted.2.samples).d :=
    (congrArg RTOComputer.d path :)
  rw [List.length_map, zero_sub, abs_neg] at mean deviation
  norm_num [RTOComputer.estimate, roundingError] at mean deviation
  refine ⟨?_, ?_, ?_, ?_, ?_⟩
  · rw [a]
    linarith
  · rw [d]
    exact measuring.d.1
  · rw [d]
    linarith
  · intro none
    rw [rto, none]
    rfl
  · intro some
    have same : noted.1.core.snd.rtoCpt.estimatedRto =
        (pathComputer noted.2.samples).estimatedRto := by
      unfold RTOComputer.estimatedRto
      rw [a, d]
    rw [rto, pathRto_sampled some, same]

/-! ### A packet that is acknowledged, and one that is lost -/

/-- A packet goes out and is acknowledged two seconds later; another one is never acknowledged,
until its timer fires. -/
def sampledLife : List SockEvent :=
  passiveOpen 7 100 ++ [.userSend [1], .handleSend, .sendData, .dataPacket (dataAck 101 50),
    .userSend [2], .handleSend, .sendData] ++ List.replicate 23 .dataTimeout

def sampledSocket : UMPSocket PlainLists × RttNotes :=
  ((sockMachine PlainLists).noting noteRtt).after
    (umpSockNew PlainLists 100 ⟨fun n => ⟨n, 0⟩, 0⟩, ⟨[], 0⟩) sampledLife

theorem estimates_sampledSocket : sampledSocket.2 = ⟨[2000], 1⟩ ∧
    Estimates sampledSocket.1.core.snd.rtoCpt sampledSocket.2 2000 0 := by
  have run : ((sockMachine PlainLists).noting noteRtt).Run
      (umpSockNew PlainLists 100 ⟨fun n => ⟨n, 0⟩, 0⟩, ⟨[], 0⟩) sampledLife sampledSocket :=
    Machine.runWhere_of_check (by decide +kernel)
  have samples : sampledSocket.2 = ⟨[2000], 1⟩ := by decide +kernel
  refine ⟨samples, estimates_of_run run (le_refl 0) ?_⟩
  rw [samples]
  simp

end UserMessageProtocol
