import UserMessageProtocol.Sender.IndexSafety

/-!
Contract: the congestion window over the runs of a socket.

Owns: what each event does to `our_cwnd` and `our_ssthresh`, the runs in which the
window stays positive, and a run in which its sixteen bits wrap.

Does not own: when a repeated ack is counted (`Sender.FastRetransmit`).
-/

set_option autoImplicit false

namespace UserMessageProtocol

open Serial

/-! ### The window as a machine -/

/-- The clock reading at which a new ack looks for the end of a round trip: one
reading is made before it when the ack closes the window. -/
def growthReading (s : SocketCore) (p : UMPPacket) : GTimeVal :=
  if uPacketGetFlag p UP_DATA_WND ∧ p.wndNum = 0 then s.clock.tick.now else s.clock.now

/-- A new ack in congestion avoidance finds the window at its greatest value and a
round trip passed. -/
structure GrowsFullWindow (s : SocketCore) (p : UMPPacket) : Prop where
  heard : s.ctrl.state ≠ .connecting
  flag : uPacketGetFlag p UP_DATA_ACK
  range : ackInRange s.snd p.ackNum
  ahead : ackDiff s.snd p.ackNum > 0
  full : s.snd.ourCwnd = 65535
  steady : s.snd.fastRetran = false
  passed : umpTimeSub (growthReading s p) s.snd.lastRefreshCwnd ≥
    rtoGetEstimatedRtt s.snd.rtoCpt

/-- The event is not an ack that makes the greatest window grow. -/
def leavesFullWindow {Lists : Type} (u : UMPSocket Lists) (event : SockEvent) : Prop :=
  ∀ p, event = .dataPacket p → ¬ GrowsFullWindow u.core p

/-- The bounds of the congestion window, with room for the three segments that fast
retransmit adds to the threshold. -/
structure Congestion (snd : SendSide) : Prop where
  cwnd : 1 ≤ snd.ourCwnd
  ssthresh : 2 ≤ snd.ourSsthresh
  room : snd.ourSsthresh ≤ 32767
  counted : snd.ackRepCount ≤ 1

/-- The bounds speak of three fields. -/
theorem Congestion.congr {snd snd' : SendSide} (congestion : Congestion snd)
    (cwnd : snd'.ourCwnd = snd.ourCwnd) (ssthresh : snd'.ourSsthresh = snd.ourSsthresh)
    (counted : snd'.ackRepCount = snd.ackRepCount) : Congestion snd' where
  cwnd := cwnd ▸ congestion.cwnd
  ssthresh := ssthresh ▸ congestion.ssthresh
  room := ssthresh ▸ congestion.room
  counted := counted ▸ congestion.counted

section Stages

variable {snd : SendSide} (p : UMPPacket) (ackSeq : UInt16)

theorem Congestion.endedSend (congestion : Congestion snd) (ok : Bool) :
    Congestion (endedSend snd ok) := by
  unfold UserMessageProtocol.endedSend
  split
  · exact congestion
  · exact congestion.congr rfl rfl rfl

theorem Congestion.recounted (congestion : Congestion snd) :
    Congestion (recounted snd ackSeq) := by
  rcases recounted_cases snd ackSeq with ⟨same, -⟩ | ⟨-, few, counted⟩ | ⟨-, backPoint, rewound⟩
  · rw [same]
    exact congestion
  · rw [counted]
    exact ⟨congestion.cwnd, congestion.ssthresh, congestion.room, by dsimp only; omega⟩
  · rw [rewound]
    refine ⟨?_, congestion.ssthresh, congestion.room, Int.zero_le_ofNat 1⟩
    have room := UInt16.le_iff_toNat_le.mp congestion.room
    have bound : (32767 : UInt16).toNat = 32767 := rfl
    apply UInt16.le_iff_toNat_le.mpr
    rw [UInt16.toNat_ofNat', UInt16.toNat_one]
    omega

theorem Congestion.notified (congestion : Congestion snd) (now : GTimeVal) :
    Congestion (notified snd p now) := by
  rcases notified_eq snd p now with ⟨same, -⟩ | ⟨-, time, changed⟩
  · rw [same]
    exact congestion
  · rw [changed]
    exact congestion.congr rfl rfl rfl

theorem Congestion.advanceBase (congestion : Congestion snd) :
    Congestion (advanceBase snd ackSeq) := by
  obtain ⟨backPoint, advanced⟩ := advanceBase_eq snd ackSeq
  rw [advanced]
  exact ⟨congestion.cwnd, congestion.ssthresh, congestion.room, Int.zero_le_ofNat 1⟩

theorem congestion_rewind (snd : SendSide) : Congestion (rewindAfterTimeout snd) := by
  obtain ⟨backPoint, rewound⟩ := rewindAfterTimeout_eq snd
  have width := snd.ourCwnd.toNat_lt
  have half : (snd.ourCwnd / 2).toNat = snd.ourCwnd.toNat / 2 := rfl
  have threshold : (max (snd.ourCwnd / 2) 2).toNat = max (snd.ourCwnd.toNat / 2) 2 := by
    show (if snd.ourCwnd / 2 ≤ 2 then (2 : UInt16) else snd.ourCwnd / 2).toNat = _
    simp only [UInt16.le_iff_toNat_le, half]
    split
    · rename_i small
      have two : (2 : UInt16).toNat = 2 := rfl
      omega
    · rename_i large
      have two : (2 : UInt16).toNat = 2 := rfl
      omega
  have atLeast : (2 : UInt16).toNat = 2 := rfl
  have atMost : (32767 : UInt16).toNat = 32767 := rfl
  rw [rewound]
  refine ⟨UInt16.le_refl 1, ?_, ?_, Int.zero_le_ofNat 1⟩
  · apply UInt16.le_iff_toNat_le.mpr
    show (2 : UInt16).toNat ≤ (max (snd.ourCwnd / 2) 2).toNat
    omega
  · apply UInt16.le_iff_toNat_le.mpr
    show (max (snd.ourCwnd / 2) 2).toNat ≤ (32767 : UInt16).toNat
    omega

end Stages

/-! ### New acks -/

theorem increaseCwnd_toNat {cwnd : UInt16} (notFull : cwnd ≠ 65535) :
    (increaseCwnd cwnd).toNat = cwnd.toNat + 1 := by
  have width := cwnd.toNat_lt
  have less : cwnd.toNat ≠ 65535 := fun full => notFull (UInt16.toNat_inj.mp full)
  rw [increaseCwnd, UInt16.toNat_ofNat']
  omega

section NewAck

variable (s : SocketCore) (p : UMPPacket) (ackSeq : UInt16)

/-- The window may grow unless it is full, or a round trip has not passed. -/
theorem Congestion.refreshCwnd {s : SocketCore} (congestion : Congestion s.snd)
    (allowed : s.snd.ourCwnd = 65535 → s.snd.fastRetran = false →
      ¬ umpTimeSub s.now s.snd.lastRefreshCwnd ≥ rtoGetEstimatedRtt s.snd.rtoCpt) :
    Congestion (refreshCwnd s).snd := by
  have grown (notFull : s.snd.ourCwnd ≠ 65535) : 1 ≤ increaseCwnd s.snd.ourCwnd := by
    apply UInt16.le_iff_toNat_le.mpr
    rw [increaseCwnd_toNat notFull, UInt16.toNat_one]
    omega
  unfold UserMessageProtocol.refreshCwnd
  split
  · refine ⟨?_, congestion.ssthresh, congestion.room, congestion.counted⟩
    show 1 ≤ if s.snd.ourSsthresh ≤ 1 then (1 : UInt16) else s.snd.ourSsthresh
    split
    · decide
    · rename_i more
      exact UInt16.le_of_lt (UInt16.not_le.mp more)
  · rename_i steady
    split
    · rename_i slowStart
      refine ⟨grown ?_, congestion.ssthresh, congestion.room, congestion.counted⟩
      intro full
      have below := UInt16.lt_of_lt_of_le slowStart congestion.room
      rw [full] at below
      exact absurd below (by decide)
    · dsimp only
      split
      · rename_i passed
        refine ⟨grown ?_, congestion.ssthresh, congestion.room, congestion.counted⟩
        intro full
        exact allowed full ((Bool.not_eq_true _).mp steady) passed
      · exact congestion

/-- Behind the growth of the window a new ack leaves window, threshold and count alone. -/
theorem finishAck_congestion (congestion : Congestion (refreshCwnd s).snd) :
    Congestion (finishAck s ackSeq).snd := by
  have skipped : Congestion (skipAcknowledged (refreshCwnd s).snd) := by
    unfold skipAcknowledged
    split
    · exact congestion.congr rfl rfl rfl
    · exact congestion
  obtain ⟨rtoCpt, acknowledged⟩ := acknowledgeTimers_snd
    { refreshCwnd s with snd := skipAcknowledged (refreshCwnd s).snd } ackSeq
  have settled : Congestion (acknowledgeTimers
      { refreshCwnd s with snd := skipAcknowledged (refreshCwnd s).snd } ackSeq).snd := by
    rw [acknowledged]
    exact skipped.congr rfl rfl rfl
  unfold finishAck
  dsimp only
  split
  · rw [umpEndSend_snd]
    exact settled.endedSend true
  · exact settled

theorem umpHandleWndNotify_now : (umpHandleWndNotify s p).now = growthReading s p := by
  unfold umpHandleWndNotify growthReading
  by_cases flag : uPacketGetFlag p UP_DATA_WND
  · by_cases closed : p.wndNum = 0
    · simp only [flag, closed, if_true, and_self]
      rfl
    · simp only [flag, closed, if_true, if_false, and_false]
      rfl
  · simp only [flag, Bool.false_eq_true, if_false, false_and]
    rfl

/-- What the growth of the window looks at does not change with an ack that is
ahead of the base: nothing was counted, so no fast retransmit starts. -/
theorem acknowledgedBy_growth {snd : SendSide} (now : GTimeVal) (few : snd.ackRepCount ≤ 1)
    (ahead : offset snd.ourDataSeqBase p.ackNum > 0) :
    (acknowledgedBy snd p now).ourCwnd = snd.ourCwnd ∧
      (acknowledgedBy snd p now).fastRetran = snd.fastRetran ∧
      (acknowledgedBy snd p now).lastRefreshCwnd = snd.lastRefreshCwnd ∧
      (acknowledgedBy snd p now).rtoCpt = snd.rtoCpt := by
  have same : recounted snd p.ackNum = snd := by
    rcases recounted_cases snd p.ackNum with ⟨same, -⟩ | ⟨base, -⟩ | ⟨base | many, -⟩
    · exact same
    · rw [base, offset_self] at ahead
      exact absurd ahead (by decide)
    · rw [base, offset_self] at ahead
      exact absurd ahead (by decide)
    · omega
  obtain ⟨backPoint, advanced⟩ := advanceBase_eq snd p.ackNum
  unfold acknowledgedBy
  rw [same]
  rcases notified_eq (advanceBase snd p.ackNum) p now with ⟨unmoved, -⟩ | ⟨-, time, changed⟩
  · rw [unmoved, advanced]
    exact ⟨rfl, rfl, rfl, rfl⟩
  · rw [changed, advanced]
    exact ⟨rfl, rfl, rfl, rfl⟩

/-- An ack keeps the bounds unless it makes the greatest window grow. -/
theorem umpHandleDataAck_congestion (congestion : Congestion s.snd)
    (heard : s.ctrl.state ≠ .connecting) (leaves : ¬ GrowsFullWindow s p) :
    Congestion (umpHandleDataAck s p).snd := by
  have recounts := congestion.recounted p.ackNum
  unfold umpHandleDataAck
  split
  · rename_i flag
    dsimp only
    split
    · rename_i range
      split
      · rename_i ahead
        have inRange : ackInRange (recounted s.snd p.ackNum) p.ackNum = true := range
        have aheadOf : ackDiff (recounted s.snd p.ackNum) p.ackNum > 0 := ahead
        rw [ackInRange_recounted] at inRange
        rw [ackDiff_recounted] at aheadOf
        obtain ⟨cwnd, fastRetran, refreshed, rtoCpt⟩ :=
          acknowledgedBy_growth p s.now congestion.counted aheadOf
        have bounds := (recounts.advanceBase p.ackNum).notified p s.now
        have notifies : (umpHandleWndNotify
            { s with snd := advanceBase (recounted s.snd p.ackNum) p.ackNum } p).snd =
            acknowledgedBy s.snd p s.now := umpHandleWndNotify_snd _ p
        have reading : (umpHandleWndNotify
            { s with snd := advanceBase (recounted s.snd p.ackNum) p.ackNum } p).now =
            growthReading s p := umpHandleWndNotify_now _ p
        apply finishAck_congestion
        show Congestion (refreshCwnd (umpHandleWndNotify
          { s with snd := advanceBase (recounted s.snd p.ackNum) p.ackNum } p)).snd
        generalize umpHandleWndNotify
          { s with snd := advanceBase (recounted s.snd p.ackNum) p.ackNum } p = behind
          at notifies reading ⊢
        apply Congestion.refreshCwnd
        · rw [notifies]
          exact bounds
        · rw [notifies, reading, cwnd, fastRetran, refreshed, rtoCpt]
          intro full steady passed
          apply leaves
          refine ⟨heard, flag, inRange, ?_, full, steady, passed⟩
          rw [ackDiff_eq]
          exact aheadOf
      · rw [umpHandleWndNotify_snd]
        exact recounts.notified p _
    · exact recounts
  · rw [umpHandleWndNotify_snd]
    exact congestion.notified p _

end NewAck

/-! ### Runs -/

section Runs

variable {Lists : Type} [ReceiveLists Lists]

/-- A data packet reaches the sender as an ack, unless the socket is connecting. -/
theorem umpHandleDataPacket_snd (u : UMPSocket Lists) (p : UMPPacket) : ∃ ackInfo,
    (umpHandleDataPacket u p).core.snd =
      if u.core.ctrl.state = .connecting then u.core.snd
      else (umpHandleDataAck { u.core with ackInfo := ackInfo } p).snd := by
  have asked : ∃ ackInfo, (if uPacketGetFlag p UP_DATA_SEQ then
      { u with core := { u.core with ackInfo := umpSetOurAckInfo u.core.ackInfo false } }
      else u) = { u with core := { u.core with ackInfo := ackInfo } } := by
    split
    · exact ⟨_, rfl⟩
    · exact ⟨u.core.ackInfo, rfl⟩
  obtain ⟨ackInfo, asked⟩ := asked
  refine ⟨ackInfo, ?_⟩
  unfold umpHandleDataPacket
  dsimp only
  rw [asked]
  cases state : u.core.ctrl.state with
  | closed => rfl
  | connecting => rfl
  | established =>
      show (umpEstablishedHandleDataPacket _ p).core.snd = _
      unfold umpEstablishedHandleDataPacket
      dsimp only
      split
      · rw [storePacket_snd]
        rfl
      · rfl
  | closing => rfl

/-- Every event but an ack keeps the bounds. -/
theorem sendStep_congestion {s : SocketCore} {after : Handshake} {event : SockEvent}
    {snd : SendSide} {added : List Action} (step : SendStep s after event snd added)
    (noData : ∀ p, event ≠ .dataPacket p) (congestion : Congestion s.snd) : Congestion snd := by
  cases step with
  | idle event unheard untaken => exact congestion
  | signal event p kind => exact congestion
  | probe asking => exact congestion.congr rfl rfl rfl
  | post data => exact congestion.congr rfl rfl rfl
  | refuse packets unlocked posted => exact congestion.congr rfl rfl rfl
  | start packets unlocked posted some established noError => exact congestion.congr rfl rfl rfl
  | giveUp event noData parted untaken => exact congestion.endedSend false
  | syn p taken => exact congestion.congr rfl rfl rfl
  | transmit p locked window found =>
      rw [afterTransmit_eq]
      exact congestion.congr rfl rfl rfl
  | expired parted =>
      apply Congestion.endedSend
      exact congestion.congr rfl rfl rfl
  | rewind => exact congestion_rewind _
  | ack p heard snd added step => exact absurd rfl (noData p)

theorem congestion_step {u : UMPSocket Lists} {event : SockEvent}
    (congestion : Congestion u.core.snd) (leaves : leavesFullWindow u event) :
    Congestion (sockStep u event).core.snd := by
  by_cases data : ∃ p, event = .dataPacket p
  · obtain ⟨p, arrived⟩ := data
    obtain ⟨ackInfo, sent⟩ := umpHandleDataPacket_snd u p
    have notFull := leaves p arrived
    rw [arrived]
    show Congestion (umpHandleDataPacket u p).core.snd
    rw [sent]
    split
    · exact congestion
    · rename_i heard
      apply umpHandleDataAck_congestion
      · exact congestion
      · exact heard
      · intro grows
        exact notFull ⟨grows.heard, grows.flag, grows.range, grows.ahead, grows.full,
          grows.steady, grows.passed⟩
  · obtain ⟨added, step, -⟩ := send_step u event
    apply sendStep_congestion step _ congestion
    intro p arrived
    exact data ⟨p, arrived⟩

/-- In a run in which no ack makes the greatest window grow, the window stays
positive and the threshold at two at least. -/
theorem congestion_of_run {seq : UInt16} {clock : Clock} {events : List SockEvent}
    {u : UMPSocket Lists}
    (run : (sockMachine Lists).RunWhere leavesFullWindow (umpSockNew Lists seq clock) events u) :
    1 ≤ u.core.snd.ourCwnd ∧ 2 ≤ u.core.snd.ourSsthresh := by
  have congestion : Congestion u.core.snd := by
    let Holds (u : UMPSocket Lists) : Prop := Congestion u.core.snd
    have bounds : 2 ≤ MAX_CWND ∧ MAX_CWND ≤ 32767 := by decide
    have first : Holds (umpSockNew Lists seq clock) :=
      ⟨UInt16.le_refl 1, bounds.1, bounds.2, Int.zero_le_ofNat 1⟩
    apply run.invariant first
    intro u event congestion _ leaves
    exact congestion_step congestion leaves
  exact ⟨congestion.cwnd, congestion.ssthresh⟩

end Runs

/-- The bounds hold behind a run that sends one message. -/
theorem congestion_oneMessageRun :
    let u := (sockMachine GLists).after (umpSockNew GLists 100 ⟨fun _ => ⟨0, 0⟩, 0⟩) oneMessageRun
    1 ≤ u.core.snd.ourCwnd ∧ 2 ≤ u.core.snd.ourSsthresh := by
  have small : (sockMachine GLists).RunWhere (fun u _ => u.core.snd.ourCwnd ≠ 65535)
      (umpSockNew GLists 100 ⟨fun _ => ⟨0, 0⟩, 0⟩) oneMessageRun _ :=
    Machine.runWhere_of_check (by decide)
  apply congestion_of_run (small.mono _)
  intro u event notFull p _ grows
  exact notFull grows.full

end UserMessageProtocol
