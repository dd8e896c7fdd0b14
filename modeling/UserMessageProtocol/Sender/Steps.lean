import UserMessageProtocol.Connection.Lifetime
import UserMessageProtocol.Sender.Sequence

/-!
Contract: what each event does to the sender of a socket.

Owns: the stages of `ump_handle_data_ack` as record updates, and the step lemma
`send_step` for the machine of a socket.

Does not own: the invariants of the sender.
-/

set_option autoImplicit false

namespace UserMessageProtocol

open Serial

variable (s : SocketCore)

/-! ### The log of the sender -/

def Action.isTraffic : Action → Bool
  | .sendto _ => true
  | .numbered _ => true
  | .sendDone _ => true
  | _ => false

/-- The part of a log that speaks of sending, the latest first. -/
def traffic (log : List Action) : List Action := log.filter Action.isTraffic

@[simp] theorem traffic_sendto (p : UMPPacket) (log : List Action) :
    traffic (.sendto p :: log) = .sendto p :: traffic log := rfl

@[simp] theorem traffic_numbered (packets : List UMPPacket) (log : List Action) :
    traffic (.numbered packets :: log) = .numbered packets :: traffic log := rfl

@[simp] theorem traffic_sendDone (ok : Bool) (log : List Action) :
    traffic (.sendDone ok :: log) = .sendDone ok :: traffic log := rfl

@[simp] theorem traffic_other {action : Action} (other : action.isTraffic = false)
    (log : List Action) : traffic (action :: log) = traffic log := by
  simp [traffic, other]

/-! ### Stages of an ack -/

/-- `ump_end_send` on the fields of the sender. -/
def endedSend (snd : SendSide) (ok : Bool) : SendSide :=
  match snd.sndLocked with
  | .unlocked => snd
  | .locked => endSend snd ok

@[simp] theorem umpEndSend_snd (ok : Bool) : (umpEndSend s ok).snd = endedSend s.snd ok := by
  unfold umpEndSend endedSend
  cases s.snd.sndLocked <;> rfl

theorem endedSend_tmList (snd : SendSide) (ok : Bool) : (endedSend snd ok).tmList = snd.tmList := by
  unfold endedSend
  split <;> rfl

/-- A message that has ended cannot be ended once more. -/
theorem endedSend_twice (snd : SendSide) : endedSend (endedSend snd false) false =
    endedSend snd false := by
  cases lock : snd.sndLocked <;> simp [endedSend, lock, endSend]

/-- What `ump_end_send` adds to the log. -/
def ending (snd : SendSide) (ok : Bool) : List Action :=
  match snd.sndLocked with
  | .unlocked => []
  | .locked => [.sendDone ok]

theorem ending_twice (snd : SendSide) : ending (endedSend snd false) false = [] := by
  cases lock : snd.sndLocked <;> simp [endedSend, lock, endSend, ending]

@[simp] theorem umpEndSend_traffic (ok : Bool) :
    traffic (umpEndSend s ok).log = ending s.snd ok ++ traffic s.log := by
  unfold umpEndSend ending
  cases s.snd.sndLocked with
  | unlocked => rfl
  | locked => simp

/-- `ump_handle_wnd_notify` on the fields of the sender at the reading `now`. -/
def notified (snd : SendSide) (p : UMPPacket) (now : GTimeVal) : SendSide :=
  if uPacketGetFlag p UP_DATA_WND then
    let snd := umpRefreshSndWndPos { snd with theirWnd := p.wndNum }
    if p.wndNum = 0 then { snd with actReqWnd := true, lastReqWndTime := now }
    else { snd with actReqWnd := false }
  else snd

@[simp] theorem umpHandleWndNotify_snd (p : UMPPacket) :
    (umpHandleWndNotify s p).snd = notified s.snd p s.now := by
  unfold umpHandleWndNotify notified
  split
  · dsimp only
    split <;> rfl
  · rfl

/-- The repeated ack is counted, and the third one starts a fast retransmit. -/
def recounted (snd : SendSide) (ackSeq : UInt16) : SendSide :=
  fastRetransmit (countRepeatedAck snd ackSeq)

/-- The window after a new ack: fast recovery, growth, or no change. -/
def CwndAfterAck (snd : SendSide) (cwnd : UInt16) : Prop :=
  cwnd = max snd.ourSsthresh 1 ∨ cwnd = increaseCwnd snd.ourCwnd ∨ cwnd = snd.ourCwnd

theorem refreshCwnd_snd : ∃ fastRetran cwnd time,
    (refreshCwnd s).snd =
      { s.snd with fastRetran := fastRetran, ourCwnd := cwnd, lastRefreshCwnd := time } ∧
      CwndAfterAck s.snd cwnd := by
  unfold refreshCwnd
  split
  · exact ⟨_, _, s.snd.lastRefreshCwnd, rfl, .inl rfl⟩
  · split
    · exact ⟨s.snd.fastRetran, _, _, rfl, .inr (.inl rfl)⟩
    · dsimp only
      split
      · exact ⟨s.snd.fastRetran, _, _, rfl, .inr (.inl rfl)⟩
      · exact ⟨s.snd.fastRetran, s.snd.ourCwnd, s.snd.lastRefreshCwnd, rfl, .inr (.inr rfl)⟩

/-- The timers left after an ack. -/
def timersLeft (snd : SendSide) (ackSeq : UInt16) : List TmEntry :=
  (tmAckPacket snd.tmList ackSeq snd.ourDataSent).2

theorem acknowledgeTimers_snd (ackSeq : UInt16) : ∃ rtoCpt,
    (acknowledgeTimers s ackSeq).snd =
      { s.snd with tmList := timersLeft s.snd ackSeq, rtoCpt := rtoCpt } := by
  unfold acknowledgeTimers timersLeft
  generalize tmAckPacket s.snd.tmList ackSeq s.snd.ourDataSent = acked
  obtain ⟨entry, tmList⟩ := acked
  dsimp only
  split
  · exact ⟨s.snd.rtoCpt, rfl⟩
  · split
    · exact ⟨_, rfl⟩
    · exact ⟨s.snd.rtoCpt, rfl⟩

/-- The sender once a new ack has been dealt with, before the message may end. -/
def settled (snd : SendSide) (ackSeq : UInt16) (fastRetran : Bool) (cwnd : UInt16)
    (time : GTimeVal) (rtoCpt : RTOComputer) : SendSide :=
  let snd := skipAcknowledged
    { snd with fastRetran := fastRetran, ourCwnd := cwnd, lastRefreshCwnd := time }
  { snd with tmList := timersLeft snd ackSeq, rtoCpt := rtoCpt }

/-- The message ends with an ack behind its last number. -/
def endedByAck (snd : SendSide) (ackSeq : UInt16) : SendSide :=
  if umpCmpInSndbase snd ackSeq snd.ourMsgLastSeq > 0 then endedSend snd true else snd

/-- What that adds to the log. -/
def endingByAck (snd : SendSide) (ackSeq : UInt16) : List Action :=
  if umpCmpInSndbase snd ackSeq snd.ourMsgLastSeq > 0 then ending snd true else []

theorem finishAck_snd (ackSeq : UInt16) : ∃ fastRetran cwnd time rtoCpt,
    (finishAck s ackSeq).snd =
      endedByAck (settled s.snd ackSeq fastRetran cwnd time rtoCpt) ackSeq ∧
      traffic (finishAck s ackSeq).log =
        endingByAck (settled s.snd ackSeq fastRetran cwnd time rtoCpt) ackSeq ++ traffic s.log ∧
      CwndAfterAck s.snd cwnd := by
  obtain ⟨fastRetran, cwnd, time, refreshed, grown⟩ := refreshCwnd_snd s
  obtain ⟨rtoCpt, acknowledged⟩ := acknowledgeTimers_snd
    { refreshCwnd s with snd := skipAcknowledged (refreshCwnd s).snd } ackSeq
  have settles : (acknowledgeTimers
      { refreshCwnd s with snd := skipAcknowledged (refreshCwnd s).snd } ackSeq).snd =
      settled s.snd ackSeq fastRetran cwnd time rtoCpt := by
    rw [acknowledged]
    dsimp only
    rw [refreshed]
    rfl
  refine ⟨fastRetran, cwnd, time, rtoCpt, ?_, ?_, grown⟩
  · rw [← settles]
    unfold finishAck endedByAck
    dsimp only
    split
    · rw [umpEndSend_snd]
    · rfl
  · rw [← settles]
    unfold finishAck endingByAck
    dsimp only
    split
    · simp
    · simp

/-- The sender with the base moved by a new ack and the window it brings. -/
def acknowledgedBy (snd : SendSide) (p : UMPPacket) (now : GTimeVal) : SendSide :=
  notified (advanceBase (recounted snd p.ackNum) p.ackNum) p now

/-- What `ump_handle_data_ack` does to the sender and adds to its traffic. -/
inductive AckStep (snd : SendSide) (p : UMPPacket) : SendSide → List Action → Prop where
  /-- No ack in the packet. -/
  | noAck (now : GTimeVal) (flag : uPacketGetFlag p UP_DATA_ACK = false) :
      AckStep snd p (notified snd p now) []
  /-- An ack out of range. -/
  | outside (flag : uPacketGetFlag p UP_DATA_ACK)
      (range : ackInRange (recounted snd p.ackNum) p.ackNum = false) :
      AckStep snd p (recounted snd p.ackNum) []
  /-- An ack of the base. -/
  | old (now : GTimeVal) (flag : uPacketGetFlag p UP_DATA_ACK)
      (range : ackInRange (recounted snd p.ackNum) p.ackNum)
      (same : ¬ ackDiff (recounted snd p.ackNum) p.ackNum > 0) :
      AckStep snd p (notified (recounted snd p.ackNum) p now) []
  /-- A new ack. -/
  | new (now time : GTimeVal) (fastRetran : Bool) (cwnd : UInt16) (rtoCpt : RTOComputer)
      (flag : uPacketGetFlag p UP_DATA_ACK)
      (range : ackInRange (recounted snd p.ackNum) p.ackNum)
      (ahead : ackDiff (recounted snd p.ackNum) p.ackNum > 0)
      (grown : CwndAfterAck (acknowledgedBy snd p now) cwnd) :
      AckStep snd p
        (endedByAck
          (settled (acknowledgedBy snd p now) p.ackNum fastRetran cwnd time rtoCpt) p.ackNum)
        (endingByAck
          (settled (acknowledgedBy snd p now) p.ackNum fastRetran cwnd time rtoCpt) p.ackNum)

theorem umpHandleDataAck_step (p : UMPPacket) : ∃ added,
    AckStep s.snd p (umpHandleDataAck s p).snd added ∧
      traffic (umpHandleDataAck s p).log = added ++ traffic s.log := by
  unfold umpHandleDataAck
  split
  · rename_i flag
    dsimp only
    split
    · rename_i range
      split
      · rename_i ahead
        obtain ⟨fastRetran, cwnd, time, rtoCpt, finished, logged, grown⟩ := finishAck_snd
          (umpHandleWndNotify { s with snd := advanceBase (recounted s.snd p.ackNum) p.ackNum } p)
          p.ackNum
        have notifies : (umpHandleWndNotify
            { s with snd := advanceBase (recounted s.snd p.ackNum) p.ackNum } p).snd =
            acknowledgedBy s.snd p s.now := umpHandleWndNotify_snd _ p
        rw [notifies] at finished grown logged
        rw [umpHandleWndNotify_log] at logged
        have stepped : AckStep s.snd p _ _ :=
          .new s.now time fastRetran cwnd rtoCpt flag range ahead grown
        rw [← finished] at stepped
        exact ⟨_, stepped, logged⟩
      · rename_i same
        refine ⟨[], ?_, by simp⟩
        rw [umpHandleWndNotify_snd]
        exact .old _ flag range same
    · rename_i range
      exact ⟨[], .outside flag ((Bool.not_eq_true _).mp range), rfl⟩
  · rename_i flag
    refine ⟨[], ?_, by simp⟩
    rw [umpHandleWndNotify_snd]
    exact .noAck _ (by simpa using flag)

/-! ### The stages in closed form -/

section Closed

variable (snd : SendSide) (p : UMPPacket) (ackSeq : UInt16)

/-- A refreshed number is one of the two compared. -/
theorem umpRefreshBackPoint_eq (seq : UInt16) : ∃ backPoint,
    umpRefreshBackPoint snd seq = { snd with ourBackPoint := backPoint } := by
  unfold umpRefreshBackPoint
  split
  · exact ⟨_, rfl⟩
  · exact ⟨snd.ourBackPoint, rfl⟩

/-- A repeated ack is counted at most, or it rewinds the sender to the base. -/
theorem recounted_cases :
    (recounted snd ackSeq = snd ∧ snd.ackRepCount ≤ 1) ∨
      (ackSeq = snd.ourDataSeqBase ∧ snd.ackRepCount ≤ 0 ∧
        recounted snd ackSeq = { snd with ackRepCount := snd.ackRepCount + 1 }) ∨
      (ackSeq = snd.ourDataSeqBase ∨ snd.ackRepCount > 1) ∧ ∃ backPoint,
        recounted snd ackSeq =
          { snd with
            ourBackPoint := backPoint
            ourDataPos := snd.acked
            ourCwnd := UInt16.ofNat (max (snd.ourSsthresh.toNat + 3) 1)
            ackRepCount := 0
            fastRetran := true
            tmList := []
            rtoCpt := rtoTimeoutOccur snd.rtoCpt } := by
  have rewound (count : Int) : ∃ backPoint, (fastRetransmit { snd with ackRepCount := count }) =
      if count > 1 then
        { snd with
          ourBackPoint := backPoint
          ourDataPos := snd.acked
          ourCwnd := UInt16.ofNat (max (snd.ourSsthresh.toNat + 3) 1)
          ackRepCount := 0
          fastRetran := true
          tmList := []
          rtoCpt := rtoTimeoutOccur snd.rtoCpt }
      else { snd with ackRepCount := count } := by
    unfold fastRetransmit
    obtain ⟨backPoint, same⟩ := umpRefreshBackPoint_eq { snd with ackRepCount := count }
      (umpRelativeToSeqViaSndstartseq { snd with ackRepCount := count } snd.ourDataPos)
    refine ⟨backPoint, ?_⟩
    split
    · dsimp only
      rw [same, umpSeqToRelativeViaSndstartseq_eq]
      rfl
    · rfl
  unfold recounted countRepeatedAck
  split
  · rename_i repeated
    obtain ⟨backPoint, same⟩ := rewound (snd.ackRepCount + 1)
    rw [same]
    split
    · exact .inr (.inr ⟨.inl repeated.1, backPoint, rfl⟩)
    · exact .inr (.inl ⟨repeated.1, by omega, rfl⟩)
  · obtain ⟨backPoint, same⟩ := rewound snd.ackRepCount
    rw [same]
    split
    · rename_i many
      exact .inr (.inr ⟨.inr many, backPoint, rfl⟩)
    · exact .inl ⟨rfl, by omega⟩

/-- Repeated acks move neither the numbers of a message nor its window. -/
theorem recounted_numbers : (recounted snd ackSeq).ourDataStartSeq = snd.ourDataStartSeq ∧
    (recounted snd ackSeq).ourDataSeqBase = snd.ourDataSeqBase ∧
    (recounted snd ackSeq).ourDataSent = snd.ourDataSent := by
  rcases recounted_cases snd ackSeq with ⟨same, -⟩ | ⟨-, -, counted⟩ | ⟨-, _, rewound⟩
  · rw [same]
    exact ⟨rfl, rfl, rfl⟩
  · rw [counted]
    exact ⟨rfl, rfl, rfl⟩
  · rw [rewound]
    exact ⟨rfl, rfl, rfl⟩

theorem ackInRange_recounted (seq : UInt16) :
    ackInRange (recounted snd ackSeq) seq = ackInRange snd seq := by
  obtain ⟨-, base, sent⟩ := recounted_numbers snd ackSeq
  rw [Bool.eq_iff_iff, ackInRange_iff, ackInRange_iff, base, sent]

theorem ackDiff_recounted (seq : UInt16) :
    ackDiff (recounted snd ackSeq) seq = offset snd.ourDataSeqBase seq := by
  rw [ackDiff_eq, (recounted_numbers snd ackSeq).2.1]

theorem notified_eq (now : GTimeVal) : notified snd p now = snd ∧
      uPacketGetFlag p UP_DATA_WND = false ∨
    uPacketGetFlag p UP_DATA_WND = true ∧ ∃ time, notified snd p now =
      { umpRefreshSndWndPos { snd with theirWnd := p.wndNum } with
        actReqWnd := decide (p.wndNum = 0)
        lastReqWndTime := time } := by
  unfold notified
  split
  · rename_i flag
    refine .inr ⟨flag, ?_⟩
    dsimp only
    split
    · rename_i zero
      exact ⟨now, by simp [zero]⟩
    · rename_i some
      exact ⟨(umpRefreshSndWndPos { snd with theirWnd := p.wndNum }).lastReqWndTime, by simp [some]⟩
  · rename_i flag
    exact .inl ⟨rfl, by simpa using flag⟩

theorem advanceBase_eq : ∃ backPoint, advanceBase snd ackSeq =
    { snd with ourDataSeqBase := ackSeq, ackRepCount := 0, ourBackPoint := backPoint } :=
  umpRefreshBackPoint_eq _ _

/-- A new ack is the base behind it, and the message has not moved. -/
theorem acknowledgedBy_numbers (now : GTimeVal) :
    (acknowledgedBy snd p now).ourDataStartSeq = snd.ourDataStartSeq ∧
      (acknowledgedBy snd p now).ourDataSeqBase = p.ackNum ∧
      (acknowledgedBy snd p now).ourDataSent = snd.ourDataSent := by
  obtain ⟨start, -, sent⟩ := recounted_numbers snd p.ackNum
  obtain ⟨backPoint, advanced⟩ := advanceBase_eq (recounted snd p.ackNum) p.ackNum
  unfold acknowledgedBy
  rcases notified_eq (advanceBase (recounted snd p.ackNum) p.ackNum) p now with
    ⟨same, -⟩ | ⟨-, time, changed⟩
  · rw [same, advanced]
    exact ⟨start, rfl, sent⟩
  · rw [changed, advanced]
    exact ⟨start, rfl, sent⟩

theorem settled_eq (fastRetran : Bool) (cwnd : UInt16) (time : GTimeVal) (rtoCpt : RTOComputer) :
    settled snd ackSeq fastRetran cwnd time rtoCpt =
      { snd with
        fastRetran := fastRetran
        ourCwnd := cwnd
        lastRefreshCwnd := time
        ourDataPos := max snd.ourDataPos snd.acked
        tmList := timersLeft snd ackSeq
        rtoCpt := rtoCpt } := by
  have relative : umpSeqToRelativeViaSndstartseq
      { snd with fastRetran := fastRetran, ourCwnd := cwnd, lastRefreshCwnd := time }
      snd.ourDataSeqBase = snd.acked := umpSeqToRelativeViaSndstartseq_eq _ _
  unfold settled skipAcknowledged
  dsimp only
  rw [relative]
  split
  · rename_i behind
    have largest : max snd.ourDataPos snd.acked = snd.acked := by
      have position : snd.ourDataPos < snd.acked := behind
      omega
    rw [largest]
    rfl
  · rename_i ahead
    have largest : max snd.ourDataPos snd.acked = snd.ourDataPos := by
      have position : ¬ snd.ourDataPos < snd.acked := ahead
      omega
    rw [largest]
    rfl

theorem rewindAfterTimeout_eq : ∃ backPoint, rewindAfterTimeout snd =
    umpRefreshSndWndPos
      { snd with
        ourSsthresh := max (snd.ourCwnd / 2) 2
        ourCwnd := 1
        ourBackPoint := backPoint
        ourDataPos := snd.acked
        ackRepCount := 0
        fastRetran := false
        rtoCpt := rtoTimeoutOccur snd.rtoCpt } := by
  obtain ⟨backPoint, same⟩ := umpRefreshBackPoint_eq
    { snd with ourSsthresh := max (snd.ourCwnd / 2) 2, ourCwnd := 1 }
    (umpRelativeToSeqViaSndstartseq
      { snd with ourSsthresh := max (snd.ourCwnd / 2) 2, ourCwnd := 1 } snd.ourDataPos)
  refine ⟨backPoint, ?_⟩
  unfold rewindAfterTimeout
  dsimp only
  rw [same, umpSeqToRelativeViaSndstartseq_eq]
  rfl

/-- The highest number sent behind the transmission of `seq`. -/
def sentBehind (seq : UInt16) : UInt16 :=
  if umpCmpInSndbase snd snd.ourDataSent seq < 0 then seq else snd.ourDataSent

theorem umpRefreshDataSent_eq (seq : UInt16) :
    umpRefreshDataSent snd seq = { snd with ourDataSent := sentBehind snd seq } := by
  unfold umpRefreshDataSent sentBehind
  split <;> rfl

theorem afterTransmit_eq (now : GTimeVal) : afterTransmit snd p now =
    { snd with
      sndPackets := snd.sndPackets.map (·.set snd.ourDataPos.toNat p)
      tmList := tmRegisterPacket snd.tmList p.seqNum (packetTimeout snd) now
      ourDataSent := sentBehind snd p.seqNum
      ourDataPos := snd.ourDataPos + 1 } := by
  unfold afterTransmit
  dsimp only
  rw [umpRefreshDataSent_eq]
  rfl

end Closed

/-! ### The sender under control packets and calls -/

section Control

variable (p : UMPPacket) (method : UMPCallMethod) (ok : Bool)

@[simp] theorem umpEndCtrl_traffic : traffic (umpEndCtrl s method ok).log = traffic s.log := by
  unfold umpEndCtrl
  split <;> split <;> rfl

@[simp] theorem umpFailReceive_traffic : traffic (umpFailReceive s).log = traffic s.log := by
  unfold umpFailReceive
  split <;> rfl

@[simp] theorem umpChangeState_traffic (state : UMPSockState) :
    traffic (umpChangeState s state).log = traffic s.log := by
  cases state with
  | closed =>
      simp only [umpChangeState, umpClosedEnterState, umpEndCtrl_traffic]
      split
      · rw [umpFailReceive_traffic]
        rfl
      · rfl
  | connecting => rfl
  | established =>
      simp only [umpChangeState, umpEstablishedEnterState, umpEndCtrl_traffic]
      rfl
  | closing => rfl

@[simp] theorem umpConnectionErrorOccured_snd :
    (umpConnectionErrorOccured s).snd = endedSend s.snd false := by
  simp [umpConnectionErrorOccured]

@[simp] theorem umpConnectionErrorOccured_traffic :
    traffic (umpConnectionErrorOccured s).log = ending s.snd false ++ traffic s.log := by
  simp only [umpConnectionErrorOccured, umpFailReceive_traffic, umpEndSend_traffic,
    umpEndCtrl_traffic, umpChangeState_traffic, umpEndCtrl_snd, umpChangeState_snd]
  rfl

@[simp] theorem dropPending_traffic : traffic (dropPending s).log = traffic s.log := by
  unfold dropPending
  dsimp only
  split <;> rfl

@[simp] theorem queueCtrlPacket_traffic : traffic (queueCtrlPacket s p).log = traffic s.log := rfl

/-- The SYN `p` of the peer is taken in this state. -/
structure TakesSyn (h : Handshake) (p : UMPPacket) : Prop where
  fresh : h.synReced = false
  opening : h.state = .closed ∨ h.state = .connecting
  noReset : uPacketGetFlag p UP_CTRL_RST = false
  syn : uPacketGetFlag p UP_CTRL_SYN
  numbered : uPacketGetFlag p UP_CTRL_SEQ

theorem connectingAck_snd : (connectingAck s p).snd = s.snd := by
  unfold connectingAck
  dsimp only
  repeat' split
  all_goals simp

theorem connectingAck_synReced : (connectingAck s p).ctrl.synReced = s.ctrl.synReced := by
  unfold connectingAck dropPending
  dsimp only
  repeat' split
  all_goals rfl

theorem connectingAck_traffic : traffic (connectingAck s p).log = traffic s.log := by
  unfold connectingAck
  dsimp only
  repeat' split
  all_goals simp

theorem completeOpen_snd : (completeOpen s).snd = s.snd := by
  unfold completeOpen
  split <;> simp

theorem completeOpen_traffic : traffic (completeOpen s).log = traffic s.log := by
  unfold completeOpen
  split <;> simp

theorem closingAck_snd : (closingAck s p).snd = s.snd := by
  unfold closingAck
  dsimp only
  repeat' split
  all_goals simp

theorem closingAck_traffic : traffic (closingAck s p).log = traffic s.log := by
  unfold closingAck
  dsimp only
  repeat' split
  all_goals simp

theorem completeClose_snd : (completeClose s).snd = s.snd := by
  unfold completeClose
  split <;> simp

theorem completeClose_traffic : traffic (completeClose s).log = traffic s.log := by
  unfold completeClose
  split <;> simp

theorem establishedAck_snd : (establishedAck s p).snd = s.snd := by
  unfold establishedAck
  split <;> simp

theorem establishedAck_traffic : traffic (establishedAck s p).log = traffic s.log := by
  unfold establishedAck
  split <;> simp

/-- A control packet without RST touches the sender only as a SYN that is taken. -/
theorem smHandleCtrlPacket_snd (plain : uPacketGetFlag p UP_CTRL_RST = false) :
    ¬ TakesSyn s.handshake p ∧ (smHandleCtrlPacket s p).snd = s.snd ∨
      TakesSyn s.handshake p ∧ (smHandleCtrlPacket s p).snd = (takeSyn s p).snd := by
  unfold smHandleCtrlPacket
  cases state : s.ctrl.state with
  | closed =>
      dsimp only
      unfold umpClosedHandleCtrlPacket
      split
      · rename_i fresh
        split
        · rename_i numbered
          exact .inr ⟨⟨fresh.1, .inl state, plain, fresh.2, numbered⟩, by simp⟩
        · rename_i unnumbered
          exact .inl ⟨fun taken => unnumbered taken.numbered, rfl⟩
      · rename_i known
        refine .inl ⟨fun taken => known ⟨taken.fresh, taken.syn⟩, ?_⟩
        split <;> simp
  | connecting =>
      dsimp only
      unfold umpConnectingHandleCtrlPacket
      dsimp only
      have kept := connectingAck_synReced s p
      have same := connectingAck_snd s p
      split
      · rename_i syn
        split
        · rename_i known
          rw [kept] at known
          exact .inl ⟨fun taken => absurd (known.symm.trans taken.fresh) (by decide),
            by simpa using same⟩
        · rename_i fresh
          split
          · rename_i numbered
            refine .inr ⟨⟨?_, .inr state, plain, syn, numbered⟩, ?_⟩
            · rw [kept] at fresh
              simpa [SocketCore.handshake] using fresh
            · rw [completeOpen_snd]
              simp only [setCtrlAck_snd, takeSyn, same]
          · rename_i unnumbered
            exact .inl ⟨fun taken => unnumbered taken.numbered, same⟩
      · rename_i noSyn
        refine .inl ⟨fun taken => noSyn taken.syn, ?_⟩
        split <;> simp [completeOpen_snd, same]
  | established =>
      dsimp only
      unfold umpEstablishedHandleCtrlPacket
      refine .inl ⟨fun taken => ?_, ?_⟩
      · rcases taken.opening with closed | connecting
        · exact absurd (state.symm.trans closed) (by decide)
        · exact absurd (state.symm.trans connecting) (by decide)
      · dsimp only
        repeat' split
        all_goals simp [establishedAck_snd]
  | closing =>
      dsimp only
      unfold umpClosingHandleCtrlPacket
      refine .inl ⟨fun taken => ?_, ?_⟩
      · rcases taken.opening with closed | connecting
        · exact absurd (state.symm.trans closed) (by decide)
        · exact absurd (state.symm.trans connecting) (by decide)
      · dsimp only
        split <;> simp [completeClose_snd, closingAck_snd]

theorem smHandleCtrlPacket_traffic : traffic (smHandleCtrlPacket s p).log = traffic s.log := by
  unfold smHandleCtrlPacket
  split
  · unfold umpClosedHandleCtrlPacket
    dsimp only
    repeat' split
    all_goals simp [umpClosedConnect]
  · unfold umpConnectingHandleCtrlPacket
    dsimp only
    repeat' split
    all_goals simp [completeOpen_traffic, connectingAck_traffic]
  · unfold umpEstablishedHandleCtrlPacket
    dsimp only
    repeat' split
    all_goals simp [umpEstablishedClose, establishedAck_traffic]
  · unfold umpClosingHandleCtrlPacket
    dsimp only
    split <;> simp [completeClose_traffic, closingAck_traffic]

/-- A control call touches the sender only when it closes the connection. -/
theorem smHandleCtrl_snd :
    (smHandleCtrl s method).snd = s.snd ∧
        traffic (smHandleCtrl s method).log = traffic s.log ∨
      (smHandleCtrl s method).ctrl.state = .closing ∧
        (smHandleCtrl s method).snd = endedSend s.snd false ∧
        traffic (smHandleCtrl s method).log = ending s.snd false ++ traffic s.log := by
  unfold smHandleCtrl
  split
  · unfold umpClosedHandleCtrl
    left
    repeat' split
    all_goals simp [umpClosedConnect]
  · unfold umpConnectingHandleCtrl
    left
    split <;> simp
  · unfold umpEstablishedHandleCtrl
    split
    · right
      refine ⟨?_, ?_, ?_⟩
      · simp only [umpFailReceive_ctrl, umpEndSend_ctrl]
        rfl
      · simp
      · simp [umpEstablishedClose]
    · left
      split <;> simp
  · unfold umpClosingHandleCtrl
    left
    split <;> simp

end Control

/-! ### The sender as a machine -/

/-- The packets a socket sends besides those of a message. -/
inductive Signal (s : SocketCore) : SockEvent → UMPPacket → Prop where
  | dataAck (due : s.ackInfo.dataAckSet = true) :
      Signal s .sendData
        (uPacketToBinary (umpSetPacketAckInfo s.ackInfo (uPacketNew .data .outgoing)))
  | pending (p : UMPPacket) (pending : s.ctrl.ctrlPacketToSend = some p) :
      Signal s .sendCtrlPacket (pendingOnWire s.ackInfo p)
  | ctrlAck (due : s.ackInfo.ctrlAckSet = true) :
      Signal s .sendCtrlPacket (ctrlAckAlone s.ackInfo)
  | reset : Signal s .sendReset resetPacket

/-- What an event can do to the sender and add to its traffic; `after` is the
handshake behind it. -/
inductive SendStep (s : SocketCore) (after : Handshake) :
    SockEvent → SendSide → List Action → Prop where
  | idle (event : SockEvent)
      (unheard : ∀ p, event = .dataPacket p → s.ctrl.state = .connecting)
      (untaken : ∀ p, event = .ctrlPacket p → ¬ TakesSyn s.handshake p) :
      SendStep s after event s.snd []
  | signal (event : SockEvent) (p : UMPPacket) (kind : Signal s event p) :
      SendStep s after event s.snd [.sendto p]
  | probe (asking : s.snd.actReqWnd = true) :
      SendStep s after .actReqWnd { s.snd with upReqWnd := some (reqWndPacket s.snd) }
        [.sendto (reqWndPacket s.snd)]
  | post (data : List UInt8) : SendStep s after (.userSend data) (umpSendMessage s data).snd []
  | refuse (packets : List UMPPacket) (unlocked : s.snd.sndLocked = .unlocked)
      (posted : s.snd.sndPackets = some packets) :
      SendStep s after .handleSend (endSend s.snd false) [.sendDone false]
  | start (packets : List UMPPacket) (unlocked : s.snd.sndLocked = .unlocked)
      (posted : s.snd.sndPackets = some packets) (some : 1 ≤ s.snd.sndPacketsCount)
      (established : s.ctrl.state = .established) (noError : s.ctrl.errorOccured = false) :
      SendStep s after .handleSend
        (startMessage { s.snd with sndParaLock := true, sndLocked := .locked } packets)
        [.numbered (preparePackets s.snd.ourDataStartSeq packets)]
  | giveUp (event : SockEvent) (noData : ∀ p, event ≠ .dataPacket p) (parted : after.Parted)
      (untaken : ∀ p, event = .ctrlPacket p → ¬ TakesSyn s.handshake p) :
      SendStep s after event (endedSend s.snd false) (ending s.snd false)
  | syn (p : UMPPacket) (taken : TakesSyn s.handshake p) :
      SendStep s after (.ctrlPacket p) (takeSyn s p).snd []
  | transmit (p : UMPPacket) (locked : s.snd.sndLocked = .locked)
      (window : s.snd.ourDataPos < s.snd.ourWndPos)
      (found : packetAt s.snd s.snd.ourDataPos = Option.some p) :
      SendStep s after .sendData (afterTransmit s.snd (outgoingPacket s.ackInfo p) s.now)
        [.sendto (outgoingPacket s.ackInfo p)]
  | expired (parted : after.Parted) :
      SendStep s after .dataTimeout (endedSend { s.snd with tmList := [] } false)
        (ending s.snd false)
  | rewind : SendStep s after .dataTimeout (rewindAfterTimeout { s.snd with tmList := [] }) []
  | ack (p : UMPPacket) (heard : s.ctrl.state ≠ .connecting) (snd : SendSide)
      (added : List Action) (step : AckStep s.snd p snd added) :
      SendStep s after (.dataPacket p) snd added

/-- The step from `s` to `s'` is one of the sender's. -/
def Sends (s s' : SocketCore) (event : SockEvent) : Prop := ∃ added,
  SendStep s s'.handshake event s'.snd added ∧ traffic s'.log = added ++ traffic s.log

/-- A step that leaves sender and traffic alone. -/
theorem sends_idle {s s' : SocketCore} {event : SockEvent}
    (noData : ∀ p, event ≠ .dataPacket p)
    (untaken : ∀ p, event = .ctrlPacket p → ¬ TakesSyn s.handshake p) (same : s'.snd = s.snd)
    (logged : traffic s'.log = traffic s.log) : Sends s s' event := by
  unfold Sends
  rw [same]
  exact ⟨[], .idle _ (fun p equal => absurd equal (noData p)) untaken, logged⟩

/-- A step that sends a packet and leaves the sender alone. -/
theorem sends_signal {s s' : SocketCore} {event : SockEvent} {p : UMPPacket}
    (kind : Signal s event p) (same : s'.snd = s.snd)
    (logged : traffic s'.log = .sendto p :: traffic s.log) : Sends s s' event := by
  unfold Sends
  rw [same]
  exact ⟨_, .signal _ p kind, logged⟩

theorem umpHandleCtrl_sends : Sends s (umpHandleCtrl s) .handleCtrl := by
  unfold umpHandleCtrl
  split
  · exact sends_idle (by simp) (by simp) rfl rfl
  · split
    · exact sends_idle (by simp) (by simp) rfl rfl
    · split
      · exact sends_idle (by simp) (by simp) rfl rfl
      · dsimp only
        split
        · exact sends_idle (by simp) (by simp) (by simp) (by simp)
        · rename_i method _ _
          rcases smHandleCtrl_snd
            { s with ctrl := { s.ctrl with ctrlParaLock := true, ctrlLocked := .locked } } method
            with ⟨same, logged⟩ | ⟨closing, ended, logged⟩
          · exact sends_idle (by simp) (by simp) same logged
          · unfold Sends
            rw [ended]
            exact ⟨_, .giveUp _ (by simp) (.inr closing) (by simp), logged⟩

theorem umpHandleSend_sends : Sends s (umpHandleSend s) .handleSend := by
  unfold umpHandleSend
  split
  · exact sends_idle (by simp) (by simp) rfl rfl
  · rename_i unlocked
    split
    · exact sends_idle (by simp) (by simp) rfl rfl
    · split
      · exact sends_idle (by simp) (by simp) rfl rfl
      · rename_i packets posted
        dsimp only
        split
        · exact ⟨[.sendDone false], .refuse packets unlocked posted, rfl⟩
        · rename_i accepted
          simp only [not_or, not_not, Bool.not_eq_true] at accepted
          exact ⟨[.numbered (preparePackets s.snd.ourDataStartSeq packets)],
            .start packets unlocked posted (by omega) accepted.2.1 accepted.2.2, rfl⟩

theorem umpHandleCtrlPacket_sends (p : UMPPacket) :
    Sends s (umpHandleCtrlPacket s p) (.ctrlPacket p) := by
  unfold umpHandleCtrlPacket
  split
  · rename_i reset
    unfold Sends
    rw [umpConnectionErrorOccured_snd, umpConnectionErrorOccured_traffic,
      umpConnectionErrorOccured_handshake]
    refine ⟨_, .giveUp _ (by simp) (.inl rfl) ?_, rfl⟩
    rintro q same taken
    have plain := taken.noReset
    rw [← SockEvent.ctrlPacket.inj same, reset] at plain
    exact absurd plain (by decide)
  · rename_i plain
    have logged := smHandleCtrlPacket_traffic (s.act (.processed p s.ctrl.ourCtrlSeq)) p
    rcases smHandleCtrlPacket_snd (s.act (.processed p s.ctrl.ourCtrlSeq)) p
        ((Bool.not_eq_true _).mp plain) with ⟨untaken, same⟩ | ⟨taken, took⟩
    · refine sends_idle (by simp) ?_ same logged
      rintro q equal taken
      rw [← SockEvent.ctrlPacket.inj equal] at taken
      exact untaken ⟨taken.fresh, taken.opening, taken.noReset, taken.syn, taken.numbered⟩
    · unfold Sends
      rw [took]
      exact ⟨[], .syn p ⟨taken.fresh, taken.opening, taken.noReset, taken.syn, taken.numbered⟩,
        logged⟩

theorem umpHandleDataTimeout_sends : Sends s (umpHandleDataTimeout s) .dataTimeout := by
  unfold umpHandleDataTimeout
  split
  · exact sends_idle (by simp) (by simp) rfl rfl
  · dsimp only
    split
    · split
      · unfold Sends
        rw [umpConnectionErrorOccured_handshake]
        refine ⟨ending s.snd false, ?_, ?_⟩
        · rw [umpConnectionErrorOccured_snd, umpEndSend_snd]
          rw [endedSend_twice]
          exact .expired (.inl rfl)
        · rw [umpConnectionErrorOccured_traffic, umpEndSend_traffic, umpEndSend_snd]
          rw [ending_twice]
          rfl
      · exact ⟨[], .rewind, rfl⟩
    · exact sends_idle (by simp) (by simp) rfl rfl

theorem umpActReqWnd_sends : Sends s (umpActReqWnd s) .actReqWnd := by
  unfold umpActReqWnd
  split
  · exact sends_idle (by simp) (by simp) rfl rfl
  · rename_i asking
    dsimp only
    split
    · exact ⟨[.sendto (reqWndPacket s.snd)], .probe (by simpa using asking), rfl⟩
    · exact sends_idle (by simp) (by simp) rfl rfl

theorem umpHandleCtrlTimeout_sends : Sends s (umpHandleCtrlTimeout s) .ctrlTimeout := by
  unfold umpHandleCtrlTimeout
  split
  · exact sends_idle (by simp) (by simp) rfl rfl
  · split
    · exact sends_idle (by simp) (by simp) rfl rfl
    · dsimp only
      split
      · exact sends_idle (by simp) (by simp) rfl rfl
      · split
        · exact sends_idle (by simp) (by simp) rfl rfl
        · unfold Sends
          rw [umpConnectionErrorOccured_snd, umpConnectionErrorOccured_traffic,
            umpConnectionErrorOccured_handshake, umpEndCtrl_snd, umpEndCtrl_traffic]
          exact ⟨_, .giveUp _ (by simp) (.inl rfl) (by simp), rfl⟩

theorem umpHandleSendCtrlPacket_sends :
    Sends s (umpHandleSendCtrlPacket s) .sendCtrlPacket := by
  have alone : Sends s (sendCtrlAckAlone s) .sendCtrlPacket := by
    unfold sendCtrlAckAlone
    split
    · rename_i due
      exact sends_signal (.ctrlAck due) rfl rfl
    · exact sends_idle (by simp) (by simp) rfl rfl
  unfold umpHandleSendCtrlPacket
  split
  · rename_i pending waiting
    dsimp only
    split
    · exact sends_signal (.pending pending waiting) rfl rfl
    · exact alone
  · exact alone

theorem umpHandleSendData_sends : Sends s (umpHandleSendData s) .sendData := by
  have alone : Sends s (sendAckAlone s) .sendData := by
    unfold sendAckAlone
    split
    · rename_i due
      exact sends_signal (.dataAck due) rfl rfl
    · exact sends_idle (by simp) (by simp) rfl rfl
  unfold umpHandleSendData
  split
  · exact alone
  · rename_i locked
    unfold umpSndlockedHandleSendData
    split
    · rename_i window
      split
      · exact sends_idle (by simp) (by simp) rfl rfl
      · rename_i p found
        exact ⟨_, .transmit p locked window found, rfl⟩
    · exact alone

theorem umpHandleSendResetPacket_sends :
    Sends s (umpHandleSendResetPacket s) .sendReset := by
  unfold umpHandleSendResetPacket
  split
  · exact sends_signal .reset rfl rfl
  · exact sends_idle (by simp) (by simp) rfl rfl

section Receiving

variable {Lists : Type} [ReceiveLists Lists] (u : UMPSocket Lists) (p : UMPPacket)

theorem finishReceive_traffic : traffic (finishReceive u).core.log = traffic u.core.log := by
  unfold finishReceive
  dsimp only
  rw [act_log, umpEndReceiveInternal_log]
  rfl

theorem umpEndReceive_traffic : traffic (umpEndReceive u).core.log = traffic u.core.log := by
  unfold umpEndReceive
  split
  · rfl
  · rw [finishReceive_traffic]

theorem umpHandleReceive_traffic : traffic (umpHandleReceive u).core.log = traffic u.core.log := by
  unfold umpHandleReceive
  dsimp only
  repeat' split
  all_goals first | rfl | exact finishReceive_traffic u

theorem storePacket_traffic : traffic (storePacket u p).core.log = traffic u.core.log := by
  unfold storePacket takeInOrder advanceTheirBase umpCheckRcvDataSoFar
  dsimp only
  repeat' split
  all_goals first | rfl | simp [umpEndReceive_traffic]

theorem umpHandleDataPacket_sends :
    Sends u.core (umpHandleDataPacket u p).core (.dataPacket p) := by
  have asked : ∃ ackInfo, (if uPacketGetFlag p UP_DATA_SEQ then
      { u with core := { u.core with ackInfo := umpSetOurAckInfo u.core.ackInfo false } }
      else u) = { u with core := { u.core with ackInfo := ackInfo } } := by
    split
    · exact ⟨_, rfl⟩
    · exact ⟨u.core.ackInfo, rfl⟩
  obtain ⟨ackInfo, asked⟩ := asked
  obtain ⟨added, stepped, logged⟩ :=
    umpHandleDataAck_step { u.core with ackInfo := ackInfo } p
  unfold umpHandleDataPacket Sends
  dsimp only
  rw [asked]
  cases state : u.core.ctrl.state with
  | closed => exact ⟨added, .ack p (by rw [state]; decide) _ _ stepped, logged⟩
  | connecting => exact ⟨[], .idle _ (fun _ _ => state) (by simp), rfl⟩
  | established =>
      dsimp only
      unfold umpEstablishedHandleDataPacket
      dsimp only
      split
      · rw [storePacket_snd, storePacket_traffic]
        exact ⟨added, .ack p (by rw [state]; decide) _ _ stepped, logged⟩
      · exact ⟨added, .ack p (by rw [state]; decide) _ _ stepped, logged⟩
  | closing => exact ⟨added, .ack p (by rw [state]; decide) _ _ stepped, logged⟩

/-- A socket, seen through its sender. -/
theorem send_step (event : SockEvent) : Sends u.core (sockStep u event).core event := by
  cases event with
  | userCtrl method => exact sends_idle (by simp) (by simp) rfl rfl
  | userSend data => exact ⟨[], .post data, rfl⟩
  | userReceive => exact sends_idle (by simp) (by simp) rfl rfl
  | handleCtrl => exact umpHandleCtrl_sends u.core
  | handleSend => exact umpHandleSend_sends u.core
  | handleReceive =>
      exact sends_idle (by simp) (by simp) (umpHandleReceive_snd u) (umpHandleReceive_traffic u)
  | bufferLoad load => exact sends_idle (by simp) (by simp) rfl rfl
  | ctrlPacket p => exact umpHandleCtrlPacket_sends u.core p
  | dataPacket p => exact umpHandleDataPacket_sends u p
  | dataTimeout => exact umpHandleDataTimeout_sends u.core
  | refreshRwnd => exact sends_idle (by simp) (by simp) rfl rfl
  | refreshAck =>
      exact sends_idle (by simp) (by simp) (umpRefreshOurAckInfo_snd u.core) (by simp [sockStep])
  | actReqWnd => exact umpActReqWnd_sends u.core
  | ctrlTimeout => exact umpHandleCtrlTimeout_sends u.core
  | sendCtrlPacket => exact umpHandleSendCtrlPacket_sends u.core
  | heartbeat =>
      exact sends_idle (by simp) (by simp) (umpHandleSendHeartbeat_snd u.core) (by simp [sockStep])
  | sendData => exact umpHandleSendData_sends u.core
  | sendReset => exact umpHandleSendResetPacket_sends u.core

/-- Where a message starts and how far it is acknowledged. -/
def SendSide.numbers (snd : SendSide) : UInt16 × UInt16 :=
  (snd.ourDataStartSeq, snd.ourDataSeqBase)

theorem endedSend_numbers (snd : SendSide) : (endedSend snd false).numbers = snd.numbers := by
  unfold endedSend
  split <;> rfl

theorem notified_numbers (snd : SendSide) (now : GTimeVal) :
    (notified snd p now).numbers = snd.numbers := by
  rcases notified_eq snd p now with ⟨same, -⟩ | ⟨-, time, changed⟩
  · rw [same]
  · rw [changed]
    rfl

/-- Only a new ack moves the numbers of a sender. -/
theorem sockStep_numbers (event : SockEvent) :
    (sockStep u event).core.snd.numbers = u.core.snd.numbers ∨
      ∃ p, event = .dataPacket p ∧ uPacketGetFlag p UP_DATA_ACK ∧
        0 < offset u.core.snd.ourDataSeqBase p.ackNum := by
  have recounts (ackSeq : UInt16) : (recounted u.core.snd ackSeq).numbers = u.core.snd.numbers := by
    obtain ⟨start, base, -⟩ := recounted_numbers u.core.snd ackSeq
    unfold SendSide.numbers
    rw [start, base]
  obtain ⟨added, step, -⟩ := send_step u event
  generalize (sockStep u event).core.snd = snd' at step ⊢
  generalize (sockStep u event).core.handshake = k at step
  cases step with
  | idle | signal | probe | post | refuse | start | syn => exact .inl rfl
  | giveUp => exact .inl (endedSend_numbers _)
  | transmit q locked window found =>
      left
      unfold afterTransmit umpRefreshDataSent
      dsimp only
      split <;> rfl
  | expired => exact .inl (endedSend_numbers _)
  | rewind =>
      left
      obtain ⟨backPoint, rewound⟩ := rewindAfterTimeout_eq { u.core.snd with tmList := [] }
      rw [rewound]
      rfl
  | ack p heard snd added ackStep =>
      cases ackStep with
      | noAck now flag => exact .inl (notified_numbers p _ now)
      | outside flag range => exact .inl (recounts _)
      | old now flag range same => exact .inl ((notified_numbers p _ now).trans (recounts _))
      | new now time fastRetran cwnd rtoCpt flag range ahead grown =>
          rw [ackDiff_recounted] at ahead
          exact .inr ⟨p, rfl, flag, ahead⟩

end Receiving

/-! ### What a step sends -/

/-- The packet of a step in the log. -/
def Action.sent : Action → Option UMPPacket
  | .sendto p => some p
  | _ => none

section Sent

variable {Lists : Type} [ReceiveLists Lists]

/-- The packets a step sends, the latest first. -/
def sentBy (u : UMPSocket Lists) (event : SockEvent) : List UMPPacket :=
  let log := traffic (sockStep u event).core.log
  (log.take (log.length - (traffic u.core.log).length)).filterMap Action.sent

/-- What a step sends, in terms of the log. -/
theorem sentBy_eq {u : UMPSocket Lists} {event : SockEvent} {added : List Action}
    (logged : traffic (sockStep u event).core.log = added ++ traffic u.core.log) :
    sentBy u event = added.filterMap Action.sent := by
  unfold sentBy
  dsimp only
  rw [logged, List.length_append, Nat.add_sub_cancel, List.take_left]

end Sent

end UserMessageProtocol
