import UserMessageProtocol.Sender.Shape

/-!
Contract: a packet is transmitted from inside the array and inside the peer's
window.

Owns: the property of a sender (`IndexSafe`), the acks that break it
(`keepsStart` excludes them), the invariant of positions (`Positions`) and the run
theorem.

Does not own: which packets were transmitted (`Sender.Transmission`).
-/

set_option autoImplicit false

namespace UserMessageProtocol

open Serial

/-- The next transmission stays inside `snd_packets` and inside the window of the
peer. -/
def IndexSafe (snd : SendSide) : Prop :=
  snd.sndLocked = .locked → snd.ourDataPos < snd.ourWndPos →
    0 ≤ snd.ourDataPos ∧ snd.ourDataPos < snd.sndPacketsCount ∧
      ∃ p, packetAt snd snd.ourDataPos = some p ∧
        offset snd.ourDataSeqBase p.seqNum < snd.theirWnd.toNat

/-- A new ack that is accepted is not read as a number before the message. -/
def ackKeepsStart (snd : SendSide) (p : UMPPacket) : Prop :=
  uPacketGetFlag p UP_DATA_ACK → ackInRange snd p.ackNum → 0 < ackDiff snd p.ackNum →
    0 ≤ umpSeqToRelativeViaSndstartseq snd p.ackNum

instance (snd : SendSide) (p : UMPPacket) : Decidable (ackKeepsStart snd p) := by
  unfold ackKeepsStart
  infer_instance

/-- No event brings an ack that is accepted and read as a number before the message. -/
def keepsStart {Lists : Type} (u : UMPSocket Lists) : SockEvent → Prop
  | .dataPacket p => u.core.ctrl.state ≠ .connecting → ackKeepsStart u.core.snd p
  | _ => True

instance {Lists : Type} (u : UMPSocket Lists) (event : SockEvent) :
    Decidable (keepsStart u event) :=
  match event with
  | .dataPacket _ => by unfold keepsStart; infer_instance
  | .userCtrl .. | .userSend .. | .userReceive | .handleCtrl | .handleSend | .handleReceive |
    .bufferLoad .. | .ctrlPacket .. | .dataTimeout | .refreshRwnd | .refreshAck | .actReqWnd |
    .ctrlTimeout | .sendCtrlPacket | .heartbeat | .sendData | .sendReset => instDecidableTrue

/-! ### Positions -/

/-- The base and the next packet lie behind the start of the message, and the
window ends inside the message and inside the peer's window. -/
structure Positions (snd : SendSide) : Prop where
  acked : 0 ≤ snd.acked
  position : 0 ≤ snd.ourDataPos
  window : snd.sndLocked = .locked →
    snd.ourWndPos ≤ snd.sndPacketsCount ∧ snd.ourWndPos ≤ snd.acked + snd.theirWnd.toNat

theorem positions_new (seq : UInt16) (clock : Clock) :
    Positions (umpSockNewCore seq clock).snd where
  acked := by simp [SendSide.acked, umpSockNewCore]
  position := by simp [umpSockNewCore]
  window := by simp [umpSockNewCore]

theorem Positions.indexSafe {synReced : Bool} {snd : SendSide} (positions : Positions snd)
    (shape : Shape synReced snd.message) : IndexSafe snd := by
  intro locked window
  obtain ⟨inside, allowed⟩ := positions.window locked
  obtain ⟨packets, holds⟩ := shape.message locked
  have count : snd.sndPacketsCount = packets.length := holds.count
  obtain ⟨position, here⟩ := Int.eq_ofNat_of_zero_le positions.position
  have found : packets[position]? = some packets[position] :=
    List.getElem?_eq_getElem (by omega)
  refine ⟨positions.position, by omega, packets[position], ?_, ?_⟩
  · rw [here, holds.packetAt]
    exact found
  · have number : packets[position].seqNum = place snd.ourDataStartSeq position :=
      (holds.inMessage position _ found).seqNum
    have base := snd.base_eq
    have start := positions.acked
    have ahead := offset_upper snd.ourDataStartSeq snd.ourDataSeqBase
    have width := snd.theirWnd.toNat_lt
    rw [number, base, offset_place_place, Int.bmod_def]
    simp only [SendSide.acked] at *
    omega

section Steps

variable {snd : SendSide}

/-- The end of a refreshed window. -/
theorem Positions.ofRefresh (acked : 0 ≤ snd.acked) (position : 0 ≤ snd.ourDataPos) :
    Positions (umpRefreshSndWndPos snd) where
  acked := acked
  position := position
  window := fun _ => by
    have windowEnd := umpRefreshSndWndPos_ourWndPos snd
    have size := snd.window_toNat
    have same : (umpRefreshSndWndPos snd).acked = snd.acked := rfl
    have sameWnd : (umpRefreshSndWndPos snd).theirWnd = snd.theirWnd := rfl
    have sameCount : (umpRefreshSndWndPos snd).sndPacketsCount = snd.sndPacketsCount := rfl
    have wrapped : (snd.acked + snd.window.toNat).bmod 65536 ≤ snd.acked + snd.window.toNat := by
      rw [Int.bmod_def]
      omega
    rw [windowEnd, same, sameWnd, sameCount]
    omega

theorem Positions.afterRecount (positions : Positions snd) (ackSeq : UInt16) :
    Positions (recounted snd ackSeq) := by
  rcases recounted_cases snd ackSeq with ⟨same, -⟩ | ⟨-, -, counted⟩ | ⟨-, backPoint, rewound⟩
  · rw [same]
    exact positions
  · rw [counted]
    exact ⟨positions.acked, positions.position, positions.window⟩
  · rw [rewound]
    exact ⟨positions.acked, positions.acked, positions.window⟩

theorem Positions.afterNotify (positions : Positions snd) (p : UMPPacket) (now : GTimeVal) :
    Positions (notified snd p now) := by
  rcases notified_eq snd p now with ⟨same, -⟩ | ⟨-, time, changed⟩
  · rw [same]
    exact positions
  · have refreshed : Positions (umpRefreshSndWndPos { snd with theirWnd := p.wndNum }) :=
      .ofRefresh positions.acked positions.position
    rw [changed]
    exact ⟨refreshed.acked, refreshed.position, refreshed.window⟩

theorem Positions.afterAdvance (positions : Positions snd) {ackSeq : UInt16}
    (ahead : 0 < offset snd.ourDataSeqBase ackSeq)
    (behindStart : 0 ≤ offset snd.ourDataStartSeq ackSeq) :
    Positions (advanceBase snd ackSeq) := by
  obtain ⟨backPoint, changed⟩ := advanceBase_eq snd ackSeq
  have start := positions.acked
  have upper := offset_upper snd.ourDataStartSeq snd.ourDataSeqBase
  have upper' := offset_upper snd.ourDataStartSeq ackSeq
  have grown : offset snd.ourDataSeqBase ackSeq =
      offset snd.ourDataStartSeq ackSeq - snd.acked :=
    offset_between snd.ourDataStartSeq (by simp only [SendSide.acked] at *; omega)
      (by simp only [SendSide.acked] at *; omega)
  rw [changed]
  refine ⟨behindStart, positions.position, fun locked => ?_⟩
  obtain ⟨inside, allowed⟩ := positions.window locked
  refine ⟨inside, ?_⟩
  have later : snd.acked ≤ offset snd.ourDataStartSeq ackSeq := by omega
  exact allowed.trans (Int.add_le_add_right later _)

theorem Positions.afterSettle (positions : Positions snd) (ackSeq : UInt16) (fastRetran : Bool)
    (cwnd : UInt16) (time : GTimeVal) (rtoCpt : RTOComputer) :
    Positions (settled snd ackSeq fastRetran cwnd time rtoCpt) := by
  rw [settled_eq]
  refine ⟨positions.acked, ?_, positions.window⟩
  have position := positions.position
  dsimp only
  omega

/-- A message that ends by an ack leaves the base behind its own end. -/
theorem acked_endSend {packets : List UMPPacket} (holds : Holds snd.message packets)
    (behind : umpCmpInSndbase snd snd.ourDataSeqBase snd.ourMsgLastSeq > 0) :
    0 ≤ (endSend snd true).acked := by
  have last : snd.ourMsgLastSeq = place snd.ourDataStartSeq (packets.length - 1) := holds.last
  have count : snd.sndPacketsCount = packets.length := holds.count
  have start : (endSend snd true).ourDataStartSeq = place snd.ourDataStartSeq packets.length := by
    have turns := (place_eq_iff snd.ourDataStartSeq (snd.sndPacketsCount % 65536)
      packets.length).mpr (by omega)
    exact turns
  have base : (endSend snd true).ourDataSeqBase = place snd.ourDataStartSeq snd.acked :=
    snd.base_eq
  rw [umpCmpInSndbase_eq, offset_self, last, snd.base_eq, offset_place_place] at behind
  rw [SendSide.acked, start, base, offset_place_place]
  simp only [Int.bmod_def] at behind ⊢
  omega

theorem Positions.afterEnd (positions : Positions snd) (ok : Bool)
    (behind : snd.sndLocked = .locked → ok = true → 0 ≤ (endSend snd true).acked) :
    Positions (endedSend snd ok) := by
  unfold endedSend
  split
  · exact positions
  · rename_i locked
    refine ⟨?_, positions.position, by simp [endSend]⟩
    cases ok with
    | false => exact positions.acked
    | true => exact behind locked rfl

theorem Positions.afterAck {synReced : Bool} {p : UMPPacket} {snd' : SendSide} {added : List Action}
    (positions : Positions snd) (shape : Shape synReced snd.message)
    (kept : ackKeepsStart snd p) (step : AckStep snd p snd' added) : Positions snd' := by
  have recounts : Positions (recounted snd p.ackNum) :=
    positions.afterRecount p.ackNum
  cases step with
  | noAck now flag => exact positions.afterNotify p now
  | outside flag range => exact recounts
  | old now flag range same => exact recounts.afterNotify p now
  | new now time fastRetran cwnd rtoCpt flag range ahead grown =>
      obtain ⟨start, base, -⟩ := recounted_numbers snd p.ackNum
      rw [ackInRange_recounted] at range
      rw [ackDiff_recounted] at ahead
      have behindStart := kept flag range (by rw [ackDiff_eq]; exact ahead)
      rw [umpSeqToRelativeViaSndstartseq_eq] at behindStart
      have advances : Positions (advanceBase
          (recounted snd p.ackNum) p.ackNum) :=
        recounts.afterAdvance (by rw [base]; exact ahead) (by rw [start]; exact behindStart)
      have settles : Positions
          (settled (acknowledgedBy snd p now) p.ackNum fastRetran cwnd time rtoCpt) :=
        (advances.afterNotify p now).afterSettle p.ackNum fastRetran cwnd time rtoCpt
      unfold endedByAck
      split
      · rename_i gone
        refine settles.afterEnd true fun locked _ => ?_
        have keptShape : Shape synReced (settled (acknowledgedBy snd p now)
            p.ackNum fastRetran cwnd time rtoCpt).message := by
          rw [settled_message, acknowledgedBy_message]
          exact shape
        obtain ⟨packets, holds⟩ := keptShape.message locked
        refine acked_endSend holds ?_
        have settledBase : (settled (acknowledgedBy snd p now)
            p.ackNum fastRetran cwnd time rtoCpt).ourDataSeqBase = p.ackNum := by
          rw [settled_eq]
          exact (acknowledgedBy_numbers snd p now).2.1
        rw [settledBase]
        exact gone
      · exact settles

theorem Positions.start (positions : Positions snd) (packets : List UMPPacket) :
    Positions (startMessage { snd with sndParaLock := true, sndLocked := .locked } packets) :=
  .ofRefresh positions.acked (Int.le_refl 0)

theorem Positions.transmit (positions : Positions snd) (p : UMPPacket) (now : GTimeVal) :
    Positions (afterTransmit snd p now) := by
  rw [afterTransmit_eq]
  refine ⟨positions.acked, ?_, positions.window⟩
  have position := positions.position
  dsimp only
  omega

theorem Positions.rewind (positions : Positions snd) : Positions (rewindAfterTimeout snd) := by
  obtain ⟨backPoint, rewound⟩ := rewindAfterTimeout_eq snd
  rw [rewound]
  exact Positions.ofRefresh positions.acked positions.acked

end Steps

/-! ### Runs -/

section Runs

variable {Lists : Type} [ReceiveLists Lists] {u : UMPSocket Lists} {event : SockEvent}

/-- A sender that holds no message has no window. -/
theorem Positions.unlocked {snd snd' : SendSide} (positions : Positions snd)
    (base : snd'.acked = snd.acked) (position : snd'.ourDataPos = snd.ourDataPos)
    (unlocked : snd'.sndLocked = .unlocked) : Positions snd' where
  acked := by rw [base]; exact positions.acked
  position := by rw [position]; exact positions.position
  window := by simp [unlocked]

theorem sockStep_positions (allowed : sockEnabled u event) (kept : keepsStart u event)
    (shape : Shape u.core.ctrl.synReced u.core.snd.message) (positions : Positions u.core.snd) :
    Positions (sockStep u event).core.snd := by
  obtain ⟨added, step, -⟩ := send_step u event
  generalize (sockStep u event).core.snd = snd' at step ⊢
  generalize (sockStep u event).core.handshake = k at step
  cases step with
  | idle event unheard => exact positions
  | signal event p kind => exact positions
  | probe asking => exact ⟨positions.acked, positions.position, positions.window⟩
  | post data =>
      exact positions.unlocked rfl rfl (shape.unlocked allowed.1)
  | refuse packets unlocked posted => exact positions.unlocked rfl rfl rfl
  | start packets unlocked posted some established noError => exact positions.start packets
  | giveUp event noData parted => exact positions.afterEnd false (by simp)
  | syn p taken =>
      refine positions.unlocked rfl rfl ?_
      cases lock : u.core.snd.sndLocked with
      | unlocked => exact lock
      | locked =>
          have fresh : u.core.ctrl.synReced = false := taken.1
          exact absurd (fresh.symm.trans (shape.opened lock)) (by decide)
  | transmit p locked window found => exact positions.transmit _ _
  | expired parted =>
      have emptied : Positions { u.core.snd with tmList := [] } :=
        ⟨positions.acked, positions.position, positions.window⟩
      exact emptied.afterEnd false (by simp)
  | rewind =>
      have emptied : Positions { u.core.snd with tmList := [] } :=
        ⟨positions.acked, positions.position, positions.window⟩
      exact emptied.rewind
  | ack p heard snd added ackStep => exact positions.afterAck shape (kept heard) ackStep

variable {seq : UInt16} {clock : Clock} {events : List SockEvent}

/-- While no ack is read as a number before the message, the sender transmits only
packets of the message that lie inside the peer's window. -/
theorem indexSafe_of_run
    (run : (sockMachine Lists).RunWhere keepsStart (umpSockNew Lists seq clock) events u) :
    IndexSafe u.core.snd := by
  let Holds (u : UMPSocket Lists) : Prop := WellShaped u ∧ Positions u.core.snd
  have invariant : Holds u := by
    refine run.invariant ⟨wellShaped_new seq clock, positions_new seq clock⟩ ?_
    intro state event invariant allowed kept
    exact ⟨invariant.1.step allowed,
      sockStep_positions allowed kept invariant.1.shape invariant.2⟩
  exact invariant.2.indexSafe invariant.1.shape

end Runs

/-! ### Runs of one socket -/

/-- A data packet that carries an ack and a window. -/
def dataAck (ackNum wndNum : UInt16) : UMPPacket :=
  receivedForm
    { uPacketSetFlag (uPacketSetFlag (uPacketNew .data .outgoing) UP_DATA_ACK) UP_DATA_WND with
      ackNum := ackNum, wndNum := wndNum }

/-- A passive open: the peer's SYN with the number `theirs`, and its ack of ours. -/
def passiveOpen (theirs ours : UInt16) : List SockEvent :=
  [.ctrlPacket (receivedForm (synPacket theirs 1400)), .sendCtrlPacket,
    .ctrlPacket (receivedForm
      { uPacketSetFlag (uPacketNew .control .outgoing) UP_CTRL_ACK with ackNum := ours + 1 })]

/-- One message of one packet, sent and acknowledged. -/
def oneMessageRun : List SockEvent :=
  passiveOpen 7 100 ++
    [.userSend [1], .handleSend, .sendData, .dataPacket (dataAck 101 50), .userSend [2],
      .handleSend]

/-- The theorem holds of a run that transmits, and of the packet it sends next. -/
theorem indexSafe_oneMessageRun :
    IndexSafe ((sockMachine PlainLists).after
      (umpSockNew PlainLists 100 ⟨fun _ => ⟨0, 0⟩, 0⟩) oneMessageRun).core.snd :=
  indexSafe_of_run (Machine.runWhere_of_check (by decide))

/-- Two acks come before anything was sent: `our_data_sent` is still zero and lies
ahead of the base 32769. The second one lies 32768 behind the start, where a fast
retransmit takes the next packet to send. -/
def wildIndexRun : List SockEvent :=
  passiveOpen 7 32769 ++
    [.dataPacket (dataAck 0 50), .dataPacket (dataAck 1 50), .userSend [1], .handleSend,
      .dataPacket (dataAck 1 50), .dataPacket (dataAck 1 50)]

/-- The position of the next packet is negative. -/
theorem indexSafe_fails :
    ¬ ∀ (seq : UInt16) (clock : Clock) (events : List SockEvent) (u : UMPSocket PlainLists),
      (sockMachine PlainLists).Run (umpSockNew PlainLists seq clock) events u →
        IndexSafe u.core.snd := by
  intro always
  have run : (sockMachine PlainLists).Run (umpSockNew PlainLists 32769 ⟨fun _ => ⟨0, 0⟩, 0⟩)
      wildIndexRun _ := Machine.runWhere_of_check (by decide)
  have safe := always 32769 _ wildIndexRun _ run
  have inside := (safe (by decide) (by decide)).1
  exact absurd inside (by decide)

end UserMessageProtocol
