import UserMessageProtocol.Foundation.Smoothing
import UserMessageProtocol.Sender.Congestion

/-!
Contract: a run in which the congestion window wraps.

Owns: the socket between two messages of one packet (`Growing`), the round trip
that makes its window grow by one, and the run of such round trips behind which
the window is zero.

Does not own: the bounds of the window in other runs (`Sender.Congestion`).
-/

set_option autoImplicit false

namespace UserMessageProtocol

open Serial

/-! ### Time -/

/-- A clock whose readings are one second apart. -/
def secondsClock : Nat → GTimeVal := fun reading => ⟨reading, 0⟩

theorem glong_small {value : Int} (nonneg : 0 ≤ value) (below : value < 2147483648) :
    glong value = value := by
  unfold glong
  rw [Int.bmod_def]
  omega

theorem umpTimeSub_seconds (later earlier : Int) (near : 0 ≤ later - earlier)
    (far : later - earlier ≤ 1000) :
    umpTimeSub ⟨later, 0⟩ ⟨earlier, 0⟩ = (later - earlier) * 1000 := by
  have noMicroseconds : (glong (0 - 0)).tdiv 1000 = 0 := rfl
  have scaled : glong ((later - earlier) * 1000) = (later - earlier) * 1000 :=
    glong_small (by omega) (by omega)
  unfold umpTimeSub
  dsimp only
  rw [noMicroseconds, Int.add_zero, glong_small near (by omega), scaled, scaled]

/-- An estimate of the round trip time fed with samples of at most three seconds; rounding
takes it half a millisecond further at most. -/
structure RttBelow (cpt : RTOComputer) : Prop where
  gain : cpt.g.value = 1 / 8
  nonneg : 0 ≤ cpt.a.value
  below : cpt.a.value ≤ 3000 + 1 / 2

theorem RttBelow.estimate {cpt : RTOComputer} (rtt : RttBelow cpt) :
    rtoGetEstimatedRtt cpt ≤ 3000 := by
  have floor : cpt.a.value.num.tdiv cpt.a.value.den = ⌊cpt.a.value⌋ := by
    rw [Int.tdiv_eq_ediv_of_nonneg (Rat.num_nonneg.mpr rtt.nonneg), ← Rat.floor_def']
  have lower : 0 ≤ ⌊cpt.a.value⌋ := Int.floor_nonneg.mpr rtt.nonneg
  have upper : ⌊cpt.a.value⌋ < 3001 := by
    have below := rtt.below
    refine Int.floor_lt.mpr ?_
    push_cast
    linarith
  unfold rtoGetEstimatedRtt truncate glong
  rw [floor, Int.bmod_def]
  omega

theorem RttBelow.refresh {cpt : RTOComputer} (rtt : RttBelow cpt) {sample : Int}
    (nonneg : 0 ≤ sample) (below : sample ≤ 3000) : RttBelow (rtoRefreshRtt cpt sample) := by
  have lower : (0 : Rat) ≤ sample := by exact_mod_cast nonneg
  have upper : (sample : Rat) ≤ 3000 := by exact_mod_cast below
  have first := rtt.nonneg
  have second := rtt.below
  have value : (sample : Double).value = sample :=
    FloatFormat.Number.value_intCast (by
      rw [abs_of_nonneg nonneg]
      exact below.trans (by decide)) (by decide)
  have gains : 0 ≤ cpt.g.value ∧ cpt.g.value ≤ 1 / 4 := by
    rw [rtt.gain]
    norm_num
  have average : (rtoRefreshRtt cpt sample).a = .smoothed cpt.g cpt.a sample := rfl
  refine ⟨rtt.gain, ?_, ?_⟩
  · rw [average]
    exact FloatFormat.Number.smoothed_nonneg gains.1 gains.2 first (value ▸ lower)
  · have size : |cpt.a.value| ≤ 2 ^ (12 : Int) := by
      rw [abs_of_nonneg first]
      exact second.trans (by norm_num)
    have sampleSize : |(sample : Double).value| ≤ 2 ^ (12 : Int) := by
      rw [value, abs_of_nonneg lower]
      exact upper.trans (by norm_num)
    have close := FloatFormat.Number.smoothed_close gains.1 gains.2 size sampleSize (by decide)
    have error : 6 * (2 : Rat) ^ ((12 : Int) - FloatFormat.binary64.precision) ≤ 1 / 32 := by
      norm_num [FloatFormat.binary64]
    have near := (abs_le.mp close).2
    rw [value, rtt.gain] at near
    rw [average]
    unfold smooth at near
    linarith

/-! ### A round trip -/

/-- The ack for the packet with the number `base`. -/
def ackBehind (base : UInt16) : UMPPacket := dataAck (base + 1) 50

/-- An open socket between two messages. -/
structure Growing (s : SocketCore) (cwnd : UInt16) : Prop where
  established : s.ctrl.state = .established
  noError : s.ctrl.errorOccured = false
  unlocked : s.snd.sndLocked = .unlocked
  free : s.snd.sndParaLock = false
  segments : s.snd.ourMss = 1400
  openWnd : 1 ≤ s.snd.theirWnd.toNat ∧ s.snd.theirWnd.toNat ≤ 100
  start : s.snd.ourDataStartSeq = s.snd.ourDataSeqBase
  sent : offset s.snd.ourDataSeqBase s.snd.ourDataSent < 0
  cwnd : s.snd.ourCwnd = cwnd
  steady : s.snd.fastRetran = false
  counted : s.snd.ackRepCount = 0
  timers : s.snd.tmList = []
  seconds : s.clock.readings = secondsClock
  refreshed : s.snd.lastRefreshCwnd = ⟨(s.clock.ticks : Int) - 2, 0⟩
  rtt : RttBelow s.snd.rtoCpt

/-- An open socket whose message of one packet is on the wire. -/
structure Flying (s : SocketCore) (cwnd : UInt16) : Prop where
  established : s.ctrl.state = .established
  noError : s.ctrl.errorOccured = false
  locked : s.snd.sndLocked = .locked
  segments : s.snd.ourMss = 1400
  start : s.snd.ourDataStartSeq = s.snd.ourDataSeqBase
  sent : s.snd.ourDataSent = s.snd.ourDataSeqBase
  last : s.snd.ourMsgLastSeq = s.snd.ourDataSeqBase
  count : s.snd.sndPacketsCount = 1
  position : s.snd.ourDataPos = 1
  cwnd : s.snd.ourCwnd = cwnd
  steady : s.snd.fastRetran = false
  counted : s.snd.ackRepCount = 0
  timers : ∃ entry, s.snd.tmList = [entry] ∧ entry.seq = s.snd.ourDataSeqBase ∧
    entry.regTime = ⟨(s.clock.ticks : Int) - 1, 0⟩
  seconds : s.clock.readings = secondsClock
  refreshed : s.snd.lastRefreshCwnd = ⟨(s.clock.ticks : Int) - 3, 0⟩
  rtt : RttBelow s.snd.rtoCpt

/-- A message of one byte is left, taken up and transmitted. -/
def launched (s : SocketCore) : SocketCore :=
  umpHandleSendData (umpHandleSend (umpSendMessage s [0]))

/-- The packet of that message. -/
def soloPacket : UMPPacket := uPacketSetData (uPacketNew .data .outgoing) [0]

/-- The packet as it is numbered for sending. -/
def numberedSolo (start : UInt16) : UMPPacket :=
  uPacketSetFlag { uPacketSetFlag soloPacket UP_DATA_SEQ with seqNum := start } UP_DATA_BDR

/-- The sender with the message numbered. -/
def startedSnd (snd : SendSide) : SendSide :=
  startMessage
    { snd with
      sndPackets := some [soloPacket], sndPacketsCount := 1, sndParaLock := true,
      sndLocked := .locked } [soloPacket]

theorem Growing.start_message {s : SocketCore} {cwnd : UInt16} (growing : Growing s cwnd) :
    umpHandleSend (umpSendMessage s [0]) =
      { s with snd := startedSnd s.snd }.act (.numbered [numberedSolo s.snd.ourDataStartSeq]) := by
  have posted : umpSendMessage s [0] = umpSockSend s [soloPacket] 1 := by
    unfold umpSendMessage
    rw [growing.segments]
    rfl
  rw [posted]
  unfold umpHandleSend umpSockSend
  simp only [growing.unlocked, growing.free, growing.established, growing.noError]
  rfl

/-- The window of the message is open for its packet. -/
theorem Growing.window {s : SocketCore} {cwnd : UInt16} (growing : Growing s cwnd)
    (some : cwnd ≠ 0) : (startedSnd s.snd).ourWndPos = 1 := by
  have position := umpRefreshSndWndPos_ourWndPos
    { s.snd with
      sndPackets := Option.some (preparePackets s.snd.ourDataStartSeq [soloPacket])
      sndPacketsCount := 1, sndParaLock := true, sndLocked := .locked
      ourMsgLastSeq := s.snd.ourDataStartSeq + UInt16.ofInt 1 - 1, ourDataPos := 0 }
  have width := s.snd.window_toNat
  have least := growing.openWnd
  have positive : 1 ≤ s.snd.ourCwnd.toNat := by
    rw [growing.cwnd]
    rcases Nat.eq_zero_or_pos cwnd.toNat with zero | positive
    · exact absurd (UInt16.toNat_inj.mp zero) some
    · exact positive
  have atStart : s.snd.acked = 0 := by
    rw [SendSide.acked, growing.start, offset_self]
  show (umpRefreshSndWndPos _).ourWndPos = 1
  refine position.trans ?_
  show min 1 ((s.snd.acked + (s.snd.window.toNat : Int)).bmod 65536) = 1
  rw [atStart, width, Int.bmod_def]
  omega

theorem Growing.launch {s : SocketCore} {cwnd : UInt16} (growing : Growing s cwnd)
    (some : cwnd ≠ 0) : Flying (launched s) cwnd := by
  have window := growing.window some
  unfold launched
  rw [growing.start_message]
  have transmits : umpHandleSendData
      ({ s with snd := startedSnd s.snd }.act (.numbered [numberedSolo s.snd.ourDataStartSeq])) =
      ({ s with
        snd := afterTransmit (startedSnd s.snd)
          (outgoingPacket s.ackInfo (numberedSolo s.snd.ourDataStartSeq)) s.now
        ackInfo := { s.ackInfo with dataAckSet := false }
        log := .numbered [numberedSolo s.snd.ourDataStartSeq] :: s.log }.tick).act
        (.sendto (outgoingPacket s.ackInfo (numberedSolo s.snd.ourDataStartSeq))) := by
    have below : (startedSnd s.snd).ourDataPos < (startedSnd s.snd).ourWndPos := by
      rw [window]
      exact Int.zero_lt_one
    show umpSndlockedHandleSendData _ = _
    unfold umpSndlockedHandleSendData
    rw [act_snd, if_pos below]
    rfl
  have seqNum : (outgoingPacket s.ackInfo (numberedSolo s.snd.ourDataStartSeq)).seqNum =
      s.snd.ourDataSeqBase := by
    rw [outgoingPacket_seqNum]
    exact growing.start
  have behind : sentBehind (startedSnd s.snd) s.snd.ourDataSeqBase = s.snd.ourDataSeqBase := by
    have before : umpCmpInSndbase (startedSnd s.snd) s.snd.ourDataSent s.snd.ourDataSeqBase < 0 := by
      rw [umpCmpInSndbase_eq]
      show offset s.snd.ourDataSeqBase s.snd.ourDataSent -
        offset s.snd.ourDataSeqBase s.snd.ourDataSeqBase < 0
      rw [offset_self, Int.sub_zero]
      exact growing.sent
    exact if_pos before
  have reading : s.now = ⟨s.clock.ticks, 0⟩ := by
    show s.clock.readings s.clock.ticks = _
    rw [growing.seconds]
    rfl
  have ticked : ((s.clock.ticks + 1 : Nat) : Int) - 1 = s.clock.ticks := by omega
  rw [transmits, afterTransmit_eq, seqNum, behind, reading]
  refine ⟨growing.established, growing.noError, rfl, growing.segments, growing.start, rfl, ?_, rfl,
    rfl, growing.cwnd, growing.steady, growing.counted, ?_, growing.seconds, ?_, growing.rtt⟩
  · show s.snd.ourDataStartSeq + UInt16.ofInt 1 - 1 = s.snd.ourDataSeqBase
    rw [growing.start]
    exact UInt16.add_sub_cancel _ _
  · refine ⟨_, congrArg (· ++ _) growing.timers, rfl, ?_⟩
    show (⟨(s.clock.ticks : Int), 0⟩ : GTimeVal) = ⟨((s.clock.ticks + 1 : Nat) : Int) - 1, 0⟩
    rw [ticked]
  · show s.snd.lastRefreshCwnd = ⟨((s.clock.ticks + 1 : Nat) : Int) - 3, 0⟩
    rw [growing.refreshed]
    congr 1
    omega

/-- Three seconds behind its last change the window grows, in slow start and in
congestion avoidance. -/
theorem refreshCwnd_seconds {s : SocketCore} (steady : s.snd.fastRetran = false)
    (seconds : s.clock.readings = secondsClock)
    (refreshed : s.snd.lastRefreshCwnd = ⟨(s.clock.ticks : Int) - 3, 0⟩)
    (rtt : RttBelow s.snd.rtoCpt) : ∃ ticks : Nat,
    (ticks = s.clock.ticks + 1 ∨ ticks = s.clock.ticks + 2) ∧
      refreshCwnd s =
        { s with
          snd :=
            { s.snd with
              ourCwnd := increaseCwnd s.snd.ourCwnd, lastRefreshCwnd := ⟨(ticks : Int) - 1, 0⟩ }
          clock := { s.clock with ticks := ticks } } := by
  have reading (count : Nat) : s.clock.readings count = ⟨((count + 1 : Nat) : Int) - 1, 0⟩ := by
    rw [seconds]
    show (⟨(count : Int), 0⟩ : GTimeVal) = _
    congr 1
    omega
  unfold refreshCwnd
  rw [steady]
  by_cases slowStart : s.snd.ourCwnd < s.snd.ourSsthresh
  · refine ⟨s.clock.ticks + 1, .inl rfl, ?_⟩
    rw [if_neg (by decide), if_pos slowStart, ← reading]
    rfl
  · have passed : umpTimeSub s.now s.snd.lastRefreshCwnd ≥ rtoGetEstimatedRtt s.snd.rtoCpt := by
      have estimate := rtt.estimate
      have now : s.now = ⟨(s.clock.ticks : Int), 0⟩ := by
        show s.clock.readings s.clock.ticks = _
        rw [seconds]
        rfl
      rw [now, refreshed, umpTimeSub_seconds _ _ (by omega) (by omega)]
      omega
    refine ⟨s.clock.ticks + 2, .inr rfl, ?_⟩
    rw [if_neg (by decide), if_neg slowStart, ← reading]
    dsimp only
    exact if_pos passed

/-- The only timer is acknowledged, with a sample of at most three seconds. -/
theorem acknowledgeTimers_solo (s : SocketCore) (entry : TmEntry) (base : UInt16)
    (timers : s.snd.tmList = [entry]) (number : entry.seq = base)
    (sent : s.snd.ourDataSent = base) (seconds : s.clock.readings = secondsClock)
    (registered : ∃ ago : Int, 0 ≤ ago ∧ ago ≤ 3 ∧ entry.regTime = ⟨s.clock.ticks - ago, 0⟩)
    (rtt : RttBelow s.snd.rtoCpt) : ∃ rtoCpt, RttBelow rtoCpt ∧
      acknowledgeTimers s (base + 1) =
        { s with snd := { s.snd with tmList := [], rtoCpt := rtoCpt } }.tick := by
  obtain ⟨ago, notNegative, near, regTime⟩ := registered
  have acked : tmAckPacket s.snd.tmList (base + 1) s.snd.ourDataSent = (some entry, []) := by
    rw [timers, sent]
    simp [tmAckPacket, tmAckInRange, tmAckLoop, number]
  have sample : umpTimeSub s.now entry.regTime = ago * 1000 := by
    have now : s.now = ⟨(s.clock.ticks : Int), 0⟩ := by
      show s.clock.readings s.clock.ticks = _
      rw [seconds]
      rfl
    rw [now, regTime, umpTimeSub_seconds _ _ (by omega) (by omega)]
    omega
  unfold acknowledgeTimers
  rw [acked]
  dsimp only
  rw [sample]
  split
  · refine ⟨_, rtt.refresh ?_ ?_, rfl⟩
    · split
      · decide
      · omega
    · split
      · decide
      · omega
  · exact ⟨s.snd.rtoCpt, rtt, rfl⟩

/-- The socket with the base moved by the ack for the packet in flight. -/
def movedBy (s : SocketCore) (backPoint : UInt16) : SocketCore :=
  { s with
    snd :=
      { umpRefreshSndWndPos
          { s.snd with
            ourDataSeqBase := s.snd.ourDataSeqBase + 1, ackRepCount := 0, ourBackPoint := backPoint,
            theirWnd := 50 } with
        actReqWnd := false } }

section Landing

variable {s : SocketCore} {cwnd : UInt16}

theorem offset_next (base : UInt16) : offset base (base + 1) = 1 := by
  have next := place_add_one base 0
  rw [place_zero, Int.zero_add] at next
  rw [next]
  exact offset_place base (by decide) (by decide)

theorem offset_previous (base : UInt16) : offset (base + 1) base = -1 := by
  have back : offset (base + 1) (place (base + 1) (-1)) = -1 :=
    offset_place (base + 1) (by decide) (by decide)
  rw [place_of_add_one, show (-1 : Int) + 1 = 0 from rfl, place_zero] at back
  exact back

/-- An ack with a window, as a socket sends it. -/
def windowAck (ackNum wndNum : UInt16) : UMPPacket :=
  { uPacketSetFlag (uPacketSetFlag (uPacketNew .data .outgoing) UP_DATA_ACK) UP_DATA_WND with
    ackNum := ackNum, wndNum := wndNum }

theorem windowAck_flags (ackNum wndNum : UInt16) :
    uPacketGetFlag (windowAck ackNum wndNum) UP_DATA_ACK = true ∧
      uPacketGetFlag (windowAck ackNum wndNum) UP_DATA_WND = true ∧
      uPacketGetFlag (windowAck ackNum wndNum) UP_DATA_SEQ = false := by
  let p := uPacketSetFlag (uPacketSetFlag (uPacketNew .data .outgoing) UP_DATA_ACK) UP_DATA_WND
  show uPacketGetFlag p UP_DATA_ACK = true ∧ uPacketGetFlag p UP_DATA_WND = true ∧
    uPacketGetFlag p UP_DATA_SEQ = false
  decide

/-- What the ack says. -/
theorem ackBehind_says (base : UInt16) : uPacketGetFlag (ackBehind base) UP_DATA_ACK = true ∧
    uPacketGetFlag (ackBehind base) UP_DATA_WND = true ∧
    uPacketGetFlag (ackBehind base) UP_DATA_SEQ = false ∧
    (ackBehind base).ackNum = base + 1 ∧ (ackBehind base).wndNum = 50 := by
  obtain ⟨ackFlag, wndFlag, seqFlag⟩ := windowAck_flags (base + 1) 50
  have received : ackBehind base = receivedForm (windowAck (base + 1) 50) := rfl
  have data : (windowAck (base + 1) 50).pType = .data := rfl
  rw [received]
  simp only [receivedForm_getFlag]
  refine ⟨ackFlag, wndFlag, seqFlag, receivedForm_dataAck data ackFlag, ?_⟩
  simp [receivedForm, numbers, data, maskNumber, wndFlag]
  rfl

/-- That ack is a new one in range. -/
theorem Flying.ack_eq (flying : Flying s cwnd) : ∃ backPoint,
    umpHandleDataAck s (ackBehind s.snd.ourDataSeqBase) =
      finishAck (movedBy s backPoint) (s.snd.ourDataSeqBase + 1) := by
  have next := offset_next s.snd.ourDataSeqBase
  have notBase : s.snd.ourDataSeqBase + 1 ≠ s.snd.ourDataSeqBase := by
    intro equal
    rw [equal, offset_self] at next
    exact absurd next (by decide)
  have same : fastRetransmit (countRepeatedAck s.snd (s.snd.ourDataSeqBase + 1)) = s.snd := by
    rcases recounted_cases s.snd (s.snd.ourDataSeqBase + 1) with
      ⟨same, -⟩ | ⟨equal, -⟩ | ⟨equal | many, -⟩
    · exact same
    · exact absurd equal notBase
    · exact absurd equal notBase
    · rw [flying.counted] at many
      exact absurd many (by decide)
  have range : ackInRange s.snd (s.snd.ourDataSeqBase + 1) = true := by
    rw [ackInRange_iff, next, flying.sent, offset_self]
    decide
  have ahead : ackDiff s.snd (s.snd.ourDataSeqBase + 1) > 0 := by
    rw [ackDiff_eq, next]
    decide
  obtain ⟨backPoint, advanced⟩ := advanceBase_eq s.snd (s.snd.ourDataSeqBase + 1)
  refine ⟨backPoint, ?_⟩
  obtain ⟨ackFlag, wndFlag, -, ackNum, wndNum⟩ := ackBehind_says s.snd.ourDataSeqBase
  unfold umpHandleDataAck
  rw [if_pos ackFlag, ackNum]
  dsimp only
  rw [same]
  rw [if_pos range, if_pos ahead, advanced]
  unfold umpHandleWndNotify
  rw [if_pos wndFlag, wndNum]
  rfl

/-- The socket behind the ack, with the message still to be ended. -/
structure Landed (t : SocketCore) (base cwnd : UInt16) : Prop where
  established : t.ctrl.state = .established
  noError : t.ctrl.errorOccured = false
  locked : t.snd.sndLocked = .locked
  segments : t.snd.ourMss = 1400
  wnd : t.snd.theirWnd = 50
  start : t.snd.ourDataStartSeq = base
  moved : t.snd.ourDataSeqBase = base + 1
  sent : t.snd.ourDataSent = base
  last : t.snd.ourMsgLastSeq = base
  count : t.snd.sndPacketsCount = 1
  cwnd : t.snd.ourCwnd = cwnd
  steady : t.snd.fastRetran = false
  counted : t.snd.ackRepCount = 0
  timers : t.snd.tmList = []
  seconds : t.clock.readings = secondsClock
  refreshed : t.snd.lastRefreshCwnd = ⟨(t.clock.ticks : Int) - 2, 0⟩
  rtt : RttBelow t.snd.rtoCpt

theorem Landed.ends {t : SocketCore} {base : UInt16} (landed : Landed t base cwnd) :
    Growing (if umpCmpInSndbase t.snd (base + 1) t.snd.ourMsgLastSeq > 0 then umpEndSend t true
      else t) cwnd := by
  have beyond : umpCmpInSndbase t.snd (base + 1) t.snd.ourMsgLastSeq > 0 := by
    rw [umpCmpInSndbase_eq, landed.last, landed.moved, offset_self, offset_previous]
    decide
  have ended : umpEndSend t true = { t with snd := endSend t.snd true }.act (.sendDone true) := by
    unfold umpEndSend
    rw [landed.locked]
  rw [if_pos beyond, ended]
  refine ⟨landed.established, landed.noError, rfl, rfl, landed.segments, ?_, ?_, ?_, landed.cwnd,
    landed.steady, landed.counted, landed.timers, landed.seconds, landed.refreshed, landed.rtt⟩
  · show 1 ≤ t.snd.theirWnd.toNat ∧ t.snd.theirWnd.toNat ≤ 100
    rw [landed.wnd]
    decide
  · show t.snd.ourDataStartSeq + UInt16.ofInt (t.snd.sndPacketsCount % 65536) =
      t.snd.ourDataSeqBase
    rw [landed.start, landed.moved, landed.count]
    rfl
  · show offset t.snd.ourDataSeqBase t.snd.ourDataSent < 0
    rw [landed.moved, landed.sent, offset_previous]
    decide

/-- The ack for the packet in flight ends the message and makes the window grow. -/
theorem Flying.land (flying : Flying s cwnd) :
    Growing (umpHandleDataAck s (ackBehind s.snd.ourDataSeqBase)) (increaseCwnd cwnd) := by
  obtain ⟨backPoint, acked⟩ := flying.ack_eq
  obtain ⟨entry, timers, number, regTime⟩ := flying.timers
  obtain ⟨ticks, few, refreshes⟩ := refreshCwnd_seconds (s := movedBy s backPoint) flying.steady
    flying.seconds flying.refreshed flying.rtt
  have sameTicks : (movedBy s backPoint).clock.ticks = s.clock.ticks := rfl
  rw [sameTicks] at few
  -- the window has grown, and the position lies at the base
  have skips : skipAcknowledged (refreshCwnd (movedBy s backPoint)).snd =
      (refreshCwnd (movedBy s backPoint)).snd := by
    have current : ¬ s.snd.ourDataPos < 1 := by
      rw [flying.position]
      decide
    rw [refreshes]
    unfold skipAcknowledged
    rw [umpSeqToRelativeViaSndstartseq_eq]
    show (if s.snd.ourDataPos < offset s.snd.ourDataStartSeq (s.snd.ourDataSeqBase + 1) then _
      else _) = _
    rw [flying.start, offset_next]
    exact if_neg current
  obtain ⟨rtoCpt, rtt, acknowledges⟩ := acknowledgeTimers_solo
    (refreshCwnd (movedBy s backPoint)) entry s.snd.ourDataSeqBase
    (by rw [refreshes]; exact timers) number (by rw [refreshes]; exact flying.sent)
    (by rw [refreshes]; exact flying.seconds)
    ⟨(ticks : Int) - s.clock.ticks + 1, by omega, by omega, by
      rw [refreshes, regTime]
      show (⟨(s.clock.ticks : Int) - 1, 0⟩ : GTimeVal) = ⟨(ticks : Int) - _, 0⟩
      congr 1
      omega⟩
    (by rw [refreshes]; exact flying.rtt)
  have settles : acknowledgeTimers { refreshCwnd (movedBy s backPoint) with
      snd := skipAcknowledged (refreshCwnd (movedBy s backPoint)).snd } (s.snd.ourDataSeqBase + 1) =
      { refreshCwnd (movedBy s backPoint) with
        snd :=
          { (refreshCwnd (movedBy s backPoint)).snd with tmList := [], rtoCpt := rtoCpt } }.tick := by
    rw [skips]
    exact acknowledges
  have landed : Landed (acknowledgeTimers { refreshCwnd (movedBy s backPoint) with
      snd := skipAcknowledged (refreshCwnd (movedBy s backPoint)).snd } (s.snd.ourDataSeqBase + 1))
      s.snd.ourDataSeqBase (increaseCwnd cwnd) := by
    rw [settles, refreshes]
    refine ⟨flying.established, flying.noError, flying.locked, flying.segments, rfl, flying.start,
      rfl, flying.sent, flying.last, flying.count, congrArg increaseCwnd flying.cwnd,
      flying.steady, rfl, rfl, flying.seconds, ?_, rtt⟩
    show (⟨(ticks : Int) - 1, 0⟩ : GTimeVal) = ⟨((ticks + 1 : Nat) : Int) - 2, 0⟩
    congr 1
    omega
  rw [acked]
  exact landed.ends

end Landing

/-! ### The run -/

theorem dataPacket_ackBehind {u : UMPSocket GLists} {base : UInt16}
    (established : u.core.ctrl.state = .established) :
    (sockStep u (.dataPacket (ackBehind base))).core = umpHandleDataAck u.core (ackBehind base) := by
  obtain ⟨-, -, seqFlag, -, -⟩ := ackBehind_says base
  have outside (rcv : ReceiveSide) : inReceiveRange rcv (ackBehind base) = false := by
    rw [inReceiveRange, seqFlag, Bool.false_and]
  show (umpHandleDataPacket u (ackBehind base)).core = _
  unfold umpHandleDataPacket
  rw [seqFlag, if_neg (by decide)]
  dsimp only
  rw [established]
  show (umpEstablishedHandleDataPacket u (ackBehind base)).core = _
  unfold umpEstablishedHandleDataPacket
  dsimp only
  rw [outside, if_neg (by decide)]

/-- One round trip makes the window grow by one. -/
theorem Growing.roundTrip {u : UMPSocket GLists} {cwnd : UInt16} (growing : Growing u.core cwnd)
    (some : cwnd ≠ 0) : ∃ events u', (sockMachine GLists).Run u events u' ∧
      Growing u'.core (increaseCwnd cwnd) := by
  let posted := sockStep u (.userSend [0])
  let started := sockStep posted .handleSend
  let sent := sockStep started .sendData
  have flying : Flying sent.core cwnd := growing.launch some
  have lands := flying.land
  rw [← dataPacket_ackBehind flying.established] at lands
  have post : (sockMachine GLists).Run u ([] ++ [.userSend [0]]) posted := by
    apply Machine.RunWhere.go .stay _ trivial
    refine ⟨growing.free, by decide, by decide, ?_⟩
    rw [growing.segments]
    decide
  have start : (sockMachine GLists).Run u ([.userSend [0]] ++ [.handleSend]) started :=
    .go post trivial trivial
  have send : (sockMachine GLists).Run u ([.userSend [0], .handleSend] ++ [.sendData]) sent :=
    .go start trivial trivial
  have land : (sockMachine GLists).Run u ([.userSend [0], .handleSend, .sendData] ++
      [.dataPacket (ackBehind sent.core.snd.ourDataSeqBase)])
      (sockStep sent (.dataPacket (ackBehind sent.core.snd.ourDataSeqBase))) :=
    .go send ⟨flying.noError, rfl⟩ trivial
  exact ⟨_, _, land, lands⟩

/-- A fresh socket on that clock. -/
def growingStart : UMPSocket GLists := umpSockNew GLists 100 ⟨secondsClock, 0⟩

/-- The socket behind a passive open. -/
def growingOpen : UMPSocket GLists :=
  (sockMachine GLists).after growingStart (passiveOpen 7 100)

theorem growing_open : Growing growingOpen.core 1 where
  established := by decide
  noError := by decide
  unlocked := by decide
  free := by decide
  segments := by decide
  openWnd := by decide
  start := by decide
  sent := by decide
  cwnd := by decide
  steady := by decide
  counted := by decide
  timers := by decide
  seconds := rfl
  refreshed := by decide
  rtt := ⟨rfl, le_refl 0, by decide +kernel⟩

/-- Behind enough round trips the window has any size. -/
theorem growing_run (count : Nat) (bound : count ≤ 65535) : ∃ events u,
    (sockMachine GLists).Run growingStart events u ∧
      Growing u.core (UInt16.ofNat (count + 1)) := by
  induction count with
  | zero =>
      have opened : (sockMachine GLists).Run growingStart (passiveOpen 7 100)
          growingOpen := Machine.runWhere_of_check (by decide)
      exact ⟨_, _, opened, growing_open⟩
  | succ count inductionHypothesis =>
      obtain ⟨events, u, run, growing⟩ := inductionHypothesis (by omega)
      have size : (UInt16.ofNat (count + 1)).toNat = count + 1 := by
        rw [UInt16.toNat_ofNat']
        omega
      have some : UInt16.ofNat (count + 1) ≠ 0 := by
        intro zero
        rw [zero] at size
        exact absurd size (by simp)
      obtain ⟨later, u', trip, grown⟩ := growing.roundTrip some
      have next : increaseCwnd (UInt16.ofNat (count + 1)) = UInt16.ofNat (count + 1 + 1) := by
        rw [increaseCwnd, size, Nat.max_eq_left (by omega)]
      rw [next] at grown
      exact ⟨events ++ later, u', run.trans trip, grown⟩

/-- Behind 65535 round trips without a loss the window is zero. -/
theorem congestion_fails : ¬ ∀ (seq : UInt16) (clock : Clock) (events : List SockEvent)
    (u : UMPSocket GLists),
    (sockMachine GLists).Run (umpSockNew GLists seq clock) events u →
      1 ≤ u.core.snd.ourCwnd ∧ 2 ≤ u.core.snd.ourSsthresh := by
  intro always
  obtain ⟨events, u, run, growing⟩ := growing_run 65535 (by decide)
  have positive := (always _ _ _ _ run).1
  rw [growing.cwnd] at positive
  exact absurd positive (by decide)

end UserMessageProtocol
