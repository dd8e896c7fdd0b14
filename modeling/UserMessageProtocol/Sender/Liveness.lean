import UserMessageProtocol.Sender.IndexSafety
import UserMessageProtocol.Sender.Tracking
import UserMessageProtocol.Socket.Iteration

/-!
Contract: a pending send is always driven by something.

Owns: the property (`NeverStalled`), what the peer is expected to do
(`peerHonest`), the size of message and window up to which positions fit the
sequence numbers (`fitsNumbers`), the invariant behind the property (`Lively`), and
the run theorem.

Does not own: the positions of the sender (`Sender.Tracking`).
-/

set_option autoImplicit false

namespace UserMessageProtocol

open Serial

/-! ### The property -/

/-- While a message is being sent a packet can be sent, a timer runs, or the window
is probed. -/
def NeverStalled (snd : SendSide) : Prop :=
  snd.sndLocked = .locked →
    snd.ourDataPos < snd.ourWndPos ∨ snd.tmList ≠ [] ∨ snd.actReqWnd = true

instance (snd : SendSide) : Decidable (NeverStalled snd) := by
  unfold NeverStalled
  infer_instance

section Conditions

variable {Lists : Type} (u : UMPSocket Lists)

/-- A packet with the number before `ackSeq` was transmitted. -/
def wasSent (log : List Action) (ackSeq : UInt16) : Bool :=
  log.any fun action =>
    match action with
    | .sendto q => isNumbered q && q.seqNum + 1 == ackSeq
    | _ => false

/-- A peer like this implementation: its SYN has a window of 100, each of its acks
comes with a window, and a new ack is for data that was sent. -/
def peerHonest : SockEvent → Prop
  | .ctrlPacket p => uPacketGetFlag p UP_CTRL_SYN → uPacketGetFlag p UP_CTRL_WND ∧ p.wndNum = 100
  | .dataPacket p => uPacketGetFlag p UP_DATA_ACK →
      uPacketGetFlag p UP_DATA_WND ∧
        (0 < ackDiff u.core.snd p.ackNum → wasSent u.core.log p.ackNum)
  | _ => True

/-- The packets of a message and the window of the peer together are at most half of
all sequence numbers, and the congestion window can grow by one. -/
def fitsNumbers : SockEvent → Prop
  | .handleSend => u.core.snd.sndLocked = .unlocked → u.core.snd.sndPackets ≠ none →
      u.core.snd.sndPacketsCount + u.core.snd.theirWnd.toNat ≤ 32768
  | .dataPacket p => u.core.snd.ourCwnd ≠ 65535 ∧
      (u.core.snd.sndLocked = .locked → uPacketGetFlag p UP_DATA_WND →
        u.core.snd.sndPacketsCount + p.wndNum.toNat ≤ 32768)
  | _ => True

instance (event : SockEvent) : Decidable (peerHonest u event) :=
  match event with
  | .ctrlPacket _ => by unfold peerHonest; infer_instance
  | .dataPacket _ => by unfold peerHonest; infer_instance
  | .userCtrl .. | .userSend .. | .userReceive | .handleCtrl | .handleSend | .handleReceive |
    .bufferLoad .. | .dataTimeout | .refreshRwnd | .refreshAck | .actReqWnd | .ctrlTimeout |
    .sendCtrlPacket | .heartbeat | .sendData | .sendReset => instDecidableTrue

instance (event : SockEvent) : Decidable (fitsNumbers u event) :=
  match event with
  | .handleSend => by unfold fitsNumbers; infer_instance
  | .dataPacket _ => by unfold fitsNumbers; infer_instance
  | .userCtrl .. | .userSend .. | .userReceive | .handleCtrl | .handleReceive | .bufferLoad .. |
    .ctrlPacket .. | .dataTimeout | .refreshRwnd | .refreshAck | .actReqWnd | .ctrlTimeout |
    .sendCtrlPacket | .heartbeat | .sendData | .sendReset => instDecidableTrue

end Conditions

/-! ### Timers of the packets in flight -/

/-- The numbers of `count` packets from `base` on. -/
def flight (base : UInt16) : Nat → List UInt16
  | 0 => []
  | count + 1 => base :: flight (base + 1) count

theorem flight_add (base : UInt16) (first second : Nat) :
    flight base (first + second) = flight base first ++ flight (place base first) second := by
  induction first generalizing base with
  | zero => simp [flight]
  | succ first inductionHypothesis =>
      have next : place (base + 1) first = place base (first + 1 : Nat) := place_of_add_one base first
      rw [Nat.add_right_comm, flight, inductionHypothesis, next, flight, List.cons_append]

theorem flight_ne_nil {base : UInt16} {count : Nat} (some : 0 < count) : flight base count ≠ [] := by
  cases count with
  | zero => exact absurd some (by decide)
  | succ count => simp [flight]

/-- The packets behind an ack in flight. -/
theorem flight_drop (base : UInt16) {acked count : Nat} (inside : acked ≤ count) :
    flight (place base acked) (count - acked) <:+ flight base count := by
  have split := flight_add base acked (count - acked)
  rw [Nat.add_sub_cancel' inside] at split
  rw [split]
  exact List.suffix_append _ _

/-- The timers that `tm_ack_packet` drops are not behind the ack. -/
theorem tmAckLoop_suffix {base seq : UInt16} {acked count : Nat} {tl : List TmEntry}
    (timers : flight base count <:+ tl.map TmEntry.seq) (inside : acked ≤ count)
    (new : 0 < acked) (number : seq = place base acked) :
    flight (place base acked) (count - acked) <:+ (tmAckLoop seq tl).2.map TmEntry.seq := by
  induction tl generalizing base acked count with
  | nil =>
      have empty : flight base count = [] := List.suffix_nil.mp timers
      exact absurd empty (flight_ne_nil (by omega))
  | cons entry rest inductionHypothesis =>
      rw [List.map_cons] at timers
      obtain ⟨acked, rfl⟩ : ∃ before, acked = before + 1 := ⟨acked - 1, by omega⟩
      obtain ⟨count, rfl⟩ : ∃ before, count = before + 1 := ⟨count - 1, by omega⟩
      have second : place (base + 1) acked = place base (acked + 1 : Nat) :=
        place_of_add_one base acked
      have behind : flight (base + 1) count <:+ rest.map TmEntry.seq := by
        rcases List.suffix_cons_iff.mp timers with whole | later
        · rw [flight, List.cons.injEq] at whole
          exact whole.2 ▸ List.suffix_refl _
        · exact (List.suffix_cons base _).trans later
      have fewer : count + 1 - (acked + 1) = count - acked := by omega
      rw [tmAckLoop, fewer, ← second]
      split
      · exact (flight_drop (base + 1) (by omega)).trans behind
      · rename_i other
        by_cases next : acked = 0
        · -- the ack is for the first packet in flight, so its timer lies further on
          subst next
          rcases List.suffix_cons_iff.mp timers with whole | later
          · rw [flight, List.cons.injEq] at whole
            refine absurd ?_ other
            rw [number, ← whole.1, ← second]
            simp
          · have kept := inductionHypothesis later (by omega : 0 + 1 ≤ count + 1) (by omega) number
            rw [fewer, ← second] at kept
            exact kept
        · exact inductionHypothesis behind (by omega) (by omega) (number.trans second.symm)

/-- An ack keeps the timers of the packets behind it. -/
theorem timersLeft_suffix {snd : SendSide} {base ackSeq : UInt16} {acked count : Nat}
    (timers : flight base count <:+ snd.tmList.map TmEntry.seq) (inside : acked ≤ count)
    (new : 0 < acked) (number : ackSeq = place base acked) :
    flight ackSeq (count - acked) <:+ (timersLeft snd ackSeq).map TmEntry.seq := by
  have loop := tmAckLoop_suffix timers inside new number
  have kept := (flight_drop base inside).trans timers
  rw [← number] at loop kept
  unfold timersLeft tmAckPacket
  split
  · rename_i none
    rw [none] at kept
    exact kept
  · split
    · exact loop
    · exact kept

/-! ### The invariant -/

/-- What keeps a pending send going. -/
structure Lively (synReced : Bool) (snd : SendSide) : Prop where
  probing : synReced = true → snd.theirWnd = 0 → snd.actReqWnd = true
  cwnd : snd.ourCwnd ≠ 0
  ssthresh : snd.ourSsthresh.toNat ≤ 32767
  fits : snd.sndLocked = .locked → snd.sndPacketsCount + snd.theirWnd.toNat ≤ 32768
  window : snd.sndLocked = .locked → snd.actReqWnd = false → snd.acked < snd.ourWndPos
  timers : snd.sndLocked = .locked →
    flight snd.ourDataSeqBase (snd.ourDataPos - snd.acked).toNat <:+ snd.tmList.map TmEntry.seq

theorem lively_new (seed : UInt16) (clock : Clock) :
    Lively false (umpSockNewCore seed clock).snd where
  probing := by simp
  cwnd := by simp [umpSockNewCore]
  ssthresh := by simp [umpSockNewCore, MAX_CWND]
  fits := by simp [umpSockNewCore]
  window := by simp [umpSockNewCore]
  timers := by simp [umpSockNewCore]

section Lively

variable {synReced : Bool} {seed : UInt16} {gone : Prop} {snd : SendSide} {traffic : List Action}
  {start acked sent : Nat}

/-- A sender that is not stalled. -/
theorem Lively.neverStalled (lively : Lively synReced snd)
    (tracks : Tracks seed gone snd traffic start acked sent) : NeverStalled snd := by
  intro locked
  obtain ⟨packets, sending⟩ := tracks.sending locked
  have position := tracks.acked_eq
  have notBehind := sending.notBehind
  have timers := lively.timers locked
  by_cases inFlight : snd.acked < snd.ourDataPos
  · right
    left
    intro none
    rw [none] at timers
    exact absurd (List.suffix_nil.mp timers) (flight_ne_nil (by omega))
  · cases probed : snd.actReqWnd with
    | true => exact .inr (.inr rfl)
    | false =>
        have window := lively.window locked probed
        left
        omega

/-- A refreshed window reaches behind the base, unless the peer has none. -/
theorem refreshed_window (acked : 0 ≤ snd.acked) (unfinished : snd.acked < snd.sndPacketsCount)
    (open_ : snd.theirWnd ≠ 0) (cwnd : snd.ourCwnd ≠ 0)
    (fits : snd.sndPacketsCount + snd.theirWnd.toNat ≤ 32768) :
    (umpRefreshSndWndPos snd).acked < (umpRefreshSndWndPos snd).ourWndPos := by
  have size := snd.window_toNat
  have theirs : snd.theirWnd.toNat ≠ 0 := fun zero => open_ (UInt16.toNat_inj.mp zero)
  have ours : snd.ourCwnd.toNat ≠ 0 := fun zero => cwnd (UInt16.toNat_inj.mp zero)
  show snd.acked < _
  rw [umpRefreshSndWndPos_ourWndPos, Int.bmod_def]
  omega

/-- Some of the message is not yet acknowledged. -/
theorem Tracks.unfinished (tracks : Tracks seed gone snd traffic start acked sent)
    (shape : Shape synReced snd.message) (locked : snd.sndLocked = .locked) :
    0 ≤ snd.acked ∧ snd.acked < snd.sndPacketsCount := by
  obtain ⟨packets, sending⟩ := tracks.sending locked
  obtain ⟨held, holds⟩ := shape.message locked
  have same : held = packets := Option.some.inj (holds.held.symm.trans sending.held)
  subst same
  have count : snd.sndPacketsCount = held.length := holds.count
  have position := tracks.acked_eq
  have ordered := tracks.ordered
  have unfinished := sending.unfinished
  omega

/-- Only these fields of a sender matter. -/
theorem Lively.congr {snd' : SendSide} (lively : Lively synReced snd)
    (sameWnd : snd'.theirWnd = snd.theirWnd) (sameProbe : snd'.actReqWnd = snd.actReqWnd)
    (cwnd : snd'.ourCwnd ≠ 0) (ssthresh : snd'.ourSsthresh.toNat ≤ 32767)
    (sending : snd'.sndLocked = .locked → snd.sndLocked = .locked ∧
      snd'.sndPacketsCount = snd.sndPacketsCount ∧
      (snd'.actReqWnd = false → snd'.acked < snd'.ourWndPos) ∧
      flight snd'.ourDataSeqBase (snd'.ourDataPos - snd'.acked).toNat <:+
        snd'.tmList.map TmEntry.seq) : Lively synReced snd' where
  probing := by
    rw [sameWnd, sameProbe]
    exact lively.probing
  cwnd := cwnd
  ssthresh := ssthresh
  fits := by
    intro locked
    obtain ⟨before, count, -, -⟩ := sending locked
    rw [count, sameWnd]
    exact lively.fits before
  window := fun locked => (sending locked).2.2.1
  timers := fun locked => (sending locked).2.2.2

theorem endedByAck_cases (snd : SendSide) (ackSeq : UInt16) :
    endedByAck snd ackSeq = snd ∨ endedByAck snd ackSeq = endSend snd true := by
  unfold endedByAck endedSend
  split
  · split
    · exact .inl rfl
    · exact .inr rfl
  · exact .inl rfl

/-- A sender without a message to send. -/
theorem Lively.rest {snd' : SendSide} (unlocked : snd'.sndLocked = .unlocked)
    (probing : synReced = true → snd'.theirWnd = 0 → snd'.actReqWnd = true)
    (cwnd : snd'.ourCwnd ≠ 0) (ssthresh : snd'.ourSsthresh.toNat ≤ 32767) :
    Lively synReced snd' where
  probing := probing
  cwnd := cwnd
  ssthresh := ssthresh
  fits := by simp [unlocked]
  window := by simp [unlocked]
  timers := by simp [unlocked]

theorem Lively.mono {synReced' : Bool} (lively : Lively synReced snd)
    (earlier : synReced' = true → synReced = true) : Lively synReced' snd :=
  { lively with probing := fun opened => lively.probing (earlier opened) }

theorem Lively.ended (lively : Lively synReced snd) (ok : Bool) :
    Lively synReced (endedSend snd ok) := by
  unfold endedSend
  split
  · exact lively
  · exact .rest rfl lively.probing lively.cwnd lively.ssthresh

/-- Nothing is in flight behind a rewind to the base. -/
theorem flight_rewound (base : UInt16) (position : Int) (timers : List UInt16) :
    flight base (position - position).toNat <:+ timers := by
  rw [Int.sub_self]
  exact List.nil_suffix

theorem Lively.recount (lively : Lively synReced snd) (ackSeq : UInt16) :
    Lively synReced (recounted snd ackSeq) := by
  have ssthresh := lively.ssthresh
  rcases recounted_cases snd ackSeq with ⟨same, -⟩ | ⟨-, -, counted⟩ | ⟨-, backPoint, rewound⟩
  · rw [same]
    exact lively
  · rw [counted]
    exact lively.congr rfl rfl lively.cwnd ssthresh
      fun locked => ⟨locked, rfl, lively.window locked, lively.timers locked⟩
  · rw [rewound]
    refine lively.congr rfl rfl ?_ ssthresh fun locked => ⟨locked, rfl, lively.window locked, ?_⟩
    · intro zero
      have value := congrArg UInt16.toNat zero
      rw [UInt16.toNat_ofNat', UInt16.toNat_zero] at value
      omega
    · exact flight_rewound _ snd.acked _

theorem recounted_cwnd (lively : Lively synReced snd) (grow : snd.ourCwnd ≠ 65535)
    (ackSeq : UInt16) : (recounted snd ackSeq).ourCwnd ≠ 65535 := by
  have ssthresh := lively.ssthresh
  rcases recounted_cases snd ackSeq with ⟨same, -⟩ | ⟨-, -, counted⟩ | ⟨-, backPoint, rewound⟩
  · rw [same]
    exact grow
  · rw [counted]
    exact grow
  · rw [rewound]
    intro most
    have value := congrArg UInt16.toNat most
    have bound : (65535 : UInt16).toNat = 65535 := rfl
    rw [UInt16.toNat_ofNat', bound] at value
    omega

/-- A window that comes keeps the sender going. -/
theorem Lively.notify {p : UMPPacket} (lively : Lively synReced snd) (now : GTimeVal)
    (unfinished : snd.sndLocked = .locked → 0 ≤ snd.acked ∧ snd.acked < snd.sndPacketsCount)
    (fits : snd.sndLocked = .locked → uPacketGetFlag p UP_DATA_WND →
      snd.sndPacketsCount + p.wndNum.toNat ≤ 32768) :
    Lively synReced (notified snd p now) := by
  rcases notified_eq snd p now with ⟨same, -⟩ | ⟨flag, time, changed⟩
  · rw [same]
    exact lively
  · rw [changed]
    exact
      { probing := fun _ zero => decide_eq_true zero
        cwnd := lively.cwnd
        ssthresh := lively.ssthresh
        fits := fun locked => fits locked flag
        window := by
          intro locked probed
          obtain ⟨lower, upper⟩ := unfinished locked
          exact @refreshed_window { snd with theirWnd := p.wndNum } lower upper
            (of_decide_eq_false probed) lively.cwnd (fits locked flag)
        timers := lively.timers }

theorem Lively.rewind (lively : Lively synReced snd)
    (opened : snd.sndLocked = .locked → synReced = true)
    (unfinished : snd.sndLocked = .locked → 0 ≤ snd.acked ∧ snd.acked < snd.sndPacketsCount) :
    Lively synReced (rewindAfterTimeout { snd with tmList := [] }) := by
  obtain ⟨backPoint, rewound⟩ := rewindAfterTimeout_eq { snd with tmList := [] }
  have size := snd.ourCwnd.toNat_lt
  rw [rewound]
  refine lively.congr rfl rfl (by simp [umpRefreshSndWndPos]) ?_
    fun locked => ⟨locked, rfl, fun probed => ?_, flight_rewound _ snd.acked _⟩
  · show (max (snd.ourCwnd / 2) 2).toNat ≤ 32767
    have largest : max (snd.ourCwnd / 2) 2 =
        if snd.ourCwnd / 2 ≤ 2 then 2 else snd.ourCwnd / 2 := rfl
    have two : (2 : UInt16).toNat = 2 := rfl
    rw [largest]
    split
    · rw [two]
      omega
    · rw [UInt16.toNat_div, two]
      omega
  · obtain ⟨lower, upper⟩ := unfinished locked
    refine refreshed_window lower upper ?_ (by simp) (lively.fits locked)
    intro zero
    exact absurd ((lively.probing (opened locked) zero).symm.trans probed) (by decide)

/-- A transmitted packet gets a timer behind those in flight. -/
theorem Lively.transmit {p : UMPPacket} {now : GTimeVal} {ackInfo : UMPAckInfo}
    (lively : Lively synReced snd) (tracks : Tracks seed gone snd traffic start acked sent)
    (shape : Shape synReced snd.message) (locked : snd.sndLocked = .locked)
    (found : packetAt snd snd.ourDataPos = some p) :
    Lively synReced (afterTransmit snd (outgoingPacket ackInfo p) now) := by
  obtain ⟨packets, i, sending, here, -, inSequence, -⟩ := tracks.next shape locked found
  have notBehind := sending.notBehind
  have position := tracks.acked_eq
  have timers := lively.timers locked
  have sequence : (outgoingPacket ackInfo p).seqNum =
      place snd.ourDataSeqBase (snd.ourDataPos - snd.acked).toNat := by
    rw [outgoingPacket_seqNum, tracks.baseAt, place_place, position, here]
    have distance : (acked : Int) + ((i : Int) - (acked - start)).toNat = start + i := by omega
    rw [distance]
    exact inSequence.seqNum
  have longer : (snd.ourDataPos + 1 - snd.acked).toNat =
      (snd.ourDataPos - snd.acked).toNat + 1 := by omega
  rw [afterTransmit_eq]
  refine lively.congr rfl rfl lively.cwnd lively.ssthresh
    fun _ => ⟨locked, rfl, lively.window locked, ?_⟩
  show flight snd.ourDataSeqBase (snd.ourDataPos + 1 - snd.acked).toNat <:+ _
  obtain ⟨before, same⟩ := timers
  refine ⟨before, ?_⟩
  rw [longer, flight_add, ← List.append_assoc, same, tmRegisterPacket, List.map_append, sequence]
  rfl

/-- A message starts with a window, unless the peer has none. -/
theorem Lively.begin {packets : List UMPPacket} (lively : Lively true snd)
    (behind : snd.acked = 0) (some : 1 ≤ snd.sndPacketsCount)
    (fits : snd.sndPacketsCount + snd.theirWnd.toNat ≤ 32768) :
    Lively true (startMessage { snd with sndParaLock := true, sndLocked := .locked } packets) where
  probing := lively.probing
  cwnd := lively.cwnd
  ssthresh := lively.ssthresh
  fits := fun _ => fits
  window := by
    intro _ probed
    refine refreshed_window ?_ ?_ ?_ lively.cwnd fits
    · exact behind.symm.le
    · show snd.acked < snd.sndPacketsCount
      omega
    · intro zero
      exact absurd ((lively.probing rfl zero).symm.trans probed) (by decide)
  timers := by
    intro _
    have none : (0 - snd.acked).toNat = 0 := by omega
    show flight _ (0 - snd.acked).toNat <:+ _
    rw [none]
    exact List.nil_suffix

/-- The congestion window behind a new ack is not zero, unless it wrapped around. -/
theorem cwndAfterAck_ne_zero {cwnd : UInt16} (grown : CwndAfterAck snd cwnd)
    (some : snd.ourCwnd ≠ 0) (grow : snd.ourCwnd ≠ 65535) : cwnd ≠ 0 := by
  have bound := snd.ourCwnd.toNat_lt
  have most : (65535 : UInt16).toNat = 65535 := rfl
  have notMost : snd.ourCwnd.toNat ≠ 65535 := fun same => grow (UInt16.toNat_inj.mp same)
  rcases grown with recovered | increased | same
  · have largest : max snd.ourSsthresh 1 =
        if snd.ourSsthresh ≤ 1 then 1 else snd.ourSsthresh := rfl
    rw [recovered, largest]
    split
    · decide
    · rename_i more
      intro zero
      rw [zero] at more
      exact more (by decide)
  · rw [increased]
    intro zero
    have value := congrArg UInt16.toNat zero
    rw [increaseCwnd, UInt16.toNat_ofNat', UInt16.toNat_zero] at value
    omega
  · rw [same]
    exact some

/-- The window that `p` brings, with the fields that matter besides. -/
structure Windowed (p : UMPPacket) (before after : SendSide) : Prop where
  theirWnd : after.theirWnd = p.wndNum
  actReqWnd : after.actReqWnd = decide (p.wndNum = 0)
  refreshed : after.ourWndPos = (umpRefreshSndWndPos after).ourWndPos
  cwnd : after.ourCwnd = before.ourCwnd
  ssthresh : after.ourSsthresh = before.ourSsthresh
  position : after.ourDataPos = before.ourDataPos
  timers : after.tmList = before.tmList

theorem acknowledgedBy_windowed (snd : SendSide) {p : UMPPacket}
    (flag : uPacketGetFlag p UP_DATA_WND) (now : GTimeVal) : Windowed p (recounted snd p.ackNum) (acknowledgedBy snd p now) := by
  obtain ⟨backPoint, advanced⟩ := advanceBase_eq (recounted snd p.ackNum) p.ackNum
  unfold acknowledgedBy
  rcases notified_eq (advanceBase (recounted snd p.ackNum) p.ackNum) p now with
    ⟨-, unflagged⟩ | ⟨-, time, changed⟩
  · exact absurd (flag.symm.trans unflagged) (by decide)
  · rw [changed, advanced]
    exact ⟨rfl, rfl, rfl, rfl, rfl, rfl, rfl⟩

/-- What a new ack with a window leaves when the message ends. -/
theorem Lively.settle_rest {p : UMPPacket} {cwnd : UInt16} (lively : Lively synReced snd)
    (flag : uPacketGetFlag p UP_DATA_WND) (grown : cwnd ≠ 0) (now time : GTimeVal)
    (fastRetran : Bool) (rtoCpt : RTOComputer) (ok : Bool) :
    Lively synReced
      (endSend (settled (acknowledgedBy snd p now) p.ackNum fastRetran cwnd time rtoCpt) ok) := by
  have again := lively.recount p.ackNum
  have windowed := acknowledgedBy_windowed snd flag now
  rw [settled_eq]
  refine .rest rfl ?_ grown ?_
  · intro _ zero
    show (acknowledgedBy snd p now).actReqWnd = true
    rw [windowed.actReqWnd, ← windowed.theirWnd]
    exact decide_eq_true zero
  · show (acknowledgedBy snd p now).ourSsthresh.toNat ≤ 32767
    rw [windowed.ssthresh]
    exact again.ssthresh

/-- A new ack with a window keeps the sender going. -/
theorem Lively.settle {p : UMPPacket} {cwnd : UInt16} {ackPosition : Nat}
    (lively : Lively synReced snd) (now time : GTimeVal) (fastRetran : Bool) (rtoCpt : RTOComputer)
    (tracks : Tracks seed gone snd traffic start acked sent)
    (number : p.ackNum = place seed ackPosition) (new : acked < ackPosition)
    (transmitted : ackPosition ≤ sent) (flag : uPacketGetFlag p UP_DATA_WND)
    (fits : snd.sndLocked = .locked → snd.sndPacketsCount + p.wndNum.toNat ≤ 32768)
    (grown : cwnd ≠ 0)
    (unfinished :
      (settled (acknowledgedBy snd p now) p.ackNum fastRetran cwnd time rtoCpt).sndLocked = .locked →
        (settled (acknowledgedBy snd p now) p.ackNum fastRetran cwnd time rtoCpt).acked <
          (settled (acknowledgedBy snd p now) p.ackNum fastRetran cwnd time rtoCpt).sndPacketsCount) :
    Lively synReced (settled (acknowledgedBy snd p now) p.ackNum fastRetran cwnd time rtoCpt) := by
  have again := lively.recount p.ackNum
  have ordered := tracks.ordered
  have near := tracks.near
  have before : (recounted snd p.ackNum).acked = acked - start := (tracks.recount p.ackNum).acked_eq
  have baseAt := (tracks.recount p.ackNum).baseAt
  have message := acknowledgedBy_message snd p now
  have sameMessage := recounted_message snd p.ackNum
  have windowed := acknowledgedBy_windowed snd flag now
  obtain ⟨sameStart, sameBase, -⟩ := acknowledgedBy_numbers snd p now
  generalize recounted snd p.ackNum = r at again before baseAt sameMessage windowed
  generalize acknowledgedBy snd p now = m at message windowed sameStart sameBase unfinished ⊢
  have lock : m.sndLocked = snd.sndLocked := congrArg MessagePart.sndLocked message
  have sameLock : r.sndLocked = snd.sndLocked := congrArg MessagePart.sndLocked sameMessage
  have count : m.sndPacketsCount = snd.sndPacketsCount :=
    congrArg MessagePart.sndPacketsCount message
  have behind : m.acked = ackPosition - start := by
    rw [SendSide.acked, sameStart, sameBase, number, tracks.startAt]
    exact offset_near seed (by omega) (by omega)
  rw [settled_eq] at unfinished ⊢
  exact
    { probing := fun _ zero => by
        show m.actReqWnd = true
        rw [windowed.actReqWnd, ← windowed.theirWnd]
        exact decide_eq_true zero
      cwnd := grown
      ssthresh := by
        show m.ourSsthresh.toNat ≤ 32767
        rw [windowed.ssthresh]
        exact again.ssthresh
      fits := fun locked => by
        show m.sndPacketsCount + (m.theirWnd.toNat : Int) ≤ 32768
        rw [count, windowed.theirWnd]
        exact fits (lock.symm.trans locked)
      window := fun locked probed => by
        show m.acked < m.ourWndPos
        have sending : snd.sndLocked = .locked := lock.symm.trans locked
        have quiet : m.actReqWnd = false := probed
        rw [windowed.actReqWnd] at quiet
        rw [windowed.refreshed]
        apply refreshed_window
        · omega
        · exact unfinished locked
        · rw [windowed.theirWnd]
          exact of_decide_eq_false quiet
        · rw [windowed.cwnd]
          exact again.cwnd
        · rw [count, windowed.theirWnd]
          exact fits sending
      timers := fun locked => by
        show flight m.ourDataSeqBase (max m.ourDataPos m.acked - m.acked).toNat <:+
          (timersLeft m p.ackNum).map TmEntry.seq
        have timers := again.timers (sameLock.trans (lock.symm.trans locked))
        rw [before, ← windowed.position, ← windowed.timers] at timers
        rw [sameBase, behind]
        by_cases inside : ackPosition - start ≤ m.ourDataPos
        · have distance : p.ackNum = place r.ourDataSeqBase (ackPosition - acked : Nat) := by
            rw [baseAt, place_place, number]
            congr 1
            omega
          have left := timersLeft_suffix timers (by omega) (by omega) distance
          have fewer : (m.ourDataPos - (acked - start)).toNat - (ackPosition - acked) =
              (max m.ourDataPos (ackPosition - start) - (ackPosition - start)).toNat := by omega
          rw [fewer] at left
          exact left
        · -- the ack is for packets sent before a rewind, and nothing is in flight behind it
          have none : (max m.ourDataPos (ackPosition - start) - (ackPosition - start)).toNat =
              0 := by omega
          rw [none]
          exact List.nil_suffix }

end Lively

/-! ### Steps and runs -/

section Steps

variable {Lists : Type} [ReceiveLists Lists] {u : UMPSocket Lists} {event : SockEvent}
  {seed : UInt16} {gone gone' : Prop} {start acked sent start' acked' sent' : Nat}

omit [ReceiveLists Lists] in
/-- A new ack in range for a number that was sent is for a transmitted position. -/
theorem exists_acknowledged {p : UMPPacket}
    (baseAt : u.core.snd.ourDataSeqBase = place seed acked)
    (sentAt : u.core.snd.ourDataSent = place seed (lastSent seed sent)) (ordered : acked ≤ sent)
    (near : sent ≤ acked + 32767)
    (positions : ∀ q, .sendto q ∈ traffic u.core.log → isNumbered q →
      ∃ i, i < sent ∧ q.seqNum = place seed i)
    (known : wasSent u.core.log p.ackNum) (range : ackInRange u.core.snd p.ackNum)
    (ahead : 0 < ackDiff u.core.snd p.ackNum) :
    ∃ ackPosition : Nat, acked < ackPosition ∧ ackPosition ≤ sent ∧
      p.ackNum = place seed ackPosition := by
  obtain ⟨action, member, found⟩ := List.any_eq_true.mp known
  obtain ⟨q, rfl⟩ : ∃ q, action = .sendto q := by
    cases action with
    | sendto q => exact ⟨q, rfl⟩
    | _ => exact absurd found (by simp)
  simp only [Bool.and_eq_true, beq_iff_eq] at found
  obtain ⟨i, before, number⟩ := positions q (List.mem_filter.mpr ⟨member, rfl⟩) found.1
  have ackNumber : p.ackNum = place seed (i + 1 : Nat) := by
    rw [← found.2, number, place_add_one]
    rfl
  have upper := offset_upper seed 0
  rw [ackDiff_eq] at ahead
  rw [ackInRange_iff, offset_lastSent baseAt sentAt ordered near, lastSent, if_neg (by omega)]
    at range
  by_cases early : (sent : Int) - 1 < offset seed 0
  · -- so early in the connection no number has come round again
    have distance : offset u.core.snd.ourDataSeqBase p.ackNum = (i + 1 : Nat) - acked := by
      rw [ackNumber, baseAt]
      exact offset_near seed (by omega) (by omega)
    exact ⟨i + 1, by omega, by omega, ackNumber⟩
  · refine ⟨acked + (offset u.core.snd.ourDataSeqBase p.ackNum).toNat, by omega, by omega, ?_⟩
    have number := place_offset u.core.snd.ourDataSeqBase p.ackNum
    rw [baseAt, place_place, ← baseAt] at number
    rw [Nat.cast_add, Int.toNat_of_nonneg (by omega)]
    exact number.symm

omit [ReceiveLists Lists] in
/-- The acks of an honest peer are for transmitted packets. -/
theorem peerHonest.acksTransmitted (honest : peerHonest u event)
    (tracks : Tracks seed gone u.core.snd (traffic u.core.log) start acked sent) :
    AcksTransmitted seed acked sent u event := by
  rintro p rfl - flag range ahead
  have ordered := tracks.ordered
  have near := tracks.near
  exact exists_acknowledged tracks.baseAt tracks.sentAt (by omega) (by omega) tracks.known
    ((honest flag).2 ahead) range ahead

omit [ReceiveLists Lists] in
/-- Messages that fit the numbers end only when they are complete. -/
theorem endsMessages_of_fits (shaped : WellShaped u)
    (tracks : Tracks seed gone u.core.snd (traffic u.core.log) start acked sent)
    (lively : Lively u.core.ctrl.synReced u.core.snd)
    (acks : AcksTransmitted seed acked sent u event) : endsMessages u event := by
  unfold endsMessages
  split
  · rename_i p
    intro heard locked flag range ahead
    obtain ⟨ackPosition, new, transmitted, number⟩ := acks _ rfl heard flag range ahead
    obtain ⟨packets, sending⟩ := tracks.sending locked
    obtain ⟨held, holds⟩ := shaped.shape.message locked
    have same : held = packets := Option.some.inj (holds.held.symm.trans sending.held)
    subst same
    have count : u.core.snd.sndPacketsCount = held.length := holds.count
    have inside := sending.inside
    have fits := lively.fits locked
    have ordered := tracks.ordered
    have near := tracks.near
    have position : umpSeqToRelativeViaSndstartseq u.core.snd p.ackNum = ackPosition - start := by
      rw [umpSeqToRelativeViaSndstartseq_eq, number, tracks.startAt]
      exact offset_near seed (by omega) (by omega)
    rw [position]
    omega
  · trivial

/-- What is known of a socket whose peer is honest and whose messages fit. -/
structure Steady (seed : UInt16) (u : UMPSocket Lists) (start acked sent : Nat) : Prop where
  shaped : WellShaped u
  tracks : Tracks seed u.core.handshake.Ended u.core.snd (traffic u.core.log) start acked sent
  lively : Lively u.core.ctrl.synReced u.core.snd

/-- The socket opens once, its peer is honest and its messages fit the numbers. -/
def sendsSteadily (u : UMPSocket Lists) (event : SockEvent) : Prop :=
  opensOnce u event ∧ peerHonest u event ∧ fitsNumbers u event

instance : Decidable (sendsSteadily u event) := by
  unfold sendsSteadily
  infer_instance

omit [ReceiveLists Lists] in
theorem ackStep_lively {p : UMPPacket} {snd' : SendSide} {added log : List Action}
    (steady : Steady seed u start acked sent)
    (acks : AcksTransmitted seed acked sent u (.dataPacket p))
    (honest : peerHonest u (.dataPacket p)) (fits : fitsNumbers u (.dataPacket p))
    (heard : u.core.ctrl.state ≠ .connecting)
    (tracks' : Tracks seed gone' snd' log start' acked' sent')
    (shape' : Shape u.core.ctrl.synReced snd'.message)
    (step : AckStep u.core.snd p snd' added) : Lively u.core.ctrl.synReced snd' := by
  obtain ⟨shaped, tracks, lively⟩ := steady
  have unfinished := fun locked => tracks.unfinished shaped.shape locked
  cases step with
  | noAck now flag => exact lively.notify now unfinished fits.2
  | outside flag range => exact lively.recount p.ackNum
  | old now flag range same =>
      have message := recounted_message u.core.snd p.ackNum
      apply (lively.recount p.ackNum).notify now
      · intro locked
        apply (tracks.recount p.ackNum).unfinished
        · rw [message]
          exact shaped.shape
        · exact locked
      · intro locked
        rw [show (recounted u.core.snd p.ackNum).sndPacketsCount = u.core.snd.sndPacketsCount from
          congrArg MessagePart.sndPacketsCount message]
        exact fits.2 ((congrArg MessagePart.sndLocked message).symm.trans locked)
  | new now time fastRetran cwnd rtoCpt flag range ahead grown =>
      rw [ackInRange_recounted] at range
      rw [ackDiff_recounted, ← ackDiff_eq] at ahead
      obtain ⟨ackPosition, new, transmitted, number⟩ := acks p rfl heard flag range ahead
      have window : uPacketGetFlag p UP_DATA_WND := (honest flag).1
      have windowed := acknowledgedBy_windowed u.core.snd window now
      have open_ : cwnd ≠ 0 := by
        apply cwndAfterAck_ne_zero grown
        · rw [windowed.cwnd]
          exact (lively.recount p.ackNum).cwnd
        · rw [windowed.cwnd]
          exact recounted_cwnd lively fits.1 p.ackNum
      rcases endedByAck_cases (settled (acknowledgedBy u.core.snd p now) p.ackNum fastRetran cwnd time
        rtoCpt) p.ackNum with goesOn | ends
      · rw [goesOn] at tracks' shape' ⊢
        exact lively.settle now time fastRetran rtoCpt tracks number new transmitted window
          (fun locked => fits.2 locked window) open_
          fun locked => (tracks'.unfinished shape' locked).2
      · rw [ends]
        exact lively.settle_rest window open_ now time fastRetran rtoCpt true

theorem sockStep_lively (steady : Steady seed u start acked sent) (allowed : sockEnabled u event)
    (acks : AcksTransmitted seed acked sent u event) (honest : peerHonest u event)
    (fits : fitsNumbers u event)
    (tracks' : Tracks seed gone' (sockStep u event).core.snd (traffic (sockStep u event).core.log)
      start' acked' sent') :
    Lively (sockStep u event).core.ctrl.synReced (sockStep u event).core.snd := by
  obtain ⟨shaped, tracks, lively⟩ := id steady
  have unfinished := fun locked => tracks.unfinished shaped.shape locked
  -- unless a SYN is taken the socket is as open as before
  have kept {snd' : SendSide} (after : Lively u.core.ctrl.synReced snd')
      (untaken : ∀ p, event = .ctrlPacket p → ¬ TakesSyn u.core.handshake p) :
      Lively (sockStep u event).core.ctrl.synReced snd' := by
    apply after.mono
    intro opened
    rcases sockStep_opens opened with before | ⟨p, same, taken⟩
    · exact before
    · exact absurd taken (untaken p same)
  have shape' : ∀ p, event = .dataPacket p →
      Shape u.core.ctrl.synReced (sockStep u event).core.snd.message := by
    rintro p rfl
    apply (steady.shaped.step allowed).shape.mono
    intro opened
    rcases sockStep_opens opened with before | ⟨q, same, -⟩
    · exact before
    · exact absurd same (by simp)
  obtain ⟨added, step, -⟩ := send_step u event
  generalize (sockStep u event).core.snd = snd' at step tracks' shape' ⊢
  generalize (sockStep u event).core.handshake = k at step
  cases step with
  | idle event unheard untaken => exact kept lively untaken
  | signal event p kind =>
      refine kept lively ?_
      rintro p rfl
      cases kind
  | probe asking =>
      refine kept ?_ (by simp)
      exact lively.congr rfl rfl lively.cwnd lively.ssthresh
        fun locked => ⟨locked, rfl, lively.window locked, lively.timers locked⟩
  | post data =>
      refine kept ?_ (by simp)
      have unlocked : u.core.snd.sndLocked = .unlocked := shaped.shape.unlocked allowed.1
      exact .rest unlocked lively.probing lively.cwnd lively.ssthresh
  | refuse packets unlocked posted =>
      refine kept ?_ (by simp)
      exact .rest rfl lively.probing lively.cwnd lively.ssthresh
  | start packets unlocked posted some established noError =>
      have opened : u.core.ctrl.synReced = true := shaped.sound.opened (.inl established)
      have open_ : ¬ u.core.handshake.Ended := Handshake.not_ended established noError
      obtain ⟨atStart, -, -⟩ := tracks.resting unlocked open_
      have behind : u.core.snd.acked = 0 := by
        rw [tracks.acked_eq, atStart]
        exact Int.sub_self _
      refine kept ?_ (by simp)
      rw [opened] at lively ⊢
      exact lively.begin behind some (fits unlocked (by simp [posted]))
  | giveUp event noData parted untaken => exact kept (lively.ended false) untaken
  | syn p taken =>
      have heard := honest taken.syn
      have unlocked : u.core.snd.sndLocked = .unlocked := by
        cases locked : u.core.snd.sndLocked with
        | unlocked => rfl
        | locked =>
            exact absurd ((shaped.shape.opened locked).symm.trans taken.fresh) (by decide)
      have window : (takeSyn u.core p).snd.theirWnd = 100 := by
        show (if uPacketGetFlag p UP_CTRL_WND then p.wndNum else u.core.snd.theirWnd) = 100
        rw [if_pos heard.1, heard.2]
      refine .rest unlocked ?_ lively.cwnd lively.ssthresh
      intro _ zero
      exact absurd (window.symm.trans zero) (by decide)
  | transmit p locked window found =>
      exact kept (lively.transmit tracks shaped.shape locked found) (by simp)
  | expired parted =>
      refine kept ?_ (by simp)
      unfold endedSend
      split
      · rename_i unlocked
        exact .rest unlocked lively.probing lively.cwnd lively.ssthresh
      · exact .rest rfl lively.probing lively.cwnd lively.ssthresh
  | rewind => exact kept (lively.rewind shaped.shape.opened unfinished) (by simp)
  | ack p heard snd added ackStep =>
      exact kept (ackStep_lively steady acks honest fits heard tracks' (shape' p rfl) ackStep)
        (by simp)

/-- A socket whose peer is honest and whose messages fit goes on so. -/
theorem Steady.step (steady : Steady seed u start acked sent) (allowed : sockEnabled u event)
    (steadily : sendsSteadily u event) : ∃ start' acked' sent',
      Steady seed (sockStep u event) start' acked' sent' := by
  obtain ⟨once, honest, fits⟩ := steadily
  have acks := honest.acksTransmitted steady.tracks
  obtain ⟨start', acked', sent', progress⟩ := sockStep_progress allowed steady.shaped steady.tracks
    once acks (endsMessages_of_fits steady.shaped steady.tracks steady.lively acks)
  exact ⟨start', acked', sent', steady.shaped.step allowed, progress.tracks,
    sockStep_lively steady allowed acks honest fits progress.tracks⟩

/-- With an honest peer, and messages that fit the sequence numbers, a pending send
never stalls. -/
theorem neverStalled_of_run {clock : Clock} {events : List SockEvent}
    (run : (sockMachine Lists).RunWhere sendsSteadily (umpSockNew Lists seed clock) events u) :
    NeverStalled u.core.snd := by
  let Holds (u : UMPSocket Lists) : Prop := ∃ start acked sent, Steady seed u start acked sent
  have first : Holds (umpSockNew Lists seed clock) :=
    ⟨0, 0, 0, wellShaped_new seed clock, tracks_new seed clock _, lively_new seed clock⟩
  obtain ⟨start, acked, sent, steady⟩ : Holds u := by
    refine run.invariant first ?_
    rintro u event ⟨start, acked, sent, steady⟩ allowed steadily
    exact steady.step allowed steadily
  exact steady.lively.neverStalled steady.tracks

end Steps

/-- The theorem holds of a run in which a message is acknowledged and the next one
starts. -/
theorem neverStalled_oneMessageRun :
    NeverStalled ((sockMachine PlainLists).after
      (umpSockNew PlainLists 100 ⟨fun _ => ⟨0, 0⟩, 0⟩) oneMessageRun).core.snd :=
  neverStalled_of_run (Machine.runWhere_of_check (by decide))

/-! ### A message of too many packets -/

theorem chunksOf_replicate {size : Nat} (some : 0 < size) (byte : UInt8) {count fuel : Nat}
    (enough : count ≤ fuel) : chunksOf size fuel (List.replicate (count * size) byte) =
      List.replicate count (List.replicate size byte) := by
  induction count generalizing fuel with
  | zero => cases fuel <;> simp [chunksOf]
  | succ count inductionHypothesis =>
      obtain ⟨fuel, rfl⟩ : ∃ less, fuel = less + 1 := ⟨fuel - 1, by omega⟩
      have length : (count + 1) * size = count * size + size := Nat.succ_mul count size
      cases data : List.replicate ((count + 1) * size) byte with
      | nil =>
          have empty := congrArg List.length data
          rw [List.length_replicate, List.length_nil] at empty
          omega
      | cons first rest =>
          rw [chunksOf, ← data, List.take_replicate, List.drop_replicate, Nat.min_eq_left (by omega),
            Nat.sub_eq_of_eq_add length, inductionHypothesis (by omega)]
          rfl

/-- A message of 32770 full packets. -/
def longMessage : List UInt8 := List.replicate (32770 * 1400) 0

theorem umpSendMessage_longMessage {s : SocketCore} (mss : s.snd.ourMss = 1400) :
    umpSendMessage s longMessage =
      umpSockSend s
        (List.replicate 32770 (uPacketSetData (uPacketNew .data .outgoing) (List.replicate 1400 0)))
        32770 := by
  have size : (1400 : UInt16).toNat = 1400 := rfl
  unfold umpSendMessage messagePackets
  rw [mss, size, longMessage, List.length_replicate,
    chunksOf_replicate (by decide) 0 (by decide), List.map_replicate]
  rfl

/-- In an iteration of the thread the packets handled are those of an honest peer. -/
def honestIteration {Lists : Type} [ReceiveLists Lists] (t : ThreadState Lists)
    (event : ThreadEvent) : Prop :=
  event = .iterate →
    (sockMachine Lists).check peerHonest t.socket (iterationEvents t.socket t.queues) = true

instance {Lists : Type} [ReceiveLists Lists] (t : ThreadState Lists) (event : ThreadEvent) :
    Decidable (honestIteration t event) := by
  unfold honestIteration
  infer_instance

/-- No ack for the last packet of the message was handled. -/
def unacknowledged (t : ThreadState PlainLists) : Bool :=
  t.events.all fun event =>
    match event with
    | .dataPacket p =>
        !(uPacketGetFlag p UP_DATA_ACK && p.ackNum == t.socket.core.snd.ourMsgLastSeq + 1)
    | _ => true

/-- A socket that was opened passively. -/
def openingLife : List ThreadEvent :=
  [.receive (receivedForm (synPacket 7 1400)), .iterate,
    .receive (receivedForm
      { uPacketSetFlag (uPacketNew .control .outgoing) UP_CTRL_ACK with ackNum := 101 }), .iterate]

def openedThread : ThreadState PlainLists :=
  (threadMachine PlainLists).after (.new (umpSockNew PlainLists 100 ⟨fun _ => ⟨0, 0⟩, 0⟩))
    openingLife

/-- The long message is left for that socket. -/
def postedThread : ThreadState PlainLists where
  socket :=
    { openedThread.socket with
      core := umpSockSend openedThread.socket.core
        (List.replicate 32770
          (uPacketSetData (uPacketNew .data .outgoing) (List.replicate 1400 0))) 32770 }
  queues := openedThread.queues
  events := openedThread.events ++ [.userSend longMessage]

/-- Its first packet is transmitted and acknowledged, and the next message comes. -/
def stallingLife : List ThreadEvent :=
  [.iterate, .receive (dataAck 101 50), .iterate, .call (.userSend [1])]

theorem stallingLife_run : ∃ events,
    (threadMachine PlainLists).RunWhere honestIteration
      (.new (umpSockNew PlainLists 100 ⟨fun _ => ⟨0, 0⟩, 0⟩)) events
      ((threadMachine PlainLists).after postedThread stallingLife) := by
  have opened : (threadMachine PlainLists).RunWhere honestIteration
      (.new (umpSockNew PlainLists 100 ⟨fun _ => ⟨0, 0⟩, 0⟩)) openingLife openedThread :=
    Machine.runWhere_of_check (by decide +kernel)
  have length : longMessage.length = 32770 * 1400 := List.length_replicate
  have some : longMessage ≠ [] := by
    intro empty
    rw [empty] at length
    exact absurd length (by decide)
  have allowed : sockEnabled openedThread.socket (.userSend longMessage) :=
    ⟨by decide +kernel, some, by rw [length]; decide, by decide +kernel⟩
  have posted : (threadMachine PlainLists).RunWhere honestIteration
      (.new (umpSockNew PlainLists 100 ⟨fun _ => ⟨0, 0⟩, 0⟩))
      (openingLife ++ [.call (.userSend longMessage)])
      (threadStep openedThread (.call (.userSend longMessage))) :=
    .go opened ⟨rfl, allowed⟩ (by simp [honestIteration])
  have same : threadStep openedThread (.call (.userSend longMessage)) = postedThread := by
    have sent := umpSendMessage_longMessage (s := openedThread.socket.core) (by decide +kernel)
    show (⟨{ openedThread.socket with core := umpSendMessage openedThread.socket.core longMessage },
      openedThread.queues, openedThread.events ++ [.userSend longMessage]⟩ :
        ThreadState PlainLists) = postedThread
    rw [sent]
    rfl
  rw [same] at posted
  exact ⟨_, posted.trans (Machine.runWhere_of_check (by decide +kernel))⟩

/-- With the first ack the long message is reported as sent, because its last number
seems to lie before the ack; the message behind it starts 32769 numbers behind the
base, so its window ends before its start. -/
theorem neverStalled_fails :
    ¬ ∀ (seq : UInt16) (clock : Clock) (events : List ThreadEvent) (t : ThreadState PlainLists),
      (threadMachine PlainLists).RunWhere honestIteration (.new (umpSockNew PlainLists seq clock))
          (events ++ [.iterate]) t →
        t.socket.core.ctrl.errorOccured = false → unacknowledged t →
          NeverStalled t.socket.core.snd := by
  intro always
  obtain ⟨events, run⟩ := stallingLife_run
  have ends : (threadMachine PlainLists).RunWhere honestIteration
      (.new (umpSockNew PlainLists 100 ⟨fun _ => ⟨0, 0⟩, 0⟩)) (events ++ [.iterate])
      (threadStep ((threadMachine PlainLists).after postedThread stallingLife) .iterate) :=
    .go run trivial (by decide +kernel)
  have going := always 100 _ events _ ends (by decide +kernel) (by decide +kernel)
  exact absurd going (by decide +kernel)

end UserMessageProtocol
