import UserMessageProtocol.Sender.FastRetransmit
import UserMessageProtocol.Socket.Elapsed

/-!
Contract: when a retransmission timer fires.

Owns: the delay of a packet without overflow (`fullDelay`) and when
`tm_register_packet` registers exactly that delay (`RegistersDelay`).

Does not own: the order of the timers in their list (`Sender.TimerOrder`).
-/

set_option autoImplicit false

namespace UserMessageProtocol

/-- How far the window position lies after the base. -/
def windowAhead (snd : SendSide) : Int :=
  umpCmpInSndbase snd (umpRelativeToSeqViaSndstartseq snd snd.ourWndPos) snd.ourDataSeqBase

/-- `1000*rto*wnd_true` in microseconds, computed without overflow. -/
def fullDelay (snd : SendSide) : Int :=
  1000 * (rtoGetRto snd.rtoCpt * max 1 (windowAhead snd + 1))

/-- The next packet is registered with a timer that fires later by exactly its delay. -/
def RegistersDelay (s : SocketCore) : Prop :=
  ∃ entry : TmEntry, (umpSndlockedHandleSendData s).snd.tmList = s.snd.tmList ++ [entry] ∧
    entry.regTime = s.now ∧ entry.regTime.micros < entry.fireTime.micros ∧
      entry.fireTime.micros = entry.regTime.micros + fullDelay s.snd

section Delay

variable {snd : SendSide}

theorem fullDelay_pos (low : 16 ≤ rtoGetRto snd.rtoCpt) : 0 < fullDelay snd := by
  have factor : 1 ≤ max 1 (windowAhead snd + 1) := Int.le_max_left _ _
  have positive : 0 < rtoGetRto snd.rtoCpt * max 1 (windowAhead snd + 1) :=
    Int.mul_pos (by omega) (by omega)
  unfold fullDelay
  omega

/-- With the greatest RTO and window the delay takes 34 bits. -/
theorem fullDelay_bounded (high : rtoGetRto snd.rtoCpt ≤ 90000)
    (window : windowAhead snd ≤ REC_QUEUE_LIMIT) : fullDelay snd ≤ 9090000000 := by
  have limit : REC_QUEUE_LIMIT = 100 := rfl
  have factor : max 1 (windowAhead snd + 1) ≤ 101 := by omega
  have product : rtoGetRto snd.rtoCpt * max 1 (windowAhead snd + 1) ≤ 90000 * 101 :=
    Int.mul_le_mul high factor (by omega) (by omega)
  unfold fullDelay
  omega

theorem fullDelay_fits_iff (low : 16 ≤ rtoGetRto snd.rtoCpt)
    (high : rtoGetRto snd.rtoCpt ≤ 90000) :
    fullDelay snd < 2147483648 ↔ rtoGetRto snd.rtoCpt * (windowAhead snd + 1) ≤ 2147483 := by
  unfold fullDelay
  by_cases ahead : 0 ≤ windowAhead snd
  · have factor : max 1 (windowAhead snd + 1) = windowAhead snd + 1 := by omega
    rw [factor]
    omega
  · have factor : max 1 (windowAhead snd + 1) = 1 := by omega
    have negative : rtoGetRto snd.rtoCpt * (windowAhead snd + 1) ≤ 0 :=
      Int.mul_nonpos_of_nonneg_of_nonpos (by omega) (by omega)
    rw [factor]
    omega

/-- The product of RTO and window still fits a `glong`. -/
theorem packetTimeout_eq (positive : 0 < fullDelay snd) (bounded : fullDelay snd ≤ 9090000000) :
    1000 * packetTimeout snd = fullDelay snd := by
  unfold fullDelay at positive bounded
  show 1000 * glong (rtoGetRto snd.rtoCpt * max 1 (windowAhead snd + 1)) = _
  rw [glong_eq (by omega) (by omega)]
  rfl

/-- The timer registered at `now` fires after the delay if nothing overflows. -/
theorem fireTime_micros_iff {now : GTimeVal} (unix : now.Unix) {delay : Int}
    (positive : 0 < delay) (bounded : delay ≤ 9090000000) :
    (gTimeValAdd now (glong delay)).micros = now.micros + delay ↔
      delay < 2147483648 ∧ now.micros + delay < 2147483648000000 := by
  have exact' := gTimeValAdd_micros_iff now unix (glong delay)
  have started := unix.micros_nonneg
  constructor
  · intro sum
    obtain ⟨turns, whole⟩ := gTimeValAdd_turns now (glong delay)
    obtain ⟨wraps, wrapped⟩ := glong_turns delay
    have fits := glong_range delay
    have same : glong delay = delay := by omega
    rw [same] at exact' sum
    exact ⟨by omega, (exact'.mp sum).2⟩
  · intro ⟨fits, late⟩
    have same : glong delay = delay := glong_eq (by omega) fits
    rw [same] at exact' ⊢
    exact exact'.mpr ⟨by omega, late⟩

end Delay

theorem umpSndlockedHandleSendData_tmList {s : SocketCore} {p : UMPPacket}
    (window : s.snd.ourDataPos < s.snd.ourWndPos)
    (found : packetAt s.snd s.snd.ourDataPos = some p) :
    (umpSndlockedHandleSendData s).snd.tmList =
      s.snd.tmList ++ [⟨p.seqNum, s.now, gTimeValAdd s.now (glong (1000 * packetTimeout s.snd))⟩] := by
  unfold umpSndlockedHandleSendData
  rw [if_pos window, found]
  show (afterTransmit s.snd (outgoingPacket s.ackInfo p) s.now).tmList = _
  rw [afterTransmit_eq]
  dsimp only [tmRegisterPacket]
  rw [outgoingPacket_seqNum]

/-- The timer of the next packet is right unless the delay takes more than 31 bits
or ends behind the last second of the platform's clock. -/
theorem registersDelay_iff (s : SocketCore) (p : UMPPacket)
    (low : 16 ≤ rtoGetRto s.snd.rtoCpt) (high : rtoGetRto s.snd.rtoCpt ≤ 90000)
    (window : windowAhead s.snd ≤ REC_QUEUE_LIMIT) (unix : s.now.Unix)
    (open' : s.snd.ourDataPos < s.snd.ourWndPos)
    (found : packetAt s.snd s.snd.ourDataPos = some p) :
    RegistersDelay s ↔
      rtoGetRto s.snd.rtoCpt * (windowAhead s.snd + 1) ≤ 2147483 ∧
        s.now.micros + fullDelay s.snd < 2147483648000000 := by
  have positive := fullDelay_pos low
  have bounded := fullDelay_bounded high window
  have fires := fireTime_micros_iff unix positive bounded
  have list := umpSndlockedHandleSendData_tmList open' found
  rw [packetTimeout_eq positive bounded] at list
  rw [← fullDelay_fits_iff low high, ← fires]
  constructor
  · intro ⟨entry, appended, registered, later, delayed⟩
    rw [list, List.append_cancel_left_eq] at appended
    obtain rfl := List.singleton_inj.mp appended
    exact delayed
  · intro delayed
    refine ⟨_, list, rfl, ?_, delayed⟩
    dsimp only
    omega

/-! ### Examples -/

/-- A clock that stands still in November 2023. -/
def novemberClock : Clock := .stopped ⟨1700000000, 0⟩

/-- A passive open by a peer that asks for packets of one byte. -/
def narrowOpen : List SockEvent :=
  [.ctrlPacket (receivedForm (synPacket 7 1)), .sendCtrlPacket,
    .ctrlPacket (receivedForm
      { uPacketSetFlag (uPacketNew .control .outgoing) UP_CTRL_ACK with ackNum := 101 })]

/-- Eight heartbeats of the peer on an idle connection, and a message of 23 packets
that is about to be sent. -/
def widenedRun : List SockEvent :=
  narrowOpen ++ List.replicate 8 (.dataPacket (dataAck 100 50)) ++
    [.userSend (List.replicate 23 0), .handleSend]

def widenedSocket : UMPSocket GLists :=
  (sockMachine GLists).after (umpSockNew GLists 100 novemberClock) widenedRun

/-- A new connection with a message of one packet. -/
def onePacketSocket : UMPSocket GLists :=
  (sockMachine GLists).after (umpSockNew GLists 100 novemberClock)
    (narrowOpen ++ [.userSend [1], .handleSend])

theorem registersDelay_onePacket : RegistersDelay onePacketSocket.core :=
  (registersDelay_iff onePacketSocket.core _ (by decide +kernel) (by decide +kernel)
    (by decide +kernel) (by decide +kernel) (by decide +kernel) rfl).mpr (by decide +kernel)

/-- Heartbeats on an idle connection raise the RTO to its cap, and the first timer
of a message behind them fires half an hour before it is registered. -/
theorem registersDelay_fails : ¬ ∀ (seq : UInt16) (clock : Clock) (events : List SockEvent)
    (u : UMPSocket GLists), (sockMachine GLists).Run (umpSockNew GLists seq clock) events u →
      ∀ p : UMPPacket, 16 ≤ rtoGetRto u.core.snd.rtoCpt → rtoGetRto u.core.snd.rtoCpt ≤ 90000 →
        windowAhead u.core.snd ≤ REC_QUEUE_LIMIT → u.core.now.Unix →
          u.core.snd.ourDataPos < u.core.snd.ourWndPos →
            packetAt u.core.snd u.core.snd.ourDataPos = some p → RegistersDelay u.core := by
  intro always
  have run : (sockMachine GLists).Run (umpSockNew GLists 100 novemberClock) widenedRun widenedSocket :=
    Machine.runWhere_of_check (by decide +kernel)
  obtain ⟨entry, appended, registered, later, -⟩ := always _ _ _ _ run _ (by decide +kernel)
    (by decide +kernel) (by decide +kernel) (by decide +kernel) (by decide +kernel) rfl
  have early : (umpSndlockedHandleSendData widenedSocket.core).snd.tmList =
      [⟨100, ⟨1700000000, 0⟩, ⟨1699997865, 32704⟩⟩] := by decide +kernel
  have none : widenedSocket.core.snd.tmList = [] := by decide +kernel
  rw [early, none, List.nil_append] at appended
  obtain rfl := List.singleton_inj.mp appended
  exact absurd later (by decide)

end UserMessageProtocol
