import UserMessageProtocol.Sender.Timers
import Mathlib.Data.List.Nodup

/-!
Contract: the round trip time is taken from packets that were transmitted once.

Owns: when `ump_handle_data_ack` calls `rto_refresh_rtt` (`refreshesRtt`), the property
(`SampledOnce`), the acks for which the marker `our_back_point` is no guard
(`guardsSample`), and the run theorem.

Does not own: where the marker lies (`Sender.Marker`).
-/

set_option autoImplicit false

namespace UserMessageProtocol

open Serial

/-! ### When a sample is taken -/

/-- `acknowledgeTimers` calls `rto_refresh_rtt`. -/
def takesSample (s : SocketCore) (ackSeq : UInt16) : Bool :=
  match (tmAckPacket s.snd.tmList ackSeq s.snd.ourDataSent).1 with
  | none => false
  | some entry =>
      decide (umpTimeSub s.now entry.regTime ≥ 0) && decide (ackSeq ≥ s.snd.ourBackPoint)

/-- The socket behind a new ack, before the timers are looked at. -/
def beforeTimers (s : SocketCore) (u_p : UMPPacket) : SocketCore :=
  let s := { s with snd := advanceBase (recounted s.snd u_p.ackNum) u_p.ackNum }
  let s := refreshCwnd (umpHandleWndNotify s u_p)
  { s with snd := skipAcknowledged s.snd }

/-- `ump_handle_data_ack` calls `rto_refresh_rtt`. -/
def refreshesRtt (s : SocketCore) (u_p : UMPPacket) : Bool :=
  uPacketGetFlag u_p UP_DATA_ACK && ackInRange (recounted s.snd u_p.ackNum) u_p.ackNum &&
    decide (ackDiff (recounted s.snd u_p.ackNum) u_p.ackNum > 0) &&
    takesSample (beforeTimers s u_p) u_p.ackNum

section Stage

variable {s : SocketCore} {p : UMPPacket}

/-- A new ack looks at the timers in just that state. -/
theorem umpHandleDataAck_timers (flag : uPacketGetFlag p UP_DATA_ACK)
    (range : ackInRange (recounted s.snd p.ackNum) p.ackNum)
    (ahead : ackDiff (recounted s.snd p.ackNum) p.ackNum > 0) :
    umpHandleDataAck s p =
      let t := acknowledgeTimers (beforeTimers s p) p.ackNum
      if umpCmpInSndbase t.snd p.ackNum t.snd.ourMsgLastSeq > 0 then umpEndSend t true else t := by
  unfold umpHandleDataAck
  rw [if_pos flag]
  dsimp only
  rw [if_pos (by exact range), if_pos (by exact ahead)]
  rfl

/-- What the timers are looked at with. -/
theorem beforeTimers_snd (s : SocketCore) (p : UMPPacket) :
    (beforeTimers s p).snd.tmList = (recounted s.snd p.ackNum).tmList ∧
      (beforeTimers s p).snd.ourDataSent = (recounted s.snd p.ackNum).ourDataSent ∧
      (beforeTimers s p).snd.ourBackPoint =
        raised p.ackNum (recounted s.snd p.ackNum).ourBackPoint p.ackNum := by
  let t := umpHandleWndNotify { s with snd := advanceBase (recounted s.snd p.ackNum) p.ackNum } p
  have notifies : t.snd = acknowledgedBy s.snd p s.now := umpHandleWndNotify_snd _ p
  obtain ⟨fastRetran, cwnd, time, refreshed, -⟩ := refreshCwnd_snd t
  obtain ⟨sameTimers, -, point, -⟩ := acknowledgedBy_flight s.snd p s.now
  obtain ⟨-, -, sent⟩ := acknowledgedBy_numbers s.snd p s.now
  obtain ⟨-, -, sameSent⟩ := recounted_numbers s.snd p.ackNum
  have skips (snd : SendSide) : (skipAcknowledged snd).tmList = snd.tmList ∧
      (skipAcknowledged snd).ourDataSent = snd.ourDataSent ∧
      (skipAcknowledged snd).ourBackPoint = snd.ourBackPoint := by
    unfold skipAcknowledged
    split <;> exact ⟨rfl, rfl, rfl⟩
  have stage : (beforeTimers s p).snd = skipAcknowledged (refreshCwnd t).snd := rfl
  obtain ⟨timers, numbers, points⟩ := skips (refreshCwnd t).snd
  rw [stage, timers, numbers, points, refreshed]
  dsimp only
  rw [notifies]
  exact ⟨sameTimers, sent.trans sameSent.symm, point⟩

/-- A timer that is taken for an ack is that of the packet before it. -/
theorem tmAckLoop_entry {ackSeq : UInt16} {tl : List TmEntry} {entry : TmEntry}
    (found : (tmAckLoop ackSeq tl).1 = some entry) : entry ∈ tl ∧ entry.seq + 1 = ackSeq := by
  induction tl with
  | nil => cases found
  | cons first rest inductionHypothesis =>
      rw [tmAckLoop] at found
      split at found
      · rename_i here
        obtain rfl : first = entry := Option.some.inj found
        exact ⟨List.mem_cons_self, here.symm⟩
      · obtain ⟨member, number⟩ := inductionHypothesis found
        exact ⟨List.mem_cons_of_mem _ member, number⟩

theorem takesSample_entry {ackSeq : UInt16} (taken : takesSample s ackSeq = true) :
    ackSeq ≥ s.snd.ourBackPoint ∧ ∃ entry ∈ s.snd.tmList, entry.seq + 1 = ackSeq := by
  unfold takesSample at taken
  cases found : (tmAckPacket s.snd.tmList ackSeq s.snd.ourDataSent).1 with
  | none =>
      rw [found] at taken
      cases taken
  | some entry =>
      rw [found] at taken
      simp only [Bool.and_eq_true, decide_eq_true_eq] at taken
      refine ⟨taken.2, entry, ?_⟩
      unfold tmAckPacket at found
      split at found
      · cases found
      · split at found
        · rename_i list _
          exact tmAckLoop_entry found
        · cases found

end Stage

/-! ### The property -/

section Property

variable {Lists : Type} (u : UMPSocket Lists)

/-- A data packet makes the socket take a sample. -/
def samplesRtt (p : UMPPacket) : Bool :=
  decide (u.core.ctrl.state ≠ .connecting) && refreshesRtt u.core p

/-- When a sample is taken for an ack, the packet before it was transmitted once since its message
was numbered. -/
def SampledOnce (p : UMPPacket) : Prop :=
  samplesRtt u p = true → (messageNumbers (traffic u.core.log)).count (p.ackNum - 1) = 1

/-- A sample is taken only for an ack that lies behind the marker, or while no packet of the
message was transmitted twice. -/
def guardsSample : SockEvent → Prop
  | .dataPacket p => samplesRtt u p = true →
      offset p.ackNum u.core.snd.ourBackPoint < 0 ∨ (messageNumbers (traffic u.core.log)).Nodup
  | _ => True

/-- What makes the marker a guard. -/
def samplesCleanly (event : SockEvent) : Prop := keepsTimers u event ∧ guardsSample u event

instance (event : SockEvent) : Decidable (guardsSample u event) :=
  match event with
  | .dataPacket _ => by unfold guardsSample; infer_instance
  | .userCtrl .. | .userSend .. | .userReceive | .handleCtrl | .handleSend | .handleReceive |
    .bufferLoad .. | .ctrlPacket .. | .dataTimeout | .refreshRwnd | .refreshAck | .actReqWnd |
    .ctrlTimeout | .sendCtrlPacket | .heartbeat | .sendData | .sendReset => instDecidableTrue

instance (event : SockEvent) : Decidable (samplesCleanly u event) := by
  unfold samplesCleanly
  infer_instance

end Property

/-! ### Runs -/

section Runs

variable {Lists : Type} {u : UMPSocket Lists} {p : UMPPacket} {seed : UInt16} {gone : Prop}
  {before : List Action} {since : List UInt16} {start acked sent reach : Nat}

/-- A sample is taken for an ack of a packet in flight. -/
theorem Mirrors.sampled
    (mirrors : Mirrors seed gone u.core.snd before since start acked sent reach)
    (samples : samplesRtt u p = true) : ∃ i : Nat, acked ≤ i ∧ i < reach ∧
      p.ackNum = place seed (i + 1 : Nat) := by
  simp only [samplesRtt, refreshesRtt, Bool.and_eq_true, decide_eq_true_eq] at samples
  obtain ⟨-, ⟨⟨flag, range⟩, ahead⟩, taken⟩ := samples
  rw [ackDiff_recounted] at ahead
  have same := recounted_new mirrors.repeated ahead
  obtain ⟨-, entry, member, number⟩ := takesSample_entry taken
  rw [(beforeTimers_snd u.core p).1, same] at member
  obtain ⟨index, found⟩ := List.mem_iff_getElem?.mp member
  obtain ⟨inside, here⟩ := seq_of_getElem? mirrors.timers found
  refine ⟨acked + index, by omega, by omega, ?_⟩
  rw [← number, here, mirrors.baseAt, place_place, place_add_one]
  congr 1

theorem Mirrors.sampledOnce
    (mirrors : Mirrors seed gone u.core.snd (traffic u.core.log) since start acked sent reach)
    (guards : guardsSample u (.dataPacket p)) : SampledOnce u p := by
  intro samples
  obtain ⟨i, after, below, number⟩ := mirrors.sampled samples
  have ordered := mirrors.ordered
  have before : p.ackNum - 1 = place seed i := by
    rw [number, Nat.cast_add, Nat.cast_one, ← place_add_one, UInt16.add_sub_cancel]
  rw [before]
  rcases guards samples with behind | single
  · have marked := SendSide.mark_lt mirrors.baseAt number (by omega) behind
    exact mirrors.marks.once i after (by omega) (by omega)
  · exact List.nodup_iff_count_eq_one.mp single _ (mirrors.marks.inFlight i after below)

variable [ReceiveLists Lists]

/-- In every run in which the marker guards the samples, the packet of a sample was transmitted
once. -/
theorem sampledOnce_of_run {clock : Clock} {events : List SockEvent}
    (run : (sockMachine Lists).RunWhere samplesCleanly (umpSockNew Lists seed clock) events u)
    (cleanly : samplesCleanly u (.dataPacket p)) : SampledOnce u p := by
  have kept := run.mono fun _ _ cleanly => cleanly.1
  obtain ⟨-, start, acked, sent, reach, mirrors⟩ := mirrors_of_run kept
  exact mirrors.sampledOnce cleanly.2

end Runs

/-- A clock that stands still but for a jump of 100 seconds behind seven readings. -/
def leapingClock : Clock := ⟨fun n => ⟨if n < 7 then 0 else 100, 0⟩, 0⟩

/-- A passive open by a peer that asks for packets of one byte. -/
def bytewiseOpen : List SockEvent :=
  [.ctrlPacket (receivedForm (synPacket 7 1)), .sendCtrlPacket,
    .ctrlPacket (receivedForm
      { uPacketSetFlag (uPacketNew .control .outgoing) UP_CTRL_ACK with ackNum := 101 })]

/-- Of a message of three packets the first two are sent, and the first one again behind a timeout;
both are acknowledged, and the third one is sent. -/
def resentLife : List SockEvent := bytewiseOpen ++
  [.userSend [1], .handleSend, .sendData, .dataPacket (dataAck 101 50), .userSend [2, 3, 4],
    .handleSend, .sendData, .sendData, .dataTimeout, .sendData, .dataPacket (dataAck 103 50),
    .sendData]

def resentSocket : UMPSocket PlainLists :=
  (sockMachine PlainLists).after (umpSockNew PlainLists 100 leapingClock) resentLife

/-- The theorem holds of that run: the packet that was sent twice is not sampled, the third one
is. -/
theorem sampledOnce_resentSocket :
    messageNumbers (traffic resentSocket.core.log) = [103, 101, 102, 101] ∧
      samplesRtt resentSocket (dataAck 104 50) = true ∧
      SampledOnce resentSocket (dataAck 104 50) :=
  ⟨by decide +kernel, by decide +kernel,
    sampledOnce_of_run (Machine.runWhere_of_check (by decide +kernel)) (by decide +kernel)⟩

/-- A message of one packet is sent, no ack comes, the packet is sent again behind the timeout, and
then the ack comes. -/
def retransmittingLife : List ThreadEvent :=
  openingLife ++ [.call (.userSend [1]), .iterate, .iterate, .iterate, .receive (dataAck 101 50)]

/-- Every reading of the clock lies ten seconds behind the one before. -/
def slowClock : Clock := ⟨fun n => ⟨10 * n, 0⟩, 0⟩

/-- The timeout raises the marker to 101, the number behind the packet, and the ack of the packet
that was sent twice has that number. -/
theorem sampledOnce_fails :
    ¬ ∀ (seq : UInt16) (clock : Clock) (events : List ThreadEvent) (t : ThreadState PlainLists)
        (handled : List SockEvent) (p : UMPPacket) (rest : List SockEvent),
      (threadMachine PlainLists).RunWhere honestIteration (.new (umpSockNew PlainLists seq clock))
          events t → honestIteration t .iterate →
        iterationEvents t.socket t.queues = handled ++ .dataPacket p :: rest →
          SampledOnce ((sockMachine PlainLists).after t.socket handled) p := by
  intro always
  have run : (threadMachine PlainLists).RunWhere honestIteration
      (.new (umpSockNew PlainLists 100 slowClock)) retransmittingLife
      ((threadMachine PlainLists).after (.new (umpSockNew PlainLists 100 slowClock))
        retransmittingLife) := Machine.runWhere_of_check (by decide +kernel)
  have sampled := always 100 slowClock retransmittingLife _ (callEvents ++ [.bufferLoad 0])
    (dataAck 101 50) timedEvents run (by decide +kernel) (by decide +kernel)
  have once := sampled (by decide +kernel)
  exact absurd once (by decide +kernel)

end UserMessageProtocol
