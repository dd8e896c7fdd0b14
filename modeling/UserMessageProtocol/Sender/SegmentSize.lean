import UserMessageProtocol.Sender.Steps
import UserMessageProtocol.Sender.Message

/-!
Contract: the segment size a peer can talk a socket into.

Owns: what negotiation does to `our_mss`, the runs in which it stays a usable
divisor, and the progress of the fragmentation loop of `ump_send_message`.

Does not own: the packets of a message (`Sender.Message`).
-/

set_option autoImplicit false

namespace UserMessageProtocol

/-! ### Steps that leave the segment size alone -/

section Frame

variable (snd : SendSide) (p : UMPPacket)

@[simp] theorem endedSend_ourMss (ok : Bool) : (endedSend snd ok).ourMss = snd.ourMss := by
  unfold endedSend
  split <;> rfl

@[simp] theorem recounted_ourMss (ackSeq : UInt16) :
    (recounted snd ackSeq).ourMss = snd.ourMss := by
  rcases recounted_cases snd ackSeq with ⟨same, -⟩ | ⟨-, -, counted⟩ | ⟨-, backPoint, rewound⟩
  · rw [same]
  · rw [counted]
  · rw [rewound]

@[simp] theorem notified_ourMss (now : GTimeVal) : (notified snd p now).ourMss = snd.ourMss := by
  rcases notified_eq snd p now with ⟨same, -⟩ | ⟨-, time, changed⟩
  · rw [same]
  · rw [changed]
    rfl

@[simp] theorem acknowledgedBy_ourMss (now : GTimeVal) :
    (acknowledgedBy snd p now).ourMss = snd.ourMss := by
  obtain ⟨backPoint, advanced⟩ := advanceBase_eq (recounted snd p.ackNum) p.ackNum
  rw [acknowledgedBy, notified_ourMss, advanced, recounted_ourMss]

@[simp] theorem endedByAck_ourMss (ackSeq : UInt16) :
    (endedByAck snd ackSeq).ourMss = snd.ourMss := by
  unfold endedByAck
  split
  · rw [endedSend_ourMss]
  · rfl

theorem ackStep_ourMss {snd' : SendSide} {added : List Action}
    (step : AckStep snd p snd' added) : snd'.ourMss = snd.ourMss := by
  cases step with
  | noAck now flag => rw [notified_ourMss]
  | outside flag range => rw [recounted_ourMss]
  | old now flag range same => rw [notified_ourMss, recounted_ourMss]
  | new now time fastRetran cwnd rtoCpt flag range ahead grown =>
      rw [endedByAck_ourMss, settled_eq]
      exact acknowledgedBy_ourMss snd p now

end Frame

/-- Only a SYN that is taken changes the segment size. -/
theorem sendStep_ourMss {s : SocketCore} {after : Handshake} {event : SockEvent}
    {snd : SendSide} {added : List Action} (step : SendStep s after event snd added) :
    snd.ourMss = s.snd.ourMss ∨
      ∃ p, event = .ctrlPacket p ∧ TakesSyn s.handshake p ∧
        snd.ourMss = (takeSyn s p).snd.ourMss := by
  cases step with
  | syn p taken => exact .inr ⟨p, rfl, taken, rfl⟩
  | idle event unheard untaken => exact .inl rfl
  | signal event p kind => exact .inl rfl
  | probe asking => exact .inl rfl
  | post data => exact .inl rfl
  | refuse packets unlocked posted => exact .inl rfl
  | start packets unlocked posted some established noError => exact .inl rfl
  | giveUp event noData parted untaken => exact .inl (endedSend_ourMss _ _)
  | transmit p locked window found =>
      rw [afterTransmit_eq]
      exact .inl rfl
  | expired parted => exact .inl (endedSend_ourMss _ _)
  | rewind =>
      obtain ⟨backPoint, rewound⟩ := rewindAfterTimeout_eq { s.snd with tmList := [] }
      rw [rewound]
      exact .inl rfl
  | ack p heard snd added step => exact .inl (ackStep_ourMss _ _ step)

/-! ### Runs -/

/-- The segment size can be divided by, and is not above the default. -/
def SegmentSize (ourMss : UInt16) : Prop := 1 ≤ ourMss ∧ ourMss ≤ DEFAULT_MSS

instance (ourMss : UInt16) : Decidable (SegmentSize ourMss) := by
  unfold SegmentSize
  infer_instance

/-- A SYN that is taken does not offer segments of no bytes. -/
def offersSegments {Lists : Type} (u : UMPSocket Lists) (event : SockEvent) : Prop :=
  ∀ p, event = .ctrlPacket p → TakesSyn u.core.handshake p → uPacketGetFlag p UP_CTRL_MSS →
    p.mssNum ≠ 0

theorem segmentSize_min {ourMss offered : UInt16} (size : SegmentSize ourMss)
    (some : offered ≠ 0) : SegmentSize (min ourMss offered) := by
  have positive : 0 < offered := UInt16.pos_iff_ne_zero.mpr some
  show SegmentSize (if ourMss ≤ offered then ourMss else offered)
  by_cases smaller : ourMss ≤ offered
  · rw [if_pos smaller]
    exact size
  · rw [if_neg smaller]
    have less : offered < ourMss := UInt16.not_le.mp smaller
    exact ⟨UInt16.le_iff_toNat_le.mpr (UInt16.lt_iff_toNat_lt.mp positive),
      UInt16.le_trans (UInt16.le_of_lt less) size.2⟩

/-- The fragmentation loop of `ump_send_message` cuts the whole message, takes at
least a byte in every round and fills the array it allocated. -/
structure Fragments (ourMss : UInt16) (data : List UInt8) : Prop where
  progress : ∀ p ∈ messagePackets ourMss data, p.userData ≠ []
  whole : (messagePackets ourMss data).flatMap UMPPacket.userData = data
  fills : (messagePackets ourMss data).length = pktsCount ourMss.toNat data.length

theorem chunksOf_nonempty {ourMss : Nat} (positive : 0 < ourMss) (fuel : Nat)
    (data : List UInt8) : ∀ chunk ∈ chunksOf ourMss fuel data, chunk ≠ [] := by
  induction fuel generalizing data with
  | zero => simp [chunksOf]
  | succ fuel inductionHypothesis =>
      cases data with
      | nil => simp [chunksOf]
      | cons byte rest =>
          intro chunk member
          rcases List.mem_cons.mp member with first | later
          · rw [first]
            simp [Nat.ne_of_gt positive]
          · exact inductionHypothesis _ chunk later

theorem fragments_of_segmentSize {ourMss : UInt16} (size : SegmentSize ourMss)
    (data : List UInt8) : Fragments ourMss data := by
  have positive : 0 < ourMss.toNat := UInt16.le_iff_toNat_le.mp size.1
  refine ⟨?_, ?_, ?_⟩
  · intro p member
    obtain ⟨chunk, chunkMember, rfl⟩ := List.mem_map.mp member
    exact chunksOf_nonempty positive _ data chunk chunkMember
  · have whole := chunksOf_flatten ourMss.toNat positive data.length data (Nat.le_refl _)
    rw [messagePackets, List.flatMap_map]
    show List.flatMap id _ = data
    rw [List.flatMap_id]
    exact whole
  · apply messagePackets_length
    intro zero
    rw [zero] at positive
    exact absurd positive (by decide)

section Runs

variable {Lists : Type} [ReceiveLists Lists]

theorem segmentSize_step {u : UMPSocket Lists} {event : SockEvent}
    (size : SegmentSize u.core.snd.ourMss) (offers : offersSegments u event) :
    SegmentSize (sockStep u event).core.snd.ourMss := by
  obtain ⟨added, step, -⟩ := send_step u event
  rcases sendStep_ourMss step with same | ⟨p, arrived, taken, took⟩
  · rw [same]
    exact size
  · rw [took]
    show SegmentSize (if uPacketGetFlag p UP_CTRL_MSS then min u.core.snd.ourMss p.mssNum
      else u.core.snd.ourMss)
    split
    · rename_i flag
      exact segmentSize_min size (offers p arrived taken flag)
    · exact size

/-- In a run in which no SYN offers empty segments, the segment size stays usable
and every message is cut into fragments. -/
theorem segmentSize_of_run {seq : UInt16} {clock : Clock} {events : List SockEvent}
    {u : UMPSocket Lists}
    (run : (sockMachine Lists).RunWhere offersSegments (umpSockNew Lists seq clock) events u) :
    SegmentSize u.core.snd.ourMss ∧ ∀ data, Fragments u.core.snd.ourMss data := by
  have size : SegmentSize u.core.snd.ourMss := by
    let Holds (u : UMPSocket Lists) : Prop := SegmentSize u.core.snd.ourMss
    have first : Holds (umpSockNew Lists seq clock) := by
      show SegmentSize DEFAULT_MSS
      decide
    apply run.invariant first
    intro u event size _ offers
    exact segmentSize_step size offers
  exact ⟨size, fragments_of_segmentSize size⟩

end Runs

/-- A SYN that offers segments of no bytes. -/
def emptySyn : UMPPacket := { synPacket 7 0 with direction := .incomming }

def emptySynClock : Clock := ⟨fun _ => ⟨0, 0⟩, 0⟩

theorem segmentSize_of_fullSyn : ∃ u,
    (sockMachine GLists).RunWhere offersSegments (umpSockNew GLists 100 emptySynClock)
      [.ctrlPacket (synPacket 7 536)] u ∧
    SegmentSize u.core.snd.ourMss ∧ ∀ data, Fragments u.core.snd.ourMss data := by
  have run : (sockMachine GLists).RunWhere offersSegments
      (umpSockNew GLists 100 emptySynClock) ([] ++ [.ctrlPacket (synPacket 7 536)])
      ((sockMachine GLists).step (umpSockNew GLists 100 emptySynClock)
        (.ctrlPacket (synPacket 7 536))) := by
    apply Machine.RunWhere.go .stay
    · decide
    · intro p arrived _ _
      rw [← SockEvent.ctrlPacket.inj arrived]
      decide
  exact ⟨_, run, segmentSize_of_run run⟩

/-- A SYN with an empty segment size leaves a socket that divides by zero. -/
theorem segmentSize_fails : ¬ ∀ (seq : UInt16) (clock : Clock) (events : List SockEvent)
    (u : UMPSocket GLists),
    (sockMachine GLists).Run (umpSockNew GLists seq clock) events u →
      SegmentSize u.core.snd.ourMss := by
  intro always
  have run : (sockMachine GLists).Run (umpSockNew GLists 100 emptySynClock)
      ([] ++ [.ctrlPacket emptySyn])
      ((sockMachine GLists).step (umpSockNew GLists 100 emptySynClock)
        (.ctrlPacket emptySyn)) := by
    apply Machine.RunWhere.go .stay _ trivial
    decide
  have size := always _ _ _ _ run
  revert size
  decide

end UserMessageProtocol
