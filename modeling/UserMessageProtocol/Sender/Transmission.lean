import UserMessageProtocol.Sender.IndexSafety
import UserMessageProtocol.Sender.Tracking

/-!
Contract: only transmitted data can be acknowledged.

Owns: the property of a step (`OnlyTransmittedAcked`), and the run theorem for the
initial numbers behind which zero lies, so that `our_data_sent` is the highest
number transmitted from the first transmission on.

Does not own: the positions of the sender (`Sender.Tracking`).
-/

set_option autoImplicit false

namespace UserMessageProtocol

open Serial

/-! ### The property -/

/-- The ack lies outside the range from the base to behind the highest number
transmitted; before anything was transmitted it is not the base. -/
def ackOutside (snd : SendSide) (log : List Action) (ackSeq : UInt16) : Prop :=
  match highestSent log with
  | none => ackSeq ≠ snd.ourDataSeqBase
  | some highest =>
      ¬ (0 ≤ offset snd.ourDataSeqBase ackSeq ∧
        offset snd.ourDataSeqBase ackSeq ≤ offset snd.ourDataSeqBase (highest + 1))

/-- What a step may do with acks: the base moves over transmitted packets only, a
send is reported only when all of it was transmitted, and other acks change nothing. -/
structure OnlyTransmittedAcked {Lists : Type} [ReceiveLists Lists] (u : UMPSocket Lists)
    (event : SockEvent) : Prop where
  advance : ∀ i : Nat,
    i < ((sockStep u event).core.snd.ourDataSeqBase - u.core.snd.ourDataSeqBase).toNat →
      ∃ q, .sendto q ∈ u.core.log ∧ isNumbered q ∧
        q.seqNum = u.core.snd.ourDataSeqBase + UInt16.ofNat i
  report : ∀ added, (sockStep u event).core.log = added ++ u.core.log →
    .sendDone true ∈ added → MessageTransmitted u.core.log
  outside : ∀ p, event = .dataPacket p → uPacketGetFlag p UP_DATA_ACK →
    ackOutside u.core.snd u.core.log p.ackNum → (sockStep u event).core.snd = u.core.snd

/-! ### Traffic and log -/

section Log

variable (log : List Action)

theorem highestSent_traffic : highestSent (traffic log) = highestSent log := by
  induction log with
  | nil => rfl
  | cons action before inductionHypothesis =>
      cases action with
      | sendto p =>
          rw [traffic_sendto, highestSent, highestSent, inductionHypothesis]
      | _ => exact inductionHypothesis

theorem lastNumbered_traffic : lastNumbered (traffic log) = lastNumbered log := by
  induction log with
  | nil => rfl
  | cons action before inductionHypothesis =>
      cases action with
      | numbered packets => rfl
      | _ => exact inductionHypothesis

theorem sinceNumbered_traffic {action : Action} (member : action ∈ sinceNumbered (traffic log)) :
    action ∈ sinceNumbered log := by
  induction log with
  | nil => exact member
  | cons first before inductionHypothesis =>
      cases first with
      | numbered packets => exact member
      | sendto p =>
          rw [traffic_sendto] at member
          rcases List.mem_cons.mp member with here | behind
          · exact List.mem_cons.mpr (.inl here)
          · exact List.mem_cons.mpr (.inr (inductionHypothesis behind))
      | sendDone ok =>
          rw [traffic_sendDone] at member
          rcases List.mem_cons.mp member with here | behind
          · exact List.mem_cons.mpr (.inl here)
          · exact List.mem_cons.mpr (.inr (inductionHypothesis behind))
      | _ => exact List.mem_cons.mpr (.inr (inductionHypothesis member))

theorem messageTransmitted_traffic (transmitted : MessageTransmitted (traffic log)) :
    MessageTransmitted log := by
  obtain ⟨packets, last, all⟩ := transmitted
  refine ⟨packets, (lastNumbered_traffic log).symm.trans last, ?_⟩
  intro m member
  obtain ⟨q, sent, numbered, same⟩ := all m member
  exact ⟨q, sinceNumbered_traffic log sent, numbered, same⟩

theorem mem_of_traffic {action : Action} (member : action ∈ traffic log) : action ∈ log :=
  (List.mem_filter.mp member).1

end Log

/-! ### Acks that are accepted -/

section Accepted

variable {seed : UInt16} {gone : Prop} {snd : SendSide} {traffic : List Action}
  {start acked sent : Nat}

/-- Zero lies behind these initial numbers. -/
theorem offset_zero_neg (low : 0 < seed.toNat) (high : seed.toNat ≤ 32768) :
    offset seed 0 ≤ -1 := by
  have zero : (0 : UInt16).toNat = 0 := rfl
  rw [offset, zero, Int.bmod_def]
  omega

/-- An ack that is accepted is for a transmitted packet. -/
theorem accepted_transmitted {ackSeq : UInt16}
    (tracks : Tracks seed gone snd traffic start acked sent)
    (low : 0 < seed.toNat) (high : seed.toNat ≤ 32768)
    (range : ackInRange snd ackSeq) (ahead : 0 < offset snd.ourDataSeqBase ackSeq) :
    ∃ ackPosition : Nat, acked < ackPosition ∧ ackPosition ≤ sent ∧
      ackSeq = place seed ackPosition := by
  rw [ackInRange_iff, tracks.offset_sent] at range
  have behind := offset_zero_neg low high
  have inside : acked + offset snd.ourDataSeqBase ackSeq ≤ sent := by
    have ordered := tracks.ordered
    unfold lastSent at range
    split at range <;> omega
  refine ⟨acked + (offset snd.ourDataSeqBase ackSeq).toNat, by omega, by omega, ?_⟩
  have number := place_offset snd.ourDataSeqBase ackSeq
  rw [tracks.baseAt, place_place, ← tracks.baseAt] at number
  rw [Nat.cast_add, Int.toNat_of_nonneg (by omega)]
  exact number.symm

end Accepted

/-! ### Steps and runs -/

section Runs

variable {Lists : Type} [ReceiveLists Lists] {u : UMPSocket Lists} {event : SockEvent}
  {seed : UInt16} {start acked sent : Nat}

/-- What the positions of a sender say about a socket that opens once. -/
structure Transmits (seed : UInt16) (u : UMPSocket Lists) (start acked sent : Nat) : Prop where
  shaped : WellShaped u
  tracks : Tracks seed u.core.handshake.Ended u.core.snd (traffic u.core.log) start acked sent

omit [ReceiveLists Lists] in
/-- The acks that are accepted are for transmitted packets. -/
theorem Transmits.acksTransmitted (transmits : Transmits seed u start acked sent)
    (low : 0 < seed.toNat) (high : seed.toNat ≤ 32768) :
    AcksTransmitted seed acked sent u event := by
  intro p _ heard flag range ahead
  rw [ackDiff_eq] at ahead
  exact accepted_transmitted transmits.tracks low high range ahead

/-- The base moves over transmitted packets only. -/
theorem Transmits.advance {start' acked' sent' : Nat}
    (transmits : Transmits seed u start acked sent)
    (progress : Progress seed u event start acked sent start' acked' sent') (i : Nat)
    (inside : i <
      ((sockStep u event).core.snd.ourDataSeqBase - u.core.snd.ourDataSeqBase).toNat) :
    ∃ q, .sendto q ∈ u.core.log ∧ isNumbered q ∧
      q.seqNum = u.core.snd.ourDataSeqBase + UInt16.ofNat i := by
  have later := progress.ordered
  have near := transmits.tracks.near
  have ordered := transmits.tracks.ordered
  have reached : acked' ≤ sent := by
    rcases progress.acknowledged with same | ⟨reached, -⟩
    · omega
    · exact reached
  have moved : (((sockStep u event).core.snd.ourDataSeqBase -
      u.core.snd.ourDataSeqBase).toNat : Int) = acked' - acked := by
    rw [progress.tracks.baseAt, transmits.tracks.baseAt]
    exact toNat_place_sub seed (by omega) (by omega)
  obtain ⟨q, member, numbered, number⟩ := transmits.tracks.transmitted (acked + i) (by omega)
  refine ⟨q, mem_of_traffic _ member, numbered, ?_⟩
  rw [number, transmits.tracks.baseAt, ← place_natCast, place_place, Nat.cast_add]

/-- An ack that is not for transmitted packets changes nothing. -/
theorem Transmits.outside {p : UMPPacket} (transmits : Transmits seed u start acked sent)
    (low : 0 < seed.toNat) (high : seed.toNat ≤ 32768) (flag : uPacketGetFlag p UP_DATA_ACK)
    (beyond : ackOutside u.core.snd u.core.log p.ackNum) :
    (sockStep u (.dataPacket p)).core.snd = u.core.snd := by
  have ordered := transmits.tracks.ordered
  have near := transmits.tracks.near
  have few := transmits.tracks.repeated
  unfold ackOutside at beyond
  rw [← highestSent_traffic, transmits.tracks.highest] at beyond
  -- the base itself is inside the range, and so is every ack that is accepted
  have notBase : p.ackNum ≠ u.core.snd.ourDataSeqBase := by
    cases sent with
    | zero => exact beyond
    | succ sent =>
        intro same
        apply beyond
        rw [same, offset_self, place_add_one, transmits.tracks.offset_base (by omega) (by omega)]
        omega
  have unheeded : recounted u.core.snd p.ackNum = u.core.snd := by
    rcases recounted_cases u.core.snd p.ackNum with
      ⟨same, -⟩ | ⟨base, -⟩ | ⟨base | many, -⟩
    · exact same
    · exact absurd base notBase
    · exact absurd base notBase
    · omega
  obtain ⟨added, step, -⟩ := send_step u (.dataPacket p)
  generalize (sockStep u (.dataPacket p)).core.snd = snd' at step ⊢
  generalize (sockStep u (.dataPacket p)).core.handshake = k at step
  cases step with
  | idle event unheard => rfl
  | signal event q kind => cases kind
  | giveUp event noData parted => exact absurd rfl (noData p)
  | ack q heard snd added ackStep =>
      cases ackStep with
      | noAck now unflagged => exact absurd (flag.symm.trans unflagged) (by decide)
      | outside flag range => exact unheeded
      | old now flag range same =>
          rw [ackInRange_recounted, ackInRange_iff] at range
          rw [ackDiff_recounted] at same
          have base : offset u.core.snd.ourDataSeqBase p.ackNum = 0 := by omega
          exact absurd ((offset_eq_zero_iff _ _).mp base) notBase
      | new now time fastRetran cwnd rtoCpt flag range ahead grown =>
          rw [ackInRange_recounted] at range
          rw [ackDiff_recounted] at ahead
          obtain ⟨ackPosition, new, transmitted, number⟩ :=
            accepted_transmitted transmits.tracks low high range ahead
          cases sent with
          | zero => omega
          | succ sent =>
              refine absurd ?_ beyond
              rw [number, place_add_one, transmits.tracks.offset_base (by omega) (by omega),
                transmits.tracks.offset_base (by omega) (by omega)]
              omega

/-- The socket opens once, and its messages end only when they are complete. -/
def transmitsInOrder (u : UMPSocket Lists) (event : SockEvent) : Prop :=
  opensOnce u event ∧ endsMessages u event

instance : Decidable (transmitsInOrder u event) := by
  unfold transmitsInOrder
  infer_instance

theorem transmits_of_run {clock : Clock} {events : List SockEvent}
    (low : 0 < seed.toNat) (high : seed.toNat ≤ 32768)
    (run : (sockMachine Lists).RunWhere transmitsInOrder (umpSockNew Lists seed clock) events u) :
    ∃ start acked sent, Transmits seed u start acked sent := by
  let Holds (u : UMPSocket Lists) : Prop := ∃ start acked sent, Transmits seed u start acked sent
  have first : Holds (umpSockNew Lists seed clock) :=
    ⟨0, 0, 0, wellShaped_new seed clock, tracks_new seed clock _⟩
  refine run.invariant first ?_
  rintro u event ⟨start, acked, sent, transmits⟩ allowed ⟨once, complete⟩
  obtain ⟨start', acked', sent', progress⟩ := sockStep_progress allowed transmits.shaped
    transmits.tracks once (transmits.acksTransmitted low high) complete
  exact ⟨start', acked', sent', transmits.shaped.step allowed, progress.tracks⟩

/-- From an initial number behind which zero does not lie, only transmitted data can
be acknowledged. -/
theorem onlyTransmittedAcked_of_run {clock : Clock} {events : List SockEvent}
    (low : 0 < seed.toNat) (high : seed.toNat ≤ 32768)
    (run : (sockMachine Lists).RunWhere transmitsInOrder (umpSockNew Lists seed clock) events u)
    (allowed : sockEnabled u event) (inOrder : transmitsInOrder u event) :
    OnlyTransmittedAcked u event := by
  obtain ⟨start, acked, sent, transmits⟩ := transmits_of_run low high run
  obtain ⟨start', acked', sent', progress⟩ := sockStep_progress allowed transmits.shaped
    transmits.tracks inOrder.1 (transmits.acksTransmitted low high) inOrder.2
  refine ⟨transmits.advance progress, ?_, ?_⟩
  · intro added logged reported
    obtain ⟨new, grown, transmitted⟩ := progress.reported
    rw [logged, traffic, List.filter_append] at grown
    have same := List.append_cancel_right grown
    apply messageTransmitted_traffic
    apply (transmitted ?_).transmitted
    rw [← same]
    exact List.mem_filter.mpr ⟨reported, rfl⟩
  · rintro p rfl flag beyond
    exact transmits.outside low high flag beyond

end Runs

/-- The last ack of a run that sends one message is the one for its packet. -/
theorem onlyTransmittedAcked_oneMessage :
    OnlyTransmittedAcked ((sockMachine PlainLists).after
      (umpSockNew PlainLists 100 ⟨fun _ => ⟨0, 0⟩, 0⟩)
      (passiveOpen 7 100 ++ [.userSend [1], .handleSend, .sendData])) (.dataPacket (dataAck 101 50)) :=
  onlyTransmittedAcked_of_run (by decide) (by decide) (Machine.runWhere_of_check (by decide))
    (by decide) (by decide)

/-- A packet of a message goes on the wire. -/
def Action.transmits : Action → Bool
  | .sendto q => isNumbered q
  | _ => false

/-- Before anything was sent an ack for the next number is accepted. -/
theorem onlyTransmittedAcked_fails :
    ¬ ∀ (seq : UInt16) (clock : Clock) (events : List SockEvent) (u : UMPSocket PlainLists)
      (event : SockEvent),
      (sockMachine PlainLists).Run (umpSockNew PlainLists seq clock) events u →
        sockEnabled u event → OnlyTransmittedAcked u event := by
  intro always
  have run : (sockMachine PlainLists).Run (umpSockNew PlainLists 40000 ⟨fun _ => ⟨0, 0⟩, 0⟩)
      (passiveOpen 7 40000) _ := Machine.runWhere_of_check (by decide)
  have acked := always 40000 _ _ _ (.dataPacket (dataAck 40001 50)) run (by decide)
  obtain ⟨q, sent, numbered, -⟩ := acked.advance 0 (by decide)
  have plain : (((sockMachine PlainLists).after
      (umpSockNew PlainLists 40000 ⟨fun _ => ⟨0, 0⟩, 0⟩) (passiveOpen 7 40000)).core.log.all
      fun action => !action.transmits) = true := by decide
  have unnumbered : (!isNumbered q) = true := List.all_eq_true.mp plain _ sent
  rw [numbered] at unnumbered
  exact absurd unnumbered (by decide)

end UserMessageProtocol
