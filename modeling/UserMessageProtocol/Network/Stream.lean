import UserMessageProtocol.Network.Wire
import UserMessageProtocol.Receiver.Alignment
import UserMessageProtocol.Sender.Fragmentation
import UserMessageProtocol.Sender.Tracking

/-!
Contract: the stream of fragments that a sender puts on the wire.

Owns: how a step makes the stream grow (`StreamStep`), that it keeps one message behind
the start (`OneMessage`), and the position of every data packet that a step sends
(`sent_position`).

Does not own: what a receiver makes of the stream (`Receiver.Alignment`).
-/

set_option autoImplicit false

namespace UserMessageProtocol

open Serial

/-- The stream of fragments a socket numbered. -/
def Endpoint.stream {Lists : Type} (e : Endpoint Lists) : List Fragment :=
  streamOf (traffic e.socket.core.log)

/-! ### The last message of a stream -/

/-- A message behind a stream is its last one. -/
theorem oneMessage_append {stream : List Fragment} {packets : List UMPPacket} (seq : UInt16)
    (fresh : ∀ p ∈ packets, Fresh p) :
    OneMessage stream.length (stream ++ (preparePackets seq packets).map fragment) := by
  intro i f behind inside found
  rw [List.length_append, List.length_map, preparePackets_length] at inside
  rw [List.getElem?_append_right behind, List.getElem?_map] at found
  obtain ⟨p, here⟩ : ∃ p, packets[i - stream.length]? = some p :=
    ⟨_, List.getElem?_eq_getElem (by omega)⟩
  obtain ⟨q, there, numbered⟩ := preparePackets_numbered seq fresh here
  rw [there, Option.map_some, Option.some.injEq] at found
  rw [← found]
  apply (Bool.not_eq_true _).mp
  intro last
  have := numbered.last.mp last
  omega

theorem streamOf_append {added : List Action} (quiet : ∀ action ∈ added, Quiet action)
    (before : List Action) : streamOf (added ++ before) = streamOf before := by
  induction added with
  | nil => rfl
  | cons action rest inductionHypothesis =>
      rw [List.cons_append, streamOf_cons (quiet action List.mem_cons_self),
        inductionHypothesis fun other member => quiet other (List.mem_cons_of_mem _ member)]

section Steps

variable {Lists : Type} [ReceiveLists Lists] {u : UMPSocket Lists} {event : SockEvent}
  {seed : UInt16} {start acked sent : Nat}

/-- What a step does to the stream: nothing, or a message that was posted is numbered
behind it. -/
inductive StreamStep (u : UMPSocket Lists) (event : SockEvent) : Prop where
  | keep (same : streamOf (traffic (sockStep u event).core.log) = streamOf (traffic u.core.log))
  | start (packets : List UMPPacket) (unlocked : u.core.snd.sndLocked = .unlocked)
      (posted : u.core.snd.sndPackets = some packets) (open_ : ¬ u.core.handshake.Ended)
      (grown : streamOf (traffic (sockStep u event).core.log) = streamOf (traffic u.core.log) ++
        (preparePackets u.core.snd.ourDataStartSeq packets).map fragment)

theorem endingByAck_quiet {snd : SendSide} {ackSeq : UInt16} :
    ∀ action ∈ endingByAck snd ackSeq, Quiet action := by
  unfold endingByAck
  split
  · exact ending_quiet
  · simp

theorem AckStep.quiet {snd snd' : SendSide} {p : UMPPacket} {added : List Action}
    (step : AckStep snd p snd' added) : ∀ action ∈ added, Quiet action := by
  cases step with
  | noAck now flag => simp
  | outside flag range => simp
  | old now flag range same => simp
  | new now time fastRetran cwnd rtoCpt flag range ahead grown => exact endingByAck_quiet

theorem stream_step (shaped : WellShaped u) (event : SockEvent) : StreamStep u event := by
  obtain ⟨added, step, logged⟩ := send_step u event
  have still (quiet : ∀ action ∈ added, Quiet action) : StreamStep u event :=
    .keep (by rw [logged, streamOf_append quiet])
  generalize (sockStep u event).core.snd = snd' at step
  generalize (sockStep u event).core.handshake = k at step
  cases step with
  | idle | post | syn | rewind => exact still (by simp)
  | signal event p kind =>
      exact still (List.forall_mem_singleton.mpr (kind.quiet shaped.sound.typed))
  | probe asking => exact still (List.forall_mem_singleton.mpr (probe_quiet shaped.shape))
  | refuse => exact still (List.forall_mem_singleton.mpr trivial)
  | start packets unlocked posted some established noError =>
      exact .start packets unlocked posted (Handshake.not_ended established noError)
        (by rw [logged]; rfl)
  | giveUp | expired => exact still ending_quiet
  | transmit p locked window found =>
      exact .keep (by rw [logged]; rfl)
  | ack p heard snd added ackStep => exact still ackStep.quiet

/-- The stream only grows at its end. -/
theorem StreamStep.grows (step : StreamStep u event) :
    streamOf (traffic u.core.log) <+: streamOf (traffic (sockStep u event).core.log) := by
  cases step with
  | keep same => exact same ▸ List.prefix_refl _
  | start packets unlocked posted open_ grown =>
      rw [grown]
      exact List.prefix_append _ _

/-- Behind the start of a message there is still only one. -/
theorem StreamStep.oneMessage {start' acked' sent' : Nat} (step : StreamStep u event)
    (shaped : WellShaped u)
    (tracks : Tracks seed u.core.handshake.Ended u.core.snd (traffic u.core.log) start acked sent)
    (progress : Progress seed u event start acked sent start' acked' sent')
    (one : OneMessage start (streamOf (traffic u.core.log))) :
    OneMessage start' (streamOf (traffic (sockStep u event).core.log)) := by
  have later := progress.ordered.1
  cases step with
  | keep same =>
      rw [same]
      exact one.later later
  | start packets unlocked posted open_ grown =>
      obtain ⟨-, fresh⟩ := shaped.shape.posted unlocked packets posted
      obtain ⟨-, -, length⟩ := tracks.resting unlocked open_
      rw [grown]
      exact (oneMessage_append _ fresh).later (length ▸ later)

/-- The position of a data packet that a step sends. -/
theorem sent_position {start' acked' sent' : Nat} {p : UMPPacket} (shaped : WellShaped u)
    (tracks : Tracks seed u.core.handshake.Ended u.core.snd (traffic u.core.log) start acked sent)
    (progress : Progress seed u event start acked sent start' acked' sent')
    (member : p ∈ sentBy u event) (numbered : isNumbered p = true) :
    ∃ i, acked ≤ i ∧ i < sent' ∧ i ≤ sent ∧ p.seqNum = place seed i ∧
      (streamOf (traffic u.core.log))[i]? = some (fragment p) := by
  have before := progress.ordered.1
  have after := progress.tracks.sending
  obtain ⟨added, step, logged⟩ := send_step u event
  rw [sentBy_eq logged] at member
  generalize (sockStep u event).core.snd = snd' at step after
  generalize (sockStep u event).core.handshake = k at step
  have silent (quiet : added.filterMap Action.sent = []) : ∃ i, acked ≤ i ∧ i < sent' ∧ i ≤ sent ∧
      p.seqNum = place seed i ∧ (streamOf (traffic u.core.log))[i]? = some (fragment p) := by
    rw [quiet] at member
    exact absurd member List.not_mem_nil
  have plain {q : UMPPacket} (one : added = [.sendto q]) (quiet : Quiet (.sendto q)) :
      ∃ i, acked ≤ i ∧ i < sent' ∧ i ≤ sent ∧ p.seqNum = place seed i ∧
        (streamOf (traffic u.core.log))[i]? = some (fragment p) := by
    have same : p = q := by simpa [one, Action.sent] using member
    rw [same] at numbered
    exact absurd (numbered.symm.trans quiet) (by decide)
  cases step with
  | idle | post | syn | rewind | refuse | start => exact silent rfl
  | signal event q kind => exact plain rfl (kind.quiet shaped.sound.typed)
  | probe asking => exact plain rfl (probe_quiet shaped.shape)
  | giveUp | expired => exact silent (ending_silent _ false)
  | transmit q locked window found =>
      have same : p = outgoingPacket u.core.ackInfo q := by simpa [Action.sent] using member
      obtain ⟨packets, i, sending, here, -, inSequence, stream⟩ := tracks.next shaped.shape locked found
      have notBehind := sending.notBehind
      have notAhead := sending.notAhead
      rw [here] at notBehind notAhead
      rw [afterTransmit_eq, here] at after
      obtain ⟨packets', sending'⟩ := after locked
      have passed : (start' : Int) + (i + 1) ≤ sent' := sending'.notAhead
      refine ⟨start + i, by omega, by omega, by omega, ?_, ?_⟩
      · rw [same, outgoingPacket_seqNum, inSequence.seqNum, Nat.cast_add]
      · rw [same, outgoingPacket_fragment _ _ inSequence.pType]
        exact stream
  | ack q heard snd added ackStep => exact silent ackStep.silent

end Steps

end UserMessageProtocol
