import UserMessageProtocol.Sender.Fragmentation
import UserMessageProtocol.Sender.Tracking

/-!
Contract: messages of few packets end only when they are complete.

Owns: what a step does to `snd_packets_count` (`sockStep_count`), messages that are all short
(`postsShort`), and that the acks of what was transmitted do not end a message of at most
32768 packets early (`Tracks.endsComplete`).

Does not own: why acks are for transmitted packets.
-/

set_option autoImplicit false

namespace UserMessageProtocol

open Serial

/-! ### The number of packets -/

theorem sndPacketsCount_endedSend (snd : SendSide) (ok : Bool) :
    (endedSend snd ok).sndPacketsCount = snd.sndPacketsCount ∨
      (endedSend snd ok).sndPacketsCount = 0 := by
  unfold endedSend
  cases snd.sndLocked with
  | unlocked => exact .inl rfl
  | locked => exact .inr rfl

theorem AckStep.count {snd snd' : SendSide} {p : UMPPacket} {added : List Action}
    (step : AckStep snd p snd' added) :
    snd'.sndPacketsCount = snd.sndPacketsCount ∨ snd'.sndPacketsCount = 0 := by
  have kept {other : SendSide} (same : other.message = snd.message) :
      other.sndPacketsCount = snd.sndPacketsCount := congrArg MessagePart.sndPacketsCount same
  cases step with
  | noAck now flag => exact .inl (kept (notified_message ..))
  | outside flag range => exact .inl (kept (recounted_message ..))
  | old now flag range same =>
      exact .inl (kept ((notified_message ..).trans (recounted_message ..)))
  | new now time fastRetran cwnd rtoCpt flag range ahead grown =>
      have same := kept ((settled_message (acknowledgedBy snd p now) p.ackNum fastRetran cwnd time
        rtoCpt).trans (acknowledgedBy_message ..))
      unfold endedByAck
      split
      · rcases sndPacketsCount_endedSend (settled (acknowledgedBy snd p now) p.ackNum fastRetran
          cwnd time rtoCpt) true with ended | none
        · exact .inl (ended.trans same)
        · exact .inr none
      · exact .inl same

section Steps

variable {Lists : Type} [ReceiveLists Lists] {u : UMPSocket Lists} {event : SockEvent}

/-- Only a message that is passed makes the number of packets grow. -/
theorem sockStep_count (unposted : ∀ data, event ≠ .userSend data) :
    (sockStep u event).core.snd.sndPacketsCount = u.core.snd.sndPacketsCount ∨
      (sockStep u event).core.snd.sndPacketsCount = 0 := by
  obtain ⟨added, step, -⟩ := send_step u event
  generalize (sockStep u event).core.snd = snd' at step ⊢
  generalize (sockStep u event).core.handshake = k at step
  cases step with
  | idle | signal | probe | start | syn => exact .inl rfl
  | post data => exact absurd rfl (unposted data)
  | refuse => exact .inr rfl
  | giveUp | expired => exact sndPacketsCount_endedSend _ false
  | transmit p locked window found => exact .inl (by rw [afterTransmit_eq])
  | rewind =>
      left
      exact congrArg MessagePart.sndPacketsCount (rewindAfterTimeout_message _)
  | ack p heard snd added ackStep => exact ackStep.count

/-- No message that is passed has more than `limit` packets. -/
def postsShort (limit : Nat) (u : UMPSocket Lists) : SockEvent → Prop
  | .userSend data => pktsCount u.core.snd.ourMss.toNat data.length ≤ limit
  | _ => True

theorem sockStep_short {limit : Nat} (short : u.core.snd.sndPacketsCount ≤ limit)
    (posts : postsShort limit u event) : (sockStep u event).core.snd.sndPacketsCount ≤ limit := by
  by_cases passes : ∃ data, event = .userSend data
  · obtain ⟨data, rfl⟩ := passes
    exact Int.ofNat_le.mpr posts
  · rcases sockStep_count (u := u) fun data same => passes ⟨data, same⟩ with same | none
    · rw [same]
      exact short
    · rw [none]
      exact Int.natCast_nonneg limit

end Steps

/-! ### Complete messages -/

/-- An ack of what was transmitted leaves fewer packets than half a turn of a short message,
or none. -/
theorem Tracks.endsComplete {seed : UInt16} {gone : Prop} {snd : SendSide} {traffic : List Action}
    {start acked sent ackPosition : Nat} {p : UMPPacket}
    (tracks : Tracks seed gone snd traffic start acked sent) (locked : snd.sndLocked = .locked)
    (short : snd.sndPacketsCount ≤ 32768) (count : ∀ packets, snd.sndPackets = some packets →
      snd.sndPacketsCount = packets.length)
    (between : acked < ackPosition ∧ ackPosition ≤ sent)
    (number : p.ackNum = place seed ackPosition) :
    snd.sndPacketsCount - umpSeqToRelativeViaSndstartseq snd p.ackNum = 0 ∨
      (snd.sndPacketsCount - umpSeqToRelativeViaSndstartseq snd p.ackNum - 1) % 65536 < 32768 := by
  obtain ⟨packets, sending⟩ := tracks.sending locked
  have length := count packets sending.held
  have ordered := tracks.ordered
  have near := tracks.near
  have inside := sending.inside
  have relative : umpSeqToRelativeViaSndstartseq snd p.ackNum = ackPosition - start := by
    rw [umpSeqToRelativeViaSndstartseq_eq, tracks.startAt, number]
    exact offset_near seed (by omega) (by omega)
  rw [relative, length]
  omega

/-- Acks of what was transmitted end short messages only when they are complete. -/
theorem endsMessages_of_short {Lists : Type} {u : UMPSocket Lists} {event : SockEvent}
    {seed : UInt16} {start acked sent : Nat} (shaped : WellShaped u)
    (tracks : Tracks seed u.core.handshake.Ended u.core.snd (traffic u.core.log) start acked sent)
    (transmitted : AcksTransmitted seed acked sent u event)
    (short : u.core.snd.sndPacketsCount ≤ 32768) : endsMessages u event := by
  cases event with
  | dataPacket p =>
      intro heard locked flag range ahead
      obtain ⟨ackPosition, new, reached, number⟩ := transmitted p rfl heard flag range ahead
      refine tracks.endsComplete locked short ?_ ⟨new, reached⟩ number
      intro packets held
      obtain ⟨parts, holds⟩ := shaped.shape.message locked
      obtain rfl := Option.some.inj (holds.held.symm.trans held)
      exact holds.count
  | _ => trivial

end UserMessageProtocol
