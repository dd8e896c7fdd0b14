import UserMessageProtocol.Connection.Numbers
import UserMessageProtocol.Network.Wire
import UserMessageProtocol.Sender.Transmission

/-!
Contract: cached bytes of packets are never stale.

Owns: the packets a socket holds (`HoldsPacket`), the property of a socket
(`CachesFresh`), and that every step keeps it: each path that puts a held packet on the
wire sets or clears a flag before it encodes, so numbers written in between are encoded.

Does not own: the encoding (`Packet.Codec`).
-/

set_option autoImplicit false

namespace UserMessageProtocol

/-- The packets a socket holds: those of its message, its SYN or FIN, and its probe. -/
inductive HoldsPacket (s : SocketCore) : UMPPacket → Prop where
  | message {packets : List UMPPacket} {p : UMPPacket} (held : s.snd.sndPackets = some packets)
      (member : p ∈ packets) : HoldsPacket s p
  | control {p : UMPPacket} (held : s.ctrl.ctrlPacketToSend = some p) : HoldsPacket s p
  | probe {p : UMPPacket} (held : s.snd.upReqWnd = some p) : HoldsPacket s p

/-- Everything that was sent went out as the bytes of its fields, and no packet that is held
has other bytes in a cache that is used. -/
structure CachesFresh (s : SocketCore) : Prop where
  sent : ∀ p, .sendto p ∈ s.log → p.rawData = some (freshEncoding p).1
  held : ∀ p, HoldsPacket s p → Coherent p

/-! ### Encoding -/

section Encoding

variable {p : UMPPacket}

theorem coherent_of_changed (changed : p.changed = true) : Coherent p := .inl changed

/-- What was encoded has its own bytes. -/
theorem toBinary_fresh (coherent : Coherent p) :
    (uPacketToBinary p).rawData = some (freshEncoding (uPacketToBinary p)).1 := by
  unfold uPacketToBinary
  split
  · rename_i cached
    rcases coherent with changed | none | fresh
    · exact absurd (changed.symm.trans cached.1) (by decide)
    · exact absurd none cached.2
    · exact fresh
  · rfl

theorem coherent_toBinary (coherent : Coherent p) : Coherent (uPacketToBinary p) :=
  .inr (.inr (toBinary_fresh coherent))

theorem coherent_outgoingPacket (ackInfo : UMPAckInfo) : Coherent (outgoingPacket ackInfo p) := by
  apply coherent_toBinary
  apply coherent_of_changed
  split
  · exact changed_setFlag _ _
  · exact changed_clearFlag _ _

theorem coherent_pendingOnWire (ackInfo : UMPAckInfo) : Coherent (pendingOnWire ackInfo p) := by
  apply coherent_toBinary
  apply coherent_of_changed
  split
  · exact changed_setFlag _ _
  · exact changed_clearFlag _ _

theorem coherent_probePacket : Coherent probePacket :=
  coherent_toBinary (coherent_of_changed (changed_setFlag _ _))

theorem coherent_messagePackets (ourMss : UInt16) (data : List UInt8) :
    ∀ p ∈ messagePackets ourMss data, Coherent p := by
  intro p member
  obtain ⟨bytes, -, rfl⟩ := List.mem_map.mp member
  exact coherent_of_changed rfl

/-- A number is written behind the flag. -/
theorem changed_numberPackets (seq : UInt16) (packets : List UMPPacket) :
    ∀ p ∈ numberPackets seq packets, p.changed = true := by
  induction packets generalizing seq with
  | nil => simp [numberPackets]
  | cons first rest inductionHypothesis =>
      intro p member
      rcases List.mem_cons.mp member with here | behind
      · rw [here]
        exact changed_setFlag _ _
      · exact inductionHypothesis (seq + 1) p behind

theorem changed_markLast {packets : List UMPPacket} (changed : ∀ p ∈ packets, p.changed = true) :
    ∀ p ∈ markLast packets, p.changed = true := by
  induction packets using markLast.induct with
  | case1 => exact changed
  | case2 last =>
      intro p member
      rw [markLast, List.mem_singleton] at member
      rw [member]
      exact changed_setFlag _ _
  | case3 p q rest inductionHypothesis =>
      intro r member
      rcases List.mem_cons.mp member with here | behind
      · rw [here]
        exact changed p List.mem_cons_self
      · exact inductionHypothesis (fun r member => changed r (List.mem_cons_of_mem _ member)) r
          behind

theorem coherent_preparePackets (seq : UInt16) (packets : List UMPPacket) :
    ∀ p ∈ preparePackets seq packets, Coherent p := fun p member =>
  coherent_of_changed (changed_markLast (changed_numberPackets seq packets) p member)

end Encoding

/-! ### The message -/

/-- The packets of a message can be encoded. -/
def MessagePart.Coherent (m : MessagePart) : Prop :=
  ∀ packets, m.sndPackets = some packets → ∀ p ∈ packets, UserMessageProtocol.Coherent p

section Message

variable {snd : SendSide} {p : UMPPacket}

theorem coherent_none {m : MessagePart} (none : m.sndPackets = none) : m.Coherent := by
  intro packets held
  rw [none] at held
  cases held

theorem endedSend_coherent (coherent : snd.message.Coherent) (ok : Bool) :
    (endedSend snd ok).message.Coherent := by
  unfold endedSend
  split
  · exact coherent
  · exact coherent_none rfl

theorem AckStep.coherent {snd' : SendSide} {added : List Action}
    (step : AckStep snd p snd' added) (coherent : snd.message.Coherent) :
    snd'.message.Coherent := by
  cases step with
  | noAck now flag => simpa using coherent
  | outside flag range => simpa using coherent
  | old now flag range same => simpa using coherent
  | new now time fastRetran cwnd rtoCpt flag range ahead grown =>
      have kept : (settled (acknowledgedBy snd p now) p.ackNum fastRetran cwnd time
          rtoCpt).message.Coherent := by
        rw [settled_message, acknowledgedBy_message]
        exact coherent
      unfold endedByAck
      split
      · exact endedSend_coherent kept true
      · exact kept

theorem afterTransmit_coherent (coherent : snd.message.Coherent) (ackInfo : UMPAckInfo)
    (now : GTimeVal) :
    (afterTransmit snd (outgoingPacket ackInfo p) now).message.Coherent := by
  intro packets held q member
  have set : snd.sndPackets.map (·.set snd.ourDataPos.toNat (outgoingPacket ackInfo p)) =
      some packets := by
    rw [← held]
    unfold afterTransmit umpRefreshDataSent
    dsimp only
    split <;> rfl
  obtain ⟨before, was, rfl⟩ := Option.map_eq_some_iff.mp set
  rcases List.mem_or_eq_of_mem_set member with old | new
  · exact coherent before was q old
  · rw [new]
    exact coherent_outgoingPacket ackInfo

end Message

/-! ### Steps -/

section Steps

variable {Lists : Type} [ReceiveLists Lists] {u : UMPSocket Lists} {event : SockEvent}

theorem sockStep_messageCoherent (coherent : u.core.snd.message.Coherent) :
    (sockStep u event).core.snd.message.Coherent := by
  obtain ⟨added, step, -⟩ := send_step u event
  generalize (sockStep u event).core.snd = snd' at step
  generalize (sockStep u event).core.handshake = k at step
  cases step with
  | idle event unheard untaken => exact coherent
  | signal event p kind => exact coherent
  | probe asking => exact coherent
  | post data =>
      intro packets held
      obtain rfl : messagePackets u.core.snd.ourMss data = packets := Option.some.inj held
      exact coherent_messagePackets _ _
  | refuse packets unlocked posted => exact coherent_none rfl
  | start packets unlocked posted some established noError =>
      intro prepared held
      obtain rfl : preparePackets u.core.snd.ourDataStartSeq packets = prepared :=
        Option.some.inj held
      exact coherent_preparePackets _ _
  | giveUp event noData parted untaken => exact endedSend_coherent coherent false
  | syn p taken => exact coherent
  | transmit p locked window found => exact afterTransmit_coherent coherent _ _
  | expired parted =>
      have emptied : ({ u.core.snd with tmList := [] } : SendSide).message.Coherent := coherent
      exact endedSend_coherent emptied false
  | rewind => rwa [rewindAfterTimeout_message]
  | ack p heard snd added ackStep => exact ackStep.coherent coherent

/-- A pending packet that is left alone or put on the wire can be encoded, and so can a new SYN
or FIN. -/
theorem OwnMove.coherent {own own' : OwnSide} (move : OwnMove event own own')
    (coherent : ∀ p, own.ctrlPacketToSend = some p → Coherent p) :
    ∀ p, own'.ctrlPacketToSend = some p → Coherent p := by
  have leave {pending : Option UMPPacket} (left : Leaves own.ctrlPacketToSend pending) :
      ∀ p, pending = some p → Coherent p := by
    rintro p rfl
    rcases left with same | gone | ⟨q, ackInfo, -, sent⟩
    · exact coherent p same.symm
    · cases gone
    · rw [Option.some.inj sent]
      exact coherent_pendingOnWire ackInfo
  cases move with
  | keep pending left => exact leave left
  | heard p packet ack connecting pending left state reached => exact leave left
  | opened connecting acked => exact coherent
  | syn closed noError ourMss =>
      intro p queued
      rw [← Option.some.inj queued]
      exact coherent_of_changed rfl
  | fin established noError =>
      intro p queued
      rw [← Option.some.inj queued]
      exact coherent_of_changed rfl
  | finish closing pending left => exact leave left
  | fail pending left => exact leave left

/-- The property with what its step lemma needs. -/
structure Caching (seed : UInt16) (u : UMPSocket Lists) : Prop where
  shaped : WellShaped u
  counted : Counted seed u.core.handshake.own
  fresh : CachesFresh u.core

theorem caching_new (seed : UInt16) (clock : Clock) : Caching seed (umpSockNew Lists seed clock) where
  shaped := wellShaped_new seed clock
  counted := counted_new seed clock
  fresh :=
    { sent := by simp [umpSockNew, umpSockNewCore]
      held := by
        intro p holds
        cases holds with
        | message held member => cases held
        | control held => cases held
        | probe held => cases held }

variable {seed : UInt16}

theorem Caching.step (caching : Caching seed u) (allowed : sockEnabled u event) :
    Caching seed (sockStep u event) := by
  have shape := caching.shaped.shape
  have shaped := caching.shaped.step allowed
  obtain ⟨own, -⟩ := sides_step allowed caching.shaped.sound
  refine ⟨shaped, caching.counted.move own, ?_, ?_⟩
  · intro p member
    obtain ⟨added, step, logged⟩ := send_step u event
    have kept : .sendto p ∈ traffic (sockStep u event).core.log := List.mem_filter.mpr ⟨member, rfl⟩
    rw [logged] at kept
    rcases List.mem_append.mp kept with new | old
    · have sent : p ∈ sentBy u event := by
        rw [sentBy_eq logged]
        exact List.mem_filterMap.mpr ⟨_, new, rfl⟩
      exact ((sent_of_sentBy caching.shaped sent).encoded shape caching.counted.waiting).2
    · exact caching.fresh.sent p (mem_of_traffic _ old)
  · intro p holds
    cases holds with
    | message held member =>
        have before : u.core.snd.message.Coherent := fun packets held p member =>
          caching.fresh.held p (.message held member)
        exact sockStep_messageCoherent before _ held p member
    | control held =>
        exact own.coherent (fun p held => caching.fresh.held p (.control held)) p held
    | probe held =>
        rcases shaped.shape.probe with none | some
        · exact absurd (held.symm.trans none) (by simp)
        · obtain rfl : p = probePacket := Option.some.inj (held.symm.trans some)
          exact coherent_probePacket

/-- In every run every packet was sent with the bytes of its fields, and no cache is stale. -/
theorem cachesFresh_of_run {clock : Clock} {events : List SockEvent}
    (run : (sockMachine Lists).Run (umpSockNew Lists seed clock) events u) : CachesFresh u.core := by
  let Holds (u : UMPSocket Lists) : Prop := Caching seed u
  have all : Holds u := run.invariant (caching_new seed clock)
    fun _ _ caching allowed _ => Caching.step caching allowed
  exact all.fresh

end Steps

/-- The theorem holds of a run that sends a message, its packet twice. -/
theorem cachesFresh_retransmission :
    CachesFresh ((sockMachine PlainLists).after (umpSockNew PlainLists 100 ⟨fun n => ⟨100 * n, 0⟩, 0⟩)
      (passiveOpen 7 100 ++
        [.userSend [1], .handleSend, .sendData, .dataTimeout, .refreshAck, .sendData])).core :=
  cachesFresh_of_run (Machine.runWhere_of_check (by decide +kernel))

end UserMessageProtocol
