import UserMessageProtocol.Foundation.Serial
import UserMessageProtocol.Packet.Flags
import UserMessageProtocol.Socket.Connection

/-!
Contract: control packets as they go on the wire.

Owns: what a receiver reads in the pending packet (`pendingOnWire`) and in a lone ack
(`ctrlAckAlone`), and the numbers and flags of the SYNs and FINs of a socket in the
order they are queued (`Ordinal`, `Waiting`).

Does not own: when they are queued and sent.
-/

set_option autoImplicit false

namespace UserMessageProtocol

open Serial

/-! ### Control packets -/

section Control

variable (ackInfo : UMPAckInfo) {q : UMPPacket}

theorem pendingOnWire_pType (control : q.pType = .control) : (pendingOnWire ackInfo q).pType = .control := by
  unfold pendingOnWire
  rw [toBinary_pType]
  split <;> simp [control]

/-- Only the flag of the ack changes on the way. -/
theorem pendingOnWire_getFlag (mask : UInt8) (disjoint : UP_CTRL_ACK &&& mask = 0) :
    uPacketGetFlag (pendingOnWire ackInfo q) mask = uPacketGetFlag q mask := by
  unfold pendingOnWire
  rw [getFlag_toBinary]
  split
  · have flag := getFlag_setFlag q UP_CTRL_ACK mask
    rw [disjoint] at flag
    exact flag.trans (by simp)
  · exact getFlag_clearFlag q _ _ disjoint

theorem pendingOnWire_ack (flag : uPacketGetFlag (pendingOnWire ackInfo q) UP_CTRL_ACK) :
    ackInfo.ctrlAckSet = true ∧ (pendingOnWire ackInfo q).ackNum = ackInfo.ctrlAckData := by
  unfold pendingOnWire at flag ⊢
  rw [getFlag_toBinary] at flag
  rw [toBinary_ackNum]
  split
  · rename_i due
    exact ⟨due, rfl⟩
  · rename_i clear
    rw [if_neg clear, getFlag_clearFlag_self] at flag
    exact absurd flag (by decide)

theorem pendingOnWire_seqNum : (pendingOnWire ackInfo q).seqNum = q.seqNum := by
  unfold pendingOnWire
  rw [toBinary_seqNum]
  split <;> simp

theorem pendingOnWire_encoded (control : q.pType = .control) (proper : Proper q) :
    Encoded (pendingOnWire ackInfo q) := by
  unfold pendingOnWire
  refine encoded_toBinary (Proper.toBinary ?_) ?_
  · split
    · have flagged : Proper (uPacketSetFlag q UP_CTRL_ACK) :=
        proper.setFlag (by rw [control]; decide)
      exact flagged
    · exact proper.clearFlag (by rw [control]; decide)
  · split
    · exact changed_setFlag q UP_CTRL_ACK
    · exact changed_clearFlag q UP_CTRL_ACK

end Control

section Alone

variable (ackInfo : UMPAckInfo)

theorem ctrlAckAlone_pType : (ctrlAckAlone ackInfo).pType = .control := by
  unfold ctrlAckAlone
  rw [toBinary_pType]
  rfl

theorem ctrlAckAlone_getFlag (mask : UInt8) (disjoint : UP_CTRL_ACK &&& mask = 0)
    (bare : uPacketGetFlag (uPacketNew .control .outgoing) mask = false) :
    uPacketGetFlag (ctrlAckAlone ackInfo) mask = false := by
  have flag := getFlag_setFlag (uPacketNew .control .outgoing) UP_CTRL_ACK mask
  rw [disjoint, bare] at flag
  unfold ctrlAckAlone
  rw [getFlag_toBinary]
  exact flag.trans (by simp)

theorem ctrlAckAlone_ackNum : (ctrlAckAlone ackInfo).ackNum = ackInfo.ctrlAckData := by
  unfold ctrlAckAlone
  rw [toBinary_ackNum]

theorem ctrlAckAlone_encoded : Encoded (ctrlAckAlone ackInfo) := by
  have flagged : Proper (uPacketSetFlag (uPacketNew .control .outgoing) UP_CTRL_ACK) :=
    (proper_uPacketNew _ _).setFlag (by decide)
  have acked : Proper { uPacketSetFlag (uPacketNew .control .outgoing) UP_CTRL_ACK with
      ackNum := ackInfo.ctrlAckData } := flagged
  exact encoded_toBinary acked.toBinary (changed_setFlag _ _)

end Alone

/-! ### The numbers of SYNs and FINs -/

/-- A packet with the number and flags of the SYN or FIN that was queued behind
`index` others: SYNs and FINs take turns. -/
structure Ordinal (seed : UInt16) (index : Nat) (p : UMPPacket) : Prop where
  numbered : uPacketGetFlag p UP_CTRL_SEQ = true
  seqNum : p.seqNum = place seed index
  syn : uPacketGetFlag p UP_CTRL_SYN = decide (index % 2 = 0)
  fin : uPacketGetFlag p UP_CTRL_FIN = decide (index % 2 = 1)

/-- Another packet with the same number and flags. -/
theorem Ordinal.congr {seed : UInt16} {index : Nat} {p q : UMPPacket} (ordinal : Ordinal seed index p)
    (seqNum : q.seqNum = p.seqNum)
    (flags : ∀ mask, UP_CTRL_ACK &&& mask = 0 → uPacketGetFlag q mask = uPacketGetFlag p mask) :
    Ordinal seed index q where
  numbered := (flags _ (by decide)).trans ordinal.numbered
  seqNum := seqNum.trans ordinal.seqNum
  syn := (flags _ (by decide)).trans ordinal.syn
  fin := (flags _ (by decide)).trans ordinal.fin

/-- The packet that waits is a proper one. -/
structure Waiting (seed : UInt16) (index : Nat) (p : UMPPacket) : Prop where
  control : p.pType = .control
  proper : Proper p
  ordinal : Ordinal seed index p

theorem synPacket_proper (seq ourMss : UInt16) : Proper (synPacket seq ourMss) :=
  (by decide : Proper (synPacket 0 0))

theorem finPacket_proper (seq : UInt16) : Proper (finPacket seq) := (by decide : Proper (finPacket 0))

theorem waiting_synPacket {seed : UInt16} {index : Nat} (ourMss : UInt16)
    (even : index % 2 = 0) : Waiting seed index (synPacket (place seed index) ourMss) where
  control := rfl
  proper := synPacket_proper _ ourMss
  ordinal :=
    { numbered := (by decide : uPacketGetFlag (synPacket 0 0) UP_CTRL_SEQ = true)
      seqNum := rfl
      syn := by
        rw [even]
        exact (by decide : uPacketGetFlag (synPacket 0 0) UP_CTRL_SYN = true)
      fin := by
        rw [even]
        exact (by decide : uPacketGetFlag (synPacket 0 0) UP_CTRL_FIN = false) }

theorem waiting_finPacket {seed : UInt16} {index : Nat} (odd : index % 2 = 1) :
    Waiting seed index (finPacket (place seed index)) where
  control := rfl
  proper := finPacket_proper _
  ordinal :=
    { numbered := (by decide : uPacketGetFlag (finPacket 0) UP_CTRL_SEQ = true)
      seqNum := rfl
      syn := by
        rw [odd]
        exact (by decide : uPacketGetFlag (finPacket 0) UP_CTRL_SYN = false)
      fin := by
        rw [odd]
        exact (by decide : uPacketGetFlag (finPacket 0) UP_CTRL_FIN = true) }

theorem Waiting.onWire {seed : UInt16} {index : Nat} {p : UMPPacket} (waiting : Waiting seed index p)
    (ackInfo : UMPAckInfo) : Waiting seed index (pendingOnWire ackInfo p) where
  control := pendingOnWire_pType ackInfo waiting.control
  proper := (pendingOnWire_encoded ackInfo waiting.control waiting.proper).1
  ordinal := waiting.ordinal.congr (pendingOnWire_seqNum ackInfo) (pendingOnWire_getFlag ackInfo)

end UserMessageProtocol
