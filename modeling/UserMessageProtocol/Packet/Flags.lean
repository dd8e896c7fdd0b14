import UserMessageProtocol.Packet.RoundTrip

/-!
Contract: the flags of a packet under the accessors.

Owns: what `u_packet_get_flag` returns behind `u_packet_set_flag`,
`u_packet_clear_flag`, `u_packet_set_data` and `u_packet_to_binary`, and the
numbers a receiver sees.

Does not own: the bytes of a packet.
-/

set_option autoImplicit false

namespace UserMessageProtocol

variable (p : UMPPacket) (mask other : UInt8)

/-- The accessors look for both masks in one flag byte. -/
def sameByte (pType : UMPPacketType) (mask other : UInt8) : Bool :=
  pType == .data || inFirstByte mask == inFirstByte other

private theorem or_positive (byte : UInt8) :
    (byte ||| mask) &&& other > 0 ↔ byte &&& other > 0 ∨ mask &&& other > 0 := by
  simp only [or_and_mask, gt_iff_lt, UInt8.pos_iff_ne_zero, ne_eq, UInt8.or_eq_zero_iff]
  rw [not_and_or]

private theorem clear_self (byte : UInt8) : (byte &&& (mask ^^^ 255)) &&& mask = 0 := by
  rw [clear_and_mask, UInt8.and_self, UInt8.xor_self, UInt8.and_zero]

private theorem clear_disjoint (byte : UInt8) (disjoint : mask &&& other = 0) :
    (byte &&& (mask ^^^ 255)) &&& other = byte &&& other := by
  rw [clear_and_mask, disjoint, UInt8.xor_zero]

/-! ### Flags -/

theorem getFlag_setFlag : uPacketGetFlag (uPacketSetFlag p mask) other =
    (uPacketGetFlag p other || (sameByte p.pType mask other && decide (mask &&& other > 0))) := by
  unfold uPacketGetFlag uPacketSetFlag sameByte
  cases type : p.pType with
  | data => simp [or_positive]
  | control =>
      cases first : inFirstByte mask <;> cases second : inFirstByte other <;> simp [or_positive]

theorem getFlag_clearFlag_self : uPacketGetFlag (uPacketClearFlag p mask) mask = false := by
  unfold uPacketGetFlag uPacketClearFlag
  cases type : p.pType with
  | data => simp [clear_self]
  | control => cases first : inFirstByte mask <;> simp [clear_self]

theorem getFlag_clearFlag (disjoint : mask &&& other = 0) :
    uPacketGetFlag (uPacketClearFlag p mask) other = uPacketGetFlag p other := by
  unfold uPacketGetFlag uPacketClearFlag
  cases type : p.pType with
  | data => simp [clear_disjoint mask other _ disjoint]
  | control =>
      cases first : inFirstByte mask <;> cases second : inFirstByte other <;>
        simp [clear_disjoint mask other _ disjoint]

@[simp] theorem getFlag_toBinary :
    uPacketGetFlag (uPacketToBinary p) mask = uPacketGetFlag p mask := by
  unfold uPacketToBinary
  split <;> rfl

@[simp] theorem getFlag_setData (bytes : List UInt8) :
    uPacketGetFlag (uPacketSetData p bytes) mask = uPacketGetFlag p mask := by
  unfold uPacketSetData
  split <;> rfl

/-! ### Numbers and data -/

section Fields

variable (bytes : List UInt8)

@[simp] theorem setFlag_seqNum : (uPacketSetFlag p mask).seqNum = p.seqNum := by
  unfold uPacketSetFlag; repeat' split
  all_goals rfl

@[simp] theorem setFlag_ackNum : (uPacketSetFlag p mask).ackNum = p.ackNum := by
  unfold uPacketSetFlag; repeat' split
  all_goals rfl

@[simp] theorem setFlag_userData : (uPacketSetFlag p mask).userData = p.userData := by
  unfold uPacketSetFlag; repeat' split
  all_goals rfl

@[simp] theorem setFlag_rawData : (uPacketSetFlag p mask).rawData = p.rawData := by
  unfold uPacketSetFlag; repeat' split
  all_goals rfl

@[simp] theorem clearFlag_seqNum : (uPacketClearFlag p mask).seqNum = p.seqNum := by
  unfold uPacketClearFlag; repeat' split
  all_goals rfl

@[simp] theorem clearFlag_userData : (uPacketClearFlag p mask).userData = p.userData := by
  unfold uPacketClearFlag; repeat' split
  all_goals rfl

@[simp] theorem clearFlag_rawData : (uPacketClearFlag p mask).rawData = p.rawData := by
  unfold uPacketClearFlag; repeat' split
  all_goals rfl

@[simp] theorem toBinary_pType : (uPacketToBinary p).pType = p.pType := by
  unfold uPacketToBinary; split <;> rfl

@[simp] theorem toBinary_seqNum : (uPacketToBinary p).seqNum = p.seqNum := by
  unfold uPacketToBinary; split <;> rfl

@[simp] theorem toBinary_ackNum : (uPacketToBinary p).ackNum = p.ackNum := by
  unfold uPacketToBinary; split <;> rfl

@[simp] theorem toBinary_userData : (uPacketToBinary p).userData = p.userData := by
  unfold uPacketToBinary; split <;> rfl

@[simp] theorem setData_pType : (uPacketSetData p bytes).pType = p.pType := by
  unfold uPacketSetData; split <;> rfl

@[simp] theorem setData_rawData : (uPacketSetData p bytes).rawData = p.rawData := by
  unfold uPacketSetData; split <;> rfl

theorem Proper.toBinary {p : UMPPacket} (proper : Proper p) : Proper (uPacketToBinary p) := by
  unfold uPacketToBinary
  split
  · exact proper
  · exact proper

theorem Proper.setData {p : UMPPacket} (proper : Proper p) : Proper (uPacketSetData p bytes) := by
  unfold uPacketSetData
  split
  · exact proper
  · exact proper

/-- Accessors leave a packet to be encoded afresh. -/
theorem changed_setFlag : (uPacketSetFlag p mask).changed = true := by
  unfold uPacketSetFlag; repeat' split
  all_goals rfl

theorem changed_clearFlag : (uPacketClearFlag p mask).changed = true := by
  unfold uPacketClearFlag; repeat' split
  all_goals rfl

end Fields

/-! ### What arrives -/

/-- The bytes of a packet encode its fields. -/
def Encoded : Prop := Proper p ∧ p.rawData = some (freshEncoding p).1

/-- A packet whose cache is stale is encoded afresh. -/
theorem encoded_toBinary {p : UMPPacket} (proper : Proper (uPacketToBinary p))
    (changed : p.changed = true) : Encoded (uPacketToBinary p) := by
  refine ⟨proper, ?_⟩
  unfold uPacketToBinary
  split
  · rename_i cached
    exact absurd (changed.symm.trans cached.1) (by decide)
  · rfl

section Received

variable {p}

theorem receivedForm_ctrlSeq (control : p.pType = .control) (flag : uPacketGetFlag p UP_CTRL_SEQ) :
    (receivedForm p).seqNum = p.seqNum := by
  simp [receivedForm, numbers, control, maskNumber, flag]

theorem receivedForm_ctrlAck (control : p.pType = .control) (flag : uPacketGetFlag p UP_CTRL_ACK) :
    (receivedForm p).ackNum = p.ackNum := by
  simp [receivedForm, numbers, control, maskNumber, flag]

theorem receivedForm_dataSeq (data : p.pType = .data) (flag : uPacketGetFlag p UP_DATA_SEQ) :
    (receivedForm p).seqNum = p.seqNum := by
  simp [receivedForm, numbers, data, maskNumber, flag]

theorem receivedForm_dataAck (data : p.pType = .data) (flag : uPacketGetFlag p UP_DATA_ACK) :
    (receivedForm p).ackNum = p.ackNum := by
  simp [receivedForm, numbers, data, maskNumber, flag]

end Received

end UserMessageProtocol
