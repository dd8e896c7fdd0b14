import UserMessageProtocol.Packet.Acceptance

/-!
Contract: what a receiver decodes from the bytes a sender passes on.

Owns: the packets whose flag bytes announce their own type (`Proper`) and whose
cached bytes are current (`Coherent`), their preservation by the accessors, the
packet a receiver decodes (`receivedForm`), and the round trip through
`u_packet_to_binary` and `u_packet_from_binary`.

Does not own: the format itself (`Packet.Acceptance`).
-/

set_option autoImplicit false

namespace UserMessageProtocol

/-! ### Packets that can be sent -/

/-- The flag byte that carries version and type. -/
def typeByte (p : UMPPacket) : UInt8 :=
  match p.pType with
  | .control => p.ctrlFlags1
  | .data => p.dataFlags

/-- The version and type bits are those `u_packet_new` sets for the packet's type. -/
def Proper (p : UMPPacket) : Prop :=
  typeByte p &&& UP_VER = UMP_VER ∧ (typeByte p &&& UP_TYPE = 0 ↔ p.pType = .control)

instance (p : UMPPacket) : Decidable (Proper p) := by
  unfold Proper
  infer_instance

/-- The cached bytes, if the cache will be used, encode the packet's fields. -/
def Coherent (p : UMPPacket) : Prop :=
  p.changed = true ∨ p.rawData = none ∨ p.rawData = some (freshEncoding p).1

/-- A mask an accessor may be given on a packet of this type: it touches neither
version nor type. -/
def PlainMask (pType : UMPPacketType) (mask : UInt8) : Bool :=
  (pType == .control && !inFirstByte mask) || mask &&& (UP_VER ||| UP_TYPE) == 0

theorem proper_uPacketNew (pType : UMPPacketType) (direction : UMPPacketDirection) :
    Proper (uPacketNew pType direction) := by
  cases pType <;> simp [Proper, typeByte, uPacketNew] <;> decide

/-! ### Accessors -/

theorem or_and_mask (byte mask part : UInt8) :
    (byte ||| mask) &&& part = (byte &&& part) ||| (mask &&& part) := by
  simp only [← UInt8.toBitVec_inj, UInt8.toBitVec_and, UInt8.toBitVec_or]
  ext i
  simp [Bool.and_or_distrib_right]

theorem clear_and_mask (byte mask part : UInt8) :
    (byte &&& (mask ^^^ 255)) &&& part = byte &&& (part ^^^ (mask &&& part)) := by
  have ones : (255 : UInt8).toBitVec = BitVec.allOnes 8 := rfl
  simp only [← UInt8.toBitVec_inj, UInt8.toBitVec_and, UInt8.toBitVec_xor, ones]
  ext i inside
  simp only [BitVec.getElem_and, BitVec.getElem_xor, BitVec.getElem_allOnes]
  cases byte.toBitVec[i] <;> cases mask.toBitVec[i] <;> cases part.toBitVec[i] <;> rfl

private theorem or_and_of_disjoint (byte mask part : UInt8)
    (disjoint : mask &&& part = 0) : (byte ||| mask) &&& part = byte &&& part := by
  rw [or_and_mask, disjoint, UInt8.or_zero]

private theorem clear_and_of_disjoint (byte mask part : UInt8)
    (disjoint : mask &&& part = 0) : (byte &&& (mask ^^^ 255)) &&& part = byte &&& part := by
  rw [clear_and_mask, disjoint, UInt8.xor_zero]

private theorem plain_disjoint {mask : UInt8} (plain : mask &&& (UP_VER ||| UP_TYPE) = 0)
    (part : UInt8) (below : (UP_VER ||| UP_TYPE) &&& part = part) : mask &&& part = 0 := by
  rw [← below, ← UInt8.and_assoc, plain, UInt8.zero_and]

@[simp] theorem uPacketSetFlag_pType (p : UMPPacket) (mask : UInt8) :
    (uPacketSetFlag p mask).pType = p.pType := by
  unfold uPacketSetFlag
  split <;> (try split) <;> simp_all

@[simp] theorem uPacketClearFlag_pType (p : UMPPacket) (mask : UInt8) :
    (uPacketClearFlag p mask).pType = p.pType := by
  unfold uPacketClearFlag
  split <;> (try split) <;> simp_all

/-- A plain mask leaves the version and type bits alone. -/
theorem typeByte_setFlag (p : UMPPacket) {mask part : UInt8} (plain : PlainMask p.pType mask)
    (below : (UP_VER ||| UP_TYPE) &&& part = part) :
    typeByte (uPacketSetFlag p mask) &&& part = typeByte p &&& part := by
  unfold PlainMask at plain
  cases type : p.pType with
  | control =>
      cases first : inFirstByte mask with
      | true =>
          have disjoint : mask &&& part = 0 :=
            plain_disjoint (by simpa [type, first] using plain) part below
          simp [typeByte, uPacketSetFlag, type, first, or_and_of_disjoint _ _ _ disjoint]
      | false => simp [typeByte, uPacketSetFlag, type, first]
  | data =>
      have disjoint : mask &&& part = 0 :=
            plain_disjoint (by simpa [type] using plain) part below
      simp [typeByte, uPacketSetFlag, type, or_and_of_disjoint _ _ _ disjoint]

theorem typeByte_clearFlag (p : UMPPacket) {mask part : UInt8} (plain : PlainMask p.pType mask)
    (below : (UP_VER ||| UP_TYPE) &&& part = part) :
    typeByte (uPacketClearFlag p mask) &&& part = typeByte p &&& part := by
  unfold PlainMask at plain
  cases type : p.pType with
  | control =>
      cases first : inFirstByte mask with
      | true =>
          have disjoint : mask &&& part = 0 :=
            plain_disjoint (by simpa [type, first] using plain) part below
          simp [typeByte, uPacketClearFlag, type, first, clear_and_of_disjoint _ _ _ disjoint]
      | false => simp [typeByte, uPacketClearFlag, type, first]
  | data =>
      have disjoint : mask &&& part = 0 :=
            plain_disjoint (by simpa [type] using plain) part below
      simp [typeByte, uPacketClearFlag, type, clear_and_of_disjoint _ _ _ disjoint]

theorem Proper.setFlag {p : UMPPacket} {mask : UInt8} (proper : Proper p)
    (plain : PlainMask p.pType mask) : Proper (uPacketSetFlag p mask) := by
  unfold Proper
  rw [typeByte_setFlag p plain (by decide), typeByte_setFlag p plain (by decide),
    uPacketSetFlag_pType]
  exact proper

theorem Proper.clearFlag {p : UMPPacket} {mask : UInt8} (proper : Proper p)
    (plain : PlainMask p.pType mask) : Proper (uPacketClearFlag p mask) := by
  unfold Proper
  rw [typeByte_clearFlag p plain (by decide), typeByte_clearFlag p plain (by decide),
    uPacketClearFlag_pType]
  exact proper

/-! ### The round trip -/

/-- The packet a receiver decodes from the bytes of `p`. -/
def receivedForm (p : UMPPacket) : UMPPacket :=
  { (match p.pType with
      | .control => controlHeader (freshEncoding p).1 p.ctrlFlags1 p.ctrlFlags2
      | .data => dataHeader (freshEncoding p).1 p.dataFlags) with
    checkSum := packetCheckSum p
    seqNum := maskNumber ((numbers p).getD 0 (false, 0))
    ackNum := maskNumber ((numbers p).getD 1 (false, 0))
    mssNum := match p.pType with
      | .control => maskNumber ((numbers p).getD 2 (false, 0))
      | .data => 0
    wndNum := match p.pType with
      | .control => maskNumber ((numbers p).getD 3 (false, 0))
      | .data => maskNumber ((numbers p).getD 2 (false, 0))
    userData := p.userData }

section Received

variable (p : UMPPacket)

@[simp] theorem receivedForm_pType : (receivedForm p).pType = p.pType := by
  cases type : p.pType <;> simp [receivedForm, controlHeader, dataHeader, uPacketNew, type]

@[simp] theorem receivedForm_userData : (receivedForm p).userData = p.userData := rfl

/-- The receiver sees every flag of the packet sent. -/
@[simp] theorem receivedForm_getFlag (mask : UInt8) :
    uPacketGetFlag (receivedForm p) mask = uPacketGetFlag p mask := by
  cases type : p.pType <;>
    simp [receivedForm, uPacketGetFlag, controlHeader, dataHeader, uPacketNew, type]

end Received

theorem rawType_encoding {p : UMPPacket} (proper : Proper p) :
    rawType (freshEncoding p).1 = p.pType := by
  have firstByte : byteAt (freshEncoding p).1 0 = typeByte p := by
    rw [freshEncoding_bytes]
    cases type : p.pType <;> simp [byteAt, flagBytes, typeByte, type]
  cases type : p.pType <;> simp [rawType, firstByte, proper.2, type]

theorem drop_encoding {p : UMPPacket} (proper : Proper p) :
    (freshEncoding p).1.drop (headerLength (freshEncoding p).1) = payload p := by
  rw [headerLength, rawType_encoding proper, freshEncoding_bytes]
  rw [List.drop_append_of_le_length (by simp)]
  simp

theorem numberFlags_encoding {p : UMPPacket} (proper : Proper p) :
    numberFlags (freshEncoding p).1 = (numbers p).map Prod.fst := by
  have type := rawType_encoding proper
  unfold numberFlags
  rw [type, freshEncoding_bytes]
  cases type : p.pType <;> simp [byteAt, flagBytes, numbers, uPacketGetFlag, type]

theorem storedCheckSum_encoding {p : UMPPacket} (proper : Proper p) :
    storedCheckSum (freshEncoding p).1 = packetCheckSum p := by
  have type := rawType_encoding proper
  unfold storedCheckSum
  rw [type, freshEncoding_bytes]
  cases type : p.pType <;>
    simp [byteAt, flagBytes, checkSumOffset, be16, type, join16_be16]

theorem computeCheckSum_encoding {p : UMPPacket} (proper : Proper p) :
    computeCheckSum p.pType (freshEncoding p).1 = packetCheckSum p := by
  have payloadBehind := drop_encoding proper
  rw [headerLength, rawType_encoding proper] at payloadBehind
  unfold computeCheckSum
  rw [payloadBehind, packetCheckSum, freshEncoding_bytes]
  cases type : p.pType <;> simp [byteAt, flagBytes, flagSum, type]

theorem encoding_length {p : UMPPacket} (proper : Proper p) :
    (freshEncoding p).1.length =
      requiredLength (freshEncoding p).1 + p.userData.length := by
  rw [requiredLength, headerLength, rawType_encoding proper, numberFlags_encoding proper,
    freshEncoding_bytes]
  simp [payload, numberBytes_length]
  omega

theorem wellFormed_encoding {p : UMPPacket} (proper : Proper p) :
    WellFormed (freshEncoding p).1 := by
  have length := encoding_length proper
  have firstByte : byteAt (freshEncoding p).1 0 = typeByte p := by
    rw [freshEncoding_bytes]
    cases type : p.pType <;> simp [byteAt, flagBytes, typeByte, type]
  have behindHeader : 3 ≤ headerLength (freshEncoding p).1 := by
    unfold headerLength checkSumOffset
    split <;> omega
  have room : headerLength (freshEncoding p).1 ≤ requiredLength (freshEncoding p).1 :=
    Nat.le_add_right _ _
  refine ⟨⟨by omega, by rw [firstByte]; exact proper.1, by omega, ?_⟩, by omega⟩
  rw [rawType_encoding proper, computeCheckSum_encoding proper, storedCheckSum_encoding proper]

theorem valuesAt_encoding {p : UMPPacket} (proper : Proper p) (behind : Nat → UInt8) :
    valuesAt ⟨(freshEncoding p).1, behind⟩ (numberFlags (freshEncoding p).1)
        (headerLength (freshEncoding p).1) = (numbers p).map maskNumber := by
  rw [numberFlags_encoding proper]
  exact valuesAt_numberBytes (numbers p) _ ⟨(freshEncoding p).1, behind⟩ p.userData
    (drop_encoding proper)

theorem assemble_encoding {p : UMPPacket} (proper : Proper p) :
    assemble (freshEncoding p).1 ((numbers p).map maskNumber)
      (requiredLength (freshEncoding p).1) = receivedForm p := by
  have userData : (freshEncoding p).1.drop (requiredLength (freshEncoding p).1) = p.userData := by
    rw [requiredLength, ← List.drop_drop, drop_encoding proper, payload,
      numberFlags_encoding proper, ← numberBytes_length, List.drop_left]
  have flagByte (position : Nat) (inside : position < checkSumOffset p.pType) :
      byteAt (freshEncoding p).1 position = byteAt (flagBytes p) position := by
    rw [byteAt, byteAt, freshEncoding_bytes, List.append_assoc,
      List.getElem?_append_left (by simpa using inside)]
  have type := rawType_encoding proper
  unfold assemble headerPacket receivedForm
  rw [userData, storedCheckSum_encoding proper, type]
  cases pType : p.pType with
  | control =>
      rw [pType] at flagByte
      rw [flagByte 0 (by decide), flagByte 1 (by decide)]
      simp [numbers, storeControl, pType, byteAt, flagBytes]
  | data =>
      rw [pType] at flagByte
      rw [flagByte 0 (by decide)]
      simp [numbers, storeData, pType, byteAt, flagBytes, dataHeader, uPacketNew]

/-- What was sent is what is decoded, whatever lies behind the buffer. -/
theorem uPacketFromBinary_freshEncoding {p : UMPPacket} (proper : Proper p)
    (behind : Nat → UInt8) :
    ∃ log, uPacketFromBinary (freshEncoding p).1 ⟨(freshEncoding p).1, behind⟩ =
      (some (receivedForm p), log) := by
  obtain ⟨⟨nonempty, version, room, sums⟩, long⟩ := wellFormed_encoding proper
  obtain ⟨log, _, _, run⟩ := uPacketFromBinary_run (freshEncoding p).1 behind nonempty
    version room
  obtain ⟨numberLog, numberRun, _⟩ := takeNumbers_fits (numberFlags (freshEncoding p).1)
    (headerLength (freshEncoding p).1) ⟨(freshEncoding p).1, behind⟩ long
  have assembled := assemble_encoding proper
  rw [if_pos sums, numberRun, valuesAt_encoding proper] at run
  rw [requiredLength] at assembled
  dsimp only at run
  rw [assembled] at run
  exact ⟨log ++ numberLog, run⟩

theorem decode_freshEncoding {p : UMPPacket} (proper : Proper p) :
    decode (freshEncoding p).1 = some (receivedForm p) := by
  obtain ⟨log, run⟩ := uPacketFromBinary_freshEncoding proper fun _ => 0
  rw [decode, run]

/-- The bytes `u_packet_to_binary` returns are a fresh encoding, cached or not. -/
theorem rawData_uPacketToBinary {p : UMPPacket} (coherent : Coherent p) :
    (uPacketToBinary p).rawData = some (freshEncoding p).1 := by
  unfold uPacketToBinary
  split
  · rename_i cached
    rcases coherent with changed | absent | current
    · simp [changed] at cached
    · exact absurd absent cached.2
    · exact current
  · rfl

/-- The bytes `u_packet_to_binary` returns decode to the packet's received form. -/
theorem decode_uPacketToBinary {p : UMPPacket} (proper : Proper p) (coherent : Coherent p) :
    ∃ bytes, (uPacketToBinary p).rawData = some bytes ∧ decode bytes = some (receivedForm p) :=
  ⟨(freshEncoding p).1, rawData_uPacketToBinary coherent, decode_freshEncoding proper⟩

end UserMessageProtocol
