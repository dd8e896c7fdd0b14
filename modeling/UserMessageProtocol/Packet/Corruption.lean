import UserMessageProtocol.Packet.Built

/-!
Contract: the checksum detects every change of a single byte.

Owns: the packets in the hands of their owner, encoded or not (`Owned`), that the sum of
the bytes depends on each of them, and that the decoder rejects the bytes of such a packet
with one byte replaced.

Does not own: what the decoder accepts (`Packet.Acceptance`).
-/

set_option autoImplicit false

namespace UserMessageProtocol

/-! ### Packets in use -/

/-- The packets made by `u_packet_new`, the accessors, assignments of numbers and
`u_packet_to_binary`, in any order. -/
inductive Owned (pType : UMPPacketType) : UMPPacket → Prop
  | new (direction : UMPPacketDirection) : Owned pType (uPacketNew pType direction)
  | setFlag {p : UMPPacket} {mask : UInt8} (owned : Owned pType p)
      (isOpen : mask ∈ openFlags pType) : Owned pType (uPacketSetFlag p mask)
  | clearFlag {p : UMPPacket} {mask : UInt8} (owned : Owned pType p)
      (isOpen : mask ∈ openFlags pType) : Owned pType (uPacketClearFlag p mask)
  | assign {p : UMPPacket} (seqNum ackNum mssNum wndNum : UInt16) (owned : Owned pType p) :
      Owned pType
        { p with seqNum := seqNum, ackNum := ackNum, mssNum := mssNum, wndNum := wndNum }
  | setData {p : UMPPacket} (userData : List UInt8) (owned : Owned pType p) :
      Owned pType (uPacketSetData p userData)
  | encode {p : UMPPacket} (owned : Owned pType p) : Owned pType (uPacketToBinary p)

/-- The bytes are an encoding of a packet with good type and version bits. -/
def IsEncoding (bytes : List UInt8) : Prop := ∃ q, Proper q ∧ bytes = (freshEncoding q).1

/-- Whatever is cached is an encoding, if perhaps one of earlier fields. -/
theorem Owned.cached {pType : UMPPacketType} {p : UMPPacket} (owned : Owned pType p) :
    p.pType = pType ∧ Proper p ∧ ∀ bytes ∈ p.rawData, IsEncoding bytes := by
  induction owned with
  | new direction => exact ⟨rfl, proper_uPacketNew pType direction, by simp [uPacketNew]⟩
  | @setFlag p mask _ isOpen inductionHypothesis =>
      obtain ⟨type, proper, cached⟩ := inductionHypothesis
      refine ⟨by rw [uPacketSetFlag_pType, type], proper.setFlag ?_, ?_⟩
      · rw [type]
        exact plainMask_of_open isOpen
      · rwa [setFlag_rawData]
  | @clearFlag p mask _ isOpen inductionHypothesis =>
      obtain ⟨type, proper, cached⟩ := inductionHypothesis
      refine ⟨by rw [uPacketClearFlag_pType, type], proper.clearFlag ?_, ?_⟩
      · rw [type]
        exact plainMask_of_open isOpen
      · rwa [clearFlag_rawData]
  | assign _ _ _ _ _ inductionHypothesis => exact inductionHypothesis
  | @setData p userData _ inductionHypothesis =>
      obtain ⟨type, proper, cached⟩ := inductionHypothesis
      refine ⟨by rw [setData_pType, type], proper.setData userData, ?_⟩
      rwa [setData_rawData]
  | @encode p _ inductionHypothesis =>
      obtain ⟨type, proper, cached⟩ := inductionHypothesis
      unfold uPacketToBinary
      split
      · exact ⟨type, proper, cached⟩
      · refine ⟨type, proper, ?_⟩
        rintro bytes ⟨⟩
        exact ⟨p, proper, rfl⟩

/-! ### One byte -/

/-- What the sum starts with is added to it. -/
theorem sumPairs_start : ∀ (bytes : List UInt8) (sum : UInt16),
    sumPairs sum bytes = sum + sumPairs 0 bytes
  | [], sum => by simp [sumPairs]
  | [last], sum => by simp [sumPairs]
  | low :: high :: rest, sum => by
      rw [sumPairs, sumPairs, sumPairs_start rest (sum + _ + _), sumPairs_start rest (0 + _ + _)]
      simp only [UInt16.zero_add, UInt16.add_assoc]

theorem sumPairs_cancel {bytes : List UInt8} {sum sum' : UInt16}
    (same : sumPairs sum bytes = sumPairs sum' bytes) : sum = sum' := by
  rw [sumPairs_start bytes sum, sumPairs_start bytes sum', UInt16.add_left_inj] at same
  exact same

theorem toUInt16_injective {a b : UInt8} (same : a.toUInt16 = b.toUInt16) : a = b := by
  have value := congrArg UInt16.toNat same
  exact UInt8.toNat_inj.mp (by simpa using value)

theorem join16_injective {high low high' low' : UInt8} (same : join16 high low = join16 high' low') :
    high = high' ∧ low = low' := by
  have bytes := congrArg be16 same
  rw [be16_join16, be16_join16] at bytes
  simpa using bytes

theorem shifted_injective {a b : UInt8} (same : a.toUInt16 <<< 8 = b.toUInt16 <<< 8) : a = b := by
  have joined : join16 a 0 = join16 b 0 := by
    unfold join16
    rw [same]
  exact (join16_injective joined).1

/-- The sum depends on every byte. -/
theorem sumPairs_set : ∀ (bytes : List UInt8) (sum : UInt16) (position : Nat) (value : UInt8),
    position < bytes.length → sumPairs sum (bytes.set position value) = sumPairs sum bytes →
      byteAt bytes position = value
  | [], _, _, _, inside, _ => by cases inside
  | [last], sum, 0, value, _, same => by
      rw [List.set_cons_zero, sumPairs, sumPairs, UInt16.add_right_inj] at same
      exact (toUInt16_injective same).symm
  | low :: high :: rest, sum, 0, value, _, same => by
      rw [List.set_cons_zero, sumPairs, sumPairs] at same
      have cancelled := sumPairs_cancel same
      rw [UInt16.add_left_inj, UInt16.add_right_inj] at cancelled
      exact (toUInt16_injective cancelled).symm
  | low :: high :: rest, sum, 1, value, _, same => by
      rw [List.set_cons_succ, List.set_cons_zero, sumPairs, sumPairs] at same
      have cancelled := sumPairs_cancel same
      rw [UInt16.add_right_inj] at cancelled
      exact (shifted_injective cancelled).symm
  | low :: high :: rest, sum, position + 2, value, inside, same => by
      rw [List.set_cons_succ, List.set_cons_succ, sumPairs, sumPairs] at same
      exact sumPairs_set rest _ position value (by simpa using inside) same

/-! ### The decoder -/

section Decoder

variable {bytes : List UInt8} {position : Nat} {value : UInt8}

theorem byteAt_set (inside : position < bytes.length) (other : Nat) :
    byteAt (bytes.set position value) other = if other = position then value else byteAt bytes other := by
  unfold byteAt
  rw [List.getElem?_set]
  by_cases here : other = position
  · rw [if_pos here.symm, if_pos here, if_pos inside]
    rfl
  · rw [if_neg (Ne.symm here), if_neg here]

theorem byteAt_set_ne (inside : position < bytes.length) {other : Nat} (different : other ≠ position) :
    byteAt (bytes.set position value) other = byteAt bytes other := by
  rw [byteAt_set inside, if_neg different]

/-- The bytes keep their type when `UP_TYPE` is kept. -/
theorem rawType_set (inside : position < bytes.length)
    (sameType : position = 0 → value &&& UP_TYPE = byteAt bytes 0 &&& UP_TYPE) :
    rawType (bytes.set position value) = rawType bytes := by
  unfold rawType
  rw [byteAt_set inside]
  split
  · rename_i first
    rw [sameType first.symm]
  · rfl

/-- A flag byte is in the sum. -/
theorem computeCheckSum_flags {type : UMPPacketType} (inside : position < bytes.length)
    (flag : position < checkSumOffset type)
    (same : computeCheckSum type (bytes.set position value) = computeCheckSum type bytes) :
    byteAt bytes position = value := by
  unfold computeCheckSum at same
  rw [List.drop_set_of_lt (by omega)] at same
  have flags := sumPairs_cancel same
  cases type with
  | control =>
      match position, flag with
      | 0, _ =>
          rw [byteAt_set inside, if_pos rfl, byteAt_set_ne inside (by decide),
            UInt16.add_left_inj] at flags
          exact (toUInt16_injective flags).symm
      | 1, _ =>
          rw [byteAt_set_ne inside (by decide), byteAt_set inside, if_pos rfl,
            UInt16.add_right_inj] at flags
          exact (toUInt16_injective flags).symm
  | data =>
      match position, flag with
      | 0, _ =>
          rw [byteAt_set inside, if_pos rfl] at flags
          exact (toUInt16_injective flags).symm

/-- So is a byte behind the checksum. -/
theorem computeCheckSum_body {type : UMPPacketType} (inside : position < bytes.length)
    (behind : checkSumOffset type + 2 ≤ position)
    (same : computeCheckSum type (bytes.set position value) = computeCheckSum type bytes) :
    byteAt bytes position = value := by
  unfold computeCheckSum at same
  have first : byteAt (bytes.set position value) 0 = byteAt bytes 0 :=
    byteAt_set_ne inside (by omega)
  have second : byteAt (bytes.set position value) 1 = byteAt bytes 1 :=
    byteAt_set_ne inside (by omega)
  rw [first, second, List.drop_set, if_neg (by omega)] at same
  have found := sumPairs_set _ _ _ value (by rw [List.length_drop]; omega) same
  rw [← found]
  unfold byteAt
  rw [List.getElem?_drop, Nat.add_sub_cancel' behind]

/-- The checksum itself is not. -/
theorem computeCheckSum_field {type : UMPPacketType} (inside : position < bytes.length)
    (field : checkSumOffset type ≤ position) (front : position < checkSumOffset type + 2) :
    computeCheckSum type (bytes.set position value) = computeCheckSum type bytes := by
  unfold computeCheckSum
  rw [List.drop_set_of_lt front]
  cases type with
  | control =>
      dsimp only [checkSumOffset] at field ⊢
      rw [byteAt_set_ne inside (by omega), byteAt_set_ne inside (by omega)]
  | data =>
      dsimp only [checkSumOffset] at field ⊢
      rw [byteAt_set_ne inside (by omega)]

/-- Two headers that differ in one byte do not both have their checksum. -/
theorem headerOk_set (ok : HeaderOk bytes) (still : HeaderOk (bytes.set position value))
    (inside : position < bytes.length)
    (sameType : position = 0 → value &&& UP_TYPE = byteAt bytes 0 &&& UP_TYPE) :
    byteAt bytes position = value := by
  have type := rawType_set inside sameType
  have sum := ok.2.2.2
  have sum' := still.2.2.2
  unfold storedCheckSum at sum sum'
  rw [type] at sum'
  generalize rawType bytes = type at sum sum'
  by_cases flag : position < checkSumOffset type
  · rw [byteAt_set_ne inside (by omega), byteAt_set_ne inside (by omega), ← sum] at sum'
    exact computeCheckSum_flags inside flag sum'
  · by_cases front : position < checkSumOffset type + 2
    · rw [computeCheckSum_field inside (by omega) front, sum] at sum'
      obtain ⟨high, low⟩ := join16_injective sum'
      rcases (by omega : position = checkSumOffset type ∨ position = checkSumOffset type + 1) with
        here | here
      · rw [here, high, ← here, byteAt_set inside, if_pos rfl]
      · rw [here, low, ← here, byteAt_set inside, if_pos rfl]
    · rw [byteAt_set_ne inside (by omega), byteAt_set_ne inside (by omega), ← sum] at sum'
      exact computeCheckSum_body inside (by omega) sum'

/-- The decoder rejects the bytes of a packet with one byte replaced by another one that keeps
`UP_TYPE`, whatever the heap holds behind them. -/
theorem rejects_corrupted {pType : UMPPacketType} {p : UMPPacket} (owned : Owned pType p)
    (encoded : (uPacketToBinary p).rawData = some bytes) (inside : position < bytes.length)
    (different : value ≠ byteAt bytes position)
    (sameType : position = 0 → value &&& UP_TYPE = byteAt bytes 0 &&& UP_TYPE)
    (behind : Nat → UInt8) :
    (uPacketFromBinary (bytes.set position value) ⟨bytes.set position value, behind⟩).1 = none := by
  obtain ⟨-, -, cached⟩ := owned.encode.cached
  obtain ⟨q, proper, rfl⟩ := cached bytes encoded
  have ok := (wellFormed_encoding proper).1
  refine (uPacketFromBinary_badHeader _ behind fun still => ?_).1
  exact different (headerOk_set ok still inside sameType).symm

end Decoder

theorem owned_oddPacket : Owned .data oddPacket :=
  .setData [1, 2, 3] (.assign 513 0 0 0 (.setFlag (.setFlag (.new .outgoing) (by decide)) (by decide)))

/-- The theorem holds of the last byte of a packet with a payload of odd length. -/
theorem rejects_corruptedOddPacket :
    (uPacketFromBinary ((freshEncoding oddPacket).1.set 7 9)
      ⟨(freshEncoding oddPacket).1.set 7 9, fun _ => 0⟩).1 = none :=
  rejects_corrupted owned_oddPacket (by decide) (by decide) (by decide)
    (fun first => absurd first (by decide)) fun _ => 0

end UserMessageProtocol
