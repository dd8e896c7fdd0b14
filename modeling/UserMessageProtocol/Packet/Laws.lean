import UserMessageProtocol.Packet.Codec
import Mathlib.Tactic.Ring
import Mathlib.Tactic.Linarith

/-!
Contract: the encoder and the pieces of the decoder in closed form.

Owns: the network byte order laws, the byte string a fresh encoding produces
(`freshEncoding_bytes`), and what the summing loop and the optional numbers read
and return on a given buffer.

Does not own: which byte strings are accepted (`Packet.Acceptance`).
-/

set_option autoImplicit false

namespace UserMessageProtocol

/-! ### Network byte order -/

/-- The two bytes `htons` leaves in memory. -/
def be16 (value : UInt16) : List UInt8 := [(value >>> 8).toUInt8, value.toUInt8]

/-- The number `ntohs` makes of two bytes. -/
def join16 (high low : UInt8) : UInt16 := high.toUInt16 <<< 8 + low.toUInt16

@[simp] theorem be16_length (value : UInt16) : (be16 value).length = 2 := rfl

theorem join16_be16 (value : UInt16) :
    join16 (value >>> 8).toUInt8 value.toUInt8 = value := by
  have bound := value.toNat_lt
  apply UInt16.toNat_inj.mp
  simp only [join16, UInt16.toNat_toUInt8, UInt16.toNat_shiftRight, UInt16.toNat_add,
    UInt16.toNat_shiftLeft, UInt8.toNat_toUInt16, UInt16.toNat_ofNat]
  simp [Nat.shiftLeft_eq, Nat.shiftRight_eq_div_pow]
  omega

theorem be16_join16 (high low : UInt8) : be16 (join16 high low) = [high, low] := by
  have highBound := high.toNat_lt
  have lowBound := low.toNat_lt
  have highByte : (join16 high low >>> 8).toUInt8 = high := by
    apply UInt8.toNat_inj.mp
    simp only [join16, UInt16.toNat_toUInt8, UInt16.toNat_shiftRight, UInt16.toNat_add,
      UInt16.toNat_shiftLeft, UInt8.toNat_toUInt16, UInt16.toNat_ofNat]
    simp [Nat.shiftLeft_eq, Nat.shiftRight_eq_div_pow]
    omega
  have lowByte : (join16 high low).toUInt8 = low := by
    apply UInt8.toNat_inj.mp
    simp [join16, Nat.shiftLeft_eq]
  rw [be16, highByte, lowByte]

/-! ### The encoder in closed form -/

/-- The bytes of the optional numbers, in the order of their flags. -/
def numberBytes : List (Bool × UInt16) → List UInt8
  | [] => []
  | (flagged, value) :: rest => (if flagged then be16 value else []) ++ numberBytes rest

/-- How many of the flags are set. -/
def flagCount : List Bool → Nat
  | [] => 0
  | flagged :: rest => (if flagged then 1 else 0) + flagCount rest

theorem numberBytes_length (numbers : List (Bool × UInt16)) :
    (numberBytes numbers).length = 2 * flagCount (numbers.map Prod.fst) := by
  induction numbers with
  | nil => rfl
  | cons number rest inductionHypothesis =>
      obtain ⟨flagged, value⟩ := number
      cases flagged with
      | false => simp [numberBytes, flagCount, inductionHypothesis]
      | true =>
          simp [numberBytes, flagCount, inductionHypothesis]
          omega

/-- The flag bytes at the front of a packet. -/
def flagBytes (p : UMPPacket) : List UInt8 :=
  match p.pType with
  | .control => [p.ctrlFlags1, p.ctrlFlags2]
  | .data => [p.dataFlags]

/-- The optional numbers of a packet with their flags. -/
def numbers (p : UMPPacket) : List (Bool × UInt16) :=
  match p.pType with
  | .control =>
      [(uPacketGetFlag p UP_CTRL_SEQ, p.seqNum), (uPacketGetFlag p UP_CTRL_ACK, p.ackNum),
        (uPacketGetFlag p UP_CTRL_MSS, p.mssNum), (uPacketGetFlag p UP_CTRL_WND, p.wndNum)]
  | .data =>
      [(uPacketGetFlag p UP_DATA_SEQ, p.seqNum), (uPacketGetFlag p UP_DATA_ACK, p.ackNum),
        (uPacketGetFlag p UP_DATA_WND, p.wndNum)]

/-- Everything behind the checksum. -/
def payload (p : UMPPacket) : List UInt8 := numberBytes (numbers p) ++ p.userData

/-- The sum of the flag bytes. -/
def flagSum (p : UMPPacket) : UInt16 :=
  match p.pType with
  | .control => p.ctrlFlags1.toUInt16 + p.ctrlFlags2.toUInt16
  | .data => p.dataFlags.toUInt16

@[simp] theorem flagBytes_length (p : UMPPacket) :
    (flagBytes p).length = checkSumOffset p.pType := by
  cases pType : p.pType <;> simp [flagBytes, checkSumOffset, pType]

theorem packetLength_eq (p : UMPPacket) :
    packetLength p = checkSumOffset p.pType + 2 + (payload p).length := by
  have eachNumber (flagged : Bool) :
      numberLength flagged = 2 * (if flagged then 1 else 0) := by
    cases flagged <;> rfl
  cases pType : p.pType <;>
    simp [packetLength, payload, numbers, numberBytes_length, flagCount, checkSumOffset, pType,
      eachNumber, -mul_ite] <;> omega

/-- The writer stands behind `written`, with `room` zero bytes ahead. -/
def Writer.standing (written : List UInt8) (room : Nat) : Writer :=
  ⟨written ++ List.replicate room 0, written.length⟩

theorem Writer.put8_standing (written : List UInt8) (room : Nat) (value : UInt8) :
    (Writer.standing written (room + 1)).put8 value =
      Writer.standing (written ++ [value]) room := by
  simp [Writer.standing, Writer.put8, List.replicate_succ]

theorem Writer.skip_standing (written : List UInt8) (room count : Nat) :
    (Writer.standing written (room + count)).skip count =
      Writer.standing (written ++ List.replicate count 0) room := by
  simp [Writer.standing, Writer.skip, Nat.add_comm room count]

theorem Writer.putNumber_standing (written : List UInt8) (room : Nat) (flagged : Bool)
    (value : UInt16) :
    (Writer.standing written
        ((if flagged then be16 value else []).length + room)).putNumber flagged value =
      Writer.standing (written ++ if flagged then be16 value else []) room := by
  cases flagged with
  | false => simp [Writer.putNumber]
  | true =>
      simp only [Writer.putNumber, Writer.put16, if_true, be16_length]
      rw [show 2 + room = room + 1 + 1 by omega, Writer.put8_standing, Writer.put8_standing]
      simp [be16]

theorem Writer.putBytes_standing (written bytes : List UInt8) (room : Nat) :
    (Writer.standing written (bytes.length + room)).putBytes bytes =
      Writer.standing (written ++ bytes) room := by
  induction bytes generalizing written with
  | nil => simp [Writer.putBytes]
  | cons byte rest inductionHypothesis =>
      rw [List.length_cons, show rest.length + 1 + room = rest.length + room + 1 by omega,
        Writer.putBytes, Writer.put8_standing, inductionHypothesis]
      simp

/-- The field pass leaves zeros where the checksum goes and fills the buffer exactly. -/
theorem writeFields_eq (p : UMPPacket) :
    writeFields p = flagBytes p ++ [0, 0] ++ payload p := by
  have start : (⟨List.replicate (packetLength p) 0, 0⟩ : Writer) =
      Writer.standing [] (packetLength p) := by simp [Writer.standing]
  unfold writeFields
  rw [start, packetLength_eq]
  cases pType : p.pType with
  | control =>
      simp only [payload, numbers, numberBytes, pType, List.append_nil, checkSumOffset,
        List.length_append]
      generalize uPacketGetFlag p UP_CTRL_SEQ = seqFlag
      generalize uPacketGetFlag p UP_CTRL_ACK = ackFlag
      generalize uPacketGetFlag p UP_CTRL_MSS = mssFlag
      generalize uPacketGetFlag p UP_CTRL_WND = wndFlag
      rw [show ∀ a b c d e : Nat, 2 + 2 + (a + (b + (c + d)) + e) =
          a + (b + (c + (d + (e + 0)))) + 2 + 1 + 1 by intros; omega]
      rw [Writer.put8_standing, Writer.put8_standing, Writer.skip_standing,
        Writer.putNumber_standing, Writer.putNumber_standing, Writer.putNumber_standing,
        Writer.putNumber_standing, Writer.putBytes_standing]
      simp [Writer.standing, flagBytes, pType, List.replicate]
  | data =>
      simp only [payload, numbers, numberBytes, pType, List.append_nil, checkSumOffset,
        List.length_append]
      generalize uPacketGetFlag p UP_DATA_SEQ = seqFlag
      generalize uPacketGetFlag p UP_DATA_ACK = ackFlag
      generalize uPacketGetFlag p UP_DATA_WND = wndFlag
      rw [show ∀ a b c e : Nat, 1 + 2 + (a + (b + c) + e) =
          a + (b + (c + (e + 0))) + 2 + 1 by intros; omega]
      rw [Writer.put8_standing, Writer.skip_standing,
        Writer.putNumber_standing, Writer.putNumber_standing, Writer.putNumber_standing,
        Writer.putBytes_standing]
      simp [Writer.standing, flagBytes, pType, List.replicate]

/-- The checksum a fresh encoding carries. -/
def packetCheckSum (p : UMPPacket) : UInt16 := sumPairs (flagSum p) (payload p)

theorem freshEncoding_checkSum (p : UMPPacket) :
    (freshEncoding p).2 = packetCheckSum p := by
  simp only [freshEncoding, packetCheckSum, computeCheckSum, writeFields_eq]
  cases pType : p.pType <;> simp [byteAt, flagBytes, flagSum, checkSumOffset, pType]

/-- A fresh encoding is the flag bytes, the checksum in network order and the payload. -/
theorem freshEncoding_bytes (p : UMPPacket) :
    (freshEncoding p).1 = flagBytes p ++ be16 (packetCheckSum p) ++ payload p := by
  have sum := freshEncoding_checkSum p
  simp only [freshEncoding] at sum ⊢
  rw [sum, writeFields_eq]
  cases pType : p.pType <;>
    simp [Writer.put16, Writer.put8, flagBytes, checkSumOffset, be16, pType]

/-! ### The decoder's pieces -/

namespace Parse

variable {α β : Type}

@[simp] theorem done_apply (value : α) (buffer : RawBuffer) :
    done value buffer = (some value, []) := rfl

@[simp] theorem reject_apply (buffer : RawBuffer) :
    (reject : Parse α) buffer = (none, []) := rfl

@[simp] theorem rejectFreeing_apply (buffer : RawBuffer) :
    (rejectFreeing : Parse α) buffer = (none, [.free]) := rfl

@[simp] theorem readByte_apply (position : Nat) (buffer : RawBuffer) :
    readByte position buffer = (some (buffer.byte position), [.read position]) := rfl

@[simp] theorem readNumber_apply (position : Nat) (buffer : RawBuffer) :
    readNumber position buffer =
      (some (join16 (buffer.byte position) (buffer.byte (position + 1))),
        [.read position, .read (position + 1)]) := rfl

theorem bind_apply (first : Parse α) (next : α → Parse β) (buffer : RawBuffer) :
    (first >>= next) buffer =
      match first buffer with
      | (none, log) => (none, log)
      | (some value, log) => ((next value buffer).1, log ++ (next value buffer).2) := rfl

end Parse

theorem RawBuffer.byte_of_lt (buffer : RawBuffer) {position : Nat}
    (inside : position < buffer.bytes.length) :
    buffer.byte position = buffer.bytes[position] := by
  simp [RawBuffer.byte, inside]

/-- The bytes a log reads all lie below `bound`. -/
def ReadsBelow (bound : Nat) (log : List MemAccess) : Prop :=
  ∀ position, MemAccess.read position ∈ log → position < bound

theorem ReadsBelow.append {bound : Nat} {first second : List MemAccess}
    (firstBelow : ReadsBelow bound first) (secondBelow : ReadsBelow bound second) :
    ReadsBelow bound (first ++ second) := by
  intro position member
  rcases List.mem_append.mp member with inFirst | inSecond
  · exact firstBelow position inFirst
  · exact secondBelow position inSecond

/-- On a buffer that reaches to the end of the loop, the summing loop returns the
sum of the bytes from `position` on and reads nothing behind them. -/
theorem sumFrom_run (remaining position : Nat) (sum : UInt16) (buffer : RawBuffer)
    (reaches : position + remaining = buffer.bytes.length) :
    ∃ log, Parse.sumFrom remaining position sum buffer =
        (some (sumPairs sum (buffer.bytes.drop position)), log) ∧
      ReadsBelow buffer.bytes.length log ∧ MemAccess.free ∉ log := by
  induction remaining using Nat.twoStepInduction generalizing position sum with
  | zero =>
      refine ⟨[], ?_, by simp [ReadsBelow]⟩
      rw [List.drop_eq_nil_of_le (by omega)]
      rfl
  | one =>
      have inside : position < buffer.bytes.length := by omega
      refine ⟨[.read position], ?_, by simpa [ReadsBelow] using inside⟩
      rw [List.drop_eq_getElem_cons inside, List.drop_eq_nil_of_le (by omega)]
      simp [Parse.sumFrom, Parse.bind_apply, buffer.byte_of_lt inside, sumPairs]
  | more remaining inductionHypothesis _ =>
      have lowInside : position < buffer.bytes.length := by omega
      have highInside : position + 1 < buffer.bytes.length := by omega
      obtain ⟨log, run, below, notFreed⟩ := inductionHypothesis (position + 2)
        (sum + (buffer.byte position).toUInt16 + ((buffer.byte (position + 1)).toUInt16 <<< 8))
        (by omega)
      refine ⟨.read position :: .read (position + 1) :: log, ?_, ?_, by simpa using notFreed⟩
      · simp only [Parse.sumFrom, Parse.bind_apply, Parse.readByte_apply, run]
        rw [List.drop_eq_getElem_cons lowInside, List.drop_eq_getElem_cons highInside]
        simp [sumPairs, buffer.byte_of_lt lowInside, buffer.byte_of_lt highInside]
      · intro position' member
        simp only [List.mem_cons, MemAccess.read.injEq] at member
        rcases member with rfl | rfl | member
        · exact lowInside
        · exact highInside
        · exact below position' member

end UserMessageProtocol
