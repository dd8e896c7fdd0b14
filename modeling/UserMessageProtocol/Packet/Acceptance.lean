import UserMessageProtocol.Packet.Laws

/-!
Contract: which byte strings `u_packet_from_binary` accepts, what it reads on
the way, and that it undoes a fresh encoding.

Owns: the format as a predicate on byte strings (`WellFormed`), the byte strings
on which the two-byte reads run over the end (`HalfNumber`), the exact
characterisation of the decoder by them, and the round trip `decode_fresh`.

Does not own: the sockets that exchange the packets.
-/

set_option autoImplicit false

namespace UserMessageProtocol

/-! ### The format -/

/-- The packet type the first byte announces. -/
def rawType (raw : List UInt8) : UMPPacketType :=
  if byteAt raw 0 &&& UP_TYPE = 0 then .control else .data

/-- Length of the fixed header: flag bytes and checksum. -/
def headerLength (raw : List UInt8) : Nat := checkSumOffset (rawType raw) + 2

/-- The flags of the optional numbers, in the order of the numbers. -/
def numberFlags (raw : List UInt8) : List Bool :=
  match rawType raw with
  | .control =>
      [byteAt raw 1 &&& UP_CTRL_SEQ > 0, byteAt raw 1 &&& UP_CTRL_ACK > 0,
        byteAt raw 1 &&& UP_CTRL_MSS > 0, byteAt raw 1 &&& UP_CTRL_WND > 0]
  | .data =>
      [byteAt raw 0 &&& UP_DATA_SEQ > 0, byteAt raw 0 &&& UP_DATA_ACK > 0,
        byteAt raw 0 &&& UP_DATA_WND > 0]

/-- The checksum in the packet, in network order. -/
def storedCheckSum (raw : List UInt8) : UInt16 :=
  join16 (byteAt raw (checkSumOffset (rawType raw)))
    (byteAt raw (checkSumOffset (rawType raw) + 1))

/-- Version bits `01`, room for the fixed header, and a matching checksum. -/
def HeaderOk (raw : List UInt8) : Prop :=
  1 ≤ raw.length ∧ byteAt raw 0 &&& UP_VER = UMP_VER ∧ headerLength raw ≤ raw.length ∧
    computeCheckSum (rawType raw) raw = storedCheckSum raw

/-- The length the flags ask for. -/
def requiredLength (raw : List UInt8) : Nat := headerLength raw + 2 * flagCount (numberFlags raw)

/-- The packet format: a good header and all the flagged numbers. -/
def WellFormed (raw : List UInt8) : Prop := HeaderOk raw ∧ requiredLength raw ≤ raw.length

/-- A good header behind which the packet ends in the middle of a flagged number. -/
def HalfNumber (raw : List UInt8) : Prop :=
  HeaderOk raw ∧ raw.length < requiredLength raw ∧ (raw.length - headerLength raw) % 2 = 1

instance (raw : List UInt8) : Decidable (HeaderOk raw) := by
  unfold HeaderOk; infer_instance

instance (raw : List UInt8) : Decidable (WellFormed raw) := by
  unfold WellFormed; infer_instance

instance (raw : List UInt8) : Decidable (HalfNumber raw) := by
  unfold HalfNumber; infer_instance

/-! ### The optional numbers -/

/-- The numbers found at `position`, zero where the flag is not set. -/
def valuesAt (buffer : RawBuffer) : List Bool → Nat → List UInt16
  | [], _ => []
  | flagged :: rest, position =>
      if flagged then
        join16 (buffer.byte position) (buffer.byte (position + 1)) ::
          valuesAt buffer rest (position + 2)
      else 0 :: valuesAt buffer rest position

@[simp] theorem valuesAt_length (buffer : RawBuffer) (flags : List Bool) (position : Nat) :
    (valuesAt buffer flags position).length = flags.length := by
  induction flags generalizing position with
  | nil => rfl
  | cons flagged rest inductionHypothesis =>
      cases flagged <;> simp [valuesAt, inductionHypothesis]

theorem takeNumber_run (flagged : Bool) (position : Nat) (buffer : RawBuffer) :
    Parse.takeNumber flagged buffer.bytes.length position buffer =
      if flagged then
        if buffer.bytes.length ≤ position then (none, [.free])
        else (some (join16 (buffer.byte position) (buffer.byte (position + 1)), position + 2),
          [.read position, .read (position + 1)])
      else (some (0, position), []) := by
  unfold Parse.takeNumber
  split
  · split <;> simp [Parse.bind_apply]
  · rfl

/-- With room for all flagged numbers they are read, and nothing else is. -/
theorem takeNumbers_fits (flags : List Bool) (position : Nat) (buffer : RawBuffer)
    (fits : position + 2 * flagCount flags ≤ buffer.bytes.length) :
    ∃ log, Parse.takeNumbers flags buffer.bytes.length position buffer =
        (some (valuesAt buffer flags position, position + 2 * flagCount flags), log) ∧
      ReadsBelow buffer.bytes.length log ∧ MemAccess.free ∉ log := by
  induction flags generalizing position with
  | nil => exact ⟨[], rfl, by simp [ReadsBelow]⟩
  | cons flagged rest inductionHypothesis =>
      cases flagged with
      | false =>
          obtain ⟨log, run, below, notFreed⟩ := inductionHypothesis position
            (by simpa [flagCount] using fits)
          refine ⟨log, ?_, below, notFreed⟩
          simp [Parse.takeNumbers, Parse.bind_apply, takeNumber_run, run, valuesAt, flagCount]
      | true =>
          have inside : ¬ buffer.bytes.length ≤ position := by simp [flagCount] at fits; omega
          obtain ⟨log, run, below, notFreed⟩ := inductionHypothesis (position + 2)
            (by simp [flagCount] at fits; omega)
          refine ⟨.read position :: .read (position + 1) :: log, ?_, ?_, by simpa using notFreed⟩
          · simp only [Parse.takeNumbers, Parse.bind_apply, takeNumber_run, inside, run, valuesAt,
              flagCount, if_true, if_false, Parse.done_apply, List.append_nil]
            simp; ring
          · intro other member
            simp only [List.mem_cons, MemAccess.read.injEq] at member
            simp [flagCount] at fits
            rcases member with rfl | rfl | member
            · omega
            · omega
            · exact below other member

/-- Without that room, and an even number of bytes left, the packet is refused
before a read leaves the buffer. -/
theorem takeNumbers_short_even (flags : List Bool) (position : Nat) (buffer : RawBuffer)
    (inside : position ≤ buffer.bytes.length)
    (short : buffer.bytes.length < position + 2 * flagCount flags)
    (even : (buffer.bytes.length - position) % 2 = 0) :
    ∃ log, Parse.takeNumbers flags buffer.bytes.length position buffer = (none, log) ∧
      ReadsBelow buffer.bytes.length log := by
  induction flags generalizing position with
  | nil => simp [flagCount] at short; omega
  | cons flagged rest inductionHypothesis =>
      cases flagged with
      | false =>
          obtain ⟨log, run, below⟩ := inductionHypothesis position inside
            (by simpa [flagCount] using short) even
          exact ⟨log, by simp [Parse.takeNumbers, Parse.bind_apply, takeNumber_run, run], below⟩
      | true =>
          by_cases atEnd : buffer.bytes.length ≤ position
          · exact ⟨[.free], by
              simp [Parse.takeNumbers, Parse.bind_apply, takeNumber_run, atEnd],
              by simp [ReadsBelow]⟩
          · obtain ⟨log, run, below⟩ := inductionHypothesis (position + 2) (by omega)
              (by simp [flagCount] at short; omega) (by omega)
            refine ⟨.read position :: .read (position + 1) :: log, ?_, ?_⟩
            · simp [Parse.takeNumbers, Parse.bind_apply, takeNumber_run, atEnd, run]
            · intro other member
              simp only [List.mem_cons, MemAccess.read.injEq] at member
              rcases member with rfl | rfl | member
              · omega
              · omega
              · exact below other member

/-- With an odd number of bytes left the byte behind the buffer is read. -/
theorem takeNumbers_short_odd (flags : List Bool) (position : Nat) (buffer : RawBuffer)
    (short : buffer.bytes.length < position + 2 * flagCount flags)
    (odd : (buffer.bytes.length - position) % 2 = 1) :
    MemAccess.read buffer.bytes.length ∈
      (Parse.takeNumbers flags buffer.bytes.length position buffer).2 := by
  induction flags generalizing position with
  | nil => simp [flagCount] at short; omega
  | cons flagged rest inductionHypothesis =>
      cases flagged with
      | false =>
          have inRest := inductionHypothesis position (by simpa [flagCount] using short) odd
          rcases run : Parse.takeNumbers rest buffer.bytes.length position buffer with
            ⟨_ | values, log⟩ <;>
          · rw [run] at inRest
            simpa [Parse.takeNumbers, Parse.bind_apply, takeNumber_run, run] using inRest
      | true =>
          have inside : ¬ buffer.bytes.length ≤ position := by omega
          by_cases overrun : position + 1 = buffer.bytes.length
          · rcases run : Parse.takeNumbers rest buffer.bytes.length (position + 2) buffer with
              ⟨_ | values, log⟩ <;>
            simp [Parse.takeNumbers, Parse.bind_apply, takeNumber_run, inside, run, overrun]
          · have inRest := inductionHypothesis (position + 2)
              (by simp [flagCount] at short; omega) (by omega)
            rcases run : Parse.takeNumbers rest buffer.bytes.length (position + 2) buffer with
              ⟨_ | values, log⟩ <;>
            · rw [run] at inRest
              simp [Parse.takeNumbers, Parse.bind_apply, takeNumber_run, inside, run]
              exact Or.inr (Or.inr (by simpa using inRest))

/-- Numbers read back from their own bytes are the same numbers. -/
theorem numberBytes_valuesAt (flags : List Bool) (position : Nat) (buffer : RawBuffer)
    (fits : position + 2 * flagCount flags ≤ buffer.bytes.length) :
    numberBytes (flags.zip (valuesAt buffer flags position)) =
      (buffer.bytes.drop position).take (2 * flagCount flags) := by
  induction flags generalizing position with
  | nil => simp [numberBytes, flagCount]
  | cons flagged rest inductionHypothesis =>
      cases flagged with
      | false =>
          simpa [valuesAt, numberBytes, flagCount] using
            inductionHypothesis position (by simpa [flagCount] using fits)
      | true =>
          simp only [flagCount, if_true] at fits
          have highInside : position < buffer.bytes.length := by omega
          have lowInside : position + 1 < buffer.bytes.length := by omega
          rw [flagCount, if_pos rfl, show 2 * (1 + flagCount rest) = 2 * flagCount rest + 1 + 1 by
            ring, List.drop_eq_getElem_cons highInside, List.drop_eq_getElem_cons lowInside]
          simp only [valuesAt, if_true, List.zip_cons_cons, numberBytes, be16_join16,
            List.take_succ_cons, buffer.byte_of_lt highInside, buffer.byte_of_lt lowInside,
            List.cons_append, List.nil_append]
          rw [inductionHypothesis (position + 2) (by omega)]

/-- A number whose flag is not set reads back as zero. -/
def maskNumber (number : Bool × UInt16) : UInt16 := if number.1 then number.2 else 0

theorem valuesAt_numberBytes (numbers : List (Bool × UInt16)) (position : Nat)
    (buffer : RawBuffer) (rest : List UInt8)
    (found : buffer.bytes.drop position = numberBytes numbers ++ rest) :
    valuesAt buffer (numbers.map Prod.fst) position = numbers.map maskNumber := by
  induction numbers generalizing position with
  | nil => rfl
  | cons number others inductionHypothesis =>
      obtain ⟨flagged, value⟩ := number
      cases flagged with
      | false =>
          simpa [valuesAt, maskNumber] using
            inductionHypothesis position (by simpa [numberBytes] using found)
      | true =>
          have bytesAt (offset : Nat) :
              buffer.byte (position + offset) =
                ((numberBytes ((true, value) :: others) ++ rest)[offset]?).getD
                  (buffer.behind (position + offset)) := by
            rw [← found, List.getElem?_drop]
            rfl
          have high := bytesAt 0
          have low := bytesAt 1
          simp only [numberBytes, be16, if_true, Nat.add_zero, List.cons_append,
            List.getElem?_cons_zero, List.getElem?_cons_succ, Option.getD_some] at high low
          have others := inductionHypothesis (position + 2) (by
            rw [← List.drop_drop, found]
            rfl)
          simp [valuesAt, maskNumber, high, low, join16_be16, others]

/-! ### The decoder in closed form -/

/-- The packet with the flag bytes of `raw` and nothing else. -/
def headerPacket (raw : List UInt8) : UMPPacket :=
  match rawType raw with
  | .control => controlHeader raw (byteAt raw 0) (byteAt raw 1)
  | .data => dataHeader raw (byteAt raw 0)

/-- The packet built from a header and the numbers found behind it. -/
def assemble (raw : List UInt8) (values : List UInt16) (position : Nat) : UMPPacket :=
  { (match rawType raw with
      | .control => storeControl (headerPacket raw) values
      | .data => storeData (headerPacket raw) values) with
    checkSum := storedCheckSum raw
    userData := raw.drop position }

/-- The flags of the numbers as the accessor reads them from the header. -/
theorem numberFlags_eq (raw : List UInt8) :
    numberFlags raw =
      match rawType raw with
      | .control =>
          [uPacketGetFlag (headerPacket raw) UP_CTRL_SEQ,
            uPacketGetFlag (headerPacket raw) UP_CTRL_ACK,
            uPacketGetFlag (headerPacket raw) UP_CTRL_MSS,
            uPacketGetFlag (headerPacket raw) UP_CTRL_WND]
      | .data =>
          [uPacketGetFlag (headerPacket raw) UP_DATA_SEQ,
            uPacketGetFlag (headerPacket raw) UP_DATA_ACK,
            uPacketGetFlag (headerPacket raw) UP_DATA_WND] := by
  cases type : rawType raw <;>
    simp [numberFlags, headerPacket, type, controlHeader, dataHeader, uPacketNew, uPacketGetFlag]

section Decoder

variable (raw : List UInt8) (behind : Nat → UInt8)

private theorem byte_eq_byteAt (position : Nat) (inside : position < raw.length) :
    RawBuffer.byte ⟨raw, behind⟩ position = byteAt raw position := by
  simp [RawBuffer.byte, byteAt, inside]

/-- The common part of the branches: after the reads of the checksum loop, which
stay inside, comes the verdict on the checksum and then the run of the numbers. -/
private theorem parseBody_run (u_p : UMPPacket) (checkSumAt : Nat) (sum : UInt16)
    (flags : List Bool) (store : UMPPacket → List UInt16 → UMPPacket)
    (room : checkSumAt + 2 ≤ raw.length) :
    ∃ log, ReadsBelow raw.length log ∧ MemAccess.free ∉ log ∧
      parseBody u_p raw.length checkSumAt sum flags store ⟨raw, behind⟩ =
        if sumPairs sum (raw.drop (checkSumAt + 2)) =
            join16 (byteAt raw checkSumAt) (byteAt raw (checkSumAt + 1)) then
          match Parse.takeNumbers flags raw.length (checkSumAt + 2) ⟨raw, behind⟩ with
          | (none, numberLog) => (none, log ++ numberLog)
          | (some taken, numberLog) =>
              (some { store u_p taken.1 with
                checkSum := join16 (byteAt raw checkSumAt) (byteAt raw (checkSumAt + 1))
                userData := raw.drop taken.2 }, log ++ numberLog)
        else (none, log ++ [.free]) := by
  obtain ⟨log, run, below, notFreed⟩ := sumFrom_run (raw.length - (checkSumAt + 2))
    (checkSumAt + 2) sum ⟨raw, behind⟩ (by simp; omega)
  refine ⟨.read checkSumAt :: .read (checkSumAt + 1) :: log, ?_, by simpa using notFreed, ?_⟩
  · intro position member
    simp only [List.mem_cons, MemAccess.read.injEq] at member
    rcases member with rfl | rfl | member
    · omega
    · omega
    · exact below position member
  · simp only [parseBody, Parse.bind_apply, Parse.readNumber_apply, run,
      byte_eq_byteAt raw behind checkSumAt (by omega),
      byte_eq_byteAt raw behind (checkSumAt + 1) (by omega)]
    by_cases equal : sumPairs sum (raw.drop (checkSumAt + 2)) =
        join16 (byteAt raw checkSumAt) (byteAt raw (checkSumAt + 1))
    · rcases numberRun : Parse.takeNumbers flags raw.length (checkSumAt + 2) ⟨raw, behind⟩ with
        ⟨_ | taken, numberLog⟩ <;>
      simp [equal, Parse.bind_apply, numberRun, Parse.restFrom]
    · simp [equal]

/-- `u_packet_from_binary` past the version and length checks: the reads of the
header and the checksum, all inside, the verdict on the checksum, and the run of
the optional numbers. -/
theorem uPacketFromBinary_run (nonempty : 1 ≤ raw.length)
    (version : byteAt raw 0 &&& UP_VER = UMP_VER) (room : headerLength raw ≤ raw.length) :
    ∃ log, ReadsBelow raw.length log ∧ MemAccess.free ∉ log ∧
      uPacketFromBinary raw ⟨raw, behind⟩ =
        if computeCheckSum (rawType raw) raw = storedCheckSum raw then
          match Parse.takeNumbers (numberFlags raw) raw.length (headerLength raw)
              ⟨raw, behind⟩ with
          | (none, numberLog) => (none, log ++ numberLog)
          | (some taken, numberLog) =>
              (some (assemble raw taken.1 taken.2), log ++ numberLog)
        else (none, log ++ [.free]) := by
  have notEmpty : ¬ raw.length < 1 := by omega
  have firstByte := byte_eq_byteAt raw behind 0 (by omega)
  simp only [uPacketFromBinary, notEmpty, if_false, Parse.bind_apply, Parse.readByte_apply,
    firstByte, version, ne_eq, not_true_eq_false, numberFlags_eq]
  by_cases control : byteAt raw 0 &&& UP_TYPE = 0
  · have type : rawType raw = .control := by simp [rawType, control]
    simp only [headerLength, computeCheckSum, storedCheckSum, assemble, headerPacket, type,
      control, if_true, checkSumOffset] at room ⊢
    have long : ¬ raw.length < 4 := by omega
    have secondByte := byte_eq_byteAt raw behind 1 (by omega)
    simp only [parseControl, long, if_false, Parse.bind_apply, Parse.readByte_apply, secondByte]
    obtain ⟨log, below, notFreed, run⟩ := parseBody_run raw behind
      (controlHeader raw (byteAt raw 0) (byteAt raw 1)) 2
      ((byteAt raw 0).toUInt16 + (byteAt raw 1).toUInt16)
      [uPacketGetFlag (controlHeader raw (byteAt raw 0) (byteAt raw 1)) UP_CTRL_SEQ,
        uPacketGetFlag (controlHeader raw (byteAt raw 0) (byteAt raw 1)) UP_CTRL_ACK,
        uPacketGetFlag (controlHeader raw (byteAt raw 0) (byteAt raw 1)) UP_CTRL_MSS,
        uPacketGetFlag (controlHeader raw (byteAt raw 0) (byteAt raw 1)) UP_CTRL_WND]
      storeControl room
    refine ⟨.read 0 :: .read 1 :: log, ?_, by simpa using notFreed, ?_⟩
    · intro position member
      simp only [List.mem_cons, MemAccess.read.injEq] at member
      rcases member with rfl | rfl | member
      · omega
      · omega
      · exact below position member
    · rw [run]
      split
      · split <;> rename_i found <;> rw [found] <;> simp
      · simp
  · have type : rawType raw = .data := by simp [rawType, control]
    simp only [headerLength, computeCheckSum, storedCheckSum, assemble, headerPacket, type,
      control, if_false, checkSumOffset] at room ⊢
    have long : ¬ raw.length < 3 := by omega
    simp only [parseData, long, if_false]
    obtain ⟨log, below, notFreed, run⟩ := parseBody_run raw behind
      (dataHeader raw (byteAt raw 0)) 1 (byteAt raw 0).toUInt16
      [uPacketGetFlag (dataHeader raw (byteAt raw 0)) UP_DATA_SEQ,
        uPacketGetFlag (dataHeader raw (byteAt raw 0)) UP_DATA_ACK,
        uPacketGetFlag (dataHeader raw (byteAt raw 0)) UP_DATA_WND]
      storeData room
    refine ⟨.read 0 :: log, ?_, by simpa using notFreed, ?_⟩
    · intro position member
      simp only [List.mem_cons, MemAccess.read.injEq] at member
      rcases member with rfl | member
      · omega
      · exact below position member
    · rw [run]
      split
      · split <;> rename_i found <;> rw [found] <;> simp
      · simp

/-! ### Accepted byte strings -/

theorem numbers_assemble (values : List UInt16) (position : Nat)
    (fullLength : values.length = (numberFlags raw).length) :
    numbers (assemble raw values position) = (numberFlags raw).zip values := by
  cases type : rawType raw with
  | control =>
      simp only [numberFlags, type] at fullLength ⊢
      obtain ⟨_, _, _, _, rfl⟩ := List.length_eq_four.mp fullLength
      simp [numbers, assemble, headerPacket, type, controlHeader, storeControl, uPacketNew,
        uPacketGetFlag]
  | data =>
      simp only [numberFlags, type] at fullLength ⊢
      obtain ⟨_, _, _, rfl⟩ := List.length_eq_three.mp fullLength
      simp [numbers, assemble, headerPacket, type, dataHeader, storeData, uPacketNew,
        uPacketGetFlag]

/-- The first byte of a string that is long enough. -/
theorem exists_cons {k : Nat} {bytes : List UInt8} (long : k + 1 ≤ bytes.length) :
    ∃ first rest, bytes = first :: rest ∧ k ≤ rest.length := by
  cases bytes with
  | nil => exact absurd long (Nat.not_succ_le_zero k)
  | cons first rest => exact ⟨first, rest, rfl, Nat.le_of_succ_le_succ long⟩

theorem flagBytes_assemble (values : List UInt16) (position : Nat)
    (room : headerLength raw ≤ raw.length) :
    flagBytes (assemble raw values position) ++ be16 (storedCheckSum raw) =
      raw.take (headerLength raw) := by
  unfold headerLength at room
  cases type : rawType raw with
  | control =>
      simp only [type, checkSumOffset] at room
      obtain ⟨a, tail, rfl, three⟩ := exists_cons room
      obtain ⟨b, tail, rfl, two⟩ := exists_cons three
      obtain ⟨c, tail, rfl, one⟩ := exists_cons two
      obtain ⟨d, rest, rfl, -⟩ := exists_cons one
      simp only [headerLength, storedCheckSum, type, be16_join16]
      simp [flagBytes, assemble, headerPacket, type, controlHeader, storeControl, uPacketNew,
        checkSumOffset, byteAt]
  | data =>
      simp only [type, checkSumOffset] at room
      obtain ⟨a, tail, rfl, two⟩ := exists_cons room
      obtain ⟨b, tail, rfl, one⟩ := exists_cons two
      obtain ⟨c, rest, rfl, -⟩ := exists_cons one
      simp only [headerLength, storedCheckSum, type, be16_join16]
      simp [flagBytes, assemble, headerPacket, type, dataHeader, storeData, uPacketNew,
        checkSumOffset, byteAt]

theorem flagSum_assemble (values : List UInt16) (position : Nat) :
    sumPairs (flagSum (assemble raw values position)) (raw.drop (headerLength raw)) =
      computeCheckSum (rawType raw) raw := by
  cases type : rawType raw <;>
    simp [flagSum, assemble, headerPacket, type, controlHeader, dataHeader, storeControl, storeData,
      uPacketNew, computeCheckSum, headerLength, checkSumOffset]

/-- A packet decoded from a well-formed byte string encodes to that byte string. -/
theorem freshEncoding_assemble (good : WellFormed raw) :
    (freshEncoding (assemble raw
      (valuesAt ⟨raw, behind⟩ (numberFlags raw) (headerLength raw)) (requiredLength raw))).1 =
      raw := by
  obtain ⟨⟨_, _, room, sums⟩, long⟩ := good
  have behindHeader : payload (assemble raw
      (valuesAt ⟨raw, behind⟩ (numberFlags raw) (headerLength raw)) (requiredLength raw)) =
      raw.drop (headerLength raw) := by
    rw [payload, numbers_assemble raw _ _ (valuesAt_length _ _ _),
      numberBytes_valuesAt _ _ _ long]
    simp only [assemble, requiredLength]
    rw [← List.drop_drop]
    exact List.take_append_drop _ _
  have sum := flagSum_assemble raw
    (valuesAt ⟨raw, behind⟩ (numberFlags raw) (headerLength raw)) (requiredLength raw)
  rw [freshEncoding_bytes, packetCheckSum, behindHeader, sum, sums,
    flagBytes_assemble raw _ _ room, List.take_append_drop]

/-- What the decoder must do with a byte string: read only its bytes, return a
packet exactly on the well-formed strings, return only packets that encode to
the string, and refuse every string that is too short for its flags. -/
def DecodesExactly : Prop :=
  ReadsBelow raw.length (uPacketFromBinary raw ⟨raw, behind⟩).2 ∧
    ((∃ p, (uPacketFromBinary raw ⟨raw, behind⟩).1 = some p) ↔ WellFormed raw) ∧
    (∀ p, (uPacketFromBinary raw ⟨raw, behind⟩).1 = some p → (freshEncoding p).1 = raw) ∧
    (raw.length < requiredLength raw → (uPacketFromBinary raw ⟨raw, behind⟩).1 = none)

/-- A bad header is refused without a read behind the buffer. -/
theorem uPacketFromBinary_badHeader (bad : ¬ HeaderOk raw) :
    (uPacketFromBinary raw ⟨raw, behind⟩).1 = none ∧
      ReadsBelow raw.length (uPacketFromBinary raw ⟨raw, behind⟩).2 := by
  by_cases empty : raw.length < 1
  · simp [uPacketFromBinary, empty, ReadsBelow]
  have firstByte := byte_eq_byteAt raw behind 0 (by omega)
  by_cases version : byteAt raw 0 &&& UP_VER = UMP_VER
  swap
  · simp [uPacketFromBinary, empty, Parse.bind_apply, firstByte, version, ReadsBelow]
    omega
  by_cases room : headerLength raw ≤ raw.length
  · obtain ⟨log, below, _, run⟩ := uPacketFromBinary_run raw behind (by omega) version room
    have mismatch : ¬ computeCheckSum (rawType raw) raw = storedCheckSum raw :=
      fun equal => bad ⟨by omega, version, room, equal⟩
    rw [run, if_neg mismatch]
    exact ⟨rfl, below.append (by simp [ReadsBelow])⟩
  · unfold headerLength rawType at room
    simp only [uPacketFromBinary, empty, if_false, Parse.bind_apply, Parse.readByte_apply,
      firstByte, version, ne_eq, not_true_eq_false]
    by_cases control : byteAt raw 0 &&& UP_TYPE = 0
    · simp only [control, if_true, checkSumOffset] at room
      have short : raw.length < 4 := by omega
      simp [control, parseControl, short, ReadsBelow]
      omega
    · simp only [control, if_false, checkSumOffset] at room
      have short : raw.length < 3 := by omega
      simp [control, parseData, short, ReadsBelow]
      omega

/-- The decoder does what it must exactly when the packet does not end in the
middle of a flagged number behind a good header. -/
theorem decodesExactly_iff : DecodesExactly raw behind ↔ ¬ HalfNumber raw := by
  by_cases good : HeaderOk raw
  swap
  · obtain ⟨refused, below⟩ := uPacketFromBinary_badHeader raw behind good
    have notWellFormed : ¬ WellFormed raw := fun wellFormed => good wellFormed.1
    simp [DecodesExactly, HalfNumber, refused, below, notWellFormed, good]
  obtain ⟨log, below, _, run⟩ :=
    uPacketFromBinary_run raw behind good.1 good.2.1 good.2.2.1
  rw [if_pos good.2.2.2] at run
  by_cases long : requiredLength raw ≤ raw.length
  · obtain ⟨numberLog, numberRun, numberBelow, _⟩ :=
      takeNumbers_fits (numberFlags raw) (headerLength raw) ⟨raw, behind⟩ long
    have wellFormed : WellFormed raw := ⟨good, long⟩
    rw [numberRun] at run
    have notHalf : ¬ HalfNumber raw := fun half => absurd half.2.1 (by omega)
    simp only [DecodesExactly, run, notHalf, not_false_eq_true, iff_true]
    refine ⟨below.append numberBelow, ⟨fun _ => wellFormed, fun _ => ⟨_, rfl⟩⟩, ?_, by omega⟩
    intro p decoded
    rw [← Option.some.inj decoded]
    exact freshEncoding_assemble raw behind wellFormed
  · have notWellFormed : ¬ WellFormed raw := fun wellFormed => long wellFormed.2
    by_cases odd : (raw.length - headerLength raw) % 2 = 1
    · have half : HalfNumber raw := ⟨good, by omega, odd⟩
      have overrun := takeNumbers_short_odd (numberFlags raw) (headerLength raw) ⟨raw, behind⟩
        (by simpa [requiredLength] using long) odd
      simp only [half, not_true_eq_false, iff_false]
      rintro ⟨inside, _⟩
      refine absurd (inside raw.length ?_) (by omega)
      rw [run]
      split <;> simp_all
    · obtain ⟨numberLog, numberRun, numberBelow⟩ :=
        takeNumbers_short_even (numberFlags raw) (headerLength raw) ⟨raw, behind⟩ good.2.2.1
          (by simpa [requiredLength] using long) (by simp; omega)
      rw [numberRun] at run
      have notHalf : ¬ HalfNumber raw := fun half => odd half.2.2
      simp [DecodesExactly, run, notHalf, notWellFormed, below.append numberBelow]

end Decoder

/-- A five-byte control packet whose sequence number has one byte: the second
byte is read behind the buffer. -/
theorem decodesExactly_fails :
    ¬ ∀ (raw : List UInt8) (behind : Nat → UInt8), DecodesExactly raw behind := by
  intro exact
  have inside := (exact [64, 128, 0, 192, 0] fun _ => 0).1
  exact absurd (inside 5 (by decide)) (by decide)

end UserMessageProtocol
