import UserMessageProtocol.Core.Calls
import UserMessageProtocol.Packet.Acceptance

/-!
Contract: how often the receive thread releases the buffer of a datagram.

Owns: who owns the buffer when `u_packet_from_binary` returns (`HeaderOwned`,
`RefusedOwned`), and the theorem that the buffer is released once, or not at all when
its packet is queued, exactly for the datagrams that are not refused by a packet
structure that owns it.

Does not own: what is read on the way (`Packet.Acceptance`).
-/

set_option autoImplicit false

namespace UserMessageProtocol

/-- Version bits `01` and room for the fixed header: a packet structure takes the buffer. -/
def HeaderOwned (raw : List UInt8) : Prop :=
  1 ≤ raw.length ∧ byteAt raw 0 &&& UP_VER = UMP_VER ∧ headerLength raw ≤ raw.length

/-- The packet is refused behind that: by its checksum, or because its last flagged number
begins behind the end. -/
def RefusedOwned (raw : List UInt8) : Prop :=
  HeaderOwned raw ∧
    (computeCheckSum (rawType raw) raw ≠ storedCheckSum raw ∨
      raw.length + 1 < requiredLength raw)

instance (raw : List UInt8) : Decidable (HeaderOwned raw) := by
  unfold HeaderOwned
  infer_instance

instance (raw : List UInt8) : Decidable (RefusedOwned raw) := by
  unfold RefusedOwned
  infer_instance

/-! ### The decoder -/

section Decoder

variable {raw : List UInt8} (behind : Nat → UInt8)

@[simp] theorem releases_nil : releases [] = 0 := rfl

@[simp] theorem releases_append (first second : List MemAccess) :
    releases (first ++ second) = releases first + releases second := List.count_append

theorem releases_notFreed {log : List MemAccess} (notFreed : MemAccess.free ∉ log) :
    releases log = 0 := List.count_eq_zero.mpr notFreed

/-- The numbers are refused where the last of them begins behind the end, and then the
buffer is released. -/
theorem takeNumbers_releases (flags : List Bool) (position : Nat) (buffer : RawBuffer)
    (inside : position ≤ buffer.bytes.length + 1) :
    ((Parse.takeNumbers flags buffer.bytes.length position buffer).1 = none ↔
        buffer.bytes.length + 1 < position + 2 * flagCount flags) ∧
      releases (Parse.takeNumbers flags buffer.bytes.length position buffer).2 =
        if buffer.bytes.length + 1 < position + 2 * flagCount flags then 1 else 0 := by
  induction flags generalizing position with
  | nil =>
      have fits : ¬ buffer.bytes.length + 1 < position + 2 * flagCount [] := by
        simp [flagCount]
        omega
      rw [if_neg fits]
      exact ⟨iff_of_false (by simp [Parse.takeNumbers, Parse.done]) fits, rfl⟩
  | cons flagged rest inductionHypothesis =>
      cases flagged with
      | false =>
          have later := inductionHypothesis position inside
          have same : flagCount (false :: rest) = flagCount rest := by simp [flagCount]
          rw [same]
          rcases run : Parse.takeNumbers rest buffer.bytes.length position buffer with
            ⟨_ | values, log⟩ <;>
          · rw [run] at later
            simpa [Parse.takeNumbers, Parse.bind_apply, takeNumber_run, run] using later
      | true =>
          have count : flagCount (true :: rest) = flagCount rest + 1 := by
            simp [flagCount, Nat.add_comm]
          by_cases atEnd : buffer.bytes.length ≤ position
          · have short : buffer.bytes.length + 1 < position + 2 * flagCount (true :: rest) := by
              omega
            rw [if_pos short]
            refine ⟨iff_of_true ?_ short, ?_⟩ <;>
              simp [Parse.takeNumbers, Parse.bind_apply, takeNumber_run, atEnd, releases]
          · have later := inductionHypothesis (position + 2) (by omega)
            have same : position + 2 * flagCount (true :: rest) =
                position + 2 + 2 * flagCount rest := by omega
            rw [same]
            rcases run : Parse.takeNumbers rest buffer.bytes.length (position + 2) buffer with
              ⟨_ | values, log⟩ <;>
            · rw [run] at later
              simpa [Parse.takeNumbers, Parse.bind_apply, takeNumber_run, atEnd, run,
                releases] using later

/-- Before a packet structure owns the buffer, it is not released. -/
theorem uPacketFromBinary_notOwned (notOwned : ¬ HeaderOwned raw) :
    (uPacketFromBinary raw ⟨raw, behind⟩).1 = none ∧
      releases (uPacketFromBinary raw ⟨raw, behind⟩).2 = 0 := by
  by_cases empty : raw.length < 1
  · simp [uPacketFromBinary, empty, releases]
  have firstByte : RawBuffer.byte ⟨raw, behind⟩ 0 = byteAt raw 0 := by
    simp [RawBuffer.byte, byteAt, List.getElem?_eq_getElem (by omega : 0 < raw.length)]
  by_cases version : byteAt raw 0 &&& UP_VER = UMP_VER
  · have room : ¬ headerLength raw ≤ raw.length := fun room =>
      notOwned ⟨by omega, version, room⟩
    unfold headerLength rawType at room
    by_cases control : byteAt raw 0 &&& UP_TYPE = 0
    · rw [if_pos control] at room
      have short : raw.length < 4 := by simpa [checkSumOffset] using room
      simp [uPacketFromBinary, empty, Parse.bind_apply, firstByte, version, control, parseControl,
        short, releases]
    · rw [if_neg control] at room
      have short : raw.length < 3 := by simpa [checkSumOffset] using room
      simp [uPacketFromBinary, empty, Parse.bind_apply, firstByte, version, control, parseData,
        short, releases]
  · simp [uPacketFromBinary, empty, Parse.bind_apply, firstByte, version, releases]

theorem numbers_short (room : headerLength raw ≤ raw.length)
    (short : raw.length + 1 < requiredLength raw) : ∃ log,
    Parse.takeNumbers (numberFlags raw) raw.length (headerLength raw) ⟨raw, behind⟩ = (none, log) ∧
      releases log = 1 := by
  have run := takeNumbers_releases (numberFlags raw) (headerLength raw) ⟨raw, behind⟩
    (Nat.le_succ_of_le room)
  change (_ ↔ raw.length + 1 < requiredLength raw) ∧
    _ = (if raw.length + 1 < requiredLength raw then 1 else 0) at run
  rw [if_pos short] at run
  exact ⟨_, Prod.ext (run.1.mpr short) rfl, run.2⟩

theorem numbers_long (room : headerLength raw ≤ raw.length)
    (long : ¬ raw.length + 1 < requiredLength raw) : ∃ taken log,
    Parse.takeNumbers (numberFlags raw) raw.length (headerLength raw) ⟨raw, behind⟩ =
        (some taken, log) ∧ releases log = 0 := by
  have run := takeNumbers_releases (numberFlags raw) (headerLength raw) ⟨raw, behind⟩
    (Nat.le_succ_of_le room)
  change (_ ↔ raw.length + 1 < requiredLength raw) ∧
    _ = (if raw.length + 1 < requiredLength raw then 1 else 0) at run
  rw [if_neg long] at run
  obtain ⟨taken, some⟩ := Option.ne_none_iff_exists'.mp fun none => long (run.1.mp none)
  exact ⟨taken, _, Prod.ext some rfl, run.2⟩

/-- A packet that is refused by its owner takes the buffer with it. -/
theorem uPacketFromBinary_refused (refused : RefusedOwned raw) :
    (uPacketFromBinary raw ⟨raw, behind⟩).1 = none ∧
      releases (uPacketFromBinary raw ⟨raw, behind⟩).2 = 1 := by
  obtain ⟨⟨nonempty, version, room⟩, why⟩ := refused
  obtain ⟨log, -, notFreed, run⟩ := uPacketFromBinary_run raw behind nonempty version room
  rw [run]
  split
  · rename_i equal
    obtain ⟨numberLog, numbers, freed⟩ :=
      numbers_short behind room (why.resolve_left (not_not.mpr equal))
    rw [numbers]
    exact ⟨rfl, by rw [releases_append, releases_notFreed notFreed, freed]⟩
  · exact ⟨rfl, by rw [releases_append, releases_notFreed notFreed]; rfl⟩

theorem assemble_rawData (values : List UInt16) (position : Nat) :
    (assemble raw values position).rawData = some raw := by
  unfold assemble headerPacket
  cases rawType raw <;> rfl

/-- A packet that is not refused keeps the buffer. -/
theorem uPacketFromBinary_accepted (owned : HeaderOwned raw) (accepted : ¬ RefusedOwned raw) :
    ∃ p, (uPacketFromBinary raw ⟨raw, behind⟩).1 = some p ∧ p.rawData = some raw ∧
      releases (uPacketFromBinary raw ⟨raw, behind⟩).2 = 0 := by
  have reasons : ¬ (computeCheckSum (rawType raw) raw ≠ storedCheckSum raw ∨
      raw.length + 1 < requiredLength raw) := fun why => accepted ⟨owned, why⟩
  rw [not_or, ne_eq, not_not] at reasons
  obtain ⟨nonempty, version, room⟩ := owned
  obtain ⟨log, -, notFreed, run⟩ := uPacketFromBinary_run raw behind nonempty version room
  obtain ⟨taken, numberLog, numbers, freed⟩ := numbers_long behind room reasons.2
  rw [run, if_pos reasons.1, numbers]
  exact ⟨_, rfl, assemble_rawData _ _, by rw [releases_append, releases_notFreed notFreed, freed]⟩

end Decoder

/-! ### The receive thread -/

/-- The buffer of a datagram is not released while its packet is queued, and once
otherwise. -/
def BufferReleased {Lists : Type} (d : RecData) (receipt : Receipt Lists) : Prop :=
  receipt.released = if d.bytes = [] ∨ receipt.queued = true then 0 else 1

instance {Lists : Type} (d : RecData) (receipt : Receipt Lists) :
    Decidable (BufferReleased d receipt) := by
  unfold BufferReleased
  infer_instance

section Receive

variable {Lists : Type}

/-- A packet that is not queued is freed with its buffer. -/
theorem queuePacket_released {u_core : UMPCore Lists} {id : SockId} {u_p : UMPPacket}
    (owns : u_p.rawData.isSome) :
    (queuePacket u_core id u_p).released =
      if (queuePacket u_core id u_p).queued = true then 0 else 1 := by
  unfold queuePacket
  dsimp only
  split
  · rfl
  · show u_p.rawData.isSome.toNat = 1
    rw [owns]
    rfl

variable [ReceiveLists Lists]

/-- The buffer is released as often as it must be exactly when the packet is not refused
by a structure that owns it: there it is released twice. -/
theorem bufferReleased_iff (u_core : UMPCore Lists) (d : RecData) (seq : UInt16) (clock : Clock) :
    BufferReleased d (receiveThreadFunc u_core d seq clock) ↔ ¬ RefusedOwned d.bytes := by
  unfold receiveThreadFunc
  by_cases empty : d.bytes = []
  · rw [if_pos empty]
    refine iff_of_true (if_pos (.inl empty)).symm ?_
    rintro ⟨⟨nonempty, -⟩, -⟩
    rw [empty] at nonempty
    cases nonempty
  · rw [if_neg empty]
    dsimp only
    by_cases owned : HeaderOwned d.bytes
    · by_cases refused : RefusedOwned d.bytes
      · obtain ⟨none, freed⟩ := uPacketFromBinary_refused d.behind refused
        rw [none, freed]
        apply iff_of_false _ (not_not.mpr refused)
        intro once
        rw [BufferReleased, if_neg (by simp [empty])] at once
        cases once
      · obtain ⟨u_p, some, owns, freed⟩ :=
          uPacketFromBinary_accepted d.behind owned refused
        rw [some, freed]
        refine iff_of_true ?_ refused
        dsimp only
        generalize receiver u_core d.sender u_p seq clock = found
        unfold BufferReleased
        simp only [empty, false_or]
        split
        · simp [uPacketFree, owns]
        · rename_i id _
          dsimp only
          rw [Nat.zero_add]
          apply queuePacket_released
          rw [owns]
          rfl
    · obtain ⟨none, freed⟩ := uPacketFromBinary_notOwned d.behind owned
      rw [none, freed]
      exact iff_of_true (if_neg (by simp [empty])).symm fun refused => owned refused.1

/-- A control packet whose checksum is wrong: its structure is freed with the buffer, and the
receive thread frees the buffer again. -/
theorem bufferReleased_fails :
    ¬ ∀ (u_core : UMPCore PlainLists) (d : RecData) (seq : UInt16) (clock : Clock),
      BufferReleased d (receiveThreadFunc u_core d seq clock) := by
  intro always
  have once := always freshCore ⟨⟨5000, 1⟩, [64, 0, 0, 0], fun _ => 0⟩ 0 ⟨fun _ => ⟨0, 0⟩, 0⟩
  exact absurd once (by decide)

end Receive

end UserMessageProtocol
