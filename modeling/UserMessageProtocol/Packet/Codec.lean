import UserMessageProtocol.Packet.Format

/-!
Contract: the byte format of `upacket.c`.

Owns: `u_packet_to_binary` with its cache and its three passes (length, fields,
checksum), and `u_packet_from_binary` over a buffer whose accesses are logged.

The decoder reads through a raw pointer, so it runs on a `RawBuffer`: the
received bytes together with whatever the heap holds behind them. Each run
returns the list of its accesses, reads of single bytes and releases of the
buffer, next to its result.

Does not own: the laws of the format (`Packet.Laws`).
-/

set_option autoImplicit false

namespace UserMessageProtocol

/-! ### Encoder -/

/-- One optional two-byte field of the length pass. -/
def numberLength (flagged : Bool) : Nat := if flagged then 2 else 0

/-- The length pass of `u_packet_to_binary`. -/
def packetLength (p : UMPPacket) : Nat :=
  (match p.pType with
    | .control =>
        4 + numberLength (uPacketGetFlag p UP_CTRL_SEQ) + numberLength (uPacketGetFlag p UP_CTRL_ACK)
          + numberLength (uPacketGetFlag p UP_CTRL_MSS)
          + numberLength (uPacketGetFlag p UP_CTRL_WND)
    | .data =>
        3 + numberLength (uPacketGetFlag p UP_DATA_SEQ) + numberLength (uPacketGetFlag p UP_DATA_ACK)
          + numberLength (uPacketGetFlag p UP_DATA_WND)) + p.userData.length

/-- The buffer being filled and the position of `d` in it. -/
structure Writer where
  buffer : List UInt8
  d : Nat

def Writer.put8 (w : Writer) (value : UInt8) : Writer :=
  ⟨w.buffer.set w.d value, w.d + 1⟩

/-- `(*(guint16*)d)=htons(value)`: the high byte goes first. -/
def Writer.put16 (w : Writer) (value : UInt16) : Writer :=
  (w.put8 (value >>> 8).toUInt8).put8 value.toUInt8

def Writer.skip (w : Writer) (count : Nat) : Writer := ⟨w.buffer, w.d + count⟩

def Writer.putNumber (w : Writer) (flagged : Bool) (value : UInt16) : Writer :=
  if flagged then w.put16 value else w

/-- `memcpy(d, ...)`. -/
def Writer.putBytes (w : Writer) : List UInt8 → Writer
  | [] => w
  | byte :: rest => (w.put8 byte).putBytes rest

/-- The field pass: everything but the checksum. -/
def writeFields (p : UMPPacket) : List UInt8 :=
  let w : Writer := ⟨List.replicate (packetLength p) 0, 0⟩
  let w := match p.pType with
    | .control =>
        ((((((w.put8 p.ctrlFlags1).put8 p.ctrlFlags2).skip 2).putNumber
          (uPacketGetFlag p UP_CTRL_SEQ) p.seqNum).putNumber
          (uPacketGetFlag p UP_CTRL_ACK) p.ackNum).putNumber
          (uPacketGetFlag p UP_CTRL_MSS) p.mssNum).putNumber
          (uPacketGetFlag p UP_CTRL_WND) p.wndNum
    | .data =>
        ((((w.put8 p.dataFlags).skip 2).putNumber
          (uPacketGetFlag p UP_DATA_SEQ) p.seqNum).putNumber
          (uPacketGetFlag p UP_DATA_ACK) p.ackNum).putNumber
          (uPacketGetFlag p UP_DATA_WND) p.wndNum
  (w.putBytes p.userData).buffer

/-- The summing loop over the bytes behind the checksum: little-endian pairs,
a last odd byte alone. -/
def sumPairs (sum : UInt16) : List UInt8 → UInt16
  | [] => sum
  | [last] => sum + last.toUInt16
  | low :: high :: rest => sumPairs (sum + low.toUInt16 + (high.toUInt16 <<< 8)) rest

/-- `raw[position]`, zero behind the end. -/
def byteAt (raw : List UInt8) (position : Nat) : UInt8 := raw[position]?.getD 0

/-- Offset of the checksum, which is also the number of flag bytes. -/
def checkSumOffset : UMPPacketType → Nat
  | .control => 2
  | .data => 1

/-- The checksum pass over the bytes of the field pass. -/
def computeCheckSum (pType : UMPPacketType) (raw : List UInt8) : UInt16 :=
  let flags := match pType with
    | .control => (byteAt raw 0).toUInt16 + (byteAt raw 1).toUInt16
    | .data => (byteAt raw 0).toUInt16
  sumPairs flags (raw.drop (checkSumOffset pType + 2))

/-- The bytes and the checksum of a fresh encoding of the packet's fields. -/
def freshEncoding (p : UMPPacket) : List UInt8 × UInt16 :=
  let raw := writeFields p
  let sum := computeCheckSum p.pType raw
  ((Writer.put16 ⟨raw, checkSumOffset p.pType⟩ sum).buffer, sum)

/-- `u_packet_to_binary`: the cached bytes when nothing changed, else a fresh
encoding. The returned bytes are the `rawData` of the result. -/
def uPacketToBinary (p : UMPPacket) : UMPPacket :=
  if p.changed = false ∧ p.rawData ≠ none then p
  else
    { p with
      checkSum := (freshEncoding p).2
      rawData := some (freshEncoding p).1
      changed := false }

/-! ### Decoder -/

/-- What a run does to the received buffer. -/
inductive MemAccess where
  | read (position : Nat)
  | free
deriving DecidableEq, Repr

/-- The heap as seen from `raw_data`. -/
structure RawBuffer where
  bytes : List UInt8
  behind : Nat → UInt8

def RawBuffer.byte (buffer : RawBuffer) (position : Nat) : UInt8 :=
  buffer.bytes[position]?.getD (buffer.behind position)

/-- A piece of the decoder: `none` means that it returned `NULL`. -/
def Parse (α : Type) : Type := RawBuffer → Option α × List MemAccess

namespace Parse

variable {α β : Type}

def done (value : α) : Parse α := fun _ => (some value, [])

def andThen (first : Parse α) (next : α → Parse β) : Parse β := fun buffer =>
  match first buffer with
  | (none, log) => (none, log)
  | (some value, log) => ((next value buffer).1, log ++ (next value buffer).2)

instance : Monad Parse where
  pure := done
  bind := andThen

/-- `return NULL` before the packet structure owns the buffer. -/
def reject : Parse α := fun _ => (none, [])

/-- `u_packet_free(u_p); return NULL`: the structure owns the buffer, which is
released with it. -/
def rejectFreeing : Parse α := fun _ => (none, [.free])

def readByte (position : Nat) : Parse UInt8 := fun buffer =>
  (some (buffer.byte position), [.read position])

/-- `ntohs((*(guint16*)d))`. -/
def readNumber (position : Nat) : Parse UInt16 := fun buffer =>
  (some ((buffer.byte position).toUInt16 <<< 8 + (buffer.byte (position + 1)).toUInt16),
    [.read position, .read (position + 1)])

/-- The summing loop from `position` on; `remaining` is `raw_data_l-pos`. -/
def sumFrom : (remaining position : Nat) → UInt16 → Parse UInt16
  | 0, _, sum => done sum
  | 1, position, sum => do
      let last ← readByte position
      done (sum + last.toUInt16)
  | remaining + 2, position, sum => do
      let low ← readByte position
      let high ← readByte (position + 1)
      sumFrom remaining (position + 2) (sum + low.toUInt16 + (high.toUInt16 <<< 8))

/-- One optional number: its value (zero when the flag is not set) and the
position behind it. -/
def takeNumber (flagged : Bool) (length position : Nat) : Parse (UInt16 × Nat) :=
  if flagged then
    if position ≥ length then rejectFreeing
    else do
      let value ← readNumber position
      done (value, position + 2)
  else done (0, position)

/-- The optional numbers one after the other, in the order of their flags. -/
def takeNumbers : List Bool → (length position : Nat) → Parse (List UInt16 × Nat)
  | [], _, position => done ([], position)
  | flagged :: rest, length, position => do
      let taken ← takeNumber flagged length position
      let others ← takeNumbers rest length taken.2
      done (taken.1 :: others.1, others.2)

/-- `user_data=d` when bytes are left: a pointer into the buffer. -/
def restFrom (position length : Nat) : Parse (List UInt8) := fun buffer =>
  (some ((buffer.bytes.take length).drop position), [])

end Parse

open Parse in
/-- What both branches of `u_packet_from_binary` do once the flag bytes are in
`u_p` and their sum in `sum`: check the checksum, then take the flagged numbers
and the user data. -/
def parseBody (u_p : UMPPacket) (length checkSumAt : Nat) (sum : UInt16) (flags : List Bool)
    (store : UMPPacket → List UInt16 → UMPPacket) : Parse UMPPacket := do
  let stored ← readNumber checkSumAt
  let sum ← sumFrom (length - (checkSumAt + 2)) (checkSumAt + 2) sum
  if sum ≠ stored then rejectFreeing
  else
    let taken ← takeNumbers flags length (checkSumAt + 2)
    let userData ← restFrom taken.2 length
    done { store u_p taken.1 with checkSum := sum, userData := userData }

/-- The fresh incoming control packet with its flag bytes and its buffer. -/
def controlHeader (raw : List UInt8) (flags1 flags2 : UInt8) : UMPPacket :=
  { uPacketNew .control .incomming with
    ctrlFlags1 := flags1, ctrlFlags2 := flags2, rawData := some raw }

/-- The fresh incoming data packet with its flag byte and its buffer. -/
def dataHeader (raw : List UInt8) (flags : UInt8) : UMPPacket :=
  { uPacketNew .data .incomming with dataFlags := flags, rawData := some raw }

/-- The numbers of a control packet in the order they are taken. -/
def storeControl (u_p : UMPPacket) (taken : List UInt16) : UMPPacket :=
  { u_p with
    seqNum := taken.getD 0 0
    ackNum := taken.getD 1 0
    mssNum := taken.getD 2 0
    wndNum := taken.getD 3 0 }

/-- The numbers of a data packet in the order they are taken. -/
def storeData (u_p : UMPPacket) (taken : List UInt16) : UMPPacket :=
  { u_p with
    seqNum := taken.getD 0 0
    ackNum := taken.getD 1 0
    wndNum := taken.getD 2 0 }

open Parse in
/-- The control branch of `u_packet_from_binary`. -/
def parseControl (raw : List UInt8) (length : Nat) (flags1 : UInt8) : Parse UMPPacket := do
  if length < 4 then reject
  else
    let flags2 ← readByte 1
    let u_p := controlHeader raw flags1 flags2
    parseBody u_p length 2 (flags1.toUInt16 + flags2.toUInt16)
      [uPacketGetFlag u_p UP_CTRL_SEQ, uPacketGetFlag u_p UP_CTRL_ACK,
        uPacketGetFlag u_p UP_CTRL_MSS, uPacketGetFlag u_p UP_CTRL_WND] storeControl

open Parse in
/-- The data branch of `u_packet_from_binary`. -/
def parseData (raw : List UInt8) (length : Nat) (flags : UInt8) : Parse UMPPacket := do
  if length < 3 then reject
  else
    let u_p := dataHeader raw flags
    parseBody u_p length 1 flags.toUInt16
      [uPacketGetFlag u_p UP_DATA_SEQ, uPacketGetFlag u_p UP_DATA_ACK,
        uPacketGetFlag u_p UP_DATA_WND] storeData

open Parse in
/-- `u_packet_from_binary` on a buffer of `raw_data_l` bytes. -/
def uPacketFromBinary (raw : List UInt8) : Parse UMPPacket := do
  if raw.length < 1 then reject
  else
    let flags ← readByte 0
    if flags &&& UP_VER ≠ UMP_VER then reject
    else if flags &&& UP_TYPE = 0 then parseControl raw raw.length flags
    else parseData raw raw.length flags

/-- The packet decoded from received bytes when nothing readable lies behind them. -/
def decode (raw : List UInt8) : Option UMPPacket :=
  (uPacketFromBinary raw ⟨raw, fun _ => 0⟩).1

end UserMessageProtocol
