import UserMessageProtocol.Sender.Message
import UserMessageProtocol.Socket.Connection
import UserMessageProtocol.Socket.Receiver

/-!
Contract: a message is cut into packets and put together again.

Owns: the array `ump_send_message` allocates and the loop that fills it
(`buildMessage`), the two loops of `ump_end_receive_internal` (`sizePackets`,
`copyPackets`), and that they are inverse whenever the size of the array fits the
`gsize` of the required platform (`Invertible`).

Does not own: numbering (`Sender.Message`), the transfer of the packets
(`Network.Machine`).
-/

set_option autoImplicit false

namespace UserMessageProtocol

/-! ### The array of a message -/

/-- `sizeof(UMPPacket *)` where pointers have 32 bits. -/
def SIZEOF_POINTER : Nat := 4

/-- The slots behind `g_malloc0(pkts_count*sizeof(UMPPacket *))`: the product is
computed in a `gsize`, which has 32 bits as well. -/
def allocatedSlots (pktsCount : Nat) : Nat := pktsCount * SIZEOF_POINTER % 4294967296 / SIZEOF_POINTER

/-- The variables of the filling loop of `ump_send_message`; an empty slot is `NULL`. -/
structure Filling where
  pkts : List (Option UMPPacket)
  pktsIndex : Nat
  totalLen : Nat
  userData : List UInt8
deriving DecidableEq, Repr

/-- One round of the loop; `none` when it writes past the array. -/
def fillPacket (ourMss dataLen : Nat) (f : Filling) : Option Filling :=
  let pSize := min ourMss (dataLen - f.totalLen)
  let p := uPacketSetData (uPacketNew .data .outgoing) (f.userData.take pSize)
  if f.pktsIndex < f.pkts.length then
    some
      { pkts := f.pkts.set f.pktsIndex (some p)
        pktsIndex := f.pktsIndex + 1
        totalLen := f.totalLen + pSize
        userData := f.userData.drop pSize }
  else none

/-- `while(total_len<data_len)`, for `fuel` rounds at most. -/
def fillPackets (ourMss dataLen : Nat) : Nat → Filling → Option Filling
  | 0, f => some f
  | fuel + 1, f =>
      if f.totalLen < dataLen then (fillPacket ourMss dataLen f).bind (fillPackets ourMss dataLen fuel)
      else some f

/-- The array `ump_send_message` hands to `ump_sock_send`; `none` when the loop
wrote past its end. No message takes more rounds than it has bytes. -/
def buildMessage (ourMss : UInt16) (data : List UInt8) : Option (List (Option UMPPacket)) :=
  let count := pktsCount ourMss.toNat data.length
  (fillPackets ourMss.toNat data.length data.length
    ⟨List.replicate (allocatedSlots count) none, 0, 0, data⟩).map (·.pkts)

/-- How many packets suffice for a message. -/
theorem pktsCount_le_iff {ourMss : Nat} (positive : 0 < ourMss) (length count : Nat) :
    pktsCount ourMss length ≤ count ↔ length ≤ count * ourMss := by
  have quotient : length / ourMss * ourMss ≤ length := Nat.div_mul_le_self length ourMss
  unfold pktsCount
  dsimp only
  split
  case isTrue rest =>
    rw [Nat.succ_le_iff, Nat.div_lt_iff_lt_mul positive]
    have odd : length ≠ count * ourMss := by
      intro even
      rw [even, Nat.mul_div_cancel _ positive] at rest
      exact absurd rest (Nat.lt_irrefl _)
    omega
  case isFalse even =>
    have whole : length / ourMss * ourMss = length := by omega
    rw [← Nat.mul_le_mul_right_iff positive, whole]

/-- The size of the array fits its 32 bits if the message has at most that many
packets' bytes. -/
theorem arraySize_fits_iff {ourMss : UInt16} (size : ourMss ≠ 0) (length : Nat) :
    pktsCount ourMss.toNat length * SIZEOF_POINTER < 4294967296 ↔
      length ≤ 1073741823 * ourMss.toNat := by
  rw [← pktsCount_le_iff (positive_of_ne_zero size), SIZEOF_POINTER]
  omega

theorem allocatedSlots_fits {count : Nat} (fits : count * SIZEOF_POINTER < 4294967296) :
    allocatedSlots count = count := by
  rw [allocatedSlots, Nat.mod_eq_of_lt fits]
  exact Nat.mul_div_cancel _ (by decide)

theorem allocatedSlots_wraps {count : Nat} (wraps : ¬ count * SIZEOF_POINTER < 4294967296) :
    allocatedSlots count < count := by
  unfold allocatedSlots SIZEOF_POINTER at *
  omega

/-- The loop fills one slot for each chunk that is left, if there are enough. -/
theorem fillPackets_eq {ourMss dataLen : Nat} (fuel : Nat) (built : List UMPPacket)
    (slots totalLen : Nat) (userData : List UInt8)
    (left : totalLen + userData.length = dataLen) :
    (fillPackets ourMss dataLen fuel
      ⟨built.map some ++ List.replicate slots none, built.length, totalLen, userData⟩).map (·.pkts) =
      let pieces := (chunksOf ourMss fuel userData).map (uPacketSetData (uPacketNew .data .outgoing))
      if pieces.length ≤ slots then
        some ((built ++ pieces).map some ++ List.replicate (slots - pieces.length) none)
      else none := by
  induction fuel generalizing built slots totalLen userData with
  | zero => simp [fillPackets, chunksOf]
  | succ fuel inductionHypothesis =>
      cases userData with
      | nil =>
          simp only [List.length_nil, Nat.add_zero] at left
          simp [fillPackets, chunksOf, left]
      | cons byte rest =>
          have more : totalLen < dataLen := by
            simp only [List.length_cons] at left
            omega
          have size : min ourMss (dataLen - totalLen) = min ourMss (byte :: rest).length := by
            rw [← left, Nat.add_sub_cancel_left]
          have taken : (byte :: rest).take (min ourMss (byte :: rest).length) =
              (byte :: rest).take ourMss := List.take_eq_take_min.symm
          have dropped : (byte :: rest).drop (min ourMss (byte :: rest).length) =
              (byte :: rest).drop ourMss := by
            by_cases long : ourMss ≤ (byte :: rest).length
            · rw [Nat.min_eq_left long]
            · rw [Nat.min_eq_right (by omega), List.drop_length,
                List.drop_eq_nil_of_le (by omega)]
          simp only [fillPackets, if_pos more, fillPacket, size, taken, dropped, List.length_append,
            List.length_map, List.length_replicate]
          cases slots with
          | zero =>
              rw [if_neg (by omega)]
              simp [chunksOf]
          | succ slots =>
              have stored (p : UMPPacket) :
                  (built.map some ++ List.replicate (slots + 1) none).set built.length (some p) =
                    (built ++ [p]).map some ++ List.replicate slots none := by
                rw [List.set_append_right _ _ (by simp)]
                simp [List.replicate_succ]
              rw [if_pos (by omega), Option.bind_some, stored]
              have behind := inductionHypothesis (built ++ [uPacketSetData
                (uPacketNew .data .outgoing) ((byte :: rest).take ourMss)]) slots
                (totalLen + min ourMss (byte :: rest).length) ((byte :: rest).drop ourMss)
                (by rw [List.length_drop]; omega)
              rw [List.length_append, List.length_singleton] at behind
              rw [behind]
              simp [chunksOf]

/-- The array is full of the message's packets if as many slots were allocated;
otherwise the loop runs past its end. -/
theorem buildMessage_eq (ourMss : UInt16) (size : ourMss ≠ 0) (data : List UInt8) :
    buildMessage ourMss data =
      if pktsCount ourMss.toNat data.length * SIZEOF_POINTER < 4294967296 then
        some ((messagePackets ourMss data).map some)
      else none := by
  have filled := @fillPackets_eq ourMss.toNat data.length data.length []
    (allocatedSlots (pktsCount ourMss.toNat data.length)) 0 data (Nat.zero_add _)
  simp only [List.map_nil, List.nil_append, List.length_nil] at filled
  have count := messagePackets_length ourMss size data
  rw [messagePackets] at count
  rw [buildMessage]
  simp only [filled, count]
  by_cases fits : pktsCount ourMss.toNat data.length * SIZEOF_POINTER < 4294967296
  · rw [if_pos fits, allocatedSlots_fits fits, if_pos (Nat.le_refl _), Nat.sub_self]
    simp [messagePackets]
  · rw [if_neg fits, if_neg (Nat.not_le.mpr (allocatedSlots_wraps fits))]

/-! ### Sizes -/

/-- All chunks but the last are full, and the last one is not empty. -/
theorem chunksOf_sizes {ourMss : Nat} (positive : 0 < ourMss) (fuel : Nat) (data : List UInt8)
    (enough : data.length ≤ fuel) {i : Nat} {piece : List UInt8}
    (found : (chunksOf ourMss fuel data)[i]? = some piece) :
    1 ≤ piece.length ∧ piece.length ≤ ourMss ∧
      (i + 1 < (chunksOf ourMss fuel data).length → piece.length = ourMss) := by
  induction fuel generalizing data i with
  | zero => simp [chunksOf] at found
  | succ fuel inductionHypothesis =>
      cases data with
      | nil => simp [chunksOf] at found
      | cons byte rest =>
          simp only [List.length_cons] at enough
          cases i with
          | zero =>
              simp only [chunksOf, List.getElem?_cons_zero, Option.some.injEq] at found
              have length : piece.length = min ourMss (rest.length + 1) := by
                rw [← found, List.length_take, List.length_cons]
              refine ⟨by omega, by omega, ?_⟩
              intro another
              have more : (byte :: rest).drop ourMss ≠ [] := by
                intro none
                simp only [chunksOf, none, List.length_cons] at another
                cases fuel <;> simp [chunksOf] at another
              have long := List.length_pos_iff.mpr more
              rw [List.length_drop, List.length_cons] at long
              omega
          | succ i =>
              simp only [chunksOf, List.getElem?_cons_succ] at found
              have behind := inductionHypothesis ((byte :: rest).drop ourMss)
                (by rw [List.length_drop, List.length_cons]; omega) found
              simpa [chunksOf] using behind

/-- What a packet of a message carries, by its place. -/
structure Sized (ourMss count i : Nat) (p : UMPPacket) : Prop where
  nonempty : 1 ≤ p.userData.length
  bounded : p.userData.length ≤ ourMss
  full : i + 1 < count → p.userData.length = ourMss

theorem messagePackets_sized {ourMss : UInt16} (size : ourMss ≠ 0) (data : List UInt8) {i : Nat}
    {p : UMPPacket} (found : (messagePackets ourMss data)[i]? = some p) :
    Sized ourMss.toNat (messagePackets ourMss data).length i p := by
  have positive := positive_of_ne_zero size
  rw [messagePackets, List.getElem?_map] at found
  obtain ⟨piece, here, rfl⟩ := Option.map_eq_some_iff.mp found
  obtain ⟨nonempty, bounded, full⟩ := chunksOf_sizes positive _ data (Nat.le_refl _) here
  rw [messagePackets, List.length_map]
  exact ⟨nonempty, bounded, full⟩

/-! ### Numbers -/

theorem markFragments_getElem? (fragments : List Fragment) (i : Nat) :
    (markFragments fragments)[i]? =
      fragments[i]?.map fun piece => { piece with last := piece.last || i + 1 = fragments.length } := by
  induction fragments using markFragments.induct generalizing i with
  | case1 => simp [markFragments]
  | case2 piece => cases i <;> simp [markFragments]
  | case3 piece next rest inductionHypothesis =>
      cases i with
      | zero => simp [markFragments]
      | succ i => simpa [markFragments] using inductionHypothesis i

/-- How packet `p` of a message of `count` packets is sent as packet `q`. -/
structure Numbered (start : UInt16) (count i : Nat) (p q : UMPPacket) : Prop where
  number : q.seqNum = start + UInt16.ofNat i
  numbered : uPacketGetFlag q UP_DATA_SEQ = true
  last : uPacketGetFlag q UP_DATA_BDR = true ↔ i + 1 = count
  bytes : q.userData = p.userData

theorem preparePackets_numbered (start : UInt16) {packets : List UMPPacket}
    (fresh : ∀ p ∈ packets, Fresh p) {i : Nat} {p : UMPPacket} (found : packets[i]? = some p) :
    ∃ q, (preparePackets start packets)[i]? = some q ∧ Numbered start packets.length i p q := by
  have inside : i < (preparePackets start packets).length := by
    rw [preparePackets_length]
    exact (List.getElem?_eq_some_iff.mp found).1
  have there := List.getElem?_eq_getElem inside
  generalize (preparePackets start packets)[i] = q at there
  have inSequence := preparePackets_inMessage start packets fresh i q there
  have pieces := congrArg (·[i]?) (preparePackets_fragments start packets fresh)
  simp only [List.getElem?_map, there, markFragments_getElem?, found, Option.map_some,
    Option.some.injEq, List.length_map, fragment,
    (fresh p (List.mem_of_getElem? found)).open', Bool.false_or, Fragment.mk.injEq] at pieces
  refine ⟨q, there, ?_, inSequence.numbered, ?_, pieces.1⟩
  · rw [inSequence.seqNum, Serial.place_natCast]
  · rw [pieces.2]
    exact decide_eq_true_iff

/-! ### The buffer of a received message -/

/-- The first loop of `ump_end_receive_internal` adds the lengths up in a `gint`. -/
def sizePackets : List UMPPacket → Int → Int
  | [], dataLen => dataLen
  | p :: rest, dataLen => sizePackets rest (glong (dataLen + p.userData.length))

/-- The second loop copies the data to `data+data_pos`; `none` when a copy ends
past the buffer. -/
def copyPackets : List UMPPacket → Nat → List UInt8 → Option (List UInt8)
  | [], _, data => some data
  | p :: rest, dataPos, data =>
      let next := dataPos + p.userData.length
      if next ≤ data.length then
        copyPackets rest next (data.take dataPos ++ p.userData ++ data.drop next)
      else none

theorem sizePackets_eq (packets : List UMPPacket) (counted : Nat)
    (bounded : counted + (packets.flatMap (·.userData)).length ≤ 2147483647) :
    sizePackets packets counted = (counted + (packets.flatMap (·.userData)).length : Nat) := by
  induction packets generalizing counted with
  | nil => simp [sizePackets]
  | cons p rest inductionHypothesis =>
      simp only [List.flatMap_cons, List.length_append] at bounded ⊢
      have exact' : glong ((counted : Int) + p.userData.length) =
          ((counted + p.userData.length : Nat) : Int) := by
        rw [glong, Int.bmod_eq_of_le] <;> omega
      rw [sizePackets, exact', inductionHypothesis _ (by omega), Nat.add_assoc]

/-- Behind what is copied already, the buffer takes exactly the rest. -/
theorem copyPackets_eq (packets : List UMPPacket) (copied buffer : List UInt8)
    (size : buffer.length = (packets.flatMap (·.userData)).length) :
    copyPackets packets copied.length (copied ++ buffer) =
      some (copied ++ packets.flatMap (·.userData)) := by
  induction packets generalizing copied buffer with
  | nil =>
      have empty : buffer = [] := List.eq_nil_of_length_eq_zero size
      simp [copyPackets, empty]
  | cons p rest inductionHypothesis =>
      simp only [List.flatMap_cons, List.length_append] at size
      have fits : copied.length + p.userData.length ≤ (copied ++ buffer).length := by
        rw [List.length_append]
        omega
      have behind := inductionHypothesis (copied ++ p.userData) (buffer.drop p.userData.length)
        (by rw [List.length_drop]; omega)
      rw [List.length_append] at behind
      rw [copyPackets]
      simp only [if_pos fits, List.take_left, List.drop_append, List.drop_eq_nil_of_le
        (Nat.le_add_right copied.length p.userData.length), List.nil_append, Nat.add_sub_cancel_left]
      rw [behind, List.flatMap_cons, List.append_assoc]

/-- The sockets' operation is what the two loops compute. -/
theorem umpEndReceiveInternal_recMsg {Lists : Type} [ReceiveLists Lists] (u : UMPSocket Lists)
    {packets : List UMPPacket} (held : ReceiveLists.recMsgPackets u.lists = some packets) :
    (umpEndReceiveInternal u).core.rcv.recMsg = packets.flatMap (·.userData) := by
  unfold umpEndReceiveInternal umpHarvestMessages
  dsimp only
  rw [held]
  split <;> rfl

/-! ### There and back -/

/-- The packets `ump_end_receive_internal` makes `data` of: the buffer has its
length, whatever it contained before it has these bytes afterwards, and so does
every socket that holds the packets. -/
structure Reassembles (packets : List UMPPacket) (data : List UInt8) : Prop where
  size : sizePackets packets 0 = data.length
  copied : ∀ buffer : List UInt8, (buffer.length : Int) = sizePackets packets 0 →
    copyPackets packets 0 buffer = some data
  received : ∀ (Lists : Type) [ReceiveLists Lists] (u : UMPSocket Lists),
    ReceiveLists.recMsgPackets u.lists = some packets →
      (umpEndReceiveInternal u).core.rcv.recMsg = data

theorem reassembles_of_bytes {packets : List UMPPacket} {data : List UInt8}
    (bytes : packets.flatMap (·.userData) = data) (bounded : data.length ≤ 2147483647) :
    Reassembles packets data := by
  have size : sizePackets packets 0 = data.length := by
    have counted := sizePackets_eq packets 0 (by rw [bytes]; omega)
    rwa [bytes, Nat.zero_add] at counted
  refine ⟨size, ?_, ?_⟩
  · intro buffer length
    have copied := copyPackets_eq packets [] buffer (by rw [bytes]; omega)
    simpa [bytes] using copied
  · intro Lists _ u held
    rw [umpEndReceiveInternal_recMsg u held, bytes]

/-- The states in which `ump_sndunlocked_handle_snd` takes a message up. -/
structure TakesMessage (s : SocketCore) : Prop where
  unlocked : s.snd.sndLocked = .unlocked
  idle : s.snd.sndParaLock = false
  established : s.ctrl.state = .established
  noError : s.ctrl.errorOccured = false

/-- `ump_send_message` fills its array with the packets of `data`, and when these
are taken up they are numbered and carry the message to the receiver. -/
structure Invertible (s : SocketCore) (data : List UInt8) (packets : List UMPPacket) : Prop where
  built : buildMessage s.snd.ourMss data = some (packets.map some)
  count : packets.length = pktsCount s.snd.ourMss.toNat data.length
  sized : ∀ i p, packets[i]? = some p → Sized s.snd.ourMss.toNat packets.length i p
  sent : TakesMessage s → ∃ numbered,
    (umpHandleSend (umpSockSend s packets packets.length)).snd.sndPackets = some numbered ∧
      numbered.length = packets.length ∧
      (∀ i p, packets[i]? = some p →
        ∃ q, numbered[i]? = some q ∧ Numbered s.snd.ourDataStartSeq packets.length i p q) ∧
      Reassembles numbered data

theorem umpHandleSend_takes {s : SocketCore} (takes : TakesMessage s) {packets : List UMPPacket}
    (some : packets ≠ []) :
    (umpHandleSend (umpSockSend s packets packets.length)).snd.sndPackets =
      Option.some (preparePackets s.snd.ourDataStartSeq packets) := by
  have counted : ¬ (packets.length : Int) < 1 := by
    have := List.length_pos_iff.mpr some
    omega
  simp [umpHandleSend, umpSockSend, takes.unlocked, takes.idle, takes.established, takes.noError,
    counted, startMessage, umpRefreshSndWndPos, SocketCore.act]

theorem messagePackets_bytes {ourMss : UInt16} (size : ourMss ≠ 0) (data : List UInt8) :
    (messagePackets ourMss data).flatMap (·.userData) = data := by
  have positive := positive_of_ne_zero size
  rw [messagePackets, List.flatMap_map]
  have flattened := chunksOf_flatten _ positive _ data (Nat.le_refl _)
  rwa [← List.flatMap_id'] at flattened

theorem preparePackets_bytes (start : UInt16) {packets : List UMPPacket}
    (fresh : ∀ p ∈ packets, Fresh p) :
    (preparePackets start packets).flatMap (·.userData) = packets.flatMap (·.userData) := by
  have pieces := congrArg fragmentBytes (preparePackets_fragments start packets fresh)
  rw [fragmentBytes_mark] at pieces
  simp only [fragmentBytes, List.flatMap_map] at pieces
  exact pieces

theorem messagePackets_invertible {s : SocketCore} {data : List UInt8} (some : data ≠ [])
    (bounded : data.length ≤ 2147483647) (size : s.snd.ourMss ≠ 0)
    (fits : pktsCount s.snd.ourMss.toNat data.length * SIZEOF_POINTER < 4294967296) :
    Invertible s data (messagePackets s.snd.ourMss data) where
  built := by rw [buildMessage_eq _ size, if_pos fits]
  count := messagePackets_length _ size data
  sized := fun _ _ found => messagePackets_sized size data found
  sent := by
    intro takes
    have fresh := messagePackets_fresh s.snd.ourMss data
    have bytes := messagePackets_bytes size data
    have packets : messagePackets s.snd.ourMss data ≠ [] := by
      intro empty
      rw [empty] at bytes
      exact some bytes.symm
    refine ⟨_, umpHandleSend_takes takes packets, preparePackets_length _ _, ?_, ?_⟩
    · intro i p found
      exact preparePackets_numbered _ fresh found
    · apply reassembles_of_bytes _ bounded
      rw [preparePackets_bytes _ fresh, bytes]

theorem not_invertible {s : SocketCore} {data : List UInt8} (size : s.snd.ourMss ≠ 0)
    (wraps : ¬ pktsCount s.snd.ourMss.toNat data.length * SIZEOF_POINTER < 4294967296)
    (packets : List UMPPacket) : ¬ Invertible s data packets := by
  intro invertible
  have built := invertible.built
  rw [buildMessage_eq _ size, if_neg wraps] at built
  exact absurd built (by simp)

/-- Messages are cut and put together again unless they have 2^30 packets or more,
so that the size of the array wraps. -/
theorem invertible_iff (s : SocketCore) (data : List UInt8) (some : data ≠ [])
    (bounded : data.length ≤ 2147483647) (size : s.snd.ourMss ≠ 0) :
    (∃ packets, Invertible s data packets) ↔ data.length ≤ 1073741823 * s.snd.ourMss.toNat := by
  rw [← arraySize_fits_iff size]
  constructor
  · intro ⟨packets, invertible⟩
    by_contra wraps
    exact not_invertible size wraps packets invertible
  · intro fits
    exact ⟨_, messagePackets_invertible some bounded size fits⟩

/-! ### Examples -/

/-- A SYN that asks for packets of one byte. -/
def narrowSyn : UMPPacket := { synPacket 7 1 with direction := .incomming }

/-- A new socket that takes it. -/
def narrowSocket : SocketCore := takeSyn (umpSockNewCore 0 ⟨fun _ => ⟨0, 0⟩, 0⟩) narrowSyn

/-- The socket behind that SYN, its answer and the ack for the answer. -/
def bytewiseSocket : SocketCore :=
  umpHandleCtrlPacket
    (umpHandleSendCtrlPacket
      (umpHandleCtrlPacket (umpSockNewCore 0 ⟨fun _ => ⟨0, 0⟩, 0⟩) narrowSyn))
    { uPacketSetFlag (uPacketNew .control .incomming) UP_CTRL_ACK with ackNum := 1 }

/-- The connection is open, so the three packets are taken up. -/
theorem invertible_smallMessage : bytewiseSocket.snd.ourMss = 1 ∧ TakesMessage bytewiseSocket ∧
    ∃ packets, Invertible bytewiseSocket [1, 2, 3] packets :=
  ⟨by decide, ⟨by decide, by decide, by decide, by decide⟩,
    (invertible_iff bytewiseSocket [1, 2, 3] (by decide) (by decide) (by decide)).mpr (by decide)⟩

/-- A gigabyte sent byte by byte takes as many packets as let the size of their
array wrap to nothing. -/
theorem invertible_fails : ¬ ∀ (s : SocketCore) (data : List UInt8), data ≠ [] →
    data.length ≤ 2147483647 → s.snd.ourMss ≠ 0 → ∃ packets, Invertible s data packets := by
  intro all
  have length : (List.replicate 1073741824 (0 : UInt8)).length = 1073741824 := List.length_replicate
  obtain ⟨packets, invertible⟩ := all narrowSocket (List.replicate 1073741824 0)
    (by rw [ne_eq, ← List.length_eq_zero_iff, length]; decide) (by rw [length]; decide) (by decide)
  apply not_invertible _ _ packets invertible
  · decide
  · have byte : narrowSocket.snd.ourMss.toNat = 1 := by decide
    rw [arraySize_fits_iff (by decide), length, byte]
    decide

end UserMessageProtocol
