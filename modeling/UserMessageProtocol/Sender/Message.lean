import UserMessageProtocol.Packet.Flags
import UserMessageProtocol.Socket.Sender

/-!
Contract: the packets of a message.

Owns: the pieces a message is cut into (`Fragment`), the shape of the packets
that wait to be numbered (`Fresh`) and of those that carry a number
(`InMessage`), and what numbering and transmission do to them.

Does not own: which packets are sent, and when.
-/

set_option autoImplicit false

namespace UserMessageProtocol

open Serial

/-! ### Fragments -/

/-- What a packet carries of a message, and whether it is the last one. -/
structure Fragment where
  bytes : List UInt8
  last : Bool
deriving DecidableEq, Repr

def fragment (p : UMPPacket) : Fragment := ⟨p.userData, uPacketGetFlag p UP_DATA_BDR⟩

/-- The bytes a list of fragments carries. -/
def fragmentBytes (fragments : List Fragment) : List UInt8 := fragments.flatMap Fragment.bytes

/-- All fragments but the last are marked as such. -/
def markFragments : List Fragment → List Fragment
  | [] => []
  | [last] => [{ last with last := true }]
  | piece :: next :: rest => piece :: markFragments (next :: rest)

theorem fragmentBytes_mark (fragments : List Fragment) :
    fragmentBytes (markFragments fragments) = fragmentBytes fragments := by
  induction fragments using markFragments.induct with
  | case1 => rfl
  | case2 => rfl
  | case3 piece next rest inductionHypothesis =>
      simp only [markFragments, fragmentBytes, List.flatMap_cons] at inductionHypothesis ⊢
      rw [inductionHypothesis]

/-! ### Packets that wait to be numbered -/

/-- A data packet with no flags that `ump_send_message` made. -/
structure Fresh (p : UMPPacket) : Prop where
  pType : p.pType = .data
  proper : Proper p
  open' : uPacketGetFlag p UP_DATA_BDR = false

theorem fresh_setData (bytes : List UInt8) :
    Fresh (uPacketSetData (uPacketNew .data .outgoing) bytes) :=
  ⟨rfl, (proper_uPacketNew .data .outgoing).setData bytes, by rw [getFlag_setData]; decide⟩

theorem messagePackets_fresh (ourMss : UInt16) (data : List UInt8) :
    ∀ p ∈ messagePackets ourMss data, Fresh p := by
  intro p member
  obtain ⟨bytes, -, rfl⟩ := List.mem_map.mp member
  exact fresh_setData bytes

/-- The chunks are the whole message. -/
theorem chunksOf_flatten (ourMss : Nat) (positive : 0 < ourMss) (fuel : Nat) (data : List UInt8)
    (enough : data.length ≤ fuel) : (chunksOf ourMss fuel data).flatten = data := by
  induction fuel generalizing data with
  | zero => simp [chunksOf, List.length_eq_zero_iff.mp (Nat.le_zero.mp enough)]
  | succ fuel inductionHypothesis =>
      cases data with
      | nil => rfl
      | cons byte rest =>
          rw [chunksOf, List.flatten_cons, inductionHypothesis]
          · exact List.take_append_drop _ _
          · simp only [List.length_drop, List.length_cons] at enough ⊢
            omega

theorem pktsCount_zero (ourMss : Nat) : pktsCount ourMss 0 = 0 := by
  simp [pktsCount]

/-- A message that is not empty needs one packet more than what its first chunk leaves. -/
theorem pktsCount_pos {ourMss length : Nat} (positive : 0 < ourMss) (some : 0 < length) :
    pktsCount ourMss length = pktsCount ourMss (length - ourMss) + 1 := by
  by_cases short : length < ourMss
  · have rest : length - ourMss = 0 := by omega
    rw [rest, pktsCount_zero, pktsCount]
    simp [Nat.div_eq_of_lt short, some]
  · have quotient : length / ourMss = (length - ourMss) / ourMss + 1 :=
      Nat.div_eq_sub_div positive (by omega)
    have product : ((length - ourMss) / ourMss + 1) * ourMss =
        (length - ourMss) / ourMss * ourMss + ourMss := Nat.succ_mul _ _
    simp only [pktsCount, quotient, product]
    split <;> split <;> omega

theorem positive_of_ne_zero {ourMss : UInt16} (size : ourMss ≠ 0) : 0 < ourMss.toNat := by
  rcases Nat.eq_zero_or_pos ourMss.toNat with zero | positive
  · exact absurd (UInt16.toNat_inj.mp zero) size
  · exact positive

/-- There are as many packets as were counted. -/
theorem messagePackets_length (ourMss : UInt16) (positive : ourMss ≠ 0) (data : List UInt8) :
    (messagePackets ourMss data).length = pktsCount ourMss.toNat data.length := by
  have size := positive_of_ne_zero positive
  have chunks (fuel : Nat) (data : List UInt8) (enough : data.length ≤ fuel) :
      (chunksOf ourMss.toNat fuel data).length = pktsCount ourMss.toNat data.length := by
    induction fuel generalizing data with
    | zero =>
        rw [List.length_eq_zero_iff.mp (Nat.le_zero.mp enough)]
        exact (pktsCount_zero _).symm
    | succ fuel inductionHypothesis =>
        cases data with
        | nil => exact (pktsCount_zero _).symm
        | cons byte rest =>
            rw [chunksOf, List.length_cons, inductionHypothesis, List.length_drop,
              ← pktsCount_pos size (by simp)]
            simp only [List.length_drop, List.length_cons] at enough ⊢
            omega
  rw [messagePackets, List.length_map, chunks _ _ (Nat.le_refl _)]

/-! ### Packets of a message -/

/-- A packet that stands at `number` in the sequence. -/
structure InSequence (number : UInt16) (p : UMPPacket) : Prop where
  pType : p.pType = .data
  proper : Proper p
  numbered : uPacketGetFlag p UP_DATA_SEQ = true
  seqNum : p.seqNum = number

/-- Packets that stand in sequence from `start` on. -/
def InMessage (start : UInt16) (packets : List UMPPacket) : Prop :=
  ∀ (i : Nat) (p : UMPPacket), packets[i]? = some p → InSequence (place start i) p

theorem inSequence_number {p : UMPPacket} (fresh : Fresh p) (seq : UInt16) :
    InSequence seq { uPacketSetFlag p UP_DATA_SEQ with seqNum := seq } where
  pType := by simp [fresh.pType]
  proper := fresh.proper.setFlag (by rw [fresh.pType]; decide)
  numbered := by
    have flag := getFlag_setFlag p UP_DATA_SEQ UP_DATA_SEQ
    rw [fresh.pType] at flag
    have masks : decide (UP_DATA_SEQ &&& UP_DATA_SEQ > 0) = true := by decide
    exact flag.trans (by rw [masks]; simp [sameByte])
  seqNum := rfl

/-- The last packet of a message keeps its place. -/
theorem InSequence.mark {number : UInt16} {p : UMPPacket} (inSequence : InSequence number p) :
    InSequence number (uPacketSetFlag p UP_DATA_BDR) where
  pType := by simp [inSequence.pType]
  proper := inSequence.proper.setFlag (by rw [inSequence.pType]; decide)
  numbered := by simp [getFlag_setFlag, inSequence.numbered]
  seqNum := by simp [inSequence.seqNum]

theorem numberPackets_length (start : UInt16) (packets : List UMPPacket) :
    (numberPackets start packets).length = packets.length := by
  induction packets generalizing start with
  | nil => rfl
  | cons p rest inductionHypothesis => simp [numberPackets, inductionHypothesis]

theorem markLast_length (packets : List UMPPacket) :
    (markLast packets).length = packets.length := by
  induction packets using markLast.induct with
  | case1 => rfl
  | case2 => rfl
  | case3 p q rest inductionHypothesis => simpa [markLast] using inductionHypothesis

@[simp] theorem preparePackets_length (start : UInt16) (packets : List UMPPacket) :
    (preparePackets start packets).length = packets.length := by
  rw [preparePackets, markLast_length, numberPackets_length]

theorem numberPackets_inMessage (start : UInt16) (packets : List UMPPacket)
    (fresh : ∀ p ∈ packets, Fresh p) : InMessage start (numberPackets start packets) := by
  induction packets generalizing start with
  | nil =>
      intro i p found
      simp [numberPackets] at found
  | cons p rest inductionHypothesis =>
      intro i q found
      cases i with
      | zero =>
          simp only [numberPackets, List.getElem?_cons_zero, Option.some.injEq] at found
          subst found
          have here := inSequence_number (fresh p (by simp)) start
          simpa using here
      | succ i =>
          simp only [numberPackets, List.getElem?_cons_succ] at found
          have behind := inductionHypothesis (start + 1) (fun r member => fresh r (by simp [member]))
            i q found
          have next : start + 1 = place start 1 := by
            have step := place_add_one start 0
            simpa using step
          rw [next, place_place] at behind
          rw [Nat.cast_add, Nat.cast_one, Int.add_comm]
          exact behind

theorem markLast_inMessage (start : UInt16) (packets : List UMPPacket)
    (inMessage : InMessage start packets) : InMessage start (markLast packets) := by
  induction packets using markLast.induct generalizing start with
  | case1 => exact inMessage
  | case2 last =>
      intro i p found
      cases i with
      | zero =>
          simp only [markLast, List.getElem?_cons_zero, Option.some.injEq] at found
          subst found
          exact (inMessage 0 last rfl).mark
      | succ i => simp [markLast] at found
  | case3 p q rest inductionHypothesis =>
      intro i r found
      cases i with
      | zero => exact inMessage 0 r (by simpa [markLast] using found)
      | succ i =>
          have rest' : InMessage (place start 1) (q :: rest) := by
            intro j r found
            rw [place_place, Int.add_comm, ← Nat.cast_one, ← Nat.cast_add]
            exact inMessage (j + 1) r (by simpa using found)
          have behind := inductionHypothesis (place start 1) rest' i r
            (by simpa [markLast] using found)
          rw [place_place] at behind
          rw [Nat.cast_add, Nat.cast_one, Int.add_comm]
          exact behind

theorem preparePackets_inMessage (start : UInt16) (packets : List UMPPacket)
    (fresh : ∀ p ∈ packets, Fresh p) : InMessage start (preparePackets start packets) :=
  markLast_inMessage start _ (numberPackets_inMessage start packets fresh)

/-- The fragments of a message as it is numbered. -/
theorem preparePackets_fragments (start : UInt16) (packets : List UMPPacket)
    (fresh : ∀ p ∈ packets, Fresh p) :
    (preparePackets start packets).map fragment = markFragments (packets.map fragment) := by
  have numbered (start : UInt16) (packets : List UMPPacket) (fresh : ∀ p ∈ packets, Fresh p) :
      (numberPackets start packets).map fragment = packets.map fragment ∧
        ∀ p ∈ numberPackets start packets, p.pType = .data := by
    induction packets generalizing start with
    | nil => simp [numberPackets]
    | cons p rest inductionHypothesis =>
        obtain ⟨same, typed⟩ := inductionHypothesis (start + 1)
          (fun q member => fresh q (by simp [member]))
        have data := (fresh p (by simp)).pType
        refine ⟨?_, ?_⟩
        · simp only [numberPackets, List.map_cons, same, List.cons.injEq, and_true]
          have flag := getFlag_setFlag p UP_DATA_SEQ UP_DATA_BDR
          have masks : decide (UP_DATA_SEQ &&& UP_DATA_BDR > 0) = false := by decide
          rw [masks, Bool.and_false, Bool.or_false] at flag
          exact congrArg₂ Fragment.mk (setFlag_userData p _) flag
        · intro q member
          simp only [numberPackets, List.mem_cons] at member
          rcases member with rfl | member
          · simp [data]
          · exact typed q member
  have marked (packets : List UMPPacket) (typed : ∀ p ∈ packets, p.pType = .data) :
      (markLast packets).map fragment = markFragments (packets.map fragment) := by
    induction packets using markLast.induct with
    | case1 => rfl
    | case2 last =>
        have flag := getFlag_setFlag last UP_DATA_BDR UP_DATA_BDR
        have same : sameByte last.pType UP_DATA_BDR UP_DATA_BDR = true := by
          simp [sameByte, typed last (by simp)]
        have masks : decide (UP_DATA_BDR &&& UP_DATA_BDR > 0) = true := by decide
        rw [same, masks, Bool.and_true, Bool.or_true] at flag
        simp only [markLast, List.map_cons, List.map_nil, markFragments, List.cons.injEq, and_true]
        exact congrArg₂ Fragment.mk (setFlag_userData last _) flag
    | case3 p q rest inductionHypothesis =>
        have tail := inductionHypothesis fun r member => typed r (by simp [member])
        simp only [List.map_cons] at tail
        simp only [markLast, List.map_cons, markFragments, tail]
  obtain ⟨same, typed⟩ := numbered start packets fresh
  rw [preparePackets, marked _ typed, same]

/-! ### Transmission -/

/-- What a function does not see of a change at one place. -/
theorem map_set_same {α β : Type} {f : α → β} {items : List α} {i : Nat} {old new : α}
    (found : items[i]? = some old) (same : f new = f old) :
    (items.set i new).map f = items.map f := by
  rw [List.map_set, same]
  apply List.ext_getElem?
  intro j
  by_cases here : i = j
  · subst here
    have inside : i < items.length := (List.getElem?_eq_some_iff.mp found).1
    rw [List.getElem?_set_self (by simpa using inside), List.getElem?_map, found]
    rfl
  · rw [List.getElem?_set_ne here]

section Outgoing

variable (ackInfo : UMPAckInfo) (p : UMPPacket)

@[simp] theorem setPacketAckInfo_pType : (umpSetPacketAckInfo ackInfo p).pType = p.pType := by
  simp [umpSetPacketAckInfo]

/-- A data packet with an ack has the flags for it besides its own. -/
theorem setPacketAckInfo_getFlag (data : p.pType = .data) (mask : UInt8) :
    uPacketGetFlag (umpSetPacketAckInfo ackInfo p) mask =
      (uPacketGetFlag p mask || decide (UP_DATA_ACK &&& mask > 0) ||
        decide (UP_DATA_WND &&& mask > 0)) := by
  have first := getFlag_setFlag p UP_DATA_ACK mask
  have second := getFlag_setFlag
    { uPacketSetFlag p UP_DATA_ACK with ackNum := ackInfo.dataAckSeq } UP_DATA_WND mask
  have type : ({ uPacketSetFlag p UP_DATA_ACK with ackNum := ackInfo.dataAckSeq } : UMPPacket).pType
      = .data := by simp [data]
  rw [data] at first
  rw [type] at second
  have bytes : sameByte .data UP_DATA_ACK mask = true ∧ sameByte .data UP_DATA_WND mask = true :=
    ⟨rfl, rfl⟩
  rw [bytes.1, Bool.true_and] at first
  rw [bytes.2, Bool.true_and] at second
  exact second.trans (congrArg (· || decide (UP_DATA_WND &&& mask > 0)) first)

theorem clearPacketAckInfo_getFlag (mask : UInt8) (ack : UP_DATA_ACK &&& mask = 0)
    (wnd : UP_DATA_WND &&& mask = 0) :
    uPacketGetFlag (umpClearPacketAckInfo p) mask = uPacketGetFlag p mask := by
  rw [umpClearPacketAckInfo, getFlag_clearFlag _ _ _ wnd, getFlag_clearFlag _ _ _ ack]

/-- Transmission leaves all flags alone but those for the ack. -/
theorem outgoingPacket_getFlag (data : p.pType = .data) (mask : UInt8)
    (ack : UP_DATA_ACK &&& mask = 0) (wnd : UP_DATA_WND &&& mask = 0) :
    uPacketGetFlag (outgoingPacket ackInfo p) mask = uPacketGetFlag p mask := by
  unfold outgoingPacket
  rw [getFlag_toBinary]
  split
  · rw [setPacketAckInfo_getFlag _ _ data, ack, wnd]
    simp
  · exact clearPacketAckInfo_getFlag p mask ack wnd

@[simp] theorem outgoingPacket_pType : (outgoingPacket ackInfo p).pType = p.pType := by
  unfold outgoingPacket
  rw [toBinary_pType]
  split <;> simp [umpClearPacketAckInfo]

@[simp] theorem outgoingPacket_seqNum : (outgoingPacket ackInfo p).seqNum = p.seqNum := by
  unfold outgoingPacket
  rw [toBinary_seqNum]
  split <;> simp [umpSetPacketAckInfo, umpClearPacketAckInfo]

@[simp] theorem outgoingPacket_userData : (outgoingPacket ackInfo p).userData = p.userData := by
  unfold outgoingPacket
  rw [toBinary_userData]
  split <;> simp [umpSetPacketAckInfo, umpClearPacketAckInfo]

/-- The ack fields of a packet are not part of its fragment. -/
theorem outgoingPacket_fragment (data : p.pType = .data) :
    fragment (outgoingPacket ackInfo p) = fragment p := by
  rw [fragment, outgoingPacket_getFlag ackInfo p data UP_DATA_BDR (by decide) (by decide),
    outgoingPacket_userData, fragment]

theorem InSequence.outgoing {number : UInt16} {p : UMPPacket} (inSequence : InSequence number p) :
    InSequence number (outgoingPacket ackInfo p) where
  pType := by simp [inSequence.pType]
  proper := by
    unfold outgoingPacket
    refine Proper.toBinary ?_
    split
    · have acked : Proper (uPacketSetFlag p UP_DATA_ACK) :=
        inSequence.proper.setFlag (by rw [inSequence.pType]; decide)
      exact Proper.setFlag (p := { uPacketSetFlag p UP_DATA_ACK with ackNum := ackInfo.dataAckSeq })
        acked (by simp [inSequence.pType]; decide)
    · refine (inSequence.proper.clearFlag ?_).clearFlag ?_
      · rw [inSequence.pType]
        decide
      · rw [uPacketClearFlag_pType, inSequence.pType]
        decide
  numbered := by
    rw [outgoingPacket_getFlag ackInfo p inSequence.pType UP_DATA_SEQ (by decide) (by decide)]
    exact inSequence.numbered
  seqNum := by simp [inSequence.seqNum]

/-- The packets of a message stay those of the message when one is transmitted. -/
theorem InMessage.set {start : UInt16} {packets : List UMPPacket} {i : Nat} {p : UMPPacket}
    (inMessage : InMessage start packets) (found : packets[i]? = some p) :
    InMessage start (packets.set i (outgoingPacket ackInfo p)) := by
  intro j q there
  by_cases same : i = j
  · subst same
    have inside : i < packets.length := (List.getElem?_eq_some_iff.mp found).1
    rw [List.getElem?_set_self inside, Option.some.injEq] at there
    rw [← there]
    exact (inMessage i p found).outgoing ackInfo
  · rw [List.getElem?_set_ne same] at there
    exact inMessage j q there

end Outgoing

end UserMessageProtocol
