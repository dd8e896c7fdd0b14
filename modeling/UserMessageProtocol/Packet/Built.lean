import UserMessageProtocol.Packet.Flags

/-!
Contract: every packet the protocol can build survives the wire.

Owns: the packets reached from `u_packet_new` by the accessors (`Built`), what
the receiver must get back (`Recovers`), and that it gets it.

Does not own: bytes no encoder has produced (`Packet.Acceptance`).
-/

set_option autoImplicit false

namespace UserMessageProtocol

/-- The flags that are not reserved. -/
def openFlags : UMPPacketType → List UInt8
  | .control =>
      [UP_CTRL_SYN, UP_CTRL_FIN, UP_CTRL_RST, UP_CTRL_SEQ, UP_CTRL_ACK, UP_CTRL_MSS, UP_CTRL_WND]
  | .data => [UP_DATA_REQWND, UP_DATA_BDR, UP_DATA_SEQ, UP_DATA_ACK, UP_DATA_WND]

/-- The packets built by `u_packet_new` and the accessors. -/
inductive Built (pType : UMPPacketType) : UMPPacket → Prop
  | new (direction : UMPPacketDirection) : Built pType (uPacketNew pType direction)
  | setFlag {p : UMPPacket} {mask : UInt8} (built : Built pType p)
      (isOpen : mask ∈ openFlags pType) : Built pType (uPacketSetFlag p mask)
  | clearFlag {p : UMPPacket} {mask : UInt8} (built : Built pType p)
      (isOpen : mask ∈ openFlags pType) : Built pType (uPacketClearFlag p mask)
  | assign {p : UMPPacket} (seqNum ackNum mssNum wndNum : UInt16) (built : Built pType p) :
      Built pType
        { p with seqNum := seqNum, ackNum := ackNum, mssNum := mssNum, wndNum := wndNum }
  | setData {p : UMPPacket} (userData : List UInt8) (built : Built pType p) :
      Built pType (uPacketSetData p userData)

theorem plainMask_of_open {pType : UMPPacketType} {mask : UInt8}
    (isOpen : mask ∈ openFlags pType) : PlainMask pType mask := by
  have all : (openFlags pType).all fun mask => decide (PlainMask pType mask) := by
    cases pType <;> decide
  exact of_decide_eq_true (List.all_eq_true.mp all mask isOpen)

theorem Built.pType_eq {pType : UMPPacketType} {p : UMPPacket} (built : Built pType p) :
    p.pType = pType := by
  induction built with
  | new direction => rfl
  | setFlag _ _ inductionHypothesis => rw [uPacketSetFlag_pType, inductionHypothesis]
  | clearFlag _ _ inductionHypothesis => rw [uPacketClearFlag_pType, inductionHypothesis]
  | assign _ _ _ _ _ inductionHypothesis => exact inductionHypothesis
  | setData userData _ inductionHypothesis => rw [setData_pType, inductionHypothesis]

theorem Built.proper {pType : UMPPacketType} {p : UMPPacket} (built : Built pType p) :
    Proper p := by
  induction built with
  | new direction => exact proper_uPacketNew pType direction
  | setFlag built isOpen inductionHypothesis =>
      apply inductionHypothesis.setFlag
      rw [built.pType_eq]
      exact plainMask_of_open isOpen
  | clearFlag built isOpen inductionHypothesis =>
      apply inductionHypothesis.clearFlag
      rw [built.pType_eq]
      exact plainMask_of_open isOpen
  | assign _ _ _ _ _ inductionHypothesis => exact inductionHypothesis
  | setData userData _ inductionHypothesis => exact inductionHypothesis.setData userData

/-- No accessor caches bytes. -/
theorem Built.notEncoded {pType : UMPPacketType} {p : UMPPacket} (built : Built pType p) :
    p.rawData = none := by
  induction built with
  | new direction => rfl
  | setFlag _ _ inductionHypothesis => rw [setFlag_rawData, inductionHypothesis]
  | clearFlag _ _ inductionHypothesis => rw [clearFlag_rawData, inductionHypothesis]
  | assign _ _ _ _ _ inductionHypothesis => exact inductionHypothesis
  | setData userData _ inductionHypothesis => rw [setData_rawData, inductionHypothesis]

/-- The receiver's packet `q` says what the sender's packet `p` says: the same
type, flags, checksum and user data, and every number whose flag is set. -/
structure Recovers (p q : UMPPacket) : Prop where
  pType : q.pType = p.pType
  flags : ∀ mask, uPacketGetFlag q mask = uPacketGetFlag p mask
  ctrlSeq : p.pType = .control → uPacketGetFlag p UP_CTRL_SEQ → q.seqNum = p.seqNum
  ctrlAck : p.pType = .control → uPacketGetFlag p UP_CTRL_ACK → q.ackNum = p.ackNum
  ctrlMss : p.pType = .control → uPacketGetFlag p UP_CTRL_MSS → q.mssNum = p.mssNum
  ctrlWnd : p.pType = .control → uPacketGetFlag p UP_CTRL_WND → q.wndNum = p.wndNum
  dataSeq : p.pType = .data → uPacketGetFlag p UP_DATA_SEQ → q.seqNum = p.seqNum
  dataAck : p.pType = .data → uPacketGetFlag p UP_DATA_ACK → q.ackNum = p.ackNum
  dataWnd : p.pType = .data → uPacketGetFlag p UP_DATA_WND → q.wndNum = p.wndNum
  checkSum : q.checkSum = (uPacketToBinary p).checkSum
  userData : q.userData = p.userData

theorem recovers_receivedForm {p : UMPPacket}
    (encoded : (uPacketToBinary p).checkSum = packetCheckSum p) :
    Recovers p (receivedForm p) where
  pType := receivedForm_pType p
  flags := receivedForm_getFlag p
  ctrlSeq := receivedForm_ctrlSeq
  ctrlAck := receivedForm_ctrlAck
  ctrlMss := by
    intro control flag
    simp [receivedForm, numbers, control, maskNumber, flag]
  ctrlWnd := by
    intro control flag
    simp [receivedForm, numbers, control, maskNumber, flag]
  dataSeq := receivedForm_dataSeq
  dataAck := receivedForm_dataAck
  dataWnd := by
    intro data flag
    simp [receivedForm, numbers, data, maskNumber, flag]
  checkSum := encoded.symm
  userData := receivedForm_userData p

/-- Decoding undoes encoding, for every packet that can be built and whatever
the heap holds behind the bytes. -/
theorem decodes_built {pType : UMPPacketType} {p : UMPPacket} (built : Built pType p)
    (behind : Nat → UInt8) :
    ∃ bytes q log, (uPacketToBinary p).rawData = some bytes ∧
      uPacketFromBinary bytes ⟨bytes, behind⟩ = (some q, log) ∧ Recovers p q := by
  have coherent : Coherent p := Or.inr (Or.inl built.notEncoded)
  have sum : (uPacketToBinary p).checkSum = packetCheckSum p := by
    rw [uPacketToBinary, if_neg (fun cached => cached.2 built.notEncoded)]
    exact freshEncoding_checkSum p
  obtain ⟨log, run⟩ := uPacketFromBinary_freshEncoding built.proper behind
  exact ⟨(freshEncoding p).1, receivedForm p, log, rawData_uPacketToBinary coherent, run,
    recovers_receivedForm sum⟩

/-- A numbered data packet with a payload of odd length. -/
def oddPacket : UMPPacket :=
  uPacketSetData
    { uPacketSetFlag (uPacketSetFlag (uPacketNew .data .outgoing) UP_DATA_SEQ) UP_DATA_BDR with
      seqNum := 513, ackNum := 0, mssNum := 0, wndNum := 0 } [1, 2, 3]

theorem decodes_oddPacket :
    ∃ bytes q log, (uPacketToBinary oddPacket).rawData = some bytes ∧
      uPacketFromBinary bytes ⟨bytes, fun _ => 7⟩ = (some q, log) ∧ Recovers oddPacket q :=
  decodes_built (((Built.new .outgoing).setFlag (by decide)).setFlag (by decide)
    |>.assign 513 0 0 0 |>.setData [1, 2, 3]) fun _ => 7

end UserMessageProtocol
