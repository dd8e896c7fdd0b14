import UserMessageProtocol.Connection.Packets
import UserMessageProtocol.Network.Machine
import UserMessageProtocol.Sender.Shape

/-!
Contract: what a socket puts on the wire.

Owns: the packets a socket can send in a state (`Sent`), the fact that every packet
of a step is one of them, and what a receiver reads in each kind: the numbers and
acks of control packets and of data packets.

Does not own: what a receiver does with them.
-/

set_option autoImplicit false

namespace UserMessageProtocol

/-! ### The packets a socket can send -/

/-- A packet that can go on the wire in this state. -/
inductive Sent (s : SocketCore) : UMPPacket → Prop where
  | dataAck (due : s.ackInfo.dataAckSet = true) :
      Sent s (uPacketToBinary (umpSetPacketAckInfo s.ackInfo (uPacketNew .data .outgoing)))
  | probe : Sent s probePacket
  | fragment (p : UMPPacket) (locked : s.snd.sndLocked = .locked)
      (found : packetAt s.snd s.snd.ourDataPos = some p) : Sent s (outgoingPacket s.ackInfo p)
  | pending (p : UMPPacket) (pending : s.ctrl.ctrlPacketToSend = some p) :
      Sent s (pendingOnWire s.ackInfo p)
  | ctrlAck (due : s.ackInfo.ctrlAckSet = true) : Sent s (ctrlAckAlone s.ackInfo)
  | reset : Sent s resetPacket

theorem ending_silent (snd : SendSide) (ok : Bool) :
    (ending snd ok).filterMap Action.sent = [] := by
  unfold ending
  split <;> rfl

theorem AckStep.silent {snd snd' : SendSide} {p : UMPPacket} {added : List Action}
    (step : AckStep snd p snd' added) : added.filterMap Action.sent = [] := by
  cases step with
  | noAck now flag => rfl
  | outside flag range => rfl
  | old now flag range same => rfl
  | new now time fastRetran cwnd rtoCpt flag range ahead grown =>
      unfold endingByAck
      split
      · exact ending_silent _ true
      · rfl

section Steps

variable {Lists : Type} [ReceiveLists Lists] {u : UMPSocket Lists} {event : SockEvent}
  {p : UMPPacket}

/-- Every packet a step puts on the wire is one of these. -/
theorem sent_of_sentBy (shaped : WellShaped u) (member : p ∈ sentBy u event) : Sent u.core p := by
  obtain ⟨added, step, logged⟩ := send_step u event
  rw [sentBy_eq logged] at member
  generalize (sockStep u event).core.snd = snd' at step
  generalize (sockStep u event).core.handshake = k at step
  have silent (quiet : added.filterMap Action.sent = []) : Sent u.core p := by
    rw [quiet] at member
    exact absurd member List.not_mem_nil
  cases step with
  | idle event unheard untaken => exact silent rfl
  | signal event q kind =>
      have same : p = q := by simpa [Action.sent] using member
      rw [same]
      cases kind with
      | dataAck due => exact .dataAck due
      | pending q pending => exact .pending q pending
      | ctrlAck due => exact .ctrlAck due
      | reset => exact .reset
  | probe asking =>
      have same : p = reqWndPacket u.core.snd := by simpa [Action.sent] using member
      rw [same, shaped.shape.reqWndPacket]
      exact .probe
  | post data => exact silent rfl
  | refuse packets unlocked posted => exact silent rfl
  | start packets unlocked posted some established noError => exact silent rfl
  | giveUp event noData parted untaken => exact silent (ending_silent _ false)
  | syn q taken => exact silent rfl
  | transmit q locked window found =>
      have same : p = outgoingPacket u.core.ackInfo q := by simpa [Action.sent] using member
      rw [same]
      exact .fragment q locked found
  | expired parted => exact silent (ending_silent _ false)
  | rewind => exact silent rfl
  | ack q heard snd added ackStep => exact silent ackStep.silent

end Steps

/-! ### Kinds of packets -/

section Sent

variable {s : SocketCore} {p : UMPPacket}

/-- The bytes of everything on the wire encode a packet. -/
theorem Sent.encoded {synReced : Bool} (sent : Sent s p) (shape : Shape synReced s.snd.message)
    (waiting : ∀ q, s.ctrl.ctrlPacketToSend = some q → q.pType = .control ∧ Proper q) :
    Encoded p := by
  cases sent with
  | dataAck due =>
      have acked : Proper (uPacketSetFlag (uPacketNew .data .outgoing) UP_DATA_ACK) :=
        (proper_uPacketNew _ _).setFlag (by decide)
      have windowed : Proper (umpSetPacketAckInfo s.ackInfo (uPacketNew .data .outgoing)) :=
        Proper.setFlag (p := { uPacketSetFlag (uPacketNew .data .outgoing) UP_DATA_ACK with
          ackNum := s.ackInfo.dataAckSeq }) acked (by simp [uPacketNew]; decide)
      exact encoded_toBinary windowed.toBinary (changed_setFlag _ _)
  | probe =>
      exact encoded_toBinary (Proper.toBinary ((proper_uPacketNew _ _).setFlag (by decide)))
        (changed_setFlag _ _)
  | fragment q locked found =>
      obtain ⟨packets, position, holds, -, found⟩ := shape.found locked found
      have proper := ((holds.inMessage position q found).outgoing s.ackInfo).proper
      have changed : (if s.ackInfo.dataAckSet then umpSetPacketAckInfo s.ackInfo q
          else umpClearPacketAckInfo q).changed = true := by
        split
        · exact changed_setFlag _ _
        · exact changed_clearFlag _ _
      exact encoded_toBinary proper changed
  | pending q pending =>
      exact pendingOnWire_encoded s.ackInfo (waiting q pending).1 (waiting q pending).2
  | ctrlAck due => exact ctrlAckAlone_encoded s.ackInfo
  | reset =>
      exact encoded_toBinary (Proper.toBinary ((proper_uPacketNew _ _).setFlag (by decide)))
        (changed_setFlag _ _)

theorem dataAckAlone_pType (ackInfo : UMPAckInfo) :
    (uPacketToBinary (umpSetPacketAckInfo ackInfo (uPacketNew .data .outgoing))).pType = .data := by
  rw [toBinary_pType, setPacketAckInfo_pType]
  rfl

theorem Sent.fragment_pType {synReced : Bool} {q : UMPPacket}
    (shape : Shape synReced s.snd.message) (locked : s.snd.sndLocked = .locked)
    (found : packetAt s.snd s.snd.ourDataPos = some q) : q.pType = .data := by
  obtain ⟨packets, position, holds, -, found⟩ := shape.found locked found
  exact (holds.inMessage position q found).pType

variable {synReced : Bool} (sent : Sent s p) (shape : Shape synReced s.snd.message)

include sent

include shape in
/-- A control packet with a number is the one that waits. -/
theorem Sent.ctrlSeq (control : p.pType = .control) (flag : uPacketGetFlag p UP_CTRL_SEQ) :
    ∃ q, s.ctrl.ctrlPacketToSend = some q ∧ p.seqNum = q.seqNum ∧
      ∀ mask, UP_CTRL_ACK &&& mask = 0 → uPacketGetFlag p mask = uPacketGetFlag q mask := by
  cases sent with
  | dataAck due => exact absurd ((dataAckAlone_pType _).symm.trans control) (by decide)
  | probe => exact absurd control (by decide)
  | fragment q locked found =>
      rw [outgoingPacket_pType, fragment_pType shape locked found] at control
      exact absurd control (by decide)
  | pending q pending =>
      exact ⟨q, pending, pendingOnWire_seqNum _,
        fun mask disjoint => pendingOnWire_getFlag _ mask disjoint⟩
  | ctrlAck due =>
      rw [ctrlAckAlone_getFlag _ _ (by decide) (by decide)] at flag
      exact absurd flag (by decide)
  | reset => exact absurd flag (by decide)

include shape in
/-- The ack of a control packet is the one due. -/
theorem Sent.ctrlAckNum (control : p.pType = .control) (flag : uPacketGetFlag p UP_CTRL_ACK) :
    s.ackInfo.ctrlAckSet = true ∧ p.ackNum = s.ackInfo.ctrlAckData := by
  cases sent with
  | dataAck due => exact absurd ((dataAckAlone_pType _).symm.trans control) (by decide)
  | probe => exact absurd control (by decide)
  | fragment q locked found =>
      rw [outgoingPacket_pType, fragment_pType shape locked found] at control
      exact absurd control (by decide)
  | pending q pending => exact pendingOnWire_ack _ flag
  | ctrlAck due => exact ⟨due, ctrlAckAlone_ackNum _⟩
  | reset => exact absurd flag (by decide)

/-- A data packet with a number is one of the message. -/
theorem Sent.dataSeq (data : p.pType = .data) (flag : uPacketGetFlag p UP_DATA_SEQ)
    (waiting : ∀ q, s.ctrl.ctrlPacketToSend = some q → q.pType = .control) :
    s.snd.sndLocked = .locked ∧ ∃ q, packetAt s.snd s.snd.ourDataPos = some q ∧
      p = outgoingPacket s.ackInfo q := by
  cases sent with
  | dataAck due =>
      rw [getFlag_toBinary, setPacketAckInfo_getFlag _ _ rfl] at flag
      exact absurd flag (by decide)
  | probe => exact absurd flag (by decide)
  | fragment q locked found => exact ⟨locked, q, found, rfl⟩
  | pending q pending =>
      rw [pendingOnWire_pType _ (waiting q pending)] at data
      exact absurd data (by decide)
  | ctrlAck due => exact absurd ((ctrlAckAlone_pType _).symm.trans data) (by decide)
  | reset => exact absurd data (by decide)

/-- The ack of a data packet is the one due. -/
theorem Sent.dataAckNum (data : p.pType = .data) (flag : uPacketGetFlag p UP_DATA_ACK)
    (waiting : ∀ q, s.ctrl.ctrlPacketToSend = some q → q.pType = .control) :
    s.ackInfo.dataAckSet = true ∧ p.ackNum = s.ackInfo.dataAckSeq := by
  have acked (q : UMPPacket) : (umpSetPacketAckInfo s.ackInfo q).ackNum = s.ackInfo.dataAckSeq := by
    unfold umpSetPacketAckInfo
    simp
  cases sent with
  | dataAck due => exact ⟨due, by rw [toBinary_ackNum, acked]⟩
  | probe => exact absurd flag (by decide)
  | fragment q locked found =>
      unfold outgoingPacket at flag ⊢
      rw [getFlag_toBinary] at flag
      rw [toBinary_ackNum]
      split
      · rename_i due
        exact ⟨due, acked q⟩
      · rename_i clear
        rw [if_neg clear, umpClearPacketAckInfo, getFlag_clearFlag _ _ _ (by decide),
          getFlag_clearFlag_self] at flag
        exact absurd flag (by decide)
  | pending q pending =>
      rw [pendingOnWire_pType _ (waiting q pending)] at data
      exact absurd data (by decide)
  | ctrlAck due => exact absurd ((ctrlAckAlone_pType _).symm.trans data) (by decide)
  | reset => exact absurd data (by decide)

end Sent

/-! ### What arrives -/

/-- The packet read from encoded bytes is the received form. -/
theorem arrived_of_encoded {p : UMPPacket} (encoded : Encoded p) :
    arrived p = some (receivedForm p) := by
  unfold arrived
  rw [encoded.2, Option.bind_some]
  exact decode_freshEncoding encoded.1

theorem received_of_arrived {p q : UMPPacket} (encoded : Encoded p) (arrives : arrived p = some q) :
    q = receivedForm p :=
  Option.some.inj (arrives.symm.trans (arrived_of_encoded encoded))

end UserMessageProtocol
