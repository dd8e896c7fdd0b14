import UserMessageProtocol.Sender.Message
import UserMessageProtocol.Sender.Steps

/-!
Contract: the message a sender works on, in every run.

Owns: the fields that hold the message (`MessagePart`), their invariant (`Shape`)
and its preservation by every step of a socket.

Does not own: windows and positions.
-/

set_option autoImplicit false

namespace UserMessageProtocol

open Serial

/-! ### The message a sender holds -/

/-- The fields of the sender that only the start and the end of a message change. -/
structure MessagePart where
  sndLocked : UMPLockState
  sndParaLock : Bool
  sndPackets : Option (List UMPPacket)
  sndPacketsCount : Int
  ourDataStartSeq : UInt16
  ourMsgLastSeq : UInt16
  upReqWnd : Option UMPPacket

def SendSide.message (snd : SendSide) : MessagePart where
  sndLocked := snd.sndLocked
  sndParaLock := snd.sndParaLock
  sndPackets := snd.sndPackets
  sndPacketsCount := snd.sndPacketsCount
  ourDataStartSeq := snd.ourDataStartSeq
  ourMsgLastSeq := snd.ourMsgLastSeq
  upReqWnd := snd.upReqWnd

/-- The packet that asks for the window, once it is built. -/
def probePacket : UMPPacket :=
  uPacketToBinary (uPacketSetFlag (uPacketNew .data .outgoing) UP_DATA_REQWND)

theorem toBinary_toBinary (p : UMPPacket) :
    uPacketToBinary (uPacketToBinary p) = uPacketToBinary p := by
  have cached : (uPacketToBinary p).changed = false ∧ (uPacketToBinary p).rawData ≠ none := by
    unfold uPacketToBinary
    split
    · assumption
    · simp
  exact if_pos cached

/-- A message of these packets is being sent. -/
structure Holds (m : MessagePart) (packets : List UMPPacket) : Prop where
  held : m.sndPackets = some packets
  count : m.sndPacketsCount = packets.length
  positive : 0 < packets.length
  inMessage : InMessage m.ourDataStartSeq packets
  last : m.ourMsgLastSeq = place m.ourDataStartSeq (packets.length - 1)

/-- What is always true of the message; `synReced` is the socket's `syn_reced`. -/
structure Shape (synReced : Bool) (m : MessagePart) : Prop where
  opened : m.sndLocked = .locked → synReced = true
  held : m.sndLocked = .locked → m.sndParaLock = true
  message : m.sndLocked = .locked → ∃ packets, Holds m packets
  posted : m.sndLocked = .unlocked → ∀ packets, m.sndPackets = some packets →
    m.sndPacketsCount = packets.length ∧ ∀ p ∈ packets, Fresh p
  probe : m.upReqWnd = none ∨ m.upReqWnd = some probePacket

theorem Shape.unlocked {synReced : Bool} {m : MessagePart} (shape : Shape synReced m)
    (free : m.sndParaLock = false) : m.sndLocked = .unlocked := by
  cases locked : m.sndLocked with
  | unlocked => rfl
  | locked => exact absurd (free.symm.trans (shape.held locked)) (by decide)

theorem shape_new (seq : UInt16) (clock : Clock) (synReced : Bool) :
    Shape synReced (umpSockNewCore seq clock).snd.message where
  opened := by simp [SendSide.message, umpSockNewCore]
  held := by simp [SendSide.message, umpSockNewCore]
  message := by simp [SendSide.message, umpSockNewCore]
  posted := by simp [SendSide.message, umpSockNewCore]
  probe := .inl rfl

theorem Shape.reqWndPacket {synReced : Bool} {snd : SendSide} (shape : Shape synReced snd.message) :
    reqWndPacket snd = probePacket := by
  unfold UserMessageProtocol.reqWndPacket
  rcases shape.probe with none | some
  · rw [show snd.upReqWnd = Option.none from none]
    rfl
  · rw [show snd.upReqWnd = Option.some probePacket from some]
    exact toBinary_toBinary _

/-! ### What the stages of a step leave alone -/

section Stages

variable (snd : SendSide) (p : UMPPacket) (seq : UInt16)

@[simp] theorem refreshSndWndPos_message : (umpRefreshSndWndPos snd).message = snd.message := rfl

@[simp] theorem refreshBackPoint_message :
    (umpRefreshBackPoint snd seq).message = snd.message := by
  unfold umpRefreshBackPoint
  split <;> rfl

@[simp] theorem refreshDataSent_message : (umpRefreshDataSent snd seq).message = snd.message := by
  unfold umpRefreshDataSent
  split <;> rfl

@[simp] theorem notified_message (now : GTimeVal) :
    (notified snd p now).message = snd.message := by
  unfold notified
  dsimp only
  repeat' split
  all_goals rfl

@[simp] theorem recounted_message : (recounted snd seq).message = snd.message := by
  unfold recounted fastRetransmit countRepeatedAck umpRefreshBackPoint
  dsimp only
  repeat' split
  all_goals rfl

@[simp] theorem advanceBase_message : (advanceBase snd seq).message = snd.message := by
  unfold advanceBase
  rw [refreshBackPoint_message]
  rfl

@[simp] theorem skipAcknowledged_message : (skipAcknowledged snd).message = snd.message := by
  unfold skipAcknowledged
  split <;> rfl

@[simp] theorem settled_message (fastRetran : Bool) (cwnd : UInt16) (time : GTimeVal)
    (rtoCpt : RTOComputer) : (settled snd seq fastRetran cwnd time rtoCpt).message = snd.message :=
  skipAcknowledged_message
    { snd with fastRetran := fastRetran, ourCwnd := cwnd, lastRefreshCwnd := time }

theorem acknowledgedBy_message (now : GTimeVal) :
    (acknowledgedBy snd p now).message = snd.message := by
  rw [acknowledgedBy, notified_message, advanceBase_message, recounted_message]

@[simp] theorem rewindAfterTimeout_message : (rewindAfterTimeout snd).message = snd.message := by
  unfold rewindAfterTimeout umpRefreshBackPoint
  dsimp only
  split <;> rfl

end Stages

/-! ### Preservation -/

section Steps

variable {synReced : Bool} {snd : SendSide}

theorem Shape.ended (shape : Shape synReced snd.message) (ok : Bool) :
    Shape synReced (endedSend snd ok).message := by
  unfold endedSend
  split
  · exact shape
  · constructor
    · simp [SendSide.message, endSend]
    · simp [SendSide.message, endSend]
    · simp [SendSide.message, endSend]
    · simp [SendSide.message, endSend]
    · exact shape.probe

theorem Shape.ack {p : UMPPacket} {snd' : SendSide} {added : List Action}
    (shape : Shape synReced snd.message) (step : AckStep snd p snd' added) :
    Shape synReced snd'.message := by
  cases step with
  | noAck now flag => simpa using shape
  | outside flag range => simpa using shape
  | old now flag range same => simpa using shape
  | new now time fastRetran cwnd rtoCpt flag range ahead grown =>
      have kept : Shape synReced
          (settled (acknowledgedBy snd p now) p.ackNum fastRetran cwnd time rtoCpt).message := by
        rw [settled_message, acknowledgedBy_message]
        exact shape
      unfold endedByAck
      split
      · exact kept.ended true
      · exact kept

/-- A packet of the message is at every position inside it, and nowhere else. -/
theorem Holds.packetAt {packets : List UMPPacket} (holds : Holds snd.message packets)
    (position : Nat) : packetAt snd position = packets[position]? := by
  unfold UserMessageProtocol.packetAt
  rw [show snd.sndPackets = Option.some packets from holds.held]
  simp

/-- The packet at `our_data_pos` is one of the message. -/
theorem Shape.found {p : UMPPacket} (shape : Shape synReced snd.message)
    (locked : snd.sndLocked = .locked) (found : packetAt snd snd.ourDataPos = some p) :
    ∃ (packets : List UMPPacket) (position : Nat), Holds snd.message packets ∧
      snd.ourDataPos = position ∧ packets[position]? = some p := by
  obtain ⟨packets, holds⟩ := shape.message locked
  have inside : 0 ≤ snd.ourDataPos := by
    unfold packetAt at found
    by_contra outside
    simp [outside] at found
  obtain ⟨position, here⟩ := Int.eq_ofNat_of_zero_le inside
  rw [here, holds.packetAt] at found
  exact ⟨packets, position, holds, here, found⟩

theorem Shape.transmit {p : UMPPacket} {now : GTimeVal} {ackInfo : UMPAckInfo}
    (shape : Shape synReced snd.message) (locked : snd.sndLocked = .locked)
    (found : UserMessageProtocol.packetAt snd snd.ourDataPos = some p) :
    Shape synReced (afterTransmit snd (outgoingPacket ackInfo p) now).message := by
  obtain ⟨packets, position, holds, here, found⟩ := shape.found locked found
  have same : (afterTransmit snd (outgoingPacket ackInfo p) now).message =
      { snd.message with sndPackets := some (packets.set position (outgoingPacket ackInfo p)) } := by
    unfold afterTransmit
    dsimp only
    have stored : snd.sndPackets = some packets := holds.held
    simp only [SendSide.message, umpRefreshDataSent]
    split <;> simp [stored, here]
  rw [same]
  exact
    { opened := shape.opened
      held := shape.held
      message := fun _ => ⟨_, rfl, by simpa using holds.count, by simpa using holds.positive,
        holds.inMessage.set ackInfo found, by simpa using holds.last⟩
      posted := by simp [SendSide.message, locked]
      probe := shape.probe }

theorem Shape.start {packets : List UMPPacket} (shape : Shape synReced snd.message)
    (opened : synReced = true) (unlocked : snd.sndLocked = .unlocked)
    (posted : snd.sndPackets = some packets) (some : 1 ≤ snd.sndPacketsCount) :
    Shape synReced
      (startMessage { snd with sndParaLock := true, sndLocked := .locked } packets).message where
  opened := fun _ => opened
  held := fun _ => rfl
  message := by
    obtain ⟨count, fresh⟩ := shape.posted unlocked packets posted
    have sameCount : snd.sndPacketsCount = packets.length := count
    refine fun _ => ⟨preparePackets snd.ourDataStartSeq packets, rfl, ?_, ?_, ?_, ?_⟩
    · rw [preparePackets_length]
      exact count
    · rw [preparePackets_length]
      omega
    · exact preparePackets_inMessage _ _ fresh
    · have last : snd.ourDataStartSeq + UInt16.ofInt snd.sndPacketsCount - 1 =
          place snd.ourDataStartSeq (packets.length - 1) := by
        have step := place_add_one snd.ourDataStartSeq ((packets.length : Int) - 1)
        rw [Int.sub_add_cancel, ← sameCount] at step
        rw [show snd.ourDataStartSeq + UInt16.ofInt snd.sndPacketsCount =
          place snd.ourDataStartSeq snd.sndPacketsCount from rfl, ← step, sameCount]
        exact UInt16.add_sub_cancel _ _
      rw [preparePackets_length]
      exact last
  posted := by simp [startMessage, SendSide.message, umpRefreshSndWndPos]
  probe := shape.probe

end Steps

section Runs

variable {Lists : Type} [ReceiveLists Lists] {u : UMPSocket Lists} {event : SockEvent}

/-- `syn_reced` is never taken back. -/
theorem sockStep_synReced (syn : u.core.ctrl.synReced = true) :
    (sockStep u event).core.ctrl.synReced = true := by
  have step := handshake_step u event
  have same : (sockStep u event).core.ctrl.synReced =
      (sockStep u event).core.handshake.synReced := rfl
  rw [same]
  have before : u.core.handshake.synReced = true := syn
  generalize (sockStep u event).core.handshake = k at step
  cases step with
  | idle event noPacket => exact before
  | packet p ourMss =>
      unfold Handshake.ctrlPacket
      split
      · exact before
      · obtain ⟨-, moves⟩ := (u.core.handshake.note p).packet_moves p ourMss
        exact moves.syn before
  | call method taken =>
      unfold Handshake.call
      repeat' split
      all_goals exact before
  | send =>
      unfold Handshake.send
      repeat' split
      all_goals exact before
  | again => exact before
  | giveUp => exact before
  | lost => exact before

/-- Only a SYN that is taken sets `syn_reced`. -/
theorem sockStep_opens (opened : (sockStep u event).core.ctrl.synReced = true) :
    u.core.ctrl.synReced = true ∨ ∃ p, event = .ctrlPacket p ∧ TakesSyn u.core.handshake p := by
  have step := handshake_step u event
  have same : (sockStep u event).core.handshake.synReced = true := opened
  generalize (sockStep u event).core.handshake = k at step same
  cases step with
  | idle event noPacket => exact .inl same
  | packet p ourMss =>
      cases syn : u.core.ctrl.synReced with
      | true => exact .inl rfl
      | false =>
          right
          unfold Handshake.ctrlPacket at same
          split at same
          · exact absurd (syn.symm.trans same) (by decide)
          · rename_i plain
            obtain ⟨opening, flag, numbered⟩ :=
              (u.core.handshake.note p).packet_opens p ourMss syn same
            exact ⟨p, rfl, syn, opening, (Bool.not_eq_true _).mp plain, flag, numbered⟩
  | call method taken =>
      left
      unfold Handshake.call at same
      repeat' split at same
      all_goals exact same
  | send =>
      left
      unfold Handshake.send at same
      repeat' split at same
      all_goals exact same
  | again => exact .inl same
  | giveUp => exact .inl same
  | lost => exact .inl same

theorem Shape.mono {synReced synReced' : Bool} {m : MessagePart} (shape : Shape synReced m)
    (later : synReced = true → synReced' = true) : Shape synReced' m :=
  { shape with opened := fun locked => later (shape.opened locked) }

/-- The shape of the message is kept by every step. -/
theorem sockStep_shape (allowed : sockEnabled u event) (sound : u.core.handshake.Sound)
    (shape : Shape u.core.ctrl.synReced u.core.snd.message) :
    Shape (sockStep u event).core.ctrl.synReced (sockStep u event).core.snd.message := by
  refine Shape.mono ?_ sockStep_synReced
  obtain ⟨added, step, -⟩ := send_step u event
  generalize (sockStep u event).core.snd = snd' at step ⊢
  generalize (sockStep u event).core.handshake = k at step
  cases step with
  | idle event unheard => exact shape
  | signal event p kind => exact shape
  | probe asking =>
      exact
        { opened := shape.opened
          held := shape.held
          message := fun locked => by
            obtain ⟨packets, holds⟩ := shape.message locked
            exact ⟨packets, holds.held, holds.count, holds.positive, holds.inMessage, holds.last⟩
          posted := shape.posted
          probe := .inr (congrArg some shape.reqWndPacket) }
  | post data =>
      have unlocked : ¬ u.core.snd.sndLocked = .locked := fun locked =>
        nomatch locked.symm.trans (shape.unlocked allowed.1)
      exact
        { opened := fun locked => absurd locked unlocked
          held := fun locked => absurd locked unlocked
          message := fun locked => absurd locked unlocked
          posted := by
            intro _ packets posted
            have same : messagePackets u.core.snd.ourMss data = packets := Option.some.inj posted
            rw [← same]
            exact ⟨congrArg Nat.cast (messagePackets_length _ allowed.2.2.2 data).symm,
              messagePackets_fresh _ _⟩
          probe := shape.probe }
  | refuse packets unlocked posted =>
      exact
        { opened := by simp [SendSide.message, endSend]
          held := by simp [SendSide.message, endSend]
          message := by simp [SendSide.message, endSend]
          posted := by simp [SendSide.message, endSend]
          probe := shape.probe }
  | start packets unlocked posted some established noError =>
      exact shape.start (sound.opened (.inl established)) unlocked posted some
  | giveUp event noData parted => exact shape.ended false
  | syn p taken => exact shape
  | transmit p locked window found => exact shape.transmit locked found
  | expired parted =>
      have emptied : Shape u.core.ctrl.synReced
          ({ u.core.snd with tmList := [] } : SendSide).message := shape
      exact emptied.ended false
  | rewind =>
      rw [rewindAfterTimeout_message]
      exact shape
  | ack p heard snd added ackStep => exact shape.ack ackStep

/-- What holds of every socket in every run. -/
structure WellShaped (u : UMPSocket Lists) : Prop where
  sound : u.core.handshake.Sound
  shape : Shape u.core.ctrl.synReced u.core.snd.message

theorem wellShaped_new (seq : UInt16) (clock : Clock) :
    WellShaped (umpSockNew Lists seq clock) where
  sound :=
    { failed := by simp [umpSockNew, umpSockNewCore, SocketCore.handshake]
      opened := by simp [umpSockNew, umpSockNewCore, SocketCore.handshake]
      typed := Handshake.typed_of_none rfl }
  shape := shape_new seq clock _

theorem WellShaped.step (shaped : WellShaped u) (allowed : sockEnabled u event) :
    WellShaped (sockStep u event) :=
  ⟨sockStep_sound allowed shaped.sound, sockStep_shape allowed shaped.sound shaped.shape⟩

end Runs

end UserMessageProtocol
