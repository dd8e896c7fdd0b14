import UserMessageProtocol.Packet.Flags
import UserMessageProtocol.Socket.Handshake

/-!
Contract: how a connection begins and ends.

Owns: the moves of connection state and `syn_reced` (`Moves`), the states in which
the connection is over (`Handshake.Ended`) and the fact that it stays over while a
socket opens only once.

Does not own: which acks count (`Connection.Acknowledgement`).
-/

set_option autoImplicit false

namespace UserMessageProtocol

namespace Handshake

variable (h : Handshake) (p : UMPPacket) (ourMss : UInt16)

/-- How a control packet can move the state and `syn_reced`. -/
inductive Moves : UMPSockState → Bool → UMPSockState → Bool → Prop where
  | stay (state : UMPSockState) (syn : Bool) : Moves state syn state syn
  | answer : Moves .closed false .connecting true
  | hear : Moves .connecting false .connecting true
  | complete (syn : Bool) : Moves .connecting syn .established true
  | part (syn : Bool) : Moves .established syn .closing syn
  | finish (syn : Bool) : Moves .closing syn .closed syn

/-- A connection that is open or closing had the peer's SYN. -/
theorem Moves.opened {old new : UMPSockState} {oldSyn newSyn : Bool}
    (moves : Moves old oldSyn new newSyn)
    (before : old = .established ∨ old = .closing → oldSyn = true)
    (open_ : new = .established ∨ new = .closing) : newSyn = true := by
  cases moves with
  | stay => exact before open_
  | answer | hear | complete => rfl
  | part => exact before (.inl rfl)
  | finish => simp at open_

/-- No move takes `syn_reced` back. -/
theorem Moves.syn {old new : UMPSockState} {oldSyn newSyn : Bool}
    (moves : Moves old oldSyn new newSyn) (before : oldSyn = true) : newSyn = true := by
  cases moves with
  | stay | part | finish => exact before
  | answer | hear | complete => rfl

/-- No move leads out of a connection that is over. -/
theorem Moves.gone {old new : UMPSockState} {oldSyn newSyn : Bool}
    (moves : Moves old oldSyn new newSyn)
    (before : old = .established ∨ old = .closing → oldSyn = true)
    (gone : old = .closing ∨ old = .closed ∧ oldSyn = true) :
    new = .closing ∨ new = .closed ∧ newSyn = true := by
  cases moves with
  | stay => exact gone
  | answer | hear | complete | part => simp at gone
  | finish => exact .inr ⟨rfl, before (.inr rfl)⟩

/-- The handshake `k` came from `h` by a move. -/
def MovesTo (k : Handshake) : Prop :=
  k.errorOccured = h.errorOccured ∧ Moves h.state h.synReced k.state k.synReced

/-- Fields besides state, error and `syn_reced` do not matter to a move. -/
theorem movesTo_of_same {k : Handshake} (state : k.state = h.state)
    (error : k.errorOccured = h.errorOccured) (syn : k.synReced = h.synReced) : h.MovesTo k := by
  refine ⟨error, ?_⟩
  rw [state, syn]
  exact .stay _ _

@[simp] theorem count_state : (h.count p).state = h.state := by
  unfold count
  split <;> rfl

@[simp] theorem count_errorOccured : (h.count p).errorOccured = h.errorOccured := by
  unfold count
  split <;> rfl

@[simp] theorem count_synReced : (h.count p).synReced = h.synReced := by
  unfold count
  split <;> rfl

theorem closedPacket_moves (closed : h.state = .closed) : h.MovesTo (h.closedPacket p ourMss) := by
  unfold closedPacket
  split
  · rename_i opening
    split
    · refine ⟨rfl, ?_⟩
      rw [closed, opening.1]
      exact .answer
    · exact h.movesTo_of_same rfl rfl rfl
  · split
    · exact h.movesTo_of_same (h.count_state p) (h.count_errorOccured p) (h.count_synReced p)
    · exact h.movesTo_of_same rfl rfl rfl

theorem connectingAck_same : (h.connectingAck p).state = h.state ∧
    (h.connectingAck p).errorOccured = h.errorOccured ∧
    (h.connectingAck p).synReced = h.synReced := by
  unfold connectingAck heedAck
  repeat' split
  all_goals exact ⟨rfl, rfl, rfl⟩

theorem completeOpen_moves (k : Handshake) (connecting : h.state = .connecting)
    (state : k.state = .connecting) (error : k.errorOccured = h.errorOccured)
    (syn : k.synReced = h.synReced ∨ k.synReced = true) : h.MovesTo k.completeOpen := by
  unfold completeOpen
  split
  · rename_i both
    refine ⟨error, ?_⟩
    rw [connecting, show (k.enter .established).synReced = true from both.1]
    exact .complete _
  · refine ⟨error, ?_⟩
    rw [connecting, state]
    rcases syn with same | heard
    · rw [same]
      exact .stay _ _
    · rw [heard]
      cases h.synReced
      · exact .hear
      · exact .stay _ _

theorem connectingPacket_moves (connecting : h.state = .connecting) :
    h.MovesTo (h.connectingPacket p) := by
  obtain ⟨state, error, syn⟩ := h.connectingAck_same p
  unfold connectingPacket
  generalize h.connectingAck p = k at state error syn
  dsimp only
  split
  · split
    · exact h.movesTo_of_same state error syn
    · split
      · exact h.completeOpen_moves _ connecting (state.trans connecting) error (.inr rfl)
      · exact h.movesTo_of_same state error syn
  · split
    · refine h.completeOpen_moves _ connecting ?_ ?_ (.inl ?_)
      · exact (k.count_state p).trans (state.trans connecting)
      · exact (k.count_errorOccured p).trans error
      · exact (k.count_synReced p).trans syn
    · exact h.completeOpen_moves _ connecting (state.trans connecting) error (.inl syn)

theorem establishedPacket_moves (established : h.state = .established) :
    h.MovesTo (h.establishedPacket p) := by
  unfold establishedPacket
  have dropped : (if uPacketGetFlag p UP_CTRL_ACK ∧ h.ourCtrlSeq = p.ackNum then h.drop else h) = h ∨
      (if uPacketGetFlag p UP_CTRL_ACK ∧ h.ourCtrlSeq = p.ackNum then h.drop else h) = h.drop := by
    split
    · exact .inr rfl
    · exact .inl rfl
  generalize (if uPacketGetFlag p UP_CTRL_ACK ∧ h.ourCtrlSeq = p.ackNum then h.drop else h) = k
    at dropped
  have same : k.state = h.state ∧ k.errorOccured = h.errorOccured ∧ k.synReced = h.synReced := by
    rcases dropped with rfl | rfl
    · exact ⟨rfl, rfl, rfl⟩
    · exact ⟨rfl, rfl, rfl⟩
  obtain ⟨state, error, syn⟩ := same
  dsimp only
  split
  · split
    · refine ⟨(k.count_errorOccured p).trans error, ?_⟩
      rw [established, ← syn, ← k.count_synReced p]
      exact .part _
    · refine h.movesTo_of_same ?_ ?_ ?_
      · exact (k.count_state p).trans state
      · exact (k.count_errorOccured p).trans error
      · exact (k.count_synReced p).trans syn
  · exact h.movesTo_of_same state error syn

theorem closingAck_same : (h.closingAck p).state = h.state ∧
    (h.closingAck p).errorOccured = h.errorOccured ∧
    (h.closingAck p).synReced = h.synReced := by
  unfold closingAck heedAck
  repeat' split
  all_goals exact ⟨rfl, rfl, rfl⟩

theorem completeClose_moves (k : Handshake) (closing : h.state = .closing)
    (state : k.state = .closing) (error : k.errorOccured = h.errorOccured)
    (syn : k.synReced = h.synReced) : h.MovesTo k.completeClose := by
  unfold completeClose
  split
  · refine ⟨error, ?_⟩
    rw [closing, ← syn]
    exact .finish _
  · exact h.movesTo_of_same (state.trans closing.symm) error syn

theorem closingPacket_moves (closing : h.state = .closing) : h.MovesTo (h.closingPacket p) := by
  obtain ⟨state, error, syn⟩ := h.closingAck_same p
  unfold closingPacket
  generalize h.closingAck p = k at state error syn
  dsimp only
  split
  · refine h.completeClose_moves _ closing ?_ ?_ ?_
    · exact (k.count_state p).trans (state.trans closing)
    · exact (k.count_errorOccured p).trans error
    · exact (k.count_synReced p).trans syn
  · exact h.completeClose_moves _ closing (state.trans closing) error syn

theorem packet_moves : h.MovesTo (h.packet p ourMss) := by
  unfold packet
  cases state : h.state with
  | closed => exact h.closedPacket_moves p ourMss state
  | connecting => exact h.connectingPacket_moves p state
  | established => exact h.establishedPacket_moves p state
  | closing => exact h.closingPacket_moves p state

@[simp] theorem completeOpen_synReced : h.completeOpen.synReced = h.synReced := by
  unfold completeOpen
  split <;> rfl

/-- Only a numbered SYN in an opening state sets `syn_reced`. -/
theorem packet_opens (fresh : h.synReced = false) (opened : (h.packet p ourMss).synReced = true) :
    (h.state = .closed ∨ h.state = .connecting) ∧ uPacketGetFlag p UP_CTRL_SYN ∧
      uPacketGetFlag p UP_CTRL_SEQ := by
  have unchanged {k : Handshake} (same : k.synReced = h.synReced) (opened : k.synReced = true) :
      False := absurd ((same.symm.trans opened).symm.trans fresh) (by decide)
  have moves := (h.packet_moves p ourMss).2
  rw [fresh, opened] at moves
  generalize (h.packet p ourMss).state = next at moves
  cases state : h.state with
  | closed =>
      unfold packet closedPacket at opened
      rw [state] at opened
      dsimp only at opened
      split at opened
      · rename_i syn
        split at opened
        · rename_i numbered
          exact ⟨.inl rfl, syn.2, numbered⟩
        · exact (unchanged rfl opened).elim
      · split at opened
        · exact (unchanged (h.count_synReced p) opened).elim
        · exact (unchanged rfl opened).elim
  | connecting =>
      obtain ⟨-, -, syn⟩ := h.connectingAck_same p
      unfold packet connectingPacket at opened
      rw [state] at opened
      dsimp only at opened
      split at opened
      · rename_i flag
        split at opened
        · exact (unchanged syn opened).elim
        · split at opened
          · rename_i numbered
            exact ⟨.inr rfl, flag, numbered⟩
          · exact (unchanged syn opened).elim
      · split at opened
        · rw [completeOpen_synReced] at opened
          exact (unchanged (((h.connectingAck p).count_synReced p).trans syn) opened).elim
        · rw [completeOpen_synReced] at opened
          exact (unchanged syn opened).elim
  | established =>
      rw [state] at moves
      cases moves
  | closing =>
      rw [state] at moves
      cases moves

/-! ### The pending packet -/

/-- What waits to be sent is a control packet. -/
def Typed : Prop := ∀ pending, h.ctrlPacketToSend = some pending → pending.pType = .control

theorem synPacket_pType (seq mss : UInt16) : (synPacket seq mss).pType = .control := rfl

theorem finPacket_pType (seq : UInt16) : (finPacket seq).pType = .control := rfl

variable {h}

theorem Typed.congr {k : Handshake} (typed : h.Typed)
    (same : k.ctrlPacketToSend = h.ctrlPacketToSend) : k.Typed := by
  unfold Typed
  rw [same]
  exact typed

theorem typed_of_none {k : Handshake} (none : k.ctrlPacketToSend = Option.none) : k.Typed := by
  simp [Typed, none]

theorem typed_of_some {k : Handshake} {q : UMPPacket} (waiting : k.ctrlPacketToSend = some q)
    (control : q.pType = .control) : k.Typed := by
  intro pending same
  rw [← Option.some.inj (waiting.symm.trans same)]
  exact control

theorem Typed.count (typed : h.Typed) : (h.count p).Typed := by
  unfold Handshake.count
  split
  · exact typed.congr rfl
  · exact typed

theorem Typed.completeOpen (typed : h.Typed) : h.completeOpen.Typed := by
  unfold Handshake.completeOpen
  split
  · exact typed.congr rfl
  · exact typed

theorem Typed.completeClose (typed : h.Typed) : h.completeClose.Typed := by
  unfold Handshake.completeClose
  split
  · exact typed.congr rfl
  · exact typed

theorem Typed.heedAck (typed : h.Typed) : (h.heedAck p).Typed := by
  unfold Handshake.heedAck
  split
  · exact typed_of_none rfl
  · exact typed

theorem Typed.packet (typed : h.Typed) : (h.packet p ourMss).Typed := by
  unfold Handshake.packet
  cases h.state with
  | closed =>
      dsimp only
      unfold closedPacket
      repeat' split
      · exact typed_of_some rfl (synPacket_pType _ _)
      · exact typed
      · exact (typed.count p).congr rfl
      · exact typed
  | connecting =>
      have acked : (h.connectingAck p).Typed := by
        unfold Handshake.connectingAck
        split
        · exact (typed.heedAck p).congr rfl
        · exact typed
      dsimp only
      unfold connectingPacket
      generalize h.connectingAck p = k at acked
      dsimp only
      repeat' split
      · exact acked.congr rfl
      · exact (acked.congr (k := k.takeSyn p) rfl).completeOpen
      · exact acked
      · exact ((acked.count p).congr (k := (k.count p).oweAck) rfl).completeOpen
      · exact acked.completeOpen
  | established =>
      have acked : (if uPacketGetFlag p UP_CTRL_ACK ∧ h.ourCtrlSeq = p.ackNum then h.drop
          else h).Typed := by
        split
        · exact typed_of_none rfl
        · exact typed
      dsimp only
      unfold establishedPacket
      generalize (if uPacketGetFlag p UP_CTRL_ACK ∧ h.ourCtrlSeq = p.ackNum then h.drop
        else h) = k at acked
      dsimp only
      repeat' split
      · exact typed_of_some rfl (finPacket_pType _)
      · exact (acked.count p).congr rfl
      · exact acked
  | closing =>
      have acked : (h.closingAck p).Typed := by
        unfold Handshake.closingAck
        split
        · exact (typed.heedAck p).congr rfl
        · exact typed
      dsimp only
      unfold closingPacket
      generalize h.closingAck p = k at acked
      dsimp only
      split
      · exact Typed.completeClose ((acked.count p).congr rfl)
      · exact acked.completeClose

theorem Typed.send (typed : h.Typed) : h.send.Typed := by
  unfold Handshake.send
  split
  · rename_i pending waiting
    split
    · intro sent same
      rw [← Option.some.inj same, toBinary_pType]
      split <;> simp [typed pending waiting]
    · exact typed.congr rfl
  · exact typed.congr rfl

variable (h)

/-! ### Before and behind a connection -/

/-- An error leaves a socket closed, a connection was opened by a SYN, and what
waits to be sent is a control packet. -/
structure Sound : Prop where
  failed : h.errorOccured = true → h.state = .closed
  opened : h.state = .established ∨ h.state = .closing → h.synReced = true
  typed : h.Typed

/-- The connection is over, or about to be. -/
def Ended : Prop :=
  h.errorOccured = true ∨ h.state = .closing ∨ (h.state = .closed ∧ h.synReced = true)

/-- The connection is being closed, or an error ended it. -/
def Parted : Prop := h.errorOccured = true ∨ h.state = .closing

theorem Parted.ended {h : Handshake} (parted : h.Parted) : h.Ended := by
  rcases parted with error | closing
  · exact .inl error
  · exact .inr (.inl closing)

variable {h}

/-- An established connection without error is not over. -/
theorem not_ended (established : h.state = .established) (noError : h.errorOccured = false) :
    ¬ h.Ended := by
  rintro (failed | closing | closed)
  · exact absurd (noError.symm.trans failed) (by decide)
  · exact absurd (established.symm.trans closing) (by decide)
  · exact absurd (established.symm.trans closed.1) (by decide)

theorem Sound.fail (typed : h.Typed) : h.fail.Sound :=
  ⟨fun _ => rfl, by simp [Handshake.fail, enter], typed.congr rfl⟩

end Handshake

/-- A connect call is taken up only before the peer's SYN came. -/
def opensOnce {Lists : Type} (u : UMPSocket Lists) (event : SockEvent) : Prop :=
  event = .handleCtrl → takesCall u.core .connect → u.core.ctrl.state = .closed →
    u.core.ctrl.synReced = false

instance {Lists : Type} (u : UMPSocket Lists) (event : SockEvent) :
    Decidable (opensOnce u event) := by
  unfold opensOnce
  infer_instance

section Steps

variable {Lists : Type} [ReceiveLists Lists] {u : UMPSocket Lists} {event : SockEvent}

theorem sockStep_sound (allowed : sockEnabled u event) (sound : u.core.handshake.Sound) :
    (sockStep u event).core.handshake.Sound := by
  have step := handshake_step u event
  generalize (sockStep u event).core.handshake = k at step
  cases step with
  | idle event noPacket => exact sound
  | packet p ourMss =>
      unfold Handshake.ctrlPacket
      split
      · exact .fail sound.typed
      · have noError : u.core.handshake.errorOccured = false := allowed.1
        obtain ⟨error, moves⟩ := (u.core.handshake.note p).packet_moves p ourMss
        refine ⟨?_, moves.opened sound.opened, ?_⟩
        · intro failed
          rw [error] at failed
          exact absurd (noError.symm.trans failed) (by decide)
        · exact (sound.typed.congr (k := u.core.handshake.note p) rfl).packet p ourMss
  | call method taken =>
      have noError : u.core.handshake.errorOccured = false := taken.2.2.2
      unfold Handshake.call
      rw [noError, if_neg (by decide)]
      split
      · exact ⟨fun failed => absurd (noError.symm.trans failed) (by decide),
          by simp [Handshake.enter],
          Handshake.typed_of_some rfl (Handshake.synPacket_pType _ _)⟩
      · rename_i established
        exact ⟨fun failed => absurd (noError.symm.trans failed) (by decide),
          fun _ => sound.opened (.inl established),
          Handshake.typed_of_some rfl (Handshake.finPacket_pType _)⟩
      · exact sound
  | send =>
      have typed := sound.typed.send
      have same : u.core.handshake.send.state = u.core.handshake.state ∧
          u.core.handshake.send.errorOccured = u.core.handshake.errorOccured ∧
          u.core.handshake.send.synReced = u.core.handshake.synReced := by
        unfold Handshake.send
        repeat' split
        all_goals exact ⟨rfl, rfl, rfl⟩
      exact ⟨by rw [same.1, same.2.1]; exact sound.failed,
        by rw [same.1, same.2.2]; exact sound.opened, typed⟩
  | again => exact ⟨sound.failed, sound.opened, sound.typed.congr rfl⟩
  | giveUp => exact .fail (Handshake.typed_of_none rfl)
  | lost => exact .fail sound.typed

/-- An error is never forgotten. -/
theorem sockStep_failed (allowed : sockEnabled u event)
    (failed : u.core.ctrl.errorOccured = true) :
    (sockStep u event).core.ctrl.errorOccured = true := by
  have before : u.core.handshake.errorOccured = true := failed
  have step := handshake_step u event
  show (sockStep u event).core.handshake.errorOccured = true
  generalize (sockStep u event).core.handshake = k at step ⊢
  cases step with
  | idle event noPacket => exact before
  | packet p ourMss => exact absurd (allowed.1.symm.trans failed) (by decide)
  | call method taken => exact absurd (taken.2.2.2.symm.trans failed) (by decide)
  | send =>
      unfold Handshake.send
      repeat' split
      all_goals exact before
  | again => exact before
  | giveUp => rfl
  | lost => rfl

/-- A connection that is over stays over while the socket opens only once. -/
theorem sockStep_ended (allowed : sockEnabled u event) (once : opensOnce u event)
    (sound : u.core.handshake.Sound) (ended : u.core.handshake.Ended) :
    (sockStep u event).core.handshake.Ended := by
  have step := handshake_step u event
  generalize (sockStep u event).core.handshake = k at step
  cases step with
  | idle event noPacket => exact ended
  | packet p ourMss =>
      unfold Handshake.ctrlPacket
      split
      · exact .inl rfl
      · have noError : u.core.handshake.errorOccured = false := allowed.1
        obtain ⟨-, moves⟩ := (u.core.handshake.note p).packet_moves p ourMss
        rcases ended with failed | gone
        · exact absurd (noError.symm.trans failed) (by decide)
        · exact .inr (moves.gone sound.opened gone)
  | call method taken =>
      have noError : u.core.handshake.errorOccured = false := taken.2.2.2
      unfold Handshake.call
      rw [noError, if_neg (by decide)]
      split
      · rename_i closed
        have fresh : u.core.handshake.synReced = false := once rfl taken closed
        rcases ended with failed | closing | ⟨_, syn⟩
        · exact absurd (noError.symm.trans failed) (by decide)
        · exact absurd (closed.symm.trans closing) (by decide)
        · exact absurd (fresh.symm.trans syn) (by decide)
      · exact .inr (.inl rfl)
      · exact ended
  | send =>
      unfold Handshake.send
      repeat' split
      all_goals exact ended
  | again => exact ended
  | giveUp => exact .inl rfl
  | lost => exact .inl rfl

end Steps

end UserMessageProtocol
