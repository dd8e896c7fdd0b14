import UserMessageProtocol.Packet.RoundTrip
import UserMessageProtocol.Socket.Handshake

/-!
Contract: a connection whose opening (closing) is complete leaves the state in
which it was being opened (closed).

Owns: the property of a handshake (`Completed`), the packets after which it fails
(`missesCompletion`), and the theorem that it fails after no others.

Does not own: which acks count (`Connection.Acknowledgement`).
-/

set_option autoImplicit false

namespace UserMessageProtocol

/-- While the connection is being opened or closed, one half of it is missing. -/
def Handshake.Completed (h : Handshake) : Prop :=
  (h.state = .connecting → ¬ (h.synReced ∧ h.synAckReced)) ∧
    (h.state = .closing → ¬ (h.finReced ∧ h.finAckReced))

instance (h : Handshake) : Decidable h.Completed := by
  unfold Handshake.Completed
  infer_instance

/-- A control packet that brings the second half without a look at the first: a
repeated SYN while connecting, or a SYN or FIN that finds the flag of an earlier
ack still set. -/
def Handshake.missesCompletion (h : Handshake) (p : UMPPacket) : Prop :=
  uPacketGetFlag p UP_CTRL_RST = false ∧
    match h.state with
    | .closed =>
        h.synReced = false ∧ uPacketGetFlag p UP_CTRL_SYN ∧ uPacketGetFlag p UP_CTRL_SEQ ∧
          h.synAckReced
    | .connecting =>
        h.synReced ∧ uPacketGetFlag p UP_CTRL_SYN ∧
          (h.synAckReced ∨ uPacketGetFlag p UP_CTRL_ACK)
    | .established =>
        uPacketGetFlag p UP_CTRL_SEQ ∧ p.seqNum = h.theirCtrlSeq ∧
          uPacketGetFlag p UP_CTRL_FIN ∧ h.finAckReced
    | .closing => False

section Steps

variable (h : Handshake) (p : UMPPacket) (ourMss : UInt16)

theorem Handshake.completed_enter_other {state : UMPSockState} (other : state ≠ .connecting)
    (other' : state ≠ .closing) : (h.enter state).Completed := by
  simp [Handshake.Completed, Handshake.enter, other, other']

/-- The check at the end of the connecting handler leaves nothing open. -/
theorem Handshake.completed_completeOpen (connecting : h.state = .connecting) :
    h.completeOpen.Completed := by
  unfold Handshake.completeOpen
  split
  · exact h.completed_enter_other (by simp) (by simp)
  · rename_i open_
    simp [Handshake.Completed, connecting] at open_ ⊢
    exact open_

/-- The check at the end of the closing handler leaves nothing open. -/
theorem Handshake.completed_completeClose (closing : h.state = .closing) :
    h.completeClose.Completed := by
  unfold Handshake.completeClose
  split
  · exact h.completed_enter_other (by simp) (by simp)
  · rename_i open_
    simp [Handshake.Completed, closing] at open_ ⊢
    exact open_

theorem Handshake.completed_closedPacket (closed : h.state = .closed) :
    (h.closedPacket p ourMss).Completed ↔
      ¬ (h.synReced = false ∧ uPacketGetFlag p UP_CTRL_SYN ∧ uPacketGetFlag p UP_CTRL_SEQ ∧
        h.synAckReced) := by
  unfold Handshake.closedPacket
  split
  · rename_i opening
    split
    · rename_i numbered
      simp [Handshake.Completed, Handshake.enter, Handshake.queue, Handshake.takeSyn,
        Handshake.oweAck, opening, numbered]
    · rename_i unnumbered
      simp [Handshake.Completed, closed, unnumbered]
  · rename_i notOpening
    have notMissed : ¬ (h.synReced = false ∧ uPacketGetFlag p UP_CTRL_SYN ∧
        uPacketGetFlag p UP_CTRL_SEQ ∧ h.synAckReced) :=
      fun missed => notOpening ⟨missed.1, missed.2.1⟩
    simp only [notMissed, not_false_eq_true, iff_true]
    unfold Handshake.count
    split
    · split <;> simp [Handshake.Completed, Handshake.oweAck, closed]
    · simp [Handshake.Completed, closed]

theorem Handshake.completed_connectingPacket (connecting : h.state = .connecting) :
    (h.connectingPacket p).Completed ↔
      ¬ (h.synReced ∧ uPacketGetFlag p UP_CTRL_SYN ∧
        (h.synAckReced ∨ uPacketGetFlag p UP_CTRL_ACK)) := by
  -- the ack only adds the flag and gives up the pending packet
  have ackState : (h.connectingAck p).state = .connecting := by
    unfold Handshake.connectingAck Handshake.heedAck Handshake.drop
    repeat' split
    all_goals simp [connecting]
  have ackSyn : (h.connectingAck p).synReced = h.synReced := by
    unfold Handshake.connectingAck Handshake.heedAck Handshake.drop
    repeat' split
    all_goals rfl
  have ackAcked : (h.connectingAck p).synAckReced =
      (h.synAckReced || uPacketGetFlag p UP_CTRL_ACK) := by
    unfold Handshake.connectingAck Handshake.heedAck Handshake.drop
    cases uPacketGetFlag p UP_CTRL_ACK <;> simp
  unfold Handshake.connectingPacket
  generalize h.connectingAck p = afterAck at ackState ackSyn ackAcked
  dsimp only
  rw [← ackSyn]
  by_cases syn : uPacketGetFlag p UP_CTRL_SYN
  · rw [if_pos syn]
    by_cases again : afterAck.synReced
    · -- a repeated SYN returns early
      rw [if_pos again]
      simp [syn, again, Handshake.Completed, Handshake.oweAck, ackState, ackAcked]
    · rw [if_neg again]
      have notMissed : afterAck.synReced = false := by simpa using again
      refine iff_of_true ?_ (by simp [notMissed])
      split
      · exact Handshake.completed_completeOpen _ ackState
      · simp [Handshake.Completed, ackState, notMissed]
  · rw [if_neg syn]
    refine iff_of_true ?_ fun missed => syn missed.2.1
    split
    · refine Handshake.completed_completeOpen _ ?_
      unfold Handshake.count Handshake.oweAck
      split <;> exact ackState
    · exact Handshake.completed_completeOpen _ ackState

theorem Handshake.completed_establishedPacket (established : h.state = .established) :
    (h.establishedPacket p).Completed ↔
      ¬ (uPacketGetFlag p UP_CTRL_SEQ ∧ p.seqNum = h.theirCtrlSeq ∧
        uPacketGetFlag p UP_CTRL_FIN ∧ h.finAckReced) := by
  unfold Handshake.establishedPacket
  have ackSame : ∀ k : Handshake, (k = h ∨ k = h.drop) → k.state = .established ∧
      k.theirCtrlSeq = h.theirCtrlSeq ∧ k.finAckReced = h.finAckReced := by
    rintro k (rfl | rfl)
    · exact ⟨established, rfl, rfl⟩
    · exact ⟨established, rfl, rfl⟩
  have ackCases : (if uPacketGetFlag p UP_CTRL_ACK ∧ h.ourCtrlSeq = p.ackNum then h.drop else h) =
      h ∨ (if uPacketGetFlag p UP_CTRL_ACK ∧ h.ourCtrlSeq = p.ackNum then h.drop else h) =
      h.drop := by
    split
    · exact .inr rfl
    · exact .inl rfl
  generalize (if uPacketGetFlag p UP_CTRL_ACK ∧ h.ourCtrlSeq = p.ackNum then h.drop else h) = k
    at ackCases
  obtain ⟨state, theirs, acked⟩ := ackSame k ackCases
  dsimp only
  rw [← theirs, ← acked]
  split
  · rename_i numbered
    split
    · rename_i fin
      simp [Handshake.Completed, Handshake.enter, Handshake.queue, Handshake.oweAck,
        Handshake.count, numbered, fin]
    · rename_i notFin
      refine iff_of_true ?_ fun missed => notFin ⟨missed.2.1, missed.2.2.1⟩
      unfold Handshake.count
      split <;> simp [Handshake.Completed, Handshake.oweAck, state]
  · rename_i unnumbered
    simp [Handshake.Completed, state, unnumbered]

theorem Handshake.completed_closingPacket (closing : h.state = .closing) :
    (h.closingPacket p).Completed := by
  have ackState : (h.closingAck p).state = .closing := by
    unfold Handshake.closingAck Handshake.heedAck Handshake.drop
    repeat' split
    all_goals simp [closing]
  unfold Handshake.closingPacket
  generalize h.closingAck p = afterAck at ackState
  dsimp only
  split
  · refine Handshake.completed_completeClose _ ?_
    unfold Handshake.count
    split <;> exact ackState
  · exact Handshake.completed_completeClose _ ackState

/-- After a control packet both halves are accounted for, unless the packet is one
that misses completion. -/
theorem Handshake.completed_ctrlPacket :
    (h.ctrlPacket p ourMss).Completed ↔ ¬ h.missesCompletion p := by
  unfold Handshake.ctrlPacket Handshake.missesCompletion
  by_cases reset : uPacketGetFlag p UP_CTRL_RST
  · simp [reset, Handshake.fail, Handshake.completed_enter_other]
  · have noReset : uPacketGetFlag p UP_CTRL_RST = false := by simpa using reset
    have sameState : (h.note p).state = h.state := rfl
    simp only [noReset, true_and, Handshake.packet, sameState]
    cases state : h.state with
    | closed => exact Handshake.completed_closedPacket (h.note p) p ourMss state
    | connecting => exact Handshake.completed_connectingPacket (h.note p) p state
    | established => exact Handshake.completed_establishedPacket (h.note p) p state
    | closing => exact iff_of_true (Handshake.completed_closingPacket (h.note p) p state) (by simp)

end Steps

/-! ### Runs of a socket -/

section Runs

variable (Lists : Type) [ReceiveLists Lists] (seq : UInt16) (clock : Clock)

/-- A fresh socket behind a list of events. -/
def socketAfter (events : List SockEvent) : UMPSocket Lists :=
  (sockMachine Lists).after (umpSockNew Lists seq clock) events

/-- At the end of every call of a control packet handler in the events, both
halves of an open or close are accounted for. -/
def CompletionSeen (events : List SockEvent) : Prop :=
  ∀ before p behind, events = before ++ .ctrlPacket p :: behind →
    (socketAfter Lists seq clock (before ++ [.ctrlPacket p])).core.handshake.Completed

/-- No control packet in the events misses completion where it comes. -/
def CompletionNotMissed (events : List SockEvent) : Prop :=
  ∀ before p behind, events = before ++ .ctrlPacket p :: behind →
    ¬ (socketAfter Lists seq clock before).core.handshake.missesCompletion p

theorem completed_afterCtrlPacket (before : List SockEvent) (p : UMPPacket) :
    (socketAfter Lists seq clock (before ++ [.ctrlPacket p])).core.handshake.Completed ↔
      ¬ (socketAfter Lists seq clock before).core.handshake.missesCompletion p := by
  have last : socketAfter Lists seq clock (before ++ [.ctrlPacket p]) =
      sockStep (socketAfter Lists seq clock before) (.ctrlPacket p) := by
    simp [socketAfter, Machine.after, sockMachine]
  rw [last]
  simp only [sockStep, umpHandleCtrlPacket_handshake]
  exact Handshake.completed_ctrlPacket _ p _

/-- Whatever a socket goes through, completion is seen at the end of every control
packet exactly when no packet misses it. -/
theorem completionSeen_iff (events : List SockEvent) :
    CompletionSeen Lists seq clock events ↔ CompletionNotMissed Lists seq clock events := by
  unfold CompletionSeen CompletionNotMissed
  simp only [completed_afterCtrlPacket]

end Runs

/-- A simultaneous open with one lost ack: the peer's SYN comes bare first and
then, sent again, with the ack of ours. -/
def repeatedSynRun : List SockEvent :=
  [.userCtrl .connect, .handleCtrl, .sendCtrlPacket,
    .ctrlPacket (receivedForm (synPacket 7 1400)), .sendCtrlPacket,
    .ctrlPacket
      (receivedForm { uPacketSetFlag (synPacket 7 1400) UP_CTRL_ACK with ackNum := 101 })]

/-- Both SYN and its ack are there, and the socket is still connecting. -/
theorem completionSeen_fails :
    ¬ ∀ (seq : UInt16) (clock : Clock) (events : List SockEvent) (u : UMPSocket PlainLists),
      (sockMachine PlainLists).Run (umpSockNew PlainLists seq clock) events u →
        CompletionSeen PlainLists seq clock events := by
  intro always
  have run : (sockMachine PlainLists).Run (umpSockNew PlainLists 100 ⟨fun _ => ⟨0, 0⟩, 0⟩)
      repeatedSynRun _ := Machine.runWhere_of_check (by decide)
  have missed := always 100 _ repeatedSynRun _ run repeatedSynRun.dropLast _ [] rfl
  exact absurd missed (by decide)

end UserMessageProtocol
