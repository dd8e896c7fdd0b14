import UserMessageProtocol.Packet.RoundTrip
import UserMessageProtocol.Socket.Handshake

/-!
Contract: a connection opens (closes) only on an ack of its SYN (FIN).

Owns: the acks since a packet was queued (`acknowledgedSince`), the property of a
history (`TransitionsAcknowledged`), the steps that do not take a wrong ack for
the right one (`heedsAcks`), and the run theorem.

Does not own: when the connection leaves the state (`Connection.Completion`).
-/

set_option autoImplicit false

namespace UserMessageProtocol

/-! ### Histories -/

/-- Since the last packet with this flag was queued, a packet was processed whose
ack is `our_ctrl_seq`. -/
def acknowledgedSince (flag : UInt8) : List Action → Prop
  | [] => False
  | action :: rest =>
      match action with
      | .queued p => uPacketGetFlag p flag = false ∧ acknowledgedSince flag rest
      | .processed p ourCtrlSeq =>
          (uPacketGetFlag p UP_CTRL_ACK ∧ ourCtrlSeq = p.ackNum) ∨ acknowledgedSince flag rest
      | _ => acknowledgedSince flag rest

/-- What a change of state asks of the history before it. A close by an error is
marked as such right before the change. -/
def changeAcknowledged (old new : UMPSockState) (before : List Action) : Prop :=
  match old, new with
  | .connecting, .established => acknowledgedSince UP_CTRL_SYN before
  | .closing, .closed => before.head? = some .failed ∨ acknowledgedSince UP_CTRL_FIN before
  | _, _ => True

/-- Every opening and every closing without an error was acknowledged. -/
def TransitionsAcknowledged : List Action → Prop
  | [] => True
  | action :: before =>
      (match action with
        | .changed old new => changeAcknowledged old new before
        | _ => True) ∧ TransitionsAcknowledged before

/-! ### Steps that heed acks -/

/-- In its state, the packet is not taken for the ack it is not: an ack while
connecting (closing) matches or finds the flag set, and a SYN (FIN) that is
answered finds the flag clear. -/
def Handshake.heedsPacket (h : Handshake) (p : UMPPacket) : Prop :=
  uPacketGetFlag p UP_CTRL_RST ∨
    match h.state with
    | .closed =>
        h.synReced = false ∧ uPacketGetFlag p UP_CTRL_SYN ∧ uPacketGetFlag p UP_CTRL_SEQ →
          h.synAckReced = false
    | .connecting =>
        uPacketGetFlag p UP_CTRL_ACK → h.ourCtrlSeq = p.ackNum ∨ h.synAckReced
    | .established =>
        uPacketGetFlag p UP_CTRL_SEQ ∧ p.seqNum = h.theirCtrlSeq ∧ uPacketGetFlag p UP_CTRL_FIN →
          h.finAckReced = false
    | .closing =>
        uPacketGetFlag p UP_CTRL_ACK → h.ourCtrlSeq = p.ackNum ∨ h.finAckReced

/-- A call that queues a SYN (FIN) finds the flag of its ack clear. -/
def Handshake.heedsCall (h : Handshake) (method : UMPCallMethod) : Prop :=
  match h.state, method with
  | .closed, .connect => h.synAckReced = false
  | .established, .close => h.finAckReced = false
  | _, _ => True

/-- The condition on a step of a socket. -/
def heedsAcks {Lists : Type} (u : UMPSocket Lists) : SockEvent → Prop
  | .ctrlPacket p => u.core.handshake.heedsPacket p
  | .handleCtrl => ∀ method ∈ u.core.ctrl.ctrlPara, takesCall u.core method →
      u.core.handshake.heedsCall method
  | _ => True

instance (h : Handshake) (p : UMPPacket) : Decidable (h.heedsPacket p) := by
  unfold Handshake.heedsPacket
  cases h.state <;> infer_instance

instance (h : Handshake) (method : UMPCallMethod) : Decidable (h.heedsCall method) := by
  unfold Handshake.heedsCall
  cases h.state <;> cases method <;> infer_instance

instance {Lists : Type} (u : UMPSocket Lists) (event : SockEvent) :
    Decidable (heedsAcks u event) :=
  match event with
  | .handleCtrl => by unfold heedsAcks; infer_instance
  | .ctrlPacket _ => by unfold heedsAcks; infer_instance
  | .userCtrl .. | .userSend .. | .userReceive | .handleSend | .handleReceive | .bufferLoad .. |
    .dataPacket .. | .dataTimeout | .refreshRwnd | .refreshAck | .actReqWnd | .ctrlTimeout |
    .sendCtrlPacket | .heartbeat | .sendData | .sendReset => instDecidableTrue

instance decidableAcknowledgedSince (flag : UInt8) :
    (history : List Action) → Decidable (acknowledgedSince flag history)
  | [] => isFalse not_false
  | action :: rest => by
      have := decidableAcknowledgedSince flag rest
      cases action <;> unfold acknowledgedSince <;> infer_instance

instance (old new : UMPSockState) (before : List Action) :
    Decidable (changeAcknowledged old new before) := by
  cases old <;> cases new <;> unfold changeAcknowledged <;> infer_instance

instance decidableTransitionsAcknowledged :
    (history : List Action) → Decidable (TransitionsAcknowledged history)
  | [] => isTrue trivial
  | action :: rest => by
      have := decidableTransitionsAcknowledged rest
      cases action <;> unfold TransitionsAcknowledged <;> infer_instance

/-! ### The invariant -/

/-- The flags of the acks mean what they say. -/
structure AckFlagsTrue (h : Handshake) : Prop where
  transitions : TransitionsAcknowledged h.history
  opening : h.state = .connecting → h.synAckReced → acknowledgedSince UP_CTRL_SYN h.history
  closing : h.state = .closing → h.finAckReced → acknowledgedSince UP_CTRL_FIN h.history

namespace AckFlagsTrue

variable {h : Handshake} {p : UMPPacket}

/-- A change into a state other than the two in which acks are awaited. -/
theorem enter (flags : AckFlagsTrue h) {state : UMPSockState}
    (acknowledged : changeAcknowledged h.state state h.history)
    (opening : state = .connecting → h.synAckReced = false)
    (closing : state = .closing → h.finAckReced = false) : AckFlagsTrue (h.enter state) where
  transitions := ⟨acknowledged, flags.transitions⟩
  opening := fun connecting reced => absurd reced (by simp [Handshake.enter, opening connecting])
  closing := fun closing' reced => absurd reced (by simp [Handshake.enter, closing closing'])

theorem fail (flags : AckFlagsTrue h) : AckFlagsTrue h.fail := by
  have failed : AckFlagsTrue { h with errorOccured := true, history := .failed :: h.history } :=
    ⟨⟨trivial, flags.transitions⟩, flags.opening, flags.closing⟩
  refine failed.enter ?_ (by simp) (by simp)
  cases state : h.state <;> simp [changeAcknowledged]

/-- A packet processed adds to the acks and takes none away. -/
theorem note (flags : AckFlagsTrue h) :
    AckFlagsTrue (h.note p) where
  transitions := ⟨trivial, flags.transitions⟩
  opening := fun connecting reced => .inr (flags.opening connecting reced)
  closing := fun closing reced => .inr (flags.closing closing reced)

/-- Fields that do not belong to the property. -/
theorem congr {k : Handshake} (flags : AckFlagsTrue h) (history : k.history = h.history)
    (state : k.state = h.state) (syn : k.synAckReced = h.synAckReced)
    (fin : k.finAckReced = h.finAckReced) : AckFlagsTrue k where
  transitions := history ▸ flags.transitions
  opening := by rw [history, state, syn]; exact flags.opening
  closing := by rw [history, state, fin]; exact flags.closing

theorem drop (flags : AckFlagsTrue h) : AckFlagsTrue h.drop := flags.congr rfl rfl rfl rfl

theorem oweAck (flags : AckFlagsTrue h) : AckFlagsTrue h.oweAck := flags.congr rfl rfl rfl rfl

theorem count (flags : AckFlagsTrue h) : AckFlagsTrue (h.count p) := by
  unfold Handshake.count
  split
  · exact flags.congr rfl rfl rfl rfl
  · exact flags

/-- A SYN or FIN is queued in a state in which no ack is awaited. -/
theorem queue (flags : AckFlagsTrue h) (idle : h.state ≠ .connecting) (idle' : h.state ≠ .closing) :
    AckFlagsTrue (h.queue p) where
  transitions := ⟨trivial, flags.transitions⟩
  opening := fun connecting => absurd connecting idle
  closing := fun closing => absurd closing idle'

theorem completeOpen (flags : AckFlagsTrue h) (connecting : h.state = .connecting) :
    AckFlagsTrue h.completeOpen := by
  unfold Handshake.completeOpen
  split
  · rename_i both
    refine flags.enter ?_ (by simp) (by simp)
    rw [connecting]
    exact flags.opening connecting both.2
  · exact flags

theorem completeClose (flags : AckFlagsTrue h) (closing : h.state = .closing) :
    AckFlagsTrue h.completeClose := by
  unfold Handshake.completeClose
  split
  · rename_i both
    refine flags.enter ?_ (by simp) (by simp)
    rw [closing]
    exact .inr (flags.closing closing both.2)
  · exact flags

end AckFlagsTrue

/-! ### Control packets -/

section Packets

variable {h : Handshake} {p : UMPPacket} {ourMss : UInt16}

theorem closedPacket_flags (flags : AckFlagsTrue h) (closed : h.state = .closed)
    (heeds : h.synReced = false ∧ uPacketGetFlag p UP_CTRL_SYN ∧ uPacketGetFlag p UP_CTRL_SEQ →
      h.synAckReced = false) : AckFlagsTrue (h.closedPacket p ourMss) := by
  unfold Handshake.closedPacket
  split
  · rename_i opening
    split
    · rename_i numbered
      have taken : AckFlagsTrue (h.takeSyn p) := flags.congr rfl rfl rfl rfl
      have idle : (h.takeSyn p).state = .closed := closed
      refine (taken.queue (by simp [idle]) (by simp [idle])).enter ?_
        (fun _ => heeds ⟨opening.1, opening.2, numbered⟩) (by simp)
      simp [changeAcknowledged, Handshake.queue, idle]
    · exact flags
  · split
    · exact flags.count.oweAck
    · exact flags

/-- While connecting, an ack that matches or finds the flag set keeps the flag true. -/
theorem connectingAck_flags (flags : AckFlagsTrue h) (connecting : h.state = .connecting)
    (logged : ∃ before, h.history = .processed p h.ourCtrlSeq :: before)
    (heeds : uPacketGetFlag p UP_CTRL_ACK → h.ourCtrlSeq = p.ackNum ∨ h.synAckReced) :
    AckFlagsTrue (h.connectingAck p) ∧ (h.connectingAck p).state = .connecting := by
  unfold Handshake.connectingAck
  split
  · rename_i ack
    have heeded : AckFlagsTrue (h.heedAck p) ∧ (h.heedAck p).state = .connecting ∧
        (h.heedAck p).history = h.history := by
      unfold Handshake.heedAck
      split
      · exact ⟨flags.drop, connecting, rfl⟩
      · exact ⟨flags, connecting, rfl⟩
    obtain ⟨heededFlags, state, history⟩ := heeded
    refine ⟨⟨heededFlags.transitions, fun _ _ => ?_, fun closing => ?_⟩, state⟩
    · rw [history]
      rcases heeds ack with equal | reced
      · obtain ⟨before, logged⟩ := logged
        rw [logged]
        exact .inl ⟨ack, equal⟩
      · exact flags.opening connecting reced
    · exact absurd closing (by simp [state])
  · exact ⟨flags, connecting⟩

theorem connectingPacket_flags (flags : AckFlagsTrue h) (connecting : h.state = .connecting)
    (logged : ∃ before, h.history = .processed p h.ourCtrlSeq :: before)
    (heeds : uPacketGetFlag p UP_CTRL_ACK → h.ourCtrlSeq = p.ackNum ∨ h.synAckReced) :
    AckFlagsTrue (h.connectingPacket p) := by
  obtain ⟨ackFlags, state⟩ := connectingAck_flags flags connecting logged heeds
  unfold Handshake.connectingPacket
  generalize h.connectingAck p = k at ackFlags state
  dsimp only
  have counted : (k.count p).oweAck.state = .connecting := by
    unfold Handshake.count
    split <;> exact state
  split
  · split
    · exact ackFlags.oweAck
    · split
      · have taken : AckFlagsTrue (k.takeSyn p) := ackFlags.congr rfl rfl rfl rfl
        exact taken.completeOpen state
      · exact ackFlags
  · split
    · exact ackFlags.count.oweAck.completeOpen counted
    · exact ackFlags.completeOpen state

theorem establishedPacket_flags (flags : AckFlagsTrue h) (established : h.state = .established)
    (heeds : uPacketGetFlag p UP_CTRL_SEQ ∧ p.seqNum = h.theirCtrlSeq ∧
      uPacketGetFlag p UP_CTRL_FIN → h.finAckReced = false) :
    AckFlagsTrue (h.establishedPacket p) := by
  unfold Handshake.establishedPacket
  have acked : ∃ k : Handshake, (if uPacketGetFlag p UP_CTRL_ACK ∧ h.ourCtrlSeq = p.ackNum then
      h.drop else h) = k ∧ AckFlagsTrue k ∧ k.state = .established ∧
      k.theirCtrlSeq = h.theirCtrlSeq ∧ k.finAckReced = h.finAckReced := by
    split
    · exact ⟨_, rfl, flags.drop, established, rfl, rfl⟩
    · exact ⟨_, rfl, flags, established, rfl, rfl⟩
  obtain ⟨k, equal, ackFlags, state, theirs, fin⟩ := acked
  rw [equal]
  dsimp only
  rw [← theirs, ← fin] at heeds
  split
  · rename_i numbered
    split
    · rename_i finished
      have counted : AckFlagsTrue { k.count p with finReced := true } :=
        ackFlags.count.congr rfl rfl rfl rfl
      have idle : (k.count p).state = .established := by
        unfold Handshake.count
        split <;> exact state
      have clear : (k.count p).finAckReced = false := by
        have := heeds ⟨numbered, finished⟩
        unfold Handshake.count
        split <;> exact this
      refine ((counted.queue (by simp [idle]) (by simp [idle])).enter ?_ (by simp)
        fun _ => clear).oweAck
      simp [changeAcknowledged, Handshake.queue, idle]
    · exact ackFlags.count.oweAck
  · exact ackFlags

/-- While closing, as while connecting. -/
theorem closingAck_flags (flags : AckFlagsTrue h) (closing : h.state = .closing)
    (logged : ∃ before, h.history = .processed p h.ourCtrlSeq :: before)
    (heeds : uPacketGetFlag p UP_CTRL_ACK → h.ourCtrlSeq = p.ackNum ∨ h.finAckReced) :
    AckFlagsTrue (h.closingAck p) ∧ (h.closingAck p).state = .closing := by
  unfold Handshake.closingAck
  split
  · rename_i ack
    have heeded : AckFlagsTrue (h.heedAck p) ∧ (h.heedAck p).state = .closing ∧
        (h.heedAck p).history = h.history := by
      unfold Handshake.heedAck
      split
      · exact ⟨flags.drop, closing, rfl⟩
      · exact ⟨flags, closing, rfl⟩
    obtain ⟨heededFlags, state, history⟩ := heeded
    refine ⟨⟨heededFlags.transitions, fun connecting => ?_, fun _ _ => ?_⟩, state⟩
    · exact absurd connecting (by simp [state])
    · rw [history]
      rcases heeds ack with equal | reced
      · obtain ⟨before, logged⟩ := logged
        rw [logged]
        exact .inl ⟨ack, equal⟩
      · exact flags.closing closing reced
  · exact ⟨flags, closing⟩

theorem closingPacket_flags (flags : AckFlagsTrue h) (closing : h.state = .closing)
    (logged : ∃ before, h.history = .processed p h.ourCtrlSeq :: before)
    (heeds : uPacketGetFlag p UP_CTRL_ACK → h.ourCtrlSeq = p.ackNum ∨ h.finAckReced) :
    AckFlagsTrue (h.closingPacket p) := by
  obtain ⟨ackFlags, state⟩ := closingAck_flags flags closing logged heeds
  unfold Handshake.closingPacket
  generalize h.closingAck p = k at ackFlags state
  dsimp only
  split
  · have counted : AckFlagsTrue (k.count p) ∧ (k.count p).state = .closing := by
      refine ⟨ackFlags.count, ?_⟩
      unfold Handshake.count
      split <;> exact state
    exact AckFlagsTrue.completeClose (counted.1.congr rfl rfl rfl rfl) counted.2
  · exact ackFlags.completeClose state

/-- A control packet that is heeded keeps the flags true. -/
theorem ctrlPacket_flags (flags : AckFlagsTrue h) (heeds : h.heedsPacket p) :
    AckFlagsTrue (h.ctrlPacket p ourMss) := by
  unfold Handshake.ctrlPacket
  split
  · exact flags.fail
  · rename_i noReset
    have heeds := heeds.resolve_left noReset
    have noted : AckFlagsTrue (h.note p) := flags.note
    have sameState : (h.note p).state = h.state := rfl
    unfold Handshake.packet
    rw [sameState]
    cases state : h.state with
    | closed =>
        rw [state] at heeds
        exact closedPacket_flags noted state heeds
    | connecting =>
        rw [state] at heeds
        exact connectingPacket_flags noted state ⟨_, rfl⟩ heeds
    | established =>
        rw [state] at heeds
        exact establishedPacket_flags noted state heeds
    | closing =>
        rw [state] at heeds
        exact closingPacket_flags noted state ⟨_, rfl⟩ heeds

end Packets

/-! ### Runs of a socket -/

section Runs

theorem call_flags {h : Handshake} {method : UMPCallMethod} {ourMss : UInt16}
    (flags : AckFlagsTrue h) (heeds : h.heedsCall method) :
    AckFlagsTrue (h.call method ourMss) := by
  unfold Handshake.call
  unfold Handshake.heedsCall at heeds
  split
  · exact flags
  · split <;> rename_i state
    · rw [state] at heeds
      refine (flags.queue (by simp [state]) (by simp [state])).enter ?_ (fun _ => heeds) (by simp)
      simp [changeAcknowledged, Handshake.queue, state]
    · rw [state] at heeds
      refine (flags.queue (by simp [state]) (by simp [state])).enter ?_ (by simp) fun _ => heeds
      simp [changeAcknowledged, Handshake.queue, state]
    · exact flags

theorem send_flags {h : Handshake} (flags : AckFlagsTrue h) : AckFlagsTrue h.send := by
  unfold Handshake.send
  split
  · split <;> exact flags.congr rfl rfl rfl rfl
  · exact flags.congr rfl rfl rfl rfl

variable {Lists : Type} [ReceiveLists Lists]

/-- A step that heeds acks keeps the flags true. -/
theorem sockStep_flags {u : UMPSocket Lists} {event : SockEvent}
    (flags : AckFlagsTrue u.core.handshake) (heeds : heedsAcks u event) :
    AckFlagsTrue (sockStep u event).core.handshake := by
  have stepped := handshake_step u event
  generalize (sockStep u event).core.handshake = k at stepped
  cases stepped with
  | idle => exact flags
  | packet p => exact ctrlPacket_flags flags heeds
  | call method taken => exact call_flags flags (heeds method taken.2.2.1 taken)
  | send => exact send_flags flags
  | again => exact flags.congr rfl rfl rfl rfl
  | giveUp => exact flags.drop.fail
  | lost => exact flags.fail

/-- In a run that heeds acks, every opening and every closing was acknowledged. -/
theorem transitionsAcknowledged_of_run {seq : UInt16} {clock : Clock} {events : List SockEvent}
    {u : UMPSocket Lists}
    (run : (sockMachine Lists).RunWhere heedsAcks (umpSockNew Lists seq clock) events u) :
    TransitionsAcknowledged (milestones u.core.log) := by
  have fresh : AckFlagsTrue (umpSockNew Lists seq clock).core.handshake :=
    ⟨trivial, nofun, nofun⟩
  exact (run.invariant fresh fun _ _ flags _ heeds => sockStep_flags flags heeds).transitions

end Runs

/-- An active open and an active close, each acknowledged. -/
def acknowledgedRun : List SockEvent :=
  [.userCtrl .connect, .handleCtrl, .sendCtrlPacket,
    .ctrlPacket (receivedForm { uPacketSetFlag (synPacket 7 1400) UP_CTRL_ACK with ackNum := 101 }),
    .sendCtrlPacket, .userCtrl .close, .handleCtrl, .sendCtrlPacket,
    .ctrlPacket (receivedForm { uPacketSetFlag (finPacket 8) UP_CTRL_ACK with ackNum := 102 })]

theorem transitionsAcknowledged_acknowledgedRun :
    TransitionsAcknowledged (milestones
      ((sockMachine PlainLists).after (umpSockNew PlainLists 100 ⟨fun _ => ⟨0, 0⟩, 0⟩)
        acknowledgedRun).core.log) :=
  transitionsAcknowledged_of_run (Machine.runWhere_of_check (by decide))

/-- The peer's SYN comes with an ack of a number that was never sent. -/
def wrongAckRun : List SockEvent :=
  [.userCtrl .connect, .handleCtrl, .sendCtrlPacket,
    .ctrlPacket (receivedForm { uPacketSetFlag (synPacket 7 1400) UP_CTRL_ACK with ackNum := 5 })]

/-- The socket is established without an ack of its SYN. -/
theorem transitionsAcknowledged_fails :
    ¬ ∀ (seq : UInt16) (clock : Clock) (events : List SockEvent) (u : UMPSocket PlainLists),
      (sockMachine PlainLists).Run (umpSockNew PlainLists seq clock) events u →
        TransitionsAcknowledged (milestones u.core.log) := by
  intro always
  have run : (sockMachine PlainLists).Run (umpSockNew PlainLists 100 ⟨fun _ => ⟨0, 0⟩, 0⟩)
      wrongAckRun _ := Machine.runWhere_of_check (by decide)
  have acknowledged := always 100 _ wrongAckRun _ run
  exact absurd acknowledged (by decide)

end UserMessageProtocol
