import UserMessageProtocol.Connection.Lifetime
import UserMessageProtocol.Connection.Packets

/-!
Contract: the control numbers of a socket and those it takes from its peer.

Owns: the two halves of a handshake (`OwnSide`, `TheirSide`), what a step can do to
each (`OwnMove`, `TheirMove`), and the fact that a socket's numbers are those of the
SYNs and FINs it queued (`Counted`).

Does not own: what the peer knows of them.
-/

set_option autoImplicit false

namespace UserMessageProtocol

open Serial

/-! ### The two halves of a handshake -/

def Action.isQueued : Action → Bool
  | .queued _ => true
  | _ => false

/-- How many SYNs and FINs a socket has queued. -/
def queuedCount (log : List Action) : Nat := log.countP Action.isQueued

@[simp] theorem queuedCount_queued (p : UMPPacket) (log : List Action) :
    queuedCount (.queued p :: log) = queuedCount log + 1 := by
  have counted : Action.isQueued (.queued p) = true := rfl
  simp [queuedCount, counted]

@[simp] theorem queuedCount_other {action : Action} (other : action.isQueued = false)
    (log : List Action) : queuedCount (action :: log) = queuedCount log := by
  simp [queuedCount, other]

/-- Every queued packet is a milestone. -/
theorem queuedCount_milestones (log : List Action) :
    queuedCount (milestones log) = queuedCount log := by
  unfold queuedCount milestones
  rw [List.countP_filter]
  apply List.countP_congr
  intro action _
  cases action <;> simp [Action.isQueued, Action.isMilestone]

/-- What a socket says of its own numbers. -/
structure OwnSide where
  state : UMPSockState
  errorOccured : Bool
  ourCtrlSeq : UInt16
  ctrlPacketToSend : Option UMPPacket
  synAckReced : Bool
  queued : Nat

/-- What it says of its peer's. -/
structure TheirSide where
  theirCtrlSeq : UInt16
  synReced : Bool
  finReced : Bool
  ctrlAckSet : Bool
  ctrlAckData : UInt16

namespace Handshake

variable (h : Handshake) (p : UMPPacket) (ourMss : UInt16)

def own : OwnSide where
  state := h.state
  errorOccured := h.errorOccured
  ourCtrlSeq := h.ourCtrlSeq
  ctrlPacketToSend := h.ctrlPacketToSend
  synAckReced := h.synAckReced
  queued := queuedCount h.history

def theirs : TheirSide where
  theirCtrlSeq := h.theirCtrlSeq
  synReced := h.synReced
  finReced := h.finReced
  ctrlAckSet := h.ctrlAckSet
  ctrlAckData := h.ctrlAckData

end Handshake

/-- A SYN or FIN is queued and a state entered. -/
def OwnSide.queue (own : OwnSide) (p : UMPPacket) (state : UMPSockState) : OwnSide :=
  { own with
    state := state
    ourCtrlSeq := own.ourCtrlSeq + 1
    ctrlPacketToSend := some p
    queued := own.queued + 1 }

/-- The pending packet is left alone, given up, or put on the wire. -/
def Leaves (before after : Option UMPPacket) : Prop :=
  after = before ∨ after = none ∨
    ∃ q ackInfo, before = some q ∧ after = some (pendingOnWire ackInfo q)

/-- What an event can do to a socket's own numbers. -/
inductive OwnMove (event : SockEvent) (own : OwnSide) : OwnSide → Prop where
  | keep (pending : Option UMPPacket) (left : Leaves own.ctrlPacketToSend pending) :
      OwnMove event own { own with ctrlPacketToSend := pending }
  | heard (p : UMPPacket) (packet : event = .ctrlPacket p) (ack : uPacketGetFlag p UP_CTRL_ACK)
      (connecting : own.state = .connecting) (pending : Option UMPPacket)
      (left : Leaves own.ctrlPacketToSend pending) (state : UMPSockState)
      (reached : state = .connecting ∨ state = .established) :
      OwnMove event own
        { own with ctrlPacketToSend := pending, synAckReced := true, state := state }
  | opened (connecting : own.state = .connecting) (acked : own.synAckReced = true) :
      OwnMove event own { own with state := .established }
  | syn (closed : own.state = .closed) (noError : own.errorOccured = false) (ourMss : UInt16) :
      OwnMove event own (own.queue (synPacket own.ourCtrlSeq ourMss) .connecting)
  | fin (established : own.state = .established) (noError : own.errorOccured = false) :
      OwnMove event own (own.queue (finPacket own.ourCtrlSeq) .closing)
  | finish (closing : own.state = .closing) (pending : Option UMPPacket)
      (left : Leaves own.ctrlPacketToSend pending) :
      OwnMove event own { own with ctrlPacketToSend := pending, state := .closed }
  | fail (pending : Option UMPPacket) (left : Leaves own.ctrlPacketToSend pending) :
      OwnMove event own
        { own with ctrlPacketToSend := pending, state := .closed, errorOccured := true }

/-- The ack of the peer's numbers is due. -/
def TheirSide.owe (theirs : TheirSide) : TheirSide :=
  { theirs with ctrlAckSet := true, ctrlAckData := theirs.theirCtrlSeq }

/-- What an event can do in a state to what a socket has of its peer's numbers. -/
inductive TheirMove (event : SockEvent) (state : UMPSockState) (theirs : TheirSide) :
    TheirSide → Prop where
  | keep : TheirMove event state theirs theirs
  | ackSent : TheirMove event state theirs { theirs with ctrlAckSet := false }
  | owe (p : UMPPacket) (packet : event = .ctrlPacket p)
      (known : theirs.synReced = true ∨
        uPacketGetFlag p UP_CTRL_SYN = false ∧ uPacketGetFlag p UP_CTRL_SEQ) :
      TheirMove event state theirs theirs.owe
  | count (p : UMPPacket) (packet : event = .ctrlPacket p)
      (known : theirs.synReced = true ∨
        uPacketGetFlag p UP_CTRL_SYN = false ∧ uPacketGetFlag p UP_CTRL_SEQ)
      (numbered : uPacketGetFlag p UP_CTRL_SEQ) (inSequence : p.seqNum = theirs.theirCtrlSeq)
      (finReced : Bool) (kept : theirs.finReced = true → finReced = true)
      (seen : state = .established ∨ state = .closing → uPacketGetFlag p UP_CTRL_FIN →
        finReced = true) :
      TheirMove event state theirs
        { theirs with theirCtrlSeq := theirs.theirCtrlSeq + 1, finReced := finReced }.owe
  | syn (p : UMPPacket) (packet : event = .ctrlPacket p) (fresh : theirs.synReced = false)
      (opening : state = .closed ∨ state = .connecting) (flag : uPacketGetFlag p UP_CTRL_SYN)
      (numbered : uPacketGetFlag p UP_CTRL_SEQ) :
      TheirMove event state theirs
        { theirs with theirCtrlSeq := p.seqNum + 1, synReced := true }.owe

/-! ### Control packets and the own half -/

section Packets

variable {h : Handshake} {p : UMPPacket} (ourMss : UInt16)

/-- Counting and owing leave the own half alone. -/
@[simp] theorem count_own : (h.count p).own = h.own := by
  unfold Handshake.count
  split <;> rfl

/-- A SYN or FIN is queued and a state entered. -/
theorem queue_own (state : UMPSockState) :
    ((h.queue p).enter state).own = h.own.queue p state := by
  simp only [Handshake.own, Handshake.enter, Handshake.queue, OwnSide.queue]
  rw [queuedCount_other rfl, queuedCount_queued]

@[simp] theorem oweAck_own : h.oweAck.own = h.own := rfl

@[simp] theorem takeSyn_own : (h.takeSyn p).own = h.own := rfl

theorem connectingAck_own : ∃ pending, Leaves h.own.ctrlPacketToSend pending ∧
    ((h.connectingAck p).own = { h.own with ctrlPacketToSend := pending, synAckReced := true } ∧
        uPacketGetFlag p UP_CTRL_ACK = true ∨
      (h.connectingAck p).own = h.own ∧ uPacketGetFlag p UP_CTRL_ACK = false) := by
  unfold Handshake.connectingAck
  split
  · rename_i ack
    unfold Handshake.heedAck
    split
    · exact ⟨none, .inr (.inl rfl), .inl ⟨rfl, ack⟩⟩
    · exact ⟨h.ctrlPacketToSend, .inl rfl, .inl ⟨rfl, ack⟩⟩
  · rename_i plain
    exact ⟨h.ctrlPacketToSend, .inl rfl, .inr ⟨rfl, by simpa using plain⟩⟩

/-- The end of the connecting handler stays or opens the connection. -/
theorem completeOpen_own (k : Handshake) : k.completeOpen.own = k.own ∨
    k.own.synAckReced = true ∧ k.completeOpen.own = { k.own with state := .established } := by
  unfold Handshake.completeOpen
  split
  · rename_i both
    exact .inr ⟨both.2, rfl⟩
  · exact .inl rfl

theorem connecting_own {k : Handshake} (connecting : h.state = .connecting)
    (same : k.own = (h.connectingAck p).own) :
    OwnMove (.ctrlPacket p) h.own k.own ∧ OwnMove (.ctrlPacket p) h.own k.completeOpen.own := by
  obtain ⟨pending, left, ⟨acked, flag⟩ | ⟨unchanged, -⟩⟩ := connectingAck_own (h := h) (p := p)
  · rw [acked] at same
    have stays : { h.own with ctrlPacketToSend := pending, synAckReced := true } =
        { h.own with ctrlPacketToSend := pending, synAckReced := true, state := .connecting } := by
      rw [← connecting]
      rfl
    refine ⟨?_, ?_⟩
    · rw [same, stays]
      exact .heard p rfl flag connecting pending left _ (.inl rfl)
    · rcases completeOpen_own k with stay | ⟨-, opened⟩
      · rw [stay, same, stays]
        exact .heard p rfl flag connecting pending left _ (.inl rfl)
      · rw [opened, same]
        exact .heard p rfl flag connecting pending left _ (.inr rfl)
  · rw [unchanged] at same
    refine ⟨?_, ?_⟩
    · rw [same]
      exact .keep _ (.inl rfl)
    · rcases completeOpen_own k with stay | ⟨acked, opened⟩
      · rw [stay, same]
        exact .keep _ (.inl rfl)
      · rw [opened]
        rw [same] at acked ⊢
        exact .opened connecting acked

theorem closing_own {k : Handshake} {pending : Option UMPPacket} (closing : h.state = .closing)
    (left : Leaves h.own.ctrlPacketToSend pending)
    (same : k.own = { h.own with ctrlPacketToSend := pending }) :
    OwnMove (.ctrlPacket p) h.own k.completeClose.own := by
  unfold Handshake.completeClose
  split
  · have entered : (k.enter .closed).own = { k.own with state := .closed } := rfl
    rw [entered, same]
    exact .finish closing pending left
  · rw [same]
    exact .keep pending left

theorem closingAck_own : ∃ pending, Leaves h.own.ctrlPacketToSend pending ∧
    (h.closingAck p).own = { h.own with ctrlPacketToSend := pending } := by
  unfold Handshake.closingAck Handshake.heedAck
  repeat' split
  · exact ⟨none, .inr (.inl rfl), rfl⟩
  · exact ⟨h.ctrlPacketToSend, .inl rfl, rfl⟩
  · exact ⟨h.ctrlPacketToSend, .inl rfl, rfl⟩

theorem packet_own (noError : h.errorOccured = false) :
    OwnMove (.ctrlPacket p) h.own (h.packet p ourMss).own := by
  have kept : OwnMove (.ctrlPacket p) h.own h.own := .keep h.ctrlPacketToSend (.inl rfl)
  unfold Handshake.packet
  cases state : h.state with
  | closed =>
      dsimp only
      unfold Handshake.closedPacket
      repeat' split
      · rw [queue_own, takeSyn_own]
        exact .syn state noError ourMss
      · exact kept
      · rw [oweAck_own, count_own]
        exact kept
      · exact kept
  | connecting =>
      dsimp only
      unfold Handshake.connectingPacket
      dsimp only
      repeat' split
      · exact (connecting_own (k := (h.connectingAck p).oweAck) state rfl).1
      · exact (connecting_own (k := (h.connectingAck p).takeSyn p) state rfl).2
      · exact (connecting_own state rfl).1
      · exact (connecting_own (k := ((h.connectingAck p).count p).oweAck) state (by simp)).2
      · exact (connecting_own state rfl).2
  | established =>
      dsimp only
      unfold Handshake.establishedPacket
      have acked : ∃ pending, Leaves h.own.ctrlPacketToSend pending ∧
          (if uPacketGetFlag p UP_CTRL_ACK ∧ h.ourCtrlSeq = p.ackNum then h.drop else h).own =
            { h.own with ctrlPacketToSend := pending } := by
        split
        · exact ⟨none, .inr (.inl rfl), rfl⟩
        · exact ⟨h.ctrlPacketToSend, .inl rfl, rfl⟩
      obtain ⟨pending, left, same⟩ := acked
      generalize (if uPacketGetFlag p UP_CTRL_ACK ∧ h.ourCtrlSeq = p.ackNum then h.drop
        else h) = k at same
      dsimp only
      repeat' split
      · have counted := (count_own (h := k) (p := p)).trans same
        have finned : ({ k.count p with finReced := true } : Handshake).own = (k.count p).own := rfl
        have seq : (k.count p).ourCtrlSeq = h.ourCtrlSeq := congrArg OwnSide.ourCtrlSeq counted
        have replaced : OwnSide.queue { h.own with ctrlPacketToSend := pending }
            (finPacket h.ourCtrlSeq) .closing = h.own.queue (finPacket h.ourCtrlSeq) .closing := rfl
        rw [oweAck_own, queue_own, finned, counted]
        dsimp only
        rw [seq, replaced]
        exact .fin state noError
      · rw [oweAck_own, count_own, same]
        exact .keep pending left
      · rw [same]
        exact .keep pending left
  | closing =>
      dsimp only
      unfold Handshake.closingPacket
      obtain ⟨pending, left, same⟩ := closingAck_own (h := h) (p := p)
      dsimp only
      split
      · exact closing_own state left ((count_own (h := h.closingAck p)).trans same)
      · exact closing_own state left same

end Packets

/-! ### Control packets and the peer's half -/

section TheirPackets

variable {h : Handshake} {p : UMPPacket} (ourMss : UInt16)

@[simp] theorem connectingAck_theirs : (h.connectingAck p).theirs = h.theirs := by
  unfold Handshake.connectingAck Handshake.heedAck
  repeat' split
  all_goals rfl

@[simp] theorem closingAck_theirs : (h.closingAck p).theirs = h.theirs := by
  unfold Handshake.closingAck Handshake.heedAck
  repeat' split
  all_goals rfl

@[simp] theorem completeOpen_theirs : h.completeOpen.theirs = h.theirs := by
  unfold Handshake.completeOpen
  split <;> rfl

@[simp] theorem completeClose_theirs : h.completeClose.theirs = h.theirs := by
  unfold Handshake.completeClose
  split <;> rfl

theorem queue_theirs (state : UMPSockState) : ((h.queue p).enter state).theirs = h.theirs := rfl

theorem oweAck_theirs : h.oweAck.theirs = h.theirs.owe := rfl

theorem takeSyn_theirs : (h.takeSyn p).theirs =
    { h.theirs with theirCtrlSeq := p.seqNum + 1, synReced := true }.owe := rfl

/-- A numbered packet is counted or not, and its ack is due. -/
theorem count_theirs {state : UMPSockState}
    (known : h.theirs.synReced = true ∨
      uPacketGetFlag p UP_CTRL_SYN = false ∧ uPacketGetFlag p UP_CTRL_SEQ)
    (numbered : uPacketGetFlag p UP_CTRL_SEQ)
    (unseen : state ≠ .established ∧ state ≠ .closing ∨ uPacketGetFlag p UP_CTRL_FIN = false ∨
      p.seqNum ≠ h.theirCtrlSeq) :
    TheirMove (.ctrlPacket p) state h.theirs (h.count p).oweAck.theirs := by
  unfold Handshake.count
  split
  · rename_i inSequence
    refine .count p rfl known numbered inSequence h.theirs.finReced id ?_
    rintro (established | closing) fin
    · rcases unseen with other | noFin | apart
      · exact absurd established other.1
      · rw [noFin] at fin
        exact absurd fin (by decide)
      · exact absurd inSequence apart
    · rcases unseen with other | noFin | apart
      · exact absurd closing other.2
      · rw [noFin] at fin
        exact absurd fin (by decide)
      · exact absurd inSequence apart
  · exact .owe p rfl known

theorem packet_theirs (opened : h.state = .established ∨ h.state = .closing → h.synReced = true) :
    TheirMove (.ctrlPacket p) h.state h.theirs (h.packet p ourMss).theirs := by
  unfold Handshake.packet
  cases state : h.state with
  | closed =>
      dsimp only
      unfold Handshake.closedPacket
      split
      · rename_i opening
        split
        · rename_i numbered
          rw [queue_theirs, takeSyn_theirs]
          exact .syn p rfl opening.1 (.inl rfl) opening.2 numbered
        · exact .keep
      · rename_i known
        split
        · rename_i numbered
          refine count_theirs ?_ numbered (.inl ⟨by decide, by decide⟩)
          by_cases syn : h.synReced = true
          · exact .inl syn
          · right
            refine ⟨?_, numbered⟩
            by_contra flag
            exact known ⟨by simpa using syn, by simpa using flag⟩
        · exact .keep
  | connecting =>
      dsimp only
      unfold Handshake.connectingPacket
      have same : (h.connectingAck p).theirs = h.theirs := connectingAck_theirs
      generalize h.connectingAck p = k at same
      dsimp only
      split
      · rename_i syn
        split
        · rename_i heard
          rw [oweAck_theirs, same]
          exact .owe p rfl (.inl ((congrArg TheirSide.synReced same).symm.trans heard))
        · rename_i fresh
          split
          · rename_i numbered
            rw [completeOpen_theirs, takeSyn_theirs, same]
            refine .syn p rfl ?_ (.inr rfl) syn numbered
            rw [← same]
            exact (Bool.not_eq_true _).mp fresh
          · rw [same]
            exact .keep
      · rename_i noSyn
        split
        · rename_i numbered
          rw [completeOpen_theirs, ← same]
          exact count_theirs (.inr ⟨by simpa using noSyn, numbered⟩) numbered
            (.inl ⟨by decide, by decide⟩)
        · rw [completeOpen_theirs, same]
          exact .keep
  | established =>
      have heard : h.theirs.synReced = true := opened (.inl state)
      dsimp only
      unfold Handshake.establishedPacket
      have same : (if uPacketGetFlag p UP_CTRL_ACK ∧ h.ourCtrlSeq = p.ackNum then h.drop
          else h).theirs = h.theirs := by
        split <;> rfl
      generalize (if uPacketGetFlag p UP_CTRL_ACK ∧ h.ourCtrlSeq = p.ackNum then h.drop
        else h) = k at same
      dsimp only
      split
      · rename_i numbered
        split
        · rename_i fin
          rw [oweAck_theirs, queue_theirs]
          have counted : (({ k.count p with finReced := true } : Handshake).theirs) =
              { k.theirs with theirCtrlSeq := k.theirs.theirCtrlSeq + 1, finReced := true } := by
            unfold Handshake.count
            rw [if_pos fin.1]
            rfl
          rw [counted, same]
          refine .count p rfl (.inl heard) numbered ?_ true (fun _ => rfl) fun _ _ => rfl
          rw [← same]
          exact fin.1
        · rename_i notFin
          rw [← same] at heard ⊢
          refine count_theirs (.inl heard) numbered (.inr ?_)
          by_cases fin : uPacketGetFlag p UP_CTRL_FIN = true
          · exact .inr fun inSequence => notFin ⟨inSequence, fin⟩
          · exact .inl (by simpa using fin)
      · rw [same]
        exact .keep
  | closing =>
      have heard : h.theirs.synReced = true := opened (.inr state)
      dsimp only
      unfold Handshake.closingPacket
      have same : (h.closingAck p).theirs = h.theirs := closingAck_theirs
      generalize h.closingAck p = k at same
      dsimp only
      split
      · rename_i numbered
        rw [completeClose_theirs, oweAck_theirs]
        have finKept : h.theirs.finReced = k.finReced := congrArg TheirSide.finReced same.symm
        by_cases inSequence : p.seqNum = k.theirCtrlSeq
        · have counted : (({ k.count p with
                finReced := k.finReced ||
                  (p.seqNum = k.theirCtrlSeq && uPacketGetFlag p UP_CTRL_FIN) } : Handshake).theirs) =
              { k.theirs with
                theirCtrlSeq := k.theirs.theirCtrlSeq + 1
                finReced := k.finReced ||
                  (p.seqNum = k.theirCtrlSeq && uPacketGetFlag p UP_CTRL_FIN) } := by
            unfold Handshake.count
            rw [if_pos inSequence]
            rfl
          rw [counted, same]
          refine .count p rfl (.inl heard) numbered ?_ _ ?_ ?_
          · rw [← same]
            exact inSequence
          · rw [finKept]
            intro seen
            rw [seen, Bool.true_or]
          · intro _ fin
            simp [inSequence, fin]
        · have uncounted : (({ k.count p with
                finReced := k.finReced ||
                  (p.seqNum = k.theirCtrlSeq && uPacketGetFlag p UP_CTRL_FIN) } : Handshake).theirs) =
              k.theirs := by
            unfold Handshake.count
            rw [if_neg inSequence]
            simp [Handshake.theirs, inSequence]
          rw [uncounted, same]
          exact .owe p rfl (.inl heard)
      · rw [completeClose_theirs, same]
        exact .keep

end TheirPackets

/-! ### Steps of a socket -/

section Steps

variable {Lists : Type} [ReceiveLists Lists] {u : UMPSocket Lists} {event : SockEvent}

/-- What an event does to the two halves of a socket's handshake. -/
theorem sides_step (allowed : sockEnabled u event) (sound : u.core.handshake.Sound) :
    OwnMove event u.core.handshake.own (sockStep u event).core.handshake.own ∧
      TheirMove event u.core.ctrl.state u.core.handshake.theirs
        (sockStep u event).core.handshake.theirs := by
  have step := handshake_step u event
  generalize (sockStep u event).core.handshake = k at step
  have kept : OwnMove event u.core.handshake.own u.core.handshake.own :=
    .keep u.core.handshake.ctrlPacketToSend (.inl rfl)
  cases step with
  | idle event noPacket => exact ⟨kept, .keep⟩
  | packet p ourMss =>
      unfold Handshake.ctrlPacket
      split
      · exact ⟨.fail u.core.handshake.ctrlPacketToSend (.inl rfl), .keep⟩
      · have noError : (u.core.handshake.note p).errorOccured = false := allowed.1
        have own := packet_own (p := p) ourMss noError
        have theirs := packet_theirs (h := u.core.handshake.note p) (p := p) ourMss
          sound.opened
        have noted : (u.core.handshake.note p).own = u.core.handshake.own := rfl
        rw [noted] at own
        exact ⟨own, theirs⟩
  | call method taken =>
      have noError : u.core.handshake.errorOccured = false := taken.2.2.2
      unfold Handshake.call
      rw [noError, if_neg (by decide)]
      split
      · rename_i closed
        rw [queue_own, queue_theirs]
        exact ⟨.syn closed noError _, .keep⟩
      · rename_i established
        rw [queue_own, queue_theirs]
        exact ⟨.fin established noError, .keep⟩
      · exact ⟨kept, .keep⟩
  | send =>
      unfold Handshake.send
      split
      · rename_i pending waiting
        split
        · exact ⟨.keep _ (.inr (.inr ⟨pending, u.core.ackInfo, waiting, rfl⟩)), .ackSent⟩
        · exact ⟨kept, .ackSent⟩
      · exact ⟨kept, .ackSent⟩
  | again => exact ⟨kept, .keep⟩
  | giveUp => exact ⟨.fail none (.inr (.inl rfl)), .keep⟩
  | lost => exact ⟨.fail u.core.handshake.ctrlPacketToSend (.inl rfl), .keep⟩

end Steps

/-! ### What is never taken back -/

section Moves

variable {event : SockEvent} {state : UMPSockState} {own own' : OwnSide}
  {theirs theirs' : TheirSide}

theorem OwnMove.queued_le (move : OwnMove event own own') : own.queued ≤ own'.queued := by
  cases move with
  | syn | fin => exact Nat.le_succ _
  | keep | heard | opened | finish | fail => exact Nat.le_refl _

theorem OwnMove.synAckReced (move : OwnMove event own own') (acked : own.synAckReced = true) :
    own'.synAckReced = true := by
  cases move with
  | heard => rfl
  | keep | opened | syn | fin | finish | fail => exact acked

/-- Only an ack sets `syn_ack_reced`. -/
theorem OwnMove.acked (move : OwnMove event own own') (acked : own'.synAckReced = true) :
    own.synAckReced = true ∨ ∃ p, event = .ctrlPacket p ∧ uPacketGetFlag p UP_CTRL_ACK := by
  cases move with
  | heard p packet ack => exact .inr ⟨p, packet, ack⟩
  | keep | opened | syn | fin | finish | fail => exact .inl acked

theorem TheirMove.synReced (move : TheirMove event state theirs theirs')
    (heard : theirs.synReced = true) : theirs'.synReced = true := by
  cases move with
  | syn => rfl
  | keep | ackSent | owe | count => exact heard

theorem TheirMove.finReced (move : TheirMove event state theirs theirs')
    (heard : theirs.finReced = true) : theirs'.finReced = true := by
  cases move with
  | count _ _ _ _ _ finReced kept => exact kept heard
  | keep | ackSent | owe | syn => exact heard

end Moves

/-! ### The numbers of SYNs and FINs -/

/-- The numbers of a socket are those of the packets it queued, a SYN for every
opening and a FIN for every closing. -/
structure Counted (seed : UInt16) (own : OwnSide) : Prop where
  next : own.ourCtrlSeq = place seed own.queued
  pending : ∀ q, own.ctrlPacketToSend = some q →
    ∃ index, index + 1 = own.queued ∧ Waiting seed index q ∧
      (index % 2 = 1 → own.synAckReced = true)
  phase : own.errorOccured = false →
    (own.queued % 2 = 1 ↔ own.state = .connecting ∨ own.state = .established)
  acked : own.state = .established ∨ own.state = .closing → own.synAckReced = true

theorem counted_new (seq : UInt16) (clock : Clock) :
    Counted seq (umpSockNewCore seq clock).handshake.own where
  next := (place_zero seq).symm
  pending := nofun
  phase := fun _ => iff_of_false (by simp [umpSockNewCore, SocketCore.handshake, Handshake.own, queuedCount, milestones])
    (by simp [umpSockNewCore, SocketCore.handshake, Handshake.own])
  acked := by rintro (established | closing) <;> contradiction

section Counted

variable {seed : UInt16} {own own' : OwnSide} {event : SockEvent}

/-- What waits is a proper control packet. -/
theorem Counted.waiting (counted : Counted seed own) :
    ∀ q, own.ctrlPacketToSend = some q → q.pType = .control ∧ Proper q := by
  intro q pending
  obtain ⟨_, -, waiting, -⟩ := counted.pending q pending
  exact ⟨waiting.control, waiting.proper⟩

theorem Counted.leave (counted : Counted seed own) {pending : Option UMPPacket}
    (left : Leaves own.ctrlPacketToSend pending) {synAckReced : Bool}
    (kept : own.synAckReced = true → synAckReced = true) :
    ∀ q, pending = some q → ∃ index, index + 1 = own.queued ∧ Waiting seed index q ∧
      (index % 2 = 1 → synAckReced = true) := by
  rintro q rfl
  rcases left with same | gone | ⟨before, ackInfo, waiting, sent⟩
  · obtain ⟨index, last, waiting, acked⟩ := counted.pending q same.symm
    exact ⟨index, last, waiting, fun odd => kept (acked odd)⟩
  · exact absurd gone (by simp)
  · obtain ⟨index, last, waiting, acked⟩ := counted.pending before waiting
    rw [Option.some.inj sent]
    exact ⟨index, last, waiting.onWire ackInfo, fun odd => kept (acked odd)⟩

/-- What is queued in this state keeps SYNs and FINs in turn. -/
theorem Counted.queue {p : UMPPacket} {state : UMPSockState} (counted : Counted seed own)
    (waiting : Waiting seed own.queued p)
    (fin : own.queued % 2 = 1 → own.synAckReced = true)
    (phase : own.errorOccured = false →
      ((own.queued + 1) % 2 = 1 ↔ state = .connecting ∨ state = .established))
    (acked : state = .established ∨ state = .closing → own.synAckReced = true) :
    Counted seed (own.queue p state) where
  next := by
    have following := place_add_one seed own.queued
    rw [← counted.next] at following
    exact following
  pending := by
    intro q same
    rw [← Option.some.inj same]
    exact ⟨own.queued, rfl, waiting, fin⟩
  phase := phase
  acked := acked

theorem Counted.move (counted : Counted seed own) (move : OwnMove event own own') :
    Counted seed own' := by
  cases move with
  | keep pending left =>
      exact ⟨counted.next, counted.leave left id, counted.phase, counted.acked⟩
  | heard p packet ack connecting pending left state reached =>
      exact ⟨counted.next, counted.leave left fun _ => rfl,
        fun noError => iff_of_true ((counted.phase noError).mpr (.inl connecting)) reached,
        fun _ => rfl⟩
  | opened connecting acked =>
      exact ⟨counted.next, counted.pending,
        fun noError => iff_of_true ((counted.phase noError).mpr (.inl connecting)) (.inr rfl),
        fun _ => acked⟩
  | syn closed noError ourMss =>
      have even : own.queued % 2 = 0 := by
        have phase := (counted.phase noError).not
        rw [closed] at phase
        have := phase.mpr (by simp)
        omega
      rw [counted.next]
      refine counted.queue (waiting_synPacket ourMss even) (by omega) ?_ (by simp)
      intro _
      exact iff_of_true (by omega) (.inl rfl)
  | fin established noError =>
      have odd : own.queued % 2 = 1 := (counted.phase noError).mpr (.inr established)
      rw [counted.next]
      have acked : own.synAckReced = true := counted.acked (.inl established)
      refine counted.queue (waiting_finPacket odd) (fun _ => acked) ?_ fun _ => acked
      intro _
      exact iff_of_false (by omega) (by simp)
  | finish closing pending left =>
      refine ⟨counted.next, counted.leave left id, ?_, by simp⟩
      intro noError
      have phase := counted.phase noError
      rw [closing] at phase
      exact iff_of_false (phase.not.mpr (by simp)) (by simp)
  | fail pending left =>
      exact ⟨counted.next, counted.leave left id, by simp, by simp⟩

end Counted

end UserMessageProtocol
