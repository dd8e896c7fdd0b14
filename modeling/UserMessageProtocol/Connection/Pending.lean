import UserMessageProtocol.Receiver.CallLocks
import UserMessageProtocol.Sender.Tracking
import UserMessageProtocol.Socket.Iteration

/-!
Contract: which calls can be pending in which state of the connection.

Owns: the calls each state leaves pending (`Pending`), the packets that complete a
close while a message is being sent (`closesWhileSending`), and the theorem that
without them a closed connection has no pending call (`closedIdle_of_run`).

Does not own: the locks themselves (`Socket.Locks`).
-/

set_option autoImplicit false

namespace UserMessageProtocol

/-- The thread has no call in hand. -/
structure Unlocked (s : SocketCore) : Prop where
  ctrl : s.ctrl.ctrlLocked = .unlocked
  send : s.snd.sndLocked = .unlocked
  receive : s.rcv.recLocked = .unlocked

/-- The calls a state leaves pending. -/
structure Pending (s : SocketCore) : Prop where
  ctrl : s.ctrl.ctrlLocked = .locked →
    s.ctrl.state = .connecting ∧ s.ctrl.ctrlPara = some .connect ∨
      s.ctrl.state = .closing ∧ s.ctrl.ctrlPara = some .close
  send : s.snd.sndLocked = .locked → s.ctrl.state = .established ∨ s.ctrl.state = .closing
  receive : s.rcv.recLocked = .locked → s.ctrl.state = .established ∨ s.ctrl.state = .closing

section Ends

variable {s : SocketCore} (method : UMPCallMethod) (ok : Bool)

theorem not_locked {lock : UMPLockState} (unlocked : lock = .unlocked) : lock ≠ .locked := by
  rw [unlocked]
  decide

theorem unlocked_of_not {lock : UMPLockState} (notLocked : lock ≠ .locked) :
    lock = .unlocked := by
  cases lock with
  | unlocked => rfl
  | locked => exact absurd rfl notLocked

theorem Unlocked.pending (unlocked : Unlocked s) : Pending s where
  ctrl := fun locked => absurd locked (not_locked unlocked.ctrl)
  send := fun locked => absurd locked (not_locked unlocked.send)
  receive := fun locked => absurd locked (not_locked unlocked.receive)

theorem Pending.closed (pending : Pending s) (closed : s.ctrl.state = .closed) : Unlocked s := by
  constructor <;> apply unlocked_of_not <;> intro locked
  · rcases pending.ctrl locked with ⟨other, -⟩ | ⟨other, -⟩ <;>
      exact absurd (closed.symm.trans other) (by decide)
  · rcases pending.send locked with other | other <;>
      exact absurd (closed.symm.trans other) (by decide)
  · rcases pending.receive locked with other | other <;>
      exact absurd (closed.symm.trans other) (by decide)

/-! ### Ends of calls -/

theorem umpEndCtrl_unlocked
    (meant : s.ctrl.ctrlLocked = .locked → method = .allCall ∨ s.ctrl.ctrlPara = some method) :
    (umpEndCtrl s method ok).ctrl.ctrlLocked = .unlocked := by
  unfold umpEndCtrl
  split
  · rename_i unlocked
    split <;> exact unlocked
  · rename_i locked
    rw [if_neg]
    · rfl
    · rintro ⟨notAll, other⟩
      rcases meant locked with all | same
      · exact notAll all
      · exact other same

@[simp] theorem umpEndCtrl_state : (umpEndCtrl s method ok).ctrl.state = s.ctrl.state := by
  unfold umpEndCtrl
  split
  · split <;> rfl
  · split <;> rfl

theorem umpEndSend_unlocked : (umpEndSend s ok).snd.sndLocked = .unlocked := by
  unfold umpEndSend
  split
  · assumption
  · rfl

theorem umpFailReceive_unlocked : (umpFailReceive s).rcv.recLocked = .unlocked := by
  unfold umpFailReceive
  split
  · assumption
  · rfl

/-- An error ends all calls. -/
theorem umpConnectionErrorOccured_unlocked : Unlocked (umpConnectionErrorOccured s) where
  ctrl := by
    simp only [umpConnectionErrorOccured, umpFailReceive_ctrl, umpEndSend_ctrl]
    exact umpEndCtrl_unlocked .allCall false fun _ => .inl rfl
  send := by
    simp only [umpConnectionErrorOccured, umpFailReceive_snd]
    exact umpEndSend_unlocked false
  receive := umpFailReceive_unlocked

/-- A receive call does not wait on in a closed connection. -/
theorem umpChangeState_receive
    (idle : s.rcv.recLocked = .locked → s.rcv.rcvPacketsMsgNum = 0) :
    (umpChangeState s .closed).rcv.recLocked = .unlocked := by
  unfold umpChangeState umpClosedEnterState
  dsimp only
  rw [umpEndCtrl_rcv]
  split
  · exact umpFailReceive_unlocked
  · rename_i waiting
    apply unlocked_of_not
    intro locked
    have none : s.rcv.rcvPacketsMsgNum = 0 := idle locked
    apply waiting
    show s.rcv.rcvPacketsMsgNum < 1
    omega

/-- The closed state ends the control call it is given, and a receive call that has no
message. -/
theorem umpChangeState_closed
    (close : s.ctrl.ctrlLocked = .locked → s.ctrl.ctrlPara = some .close)
    (idle : s.rcv.recLocked = .locked → s.rcv.rcvPacketsMsgNum = 0)
    (send : s.snd.sndLocked = .unlocked) : Unlocked (umpChangeState s .closed) where
  ctrl := by
    unfold umpChangeState umpClosedEnterState
    dsimp only
    apply umpEndCtrl_unlocked
    split
    · rw [umpFailReceive_ctrl]
      exact fun locked => .inr (close locked)
    · exact fun locked => .inr (close locked)
  send := by
    rw [umpChangeState_snd]
    exact send
  receive := umpChangeState_receive idle

end Ends

/-! ### Steps -/

section Steps

variable {u : UMPSocket GLists} {event : SockEvent} {p : UMPPacket}

/-- The thread does not try to take up a call. -/
def SockEvent.takesNoCall (event : SockEvent) : Prop :=
  event ≠ .handleCtrl ∧ event ≠ .handleSend ∧ event ≠ .handleReceive

/-- Where no call is taken up, none gets into the hand of the thread. -/
theorem Unlocked.step (unlocked : Unlocked u.core) (noCall : event.takesNoCall) :
    Unlocked (sockStep u event).core := by
  constructor <;> apply unlocked_of_not <;> intro locked
  · exact not_locked unlocked.ctrl (sockStep_ctrlLocked noCall.1 locked)
  · exact not_locked unlocked.send (sockStep_sndLocked noCall.2.1 locked)
  · exact not_locked unlocked.receive (sockStep_recLocked noCall.2.2 locked)

/-- An event that leaves the state and the control call alone. -/
theorem Pending.keep (pending : Pending u.core) (noCall : event.takesNoCall)
    (state : (sockStep u event).core.ctrl.state = u.core.ctrl.state)
    (para : u.core.ctrl.ctrlLocked = .locked →
      (sockStep u event).core.ctrl.ctrlPara = u.core.ctrl.ctrlPara) :
    Pending (sockStep u event).core := by
  constructor <;> intro locked <;> rw [state]
  · have before := sockStep_ctrlLocked noCall.1 locked
    rw [para before]
    exact pending.ctrl before
  · exact pending.send (sockStep_sndLocked noCall.2.1 locked)
  · exact pending.receive (sockStep_recLocked noCall.2.2 locked)

end Steps

/-! ### Control packets -/

/-- The state with the control call. -/
structure CallPart where
  state : UMPSockState
  ctrlLocked : UMPLockState
  ctrlPara : Option UMPCallMethod

def SocketCore.call (s : SocketCore) : CallPart :=
  ⟨s.ctrl.state, s.ctrl.ctrlLocked, s.ctrl.ctrlPara⟩

section Packets

variable (s : SocketCore) (p : UMPPacket)

@[simp] theorem dropPending_call : (dropPending s).call = s.call := by
  unfold dropPending
  dsimp only
  split <;> rfl

@[simp] theorem countTheirs_call : (countTheirs s p).call = s.call := by
  unfold countTheirs
  split <;> rfl

theorem connectingAck_call : (connectingAck s p).call = s.call := by
  unfold connectingAck
  split
  · dsimp only
    split
    · exact dropPending_call s
    · rfl
  · rfl

theorem closingAck_call : (closingAck s p).call = s.call := by
  unfold closingAck
  split
  · dsimp only
    split
    · exact dropPending_call s
    · rfl
  · rfl

/-- A connect call is all that a connection being opened leaves pending. -/
def AwaitsConnect (k : CallPart) : Prop :=
  k.state = .connecting ∧ (k.ctrlLocked = .locked → k.ctrlPara = some .connect)

variable {s p}

theorem completeOpen_call (awaits : AwaitsConnect s.call) :
    (completeOpen s).ctrl.ctrlLocked = .unlocked ∨ AwaitsConnect (completeOpen s).call := by
  unfold completeOpen
  split
  · left
    unfold umpChangeState umpEstablishedEnterState
    exact umpEndCtrl_unlocked .connect true fun locked => .inr (awaits.2 locked)
  · exact .inr awaits

theorem connectingPacket_call (awaits : AwaitsConnect s.call) :
    (umpConnectingHandleCtrlPacket s p).ctrl.ctrlLocked = .unlocked ∨
      AwaitsConnect (umpConnectingHandleCtrlPacket s p).call := by
  have acked := connectingAck_call s p
  rw [← acked] at awaits
  unfold umpConnectingHandleCtrlPacket
  generalize connectingAck s p = t at awaits
  dsimp only
  split
  · split
    · exact .inr awaits
    · split
      · apply completeOpen_call
        exact awaits
      · exact .inr awaits
  · split
    · apply completeOpen_call
      show AwaitsConnect (countTheirs t p).call
      rw [countTheirs_call]
      exact awaits
    · exact completeOpen_call awaits

/-- What the closing handler makes of a socket before its last check. -/
theorem closingPacket_check : ∃ t, umpClosingHandleCtrlPacket s p = completeClose t ∧
    t.call = s.call ∧ t.snd = s.snd ∧ t.rcv = s.rcv ∧
    (t.ctrl.finReced = true → s.ctrl.finReced = true ∨ uPacketGetFlag p UP_CTRL_SEQ = true ∧
      p.seqNum = s.ctrl.theirCtrlSeq ∧ uPacketGetFlag p UP_CTRL_FIN = true) ∧
    (t.ctrl.finAckReced = true → s.ctrl.finAckReced = true ∨ uPacketGetFlag p UP_CTRL_ACK = true) := by
  have call := closingAck_call s p
  have fields : (closingAck s p).snd = s.snd ∧ (closingAck s p).rcv = s.rcv ∧
      (closingAck s p).ctrl.finReced = s.ctrl.finReced ∧
      (closingAck s p).ctrl.theirCtrlSeq = s.ctrl.theirCtrlSeq ∧
      ((closingAck s p).ctrl.finAckReced = true →
        s.ctrl.finAckReced = true ∨ uPacketGetFlag p UP_CTRL_ACK = true) := by
    unfold closingAck dropPending
    dsimp only
    repeat' split
    all_goals simp_all
  unfold umpClosingHandleCtrlPacket
  generalize closingAck s p = a at call fields
  obtain ⟨snd, rcv, finReced, theirs, acked⟩ := fields
  dsimp only
  split
  · rename_i numbered
    refine ⟨_, rfl, ?_, ?_, ?_, ?_, ?_⟩
    · exact (countTheirs_call a p).trans call
    · exact (countTheirs_snd a p).trans snd
    · exact (countTheirs_rcv a p).trans rcv
    · intro reced
      simp only [setCtrlAck_ctrl, Bool.or_eq_true, Bool.and_eq_true, decide_eq_true_eq] at reced
      rw [finReced, theirs] at reced
      exact reced.imp_right fun last => ⟨numbered, last⟩
    · intro reced
      apply acked
      rw [← reced]
      unfold countTheirs
      split <;> rfl
  · refine ⟨a, rfl, call, snd, rcv, ?_, acked⟩
    intro reced
    exact .inl (finReced.symm.trans reced)

end Packets

/-- A control packet completes the close while a message is still being sent, as after a
FIN of the peer. -/
def closesWhileSending (s : SocketCore) (p : UMPPacket) : Prop :=
  uPacketGetFlag p UP_CTRL_RST = false ∧ s.ctrl.state = .closing ∧ s.snd.sndLocked = .locked ∧
    (s.ctrl.finReced = true ∨ uPacketGetFlag p UP_CTRL_SEQ = true ∧
      p.seqNum = s.ctrl.theirCtrlSeq ∧ uPacketGetFlag p UP_CTRL_FIN = true) ∧
    (s.ctrl.finAckReced = true ∨ uPacketGetFlag p UP_CTRL_ACK = true)

instance (s : SocketCore) (p : UMPPacket) : Decidable (closesWhileSending s p) := by
  unfold closesWhileSending
  infer_instance

/-- No packet of the step closes the connection under a send call. -/
def closesIdle {Lists : Type} (u : UMPSocket Lists) : SockEvent → Prop
  | .ctrlPacket p => ¬ closesWhileSending u.core p
  | _ => True

instance {Lists : Type} (u : UMPSocket Lists) (event : SockEvent) :
    Decidable (closesIdle u event) :=
  match event with
  | .ctrlPacket _ => by unfold closesIdle; infer_instance
  | .userCtrl .. | .userSend .. | .userReceive | .handleCtrl | .handleSend | .handleReceive |
    .bufferLoad .. | .dataPacket .. | .dataTimeout | .refreshRwnd | .refreshAck | .actReqWnd |
    .ctrlTimeout | .sendCtrlPacket | .heartbeat | .sendData | .sendReset => instDecidableTrue

section PacketSteps

variable {u : UMPSocket GLists} {event : SockEvent} {p : UMPPacket}

/-- No control packet leads into the states in which data flows but out of them. -/
theorem ctrlPacket_state (plain : uPacketGetFlag p UP_CTRL_RST = false) :
    ∃ old new, Handshake.Moves u.core.ctrl.state old
      (sockStep u (.ctrlPacket p)).core.ctrl.state new := by
  have same : (sockStep u (.ctrlPacket p)).core.handshake =
      u.core.handshake.ctrlPacket p (takeSyn u.core p).snd.ourMss :=
    umpHandleCtrlPacket_handshake u.core p
  have moves := ((u.core.handshake.note p).packet_moves p (takeSyn u.core p).snd.ourMss).2
  rw [Handshake.ctrlPacket, if_neg (by simp [plain])] at same
  rw [← same] at moves
  exact ⟨_, _, moves⟩

theorem Pending.closingPacket (pending : Pending u.core) (serving : Serving u)
    (plain : uPacketGetFlag p UP_CTRL_RST = false) (closing : u.core.ctrl.state = .closing)
    (idle : ¬ closesWhileSending u.core p) : Pending (sockStep u (.ctrlPacket p)).core := by
  have same : (sockStep u (.ctrlPacket p)).core =
      umpClosingHandleCtrlPacket (u.core.act (.processed p u.core.ctrl.ourCtrlSeq)) p := by
    show umpHandleCtrlPacket u.core p = _
    unfold umpHandleCtrlPacket smHandleCtrlPacket
    rw [if_neg (by simp [plain]), act_ctrl, closing]
  obtain ⟨t, checked, call, snd, rcv, fin, ack⟩ :=
    closingPacket_check (s := u.core.act (.processed p u.core.ctrl.ourCtrlSeq)) (p := p)
  rw [same, checked]
  have state : t.ctrl.state = u.core.ctrl.state := congrArg CallPart.state call
  have lock : t.ctrl.ctrlLocked = u.core.ctrl.ctrlLocked := congrArg CallPart.ctrlLocked call
  have para : t.ctrl.ctrlPara = u.core.ctrl.ctrlPara := congrArg CallPart.ctrlPara call
  unfold completeClose
  split
  · rename_i complete
    apply Unlocked.pending
    apply umpChangeState_closed
    · intro locked
      rw [lock] at locked
      rw [para]
      rcases pending.ctrl locked with ⟨other, -⟩ | ⟨-, close⟩
      · exact absurd (closing.symm.trans other) (by decide)
      · exact close
    · intro locked
      rw [rcv] at locked ⊢
      exact serving.receiving.idle (serving.answered.waits locked)
    · rw [snd]
      apply unlocked_of_not
      intro sending
      exact idle ⟨plain, closing, sending, fin complete.1, ack complete.2⟩
  · constructor
    · rw [state, lock, para]
      exact pending.ctrl
    · intro _
      exact .inr (state.trans closing)
    · intro _
      exact .inr (state.trans closing)

theorem Pending.ctrlPacket (pending : Pending u.core) (serving : Serving u)
    (idle : ¬ closesWhileSending u.core p) : Pending (sockStep u (.ctrlPacket p)).core := by
  have noCall : (SockEvent.ctrlPacket p).takesNoCall := by simp [SockEvent.takesNoCall]
  by_cases reset : uPacketGetFlag p UP_CTRL_RST = true
  · show Pending (umpHandleCtrlPacket u.core p)
    rw [umpHandleCtrlPacket, if_pos reset]
    exact umpConnectionErrorOccured_unlocked.pending
  · have plain := (Bool.not_eq_true _).mp reset
    cases state : u.core.ctrl.state with
    | closed => exact ((pending.closed state).step noCall).pending
    | connecting =>
        have same : (sockStep u (.ctrlPacket p)).core =
            umpConnectingHandleCtrlPacket (u.core.act (.processed p u.core.ctrl.ourCtrlSeq)) p := by
          show umpHandleCtrlPacket u.core p = _
          unfold umpHandleCtrlPacket smHandleCtrlPacket
          rw [if_neg reset, act_ctrl, state]
        have awaits : AwaitsConnect (u.core.act (.processed p u.core.ctrl.ourCtrlSeq)).call := by
          refine ⟨state, fun locked => ?_⟩
          rcases pending.ctrl locked with ⟨-, connect⟩ | ⟨other, -⟩
          · exact connect
          · exact absurd (state.symm.trans other) (by decide)
        constructor
        · intro locked
          rw [same] at locked ⊢
          rcases connectingPacket_call awaits with unlocked | still
          · exact absurd locked (not_locked unlocked)
          · exact .inl ⟨still.1, still.2 locked⟩
        · intro locked
          rcases pending.send (sockStep_sndLocked noCall.2.1 locked) with other | other <;>
            exact absurd (state.symm.trans other) (by decide)
        · intro locked
          rcases pending.receive (sockStep_recLocked noCall.2.2 locked) with other | other <;>
            exact absurd (state.symm.trans other) (by decide)
    | established =>
        obtain ⟨old, new, moves⟩ := ctrlPacket_state (u := u) plain
        rw [state] at moves
        have open_ : (sockStep u (.ctrlPacket p)).core.ctrl.state = .established ∨
            (sockStep u (.ctrlPacket p)).core.ctrl.state = .closing := by
          generalize (sockStep u (.ctrlPacket p)).core.ctrl.state = after at moves
          cases moves with
          | stay => exact .inl rfl
          | part => exact .inr rfl
        refine ⟨fun locked => ?_, fun _ => open_, fun _ => open_⟩
        rcases pending.ctrl (sockStep_ctrlLocked noCall.1 locked) with ⟨other, -⟩ | ⟨other, -⟩ <;>
          exact absurd (state.symm.trans other) (by decide)
    | closing => exact pending.closingPacket serving plain state idle

end PacketSteps

/-! ### Calls and timers -/

section CallSteps

variable {u : UMPSocket GLists} {event : SockEvent} {s : SocketCore} {method : UMPCallMethod}

/-- What a control call leaves pending when it is taken up. -/
theorem smHandleCtrl_pending (send : s.snd.sndLocked = .locked →
      s.ctrl.state = .established ∨ s.ctrl.state = .closing)
    (receive : s.rcv.recLocked = .locked →
      s.ctrl.state = .established ∨ s.ctrl.state = .closing)
    (call : s.ctrl.ctrlPara = some method) : Pending (smHandleCtrl s method) := by
  -- a call that is ended leaves state, sender and receiver alone
  have ended {ended : UMPCallMethod} {ok : Bool} (meant : ended = .allCall ∨ ended = method) :
      Pending (umpEndCtrl s ended ok) := by
    refine ⟨fun locked => ?_, fun locked => ?_, fun locked => ?_⟩
    · have unlocked := umpEndCtrl_unlocked (s := s) ended ok fun _ =>
        meant.imp_right fun same => by rw [same]; exact call
      exact absurd locked (not_locked unlocked)
    · rw [umpEndCtrl_snd] at locked
      rw [umpEndCtrl_state]
      exact send locked
    · rw [umpEndCtrl_rcv] at locked
      rw [umpEndCtrl_state]
      exact receive locked
  unfold smHandleCtrl
  split
  · rename_i closed
    unfold umpClosedHandleCtrl
    split
    · rename_i connect
      refine ⟨fun _ => .inl ⟨rfl, call.trans (congrArg _ connect)⟩, fun locked => ?_,
        fun locked => ?_⟩
      · rcases send locked with other | other <;> exact absurd (closed.symm.trans other) (by decide)
      · rcases receive locked with other | other <;>
          exact absurd (closed.symm.trans other) (by decide)
    · split
      · rename_i close
        exact ended (.inr close.symm)
      · exact ended (.inl rfl)
  · rename_i connecting
    unfold umpConnectingHandleCtrl
    split
    · exact ended (.inl rfl)
    · rename_i connect
      rw [ne_eq, not_not] at connect
      exact ⟨fun _ => .inl ⟨connecting, call.trans (congrArg _ connect)⟩, send, receive⟩
  · unfold umpEstablishedHandleCtrl
    split
    · rename_i close
      refine ⟨fun _ => .inr ⟨?_, ?_⟩, fun locked => ?_, fun locked => ?_⟩
      · rw [umpFailReceive_ctrl, umpEndSend_ctrl]
        rfl
      · rw [umpFailReceive_ctrl, umpEndSend_ctrl]
        exact call.trans (congrArg _ close)
      · rw [umpFailReceive_snd] at locked
        exact absurd locked (not_locked (umpEndSend_unlocked false))
      · exact absurd locked (not_locked umpFailReceive_unlocked)
    · split
      · rename_i connect
        exact ended (.inr connect.symm)
      · exact ended (.inl rfl)
  · rename_i closing
    unfold umpClosingHandleCtrl
    split
    · exact ended (.inl rfl)
    · rename_i close
      rw [ne_eq, not_not] at close
      exact ⟨fun _ => .inr ⟨closing, call.trans (congrArg _ close)⟩, send, receive⟩

theorem Pending.handleCtrl (pending : Pending u.core) :
    Pending (sockStep u .handleCtrl).core := by
  show Pending (umpHandleCtrl u.core)
  unfold umpHandleCtrl
  split
  · exact pending
  · split
    · exact pending
    · split
      · exact pending
      · rename_i method call
        dsimp only
        split
        · refine ⟨fun locked => ?_, fun locked => ?_, fun locked => ?_⟩
          · exact absurd locked (not_locked (umpEndCtrl_unlocked .allCall false fun _ => .inl rfl))
          · rw [umpEndCtrl_snd] at locked
            rw [umpEndCtrl_state]
            exact pending.send locked
          · rw [umpEndCtrl_rcv] at locked
            rw [umpEndCtrl_state]
            exact pending.receive locked
        · exact smHandleCtrl_pending pending.send pending.receive call

theorem Pending.handleSend (pending : Pending u.core) :
    Pending (sockStep u .handleSend).core := by
  have ctrl : (sockStep u .handleSend).core.ctrl = u.core.ctrl := umpHandleSend_ctrl u.core
  have rcv : (sockStep u .handleSend).core.rcv = u.core.rcv := umpHandleSend_rcv u.core
  refine ⟨?_, ?_, ?_⟩
  · rw [ctrl]
    exact pending.ctrl
  · intro locked
    rw [ctrl]
    change (umpHandleSend u.core).snd.sndLocked = .locked at locked
    unfold umpHandleSend at locked
    split at locked
    · exact pending.send locked
    · split at locked
      · exact pending.send locked
      · split at locked
        · exact pending.send locked
        · dsimp only at locked
          split at locked
          · exact absurd locked (not_locked (umpEndSend_unlocked false))
          · -- a message is started only while the connection is established
            rename_i started
            rw [not_or, not_or, ne_eq, not_not] at started
            exact .inl started.2.1
  · rw [ctrl, rcv]
    exact pending.receive

/-- A receive call waits only while the connection is open or closing. -/
theorem umpHandleReceive_open (open_ : u.core.rcv.recLocked = .locked →
      u.core.ctrl.state = .established ∨ u.core.ctrl.state = .closing)
    (locked : (umpHandleReceive u).core.rcv.recLocked = .locked) :
    u.core.ctrl.state = .established ∨ u.core.ctrl.state = .closing := by
  have finished : (finishReceive u).core.rcv.recLocked = u.core.rcv.recLocked :=
    umpEndReceiveInternal_recLocked
  unfold umpHandleReceive at locked
  split at locked
  · exact open_ locked
  · split at locked
    · exact open_ locked
    · split at locked
      · exact open_ locked
      · split at locked
        · exact open_ (finished.symm.trans locked)
        · split at locked
          · exact open_ locked
          · -- a call waits only while the connection is established
            rename_i waits
            rw [not_or, ne_eq, not_not] at waits
            exact .inl waits.1

theorem Pending.handleReceive (pending : Pending u.core) :
    Pending (sockStep u .handleReceive).core := by
  have ctrl : (sockStep u .handleReceive).core.ctrl = u.core.ctrl := umpHandleReceive_ctrl u
  have snd : (sockStep u .handleReceive).core.snd = u.core.snd := umpHandleReceive_snd u
  refine ⟨?_, ?_, ?_⟩
  · rw [ctrl]
    exact pending.ctrl
  · rw [ctrl, snd]
    exact pending.send
  · intro locked
    rw [ctrl]
    exact umpHandleReceive_open pending.receive locked

theorem Pending.dataTimeout (pending : Pending u.core) :
    Pending (sockStep u .dataTimeout).core := by
  show Pending (umpHandleDataTimeout u.core)
  unfold umpHandleDataTimeout rewindAfterTimeout umpRefreshSndWndPos umpRefreshBackPoint
  dsimp only
  repeat' split
  · exact pending
  · exact umpConnectionErrorOccured_unlocked.pending
  · exact ⟨pending.ctrl, pending.send, pending.receive⟩
  · exact ⟨pending.ctrl, pending.send, pending.receive⟩
  · exact ⟨pending.ctrl, pending.send, pending.receive⟩

theorem Pending.ctrlTimeout (pending : Pending u.core) :
    Pending (sockStep u .ctrlTimeout).core := by
  show Pending (umpHandleCtrlTimeout u.core)
  unfold umpHandleCtrlTimeout
  dsimp only
  repeat' split
  · exact pending
  · exact pending
  · exact ⟨pending.ctrl, pending.send, pending.receive⟩
  · exact ⟨pending.ctrl, pending.send, pending.receive⟩
  · exact umpConnectionErrorOccured_unlocked.pending

theorem sendCtrlPacket_call : (umpHandleSendCtrlPacket s).call = s.call := by
  unfold umpHandleSendCtrlPacket sendCtrlAckAlone
  dsimp only
  repeat' split
  all_goals rfl

theorem sendResetPacket_call : (umpHandleSendResetPacket s).call = s.call := by
  unfold umpHandleSendResetPacket
  split <;> rfl

/-- The calls a state leaves pending stay what they are in every step that does not close
the connection under a send call. -/
theorem Pending.step (pending : Pending u.core) (serving : Serving u)
    (ctrlSound : CallLock.Sound (ctrlLock u.core)) (allowed : sockEnabled u event)
    (idle : closesIdle u event) : Pending (sockStep u event).core := by
  -- the other events leave the control call alone
  have keep (noCall : event.takesNoCall) (call : (sockStep u event).core.call = u.core.call) :
      Pending (sockStep u event).core :=
    pending.keep noCall (congrArg CallPart.state call) fun _ => congrArg CallPart.ctrlPara call
  have ctrl {t : SocketCore} (same : t.ctrl = u.core.ctrl) : t.call = u.core.call := by
    simp [SocketCore.call, same]
  cases event with
  | ctrlPacket p => exact pending.ctrlPacket serving idle
  | handleCtrl => exact pending.handleCtrl
  | handleSend => exact pending.handleSend
  | handleReceive => exact pending.handleReceive
  | dataTimeout => exact pending.dataTimeout
  | ctrlTimeout => exact pending.ctrlTimeout
  | userCtrl method =>
      apply pending.keep (by simp [SockEvent.takesNoCall]) rfl
      intro locked
      have free := allowed.1
      rw [ctrlSound.locked_iff.mp locked] at free
      cases free
  | userSend | userReceive | bufferLoad | refreshRwnd =>
      exact keep (by simp [SockEvent.takesNoCall]) rfl
  | dataPacket p =>
      exact keep (by simp [SockEvent.takesNoCall]) (ctrl (umpHandleDataPacket_ctrl u p))
  | refreshAck => exact keep (by simp [SockEvent.takesNoCall]) (ctrl (umpRefreshOurAckInfo_ctrl _))
  | actReqWnd => exact keep (by simp [SockEvent.takesNoCall]) (ctrl (umpActReqWnd_ctrl _))
  | heartbeat =>
      exact keep (by simp [SockEvent.takesNoCall]) (ctrl (umpHandleSendHeartbeat_ctrl _))
  | sendData => exact keep (by simp [SockEvent.takesNoCall]) (ctrl (umpHandleSendData_ctrl _))
  | sendCtrlPacket => exact keep (by simp [SockEvent.takesNoCall]) sendCtrlPacket_call
  | sendReset => exact keep (by simp [SockEvent.takesNoCall]) sendResetPacket_call

end CallSteps

/-! ### Closed connections -/

/-- The user's data packets that were transmitted. -/
def userPackets (log : List Action) : List Action :=
  log.filter fun action =>
    match action with
    | .sendto p => isNumbered p
    | _ => false

/-- A closed connection has no call in hand, and no step of it transmits a packet of the
user. -/
structure ClosedIdle (u : UMPSocket GLists) : Prop where
  calls : u.core.ctrl.state = .closed → Unlocked u.core
  silent : u.core.ctrl.state = .closed → ∀ event, sockEnabled u event →
    userPackets (sockStep u event).core.log = userPackets u.core.log

section Closed

variable {u : UMPSocket GLists} {event : SockEvent} {s : SocketCore}

theorem userPackets_traffic (log : List Action) : userPackets (traffic log) = userPackets log := by
  unfold userPackets traffic
  rw [List.filter_filter]
  apply List.filter_congr
  intro action _
  cases action <;> simp [Action.isTraffic]

/-- Actions of which none transmits a packet of the user. -/
theorem userPackets_quiet {added : List Action} (quiet : ∀ action ∈ added, Quiet action)
    (log : List Action) : userPackets (added ++ log) = userPackets log := by
  have none : userPackets added = [] := by
    apply List.filter_eq_nil_iff.mpr
    intro action member
    have isQuiet := quiet action member
    cases action with
    | sendto p =>
        have plain : isNumbered p = false := isQuiet
        simp [plain]
    | _ => simp
  show userPackets (added ++ log) = userPackets log
  rw [userPackets, List.filter_append]
  show userPackets added ++ _ = _
  rw [none]
  rfl

/-- A sender without a message transmits no packet of one. -/
theorem silent_of_unlocked {Lists : Type} [ReceiveLists Lists] {u : UMPSocket Lists}
    (shaped : WellShaped u) (unlocked : u.core.snd.sndLocked = .unlocked)
    (notEstablished : u.core.ctrl.state ≠ .established) (event : SockEvent) :
    userPackets (sockStep u event).core.log = userPackets u.core.log := by
  obtain ⟨added, step, logged⟩ := send_step u event
  rw [← userPackets_traffic, logged, ← userPackets_traffic u.core.log]
  apply userPackets_quiet
  generalize (sockStep u event).core.snd = snd' at step
  generalize (sockStep u event).core.handshake = k at step
  cases step with
  | idle | post | syn | rewind => simp
  | signal event p kind =>
      intro action member
      rw [List.mem_singleton.mp member]
      exact kind.quiet shaped.sound.typed
  | probe asking =>
      intro action member
      rw [List.mem_singleton.mp member, shaped.shape.reqWndPacket]
      show isNumbered probePacket = false
      decide
  | refuse => simp [Quiet]
  | start packets _ posted some established => exact absurd established notEstablished
  | giveUp | expired => exact ending_quiet
  | transmit p locked => exact absurd locked (not_locked unlocked)
  | ack p heard snd added ackStep =>
      cases ackStep with
      | noAck | outside | old => simp
      | new =>
          unfold endingByAck
          split
          · exact ending_quiet
          · simp

/-- In every run in which no packet closes the connection under a send call, a closed
connection has no pending call and transmits no packet of the user. -/
theorem closedIdle_of_run {seq : UInt16} {clock : Clock} {events : List SockEvent}
    (run : (sockMachine GLists).RunWhere closesIdle (umpSockNew GLists seq clock) events u) :
    ClosedIdle u := by
  let Holds (u : UMPSocket GLists) : Prop :=
    WellShaped u ∧ Serving u ∧ CallLock.Sound (ctrlLock u.core) ∧ Pending u.core
  have first : Holds (umpSockNew GLists seq clock) :=
    ⟨wellShaped_new seq clock, serving_new, callLock_new, Unlocked.pending ⟨rfl, rfl, rfl⟩⟩
  have holds : Holds u := by
    apply Machine.RunWhere.invariant run first
    rintro u event ⟨shaped, serving, sound, pending⟩ allowed idle
    exact ⟨shaped.step allowed, serving.step shaped.sound,
      sound.moves (ctrlLock_moves allowed), pending.step serving sound allowed idle⟩
  obtain ⟨shaped, -, -, pending⟩ := holds
  refine ⟨pending.closed, fun closed event _ => ?_⟩
  apply silent_of_unlocked shaped (pending.closed closed).send
  rw [closed]
  decide

/-- An active close under a message that is being sent. -/
def activeCloseRun : List SockEvent :=
  passiveOpen 7 100 ++
    [.userSend [1], .handleSend, .sendData, .userReceive, .handleReceive, .userCtrl .close,
      .handleCtrl, .sendCtrlPacket,
      .ctrlPacket (receivedForm
        { uPacketSetFlag (finPacket 8) UP_CTRL_ACK with ackNum := 102 })]

/-- The theorem holds of a run that ends in the closed state with its calls completed. -/
theorem closedIdle_activeClose :
    ((sockMachine GLists).after (umpSockNew GLists 100 ⟨fun _ => ⟨0, 0⟩, 0⟩)
        activeCloseRun).core.ctrl.state = .closed ∧
      ClosedIdle ((sockMachine GLists).after (umpSockNew GLists 100 ⟨fun _ => ⟨0, 0⟩, 0⟩)
        activeCloseRun) :=
  ⟨by decide, closedIdle_of_run (Machine.runWhere_of_check (by decide))⟩

/-- The peer closes while a message is being sent: its FIN, then its ack of ours. -/
def passiveCloseLife : List ThreadEvent :=
  [.receive (receivedForm (synPacket 7 1400)), .iterate,
    .receive (receivedForm
      { uPacketSetFlag (uPacketNew .control .outgoing) UP_CTRL_ACK with ackNum := 101 }), .iterate,
    .call (.userSend [1]), .iterate,
    .receive (receivedForm (finPacket 8)), .iterate,
    .receive (receivedForm
      { uPacketSetFlag (uPacketNew .control .outgoing) UP_CTRL_ACK with ackNum := 102 })]

/-- The send call is pending at the end of the iteration that closes the connection. -/
theorem closedIdle_fails :
    ¬ ∀ (seq : UInt16) (clock : Clock) (events : List ThreadEvent) (t : ThreadState GLists),
      (threadMachine GLists).Run (.new (umpSockNew GLists seq clock)) (events ++ [.iterate]) t →
        ClosedIdle t.socket := by
  intro always
  have run : (threadMachine GLists).Run (.new (umpSockNew GLists 100 ⟨fun _ => ⟨0, 0⟩, 0⟩))
      (passiveCloseLife ++ [.iterate]) _ := Machine.runWhere_of_check (by decide)
  have idle := always 100 _ passiveCloseLife _ run
  have unlocked := (idle.calls (by decide)).send
  exact absurd unlocked (by decide)

end Closed

end UserMessageProtocol
