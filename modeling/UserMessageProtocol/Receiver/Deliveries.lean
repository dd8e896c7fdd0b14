import UserMessageProtocol.Receiver.Trapped
import UserMessageProtocol.Sender.Shape
import UserMessageProtocol.Socket.Locks

/-!
Contract: what reaches the user.

Owns: what control packets, timers and the sender leave of the receiving half
(`ReceivePart`), the messages in the log (`deliveries`, `returned`), and that the handlers
of received data keep `Answered`: a receive call waits only while `rec_msg_packets` is
`NULL`, and is completed with a message only while it is not.

Does not own: that the lists are in order (`Receiver.Counting`).
-/

set_option autoImplicit false

namespace UserMessageProtocol

/-! ### Deliveries -/

/-- The packets of a receive call that has its message. -/
def Action.delivery : Action → Option (List UMPPacket)
  | .received packets (some _) => some packets
  | _ => none

/-- The messages that reached the user, the latest first. -/
def SocketCore.deliveries (s : SocketCore) : List (List UMPPacket) :=
  s.log.filterMap Action.delivery

/-- The bytes that a receive call returns. -/
def Action.returned : Action → Option (List UInt8)
  | .received _ message => message
  | _ => none

/-- The messages that receive calls returned, the latest first. -/
def SocketCore.returned (s : SocketCore) : List (List UInt8) := s.log.filterMap Action.returned

/-- What the receiving half shares with the other handlers. -/
structure ReceivePart where
  theirDataSeqBase : UInt16
  rcvPacketsMsgNum : Int
  deliveries : List (List UMPPacket)
  returned : List (List UInt8)

def SocketCore.received (s : SocketCore) : ReceivePart :=
  ⟨s.rcv.theirDataSeqBase, s.rcv.rcvPacketsMsgNum, s.deliveries, s.returned⟩

section Core

variable (s : SocketCore) (p : UMPPacket) (method : UMPCallMethod) (ok : Bool)

theorem received_congr {t : SocketCore} (rcv : t.rcv = s.rcv) (log : t.log = s.log) :
    t.received = s.received := by
  simp [SocketCore.received, SocketCore.deliveries, SocketCore.returned, rcv, log]

/-- A call that gets no packets returns nothing. -/
theorem returned_none {action : Action} (other : action.delivery = none) :
    action.returned = none := by
  cases action with
  | received packets message =>
      cases message with
      | none => rfl
      | some message => cases other
  | _ => rfl

@[simp] theorem act_received {action : Action} (other : action.delivery = none) :
    (s.act action).received = s.received := by
  simp [SocketCore.received, SocketCore.deliveries, SocketCore.returned, other,
    returned_none other]

/-! ### Ends of calls -/

@[simp] theorem umpEndCtrl_received : (umpEndCtrl s method ok).received = s.received := by
  unfold umpEndCtrl
  repeat' split
  all_goals rfl

@[simp] theorem umpEndSend_received : (umpEndSend s ok).received = s.received := by
  unfold umpEndSend
  split <;> rfl

@[simp] theorem umpFailReceive_received : (umpFailReceive s).received = s.received := by
  unfold umpFailReceive
  split <;> rfl

@[simp] theorem umpChangeState_received (state : UMPSockState) :
    (umpChangeState s state).received = s.received := by
  cases state with
  | closed =>
      unfold umpChangeState umpClosedEnterState
      dsimp only
      rw [umpEndCtrl_received]
      split
      · rw [umpFailReceive_received]
        rfl
      · rfl
  | connecting => rfl
  | established =>
      unfold umpChangeState umpEstablishedEnterState
      dsimp only
      rw [umpEndCtrl_received]
      rfl
  | closing => rfl

@[simp] theorem umpConnectionErrorOccured_received :
    (umpConnectionErrorOccured s).received = s.received := by
  unfold umpConnectionErrorOccured
  simp only [umpFailReceive_received, umpEndSend_received, umpEndCtrl_received,
    umpChangeState_received]
  rfl

/-! ### Control packets -/

@[simp] theorem dropPending_received : (dropPending s).received = s.received := by
  unfold dropPending
  dsimp only
  split <;> rfl

@[simp] theorem countTheirs_received : (countTheirs s p).received = s.received := by
  unfold countTheirs
  split <;> rfl

@[simp] theorem setCtrlAck_received : (setCtrlAck s).received = s.received := rfl

theorem connectingAck_received : (connectingAck s p).received = s.received := by
  unfold connectingAck
  split
  · dsimp only
    split
    · exact dropPending_received s
    · rfl
  · rfl

theorem closingAck_received : (closingAck s p).received = s.received := by
  unfold closingAck
  split
  · dsimp only
    split
    · exact dropPending_received s
    · rfl
  · rfl

theorem establishedAck_received : (establishedAck s p).received = s.received := by
  unfold establishedAck
  split
  · rw [umpEndCtrl_received, dropPending_received]
  · rfl

theorem completeOpen_received : (completeOpen s).received = s.received := by
  unfold completeOpen
  split
  · exact umpChangeState_received s _
  · rfl

theorem completeClose_received : (completeClose s).received = s.received := by
  unfold completeClose
  split
  · exact umpChangeState_received s _
  · rfl

/-- Only a SYN that is taken touches the numbers of the receiver. -/
theorem smHandleCtrlPacket_received (plain : uPacketGetFlag p UP_CTRL_RST = false) :
    ¬ TakesSyn s.handshake p ∧ (smHandleCtrlPacket s p).received = s.received ∨
      TakesSyn s.handshake p ∧
        (smHandleCtrlPacket s p).received = { s.received with theirDataSeqBase := p.seqNum } := by
  unfold smHandleCtrlPacket
  cases state : s.ctrl.state with
  | closed =>
      dsimp only
      unfold umpClosedHandleCtrlPacket
      split
      · rename_i fresh
        split
        · rename_i numbered
          exact .inr ⟨⟨fresh.1, .inl state, plain, fresh.2, numbered⟩, rfl⟩
        · rename_i unnumbered
          exact .inl ⟨fun taken => unnumbered taken.numbered, rfl⟩
      · rename_i known
        refine .inl ⟨fun taken => known ⟨taken.fresh, taken.syn⟩, ?_⟩
        split
        · exact countTheirs_received s p
        · rfl
  | connecting =>
      dsimp only
      have acked := connectingAck_received s p
      unfold umpConnectingHandleCtrlPacket
      dsimp only
      split
      · rename_i syn
        split
        · rename_i known
          rw [connectingAck_synReced] at known
          exact .inl ⟨fun taken => absurd (known.symm.trans taken.fresh) (by decide), acked⟩
        · rename_i fresh
          rw [connectingAck_synReced] at fresh
          split
          · rename_i numbered
            refine .inr ⟨⟨(Bool.not_eq_true _).mp fresh, .inr state, plain, syn, numbered⟩, ?_⟩
            rw [completeOpen_received, ← acked]
            rfl
          · rename_i unnumbered
            exact .inl ⟨fun taken => unnumbered taken.numbered, acked⟩
      · rename_i noSyn
        refine .inl ⟨fun taken => noSyn taken.syn, ?_⟩
        split
        · rw [completeOpen_received, setCtrlAck_received, countTheirs_received, acked]
        · rw [completeOpen_received, acked]
  | established =>
      dsimp only
      have acked := establishedAck_received s p
      refine .inl ⟨fun taken => ?_, ?_⟩
      · rcases taken.opening with closed | connecting
        · exact absurd (state.symm.trans closed) (by decide)
        · exact absurd (state.symm.trans connecting) (by decide)
      · unfold umpEstablishedHandleCtrlPacket
        dsimp only
        split
        · split
          · rw [setCtrlAck_received, umpChangeState_received]
            exact (countTheirs_received _ p).trans acked
          · rw [setCtrlAck_received, countTheirs_received, acked]
        · exact acked
  | closing =>
      dsimp only
      have acked := closingAck_received s p
      refine .inl ⟨fun taken => ?_, ?_⟩
      · rcases taken.opening with closed | connecting
        · exact absurd (state.symm.trans closed) (by decide)
        · exact absurd (state.symm.trans connecting) (by decide)
      · unfold umpClosingHandleCtrlPacket
        dsimp only
        split
        · rw [completeClose_received, setCtrlAck_received]
          exact (countTheirs_received _ p).trans acked
        · rw [completeClose_received, acked]

theorem umpHandleCtrlPacket_received :
    ¬ TakesSyn s.handshake p ∧ (umpHandleCtrlPacket s p).received = s.received ∨
      TakesSyn s.handshake p ∧
        (umpHandleCtrlPacket s p).received = { s.received with theirDataSeqBase := p.seqNum } := by
  unfold umpHandleCtrlPacket
  split
  · rename_i reset
    refine .inl ⟨fun taken => ?_, umpConnectionErrorOccured_received s⟩
    exact absurd (reset.symm.trans taken.noReset) (by decide)
  · rename_i plain
    have plain := (Bool.not_eq_true _).mp plain
    rcases smHandleCtrlPacket_received (s.act (.processed p s.ctrl.ourCtrlSeq)) p plain with
      ⟨untaken, same⟩ | ⟨taken, took⟩
    · refine .inl ⟨fun taken => untaken ?_, same⟩
      exact ⟨taken.fresh, taken.opening, plain, taken.syn, taken.numbered⟩
    · exact .inr ⟨⟨taken.fresh, taken.opening, plain, taken.syn, taken.numbered⟩, took⟩

theorem smHandleCtrl_received : (smHandleCtrl s method).received = s.received := by
  unfold smHandleCtrl
  split
  · unfold umpClosedHandleCtrl
    repeat' split
    · rw [umpChangeState_received]
      rfl
    · exact umpEndCtrl_received s _ _
    · exact umpEndCtrl_received s _ _
  · unfold umpConnectingHandleCtrl
    split
    · exact umpEndCtrl_received s _ _
    · rfl
  · unfold umpEstablishedHandleCtrl
    repeat' split
    · rw [umpFailReceive_received, umpEndSend_received, umpChangeState_received]
      rfl
    · exact umpEndCtrl_received s _ _
    · exact umpEndCtrl_received s _ _
  · unfold umpClosingHandleCtrl
    split
    · exact umpEndCtrl_received s _ _
    · rfl

theorem umpHandleCtrl_received : (umpHandleCtrl s).received = s.received := by
  unfold umpHandleCtrl
  repeat' split
  · rfl
  · rfl
  · rfl
  · dsimp only
    split
    · rw [umpEndCtrl_received]
      rfl
    · rw [smHandleCtrl_received]
      rfl

theorem umpHandleSendCtrlPacket_received : (umpHandleSendCtrlPacket s).received = s.received := by
  unfold umpHandleSendCtrlPacket sendCtrlAckAlone
  dsimp only
  repeat' split
  all_goals rfl

theorem umpHandleSendResetPacket_received :
    (umpHandleSendResetPacket s).received = s.received := by
  unfold umpHandleSendResetPacket
  split <;> rfl

theorem umpHandleCtrlTimeout_received : (umpHandleCtrlTimeout s).received = s.received := by
  unfold umpHandleCtrlTimeout
  dsimp only
  repeat' split
  · rfl
  · rfl
  · rfl
  · rfl
  · rw [umpConnectionErrorOccured_received, umpEndCtrl_received]
    rfl

/-! ### The sender -/

theorem umpHandleSend_received : (umpHandleSend s).received = s.received := by
  unfold umpHandleSend
  repeat' split
  · rfl
  · rfl
  · rfl
  · dsimp only
    split
    · rw [umpEndSend_received]
      rfl
    · rfl

theorem finishAck_received (ackSeq : UInt16) : (finishAck s ackSeq).received = s.received := by
  have acknowledged : (acknowledgeTimers
      { refreshCwnd s with snd := skipAcknowledged (refreshCwnd s).snd } ackSeq).received =
        s.received := by
    apply received_congr <;> simp
  unfold finishAck
  dsimp only
  split
  · rw [umpEndSend_received, acknowledged]
  · exact acknowledged

theorem umpHandleDataAck_received : (umpHandleDataAck s p).received = s.received := by
  unfold umpHandleDataAck
  dsimp only
  repeat' split
  · rw [finishAck_received]
    exact received_congr s (umpHandleWndNotify_rcv _ p) (umpHandleWndNotify_log _ p)
  · exact received_congr s (umpHandleWndNotify_rcv _ p) (umpHandleWndNotify_log _ p)
  · rfl
  · exact received_congr s (umpHandleWndNotify_rcv _ p) (umpHandleWndNotify_log _ p)

theorem umpHandleDataTimeout_received : (umpHandleDataTimeout s).received = s.received := by
  unfold umpHandleDataTimeout
  dsimp only
  repeat' split
  · rfl
  · rw [umpConnectionErrorOccured_received, umpEndSend_received]
    rfl
  · rfl
  · rfl

theorem sendAckAlone_received : (sendAckAlone s).received = s.received := by
  unfold sendAckAlone
  split <;> rfl

theorem umpHandleSendData_received : (umpHandleSendData s).received = s.received := by
  unfold umpHandleSendData umpSndlockedHandleSendData
  dsimp only
  repeat' split
  · exact sendAckAlone_received s
  · rfl
  · rfl
  · exact sendAckAlone_received s

theorem umpActReqWnd_received : (umpActReqWnd s).received = s.received := by
  unfold umpActReqWnd
  dsimp only
  repeat' split
  all_goals rfl

theorem umpRefreshOurRwndPos_received :
    ({ s with rcv := umpRefreshOurRwndPos s.rcv } : SocketCore).received = s.received := by
  unfold umpRefreshOurRwndPos
  split <;> rfl

end Core

/-! ### Calls with a message -/

/-- A call waits only while no message was taken for the user, and none is completed with
a message that was not. -/
structure Answered {Lists : Type} [ReceiveLists Lists] (u : UMPSocket Lists) : Prop where
  waits : u.core.rcv.recLocked = .locked → ReceiveLists.recMsgPackets u.lists = none
  some : ∀ packets ∈ u.core.deliveries, packets ≠ []

section Calls

variable {Lists : Type} [ReceiveLists Lists] {u : UMPSocket Lists} {packets : List UMPPacket}

theorem umpEndReceiveInternal_recLocked :
    (umpEndReceiveInternal u).core.rcv.recLocked = u.core.rcv.recLocked := by
  unfold umpEndReceiveInternal
  dsimp only
  split <;> rfl

theorem finishReceive_deliveries (user : ReceiveLists.recMsgPackets u.lists = some packets) :
    (finishReceive u).core.deliveries = packets :: u.core.deliveries := by
  have log : (finishReceive u).core.log = .received packets
      (some (umpEndReceiveInternal u).core.rcv.recMsg) :: u.core.log := by
    simp [finishReceive, user]
  rw [SocketCore.deliveries, log]
  rfl

theorem finishReceive_answered (unlocked : u.core.rcv.recLocked = .unlocked)
    (user : ReceiveLists.recMsgPackets u.lists = some packets) (notEmpty : packets ≠ [])
    (before : ∀ packets ∈ u.core.deliveries, packets ≠ []) : Answered (finishReceive u) := by
  constructor
  · intro locked
    have same : (finishReceive u).core.rcv.recLocked = u.core.rcv.recLocked :=
      umpEndReceiveInternal_recLocked
    rw [same, unlocked] at locked
    cases locked
  · rw [finishReceive_deliveries user]
    exact List.forall_mem_cons.mpr ⟨notEmpty, before⟩

theorem umpEndReceive_answered (user : ReceiveLists.recMsgPackets u.lists = some packets)
    (notEmpty : packets ≠ []) (before : ∀ packets ∈ u.core.deliveries, packets ≠ []) :
    Answered (umpEndReceive u) := by
  unfold umpEndReceive
  split
  · rename_i unlocked
    refine ⟨fun locked => ?_, before⟩
    rw [unlocked] at locked
    cases locked
  · exact finishReceive_answered (u := unlockReceive u) rfl user notEmpty before

theorem umpHandleReceive_answered (answered : Answered u)
    (taken : ∀ packets, ReceiveLists.recMsgPackets u.lists = some packets → packets ≠ []) :
    Answered (umpHandleReceive u) := by
  unfold umpHandleReceive
  dsimp only
  repeat' split
  · exact answered
  · exact answered
  · exact answered
  · rename_i unlocked _ _ there
    obtain ⟨packets, user⟩ := Option.isSome_iff_exists.mp there
    exact finishReceive_answered unlocked user (taken packets user) answered.some
  · exact ⟨answered.waits, answered.some⟩
  · rename_i none _
    exact ⟨fun _ => Option.not_isSome_iff_eq_none.mp none, answered.some⟩

end Calls

section Plain

open PlainLists

variable {v : UMPSocket PlainLists} {p : UMPPacket}

theorem recMsgPackets_some {m : PlainLists} (notEmpty : m.recMsgPackets ≠ []) :
    ReceiveLists.recMsgPackets m = some m.recMsgPackets := if_neg notEmpty

theorem recMsgPackets_congr {m n : PlainLists} (same : n.recMsgPackets = m.recMsgPackets) :
    ReceiveLists.recMsgPackets n = ReceiveLists.recMsgPackets m := by
  show (if _ then none else some _) = (if _ then none else some _)
  rw [same]

theorem countMessage_answered (answered : Answered v) : Answered (countMessage v) := by
  refine ⟨fun locked => ?_, answered.some⟩
  have same : (countMessage v).lists.recMsgPackets = v.lists.recMsgPackets := by
    unfold countMessage
    dsimp only
    split <;> rfl
  rw [recMsgPackets_congr same]
  exact answered.waits locked

theorem umpCheckRcvDataSoFar_answered {index : Nat} (answered : Answered v)
    (arranged : Arranged v index) (moved : v.lists.rcvDataSoFar = index + 1) :
    Answered (umpCheckRcvDataSoFar v) := by
  rw [umpCheckRcvDataSoFar_eq]
  split
  · rename_i ends
    have counting := countMessage_arranged arranged moved ends
    split
    · have taken := (umpHarvestMessages_inOrder counting.1 counting.2).2
      exact umpEndReceive_answered (recMsgPackets_some taken) taken answered.some
    · exact countMessage_answered answered
  · exact answered

theorem advanceTheirBase_answered {check : Bool} {bound : Nat} (answered : Answered v)
    (moving : Moving v check bound) : Answered (advanceTheirBase v check) := by
  have still : Answered (moveSoFar v) := by
    refine ⟨fun locked => ?_, answered.some⟩
    rw [recMsgPackets_congr (moveSoFar_recMsgPackets v)]
    exact answered.waits locked
  rw [advanceTheirBase_eq]
  split
  · rename_i changed
    obtain ⟨index, arranged, atIndex⟩ := moving.moved changed
    exact umpCheckRcvDataSoFar_answered still arranged atIndex
  · exact still

theorem takeInOrder_answered (answered : Answered v) (inOrder : InOrder v) :
    Answered (takeInOrder v) := by
  unfold takeInOrder
  split
  · rename_i q found
    exact advanceTheirBase_answered answered (inOrder.moving found)
  · rename_i none
    split
    · rename_i first
      apply advanceTheirBase_answered _ (inOrder.starting none first)
      exact ⟨answered.waits, answered.some⟩
    · exact answered

theorem storePacket_answered (answered : Answered v) (inOrder : InOrder v)
    (inRange : ¬ umpCmpInRcvbase v.core.rcv p.seqNum v.core.rcv.theirDataSeqBase < 0) :
    Answered (storePacket v p) := by
  unfold storePacket
  split
  · exact answered
  · rename_i lists inserted
    obtain ⟨ordered, -, sameRec⟩ := inOrder.arranged.insert inRange inserted
    apply takeInOrder_answered
    · refine ⟨fun locked => ?_, answered.some⟩
      rw [recMsgPackets_congr sameRec]
      exact answered.waits locked
    · exact ⟨ordered, by rw [sameRec]; exact inOrder.waiting⟩

end Plain

/-! ### Linked lists -/

/-- The lists are in order, or no message will ever be in order. -/
def Receiving (u : UMPSocket GLists) : Prop :=
  (∃ v, Follows u v ∧ InOrder v) ∨
    GLists.Trapped u.lists u.core.rcv.theirDataSeqBase ∧ u.core.rcv.rcvPacketsMsgNum = 0

section Linked

variable {u : UMPSocket GLists} {v : UMPSocket PlainLists} {p : UMPPacket}

theorem Follows.answered (follows : Follows u v) : Answered u ↔ Answered v := by
  have user := GLists.recMsgPackets_refines follows.lists
  have core := follows.core
  constructor
  · rintro ⟨waits, some⟩
    rw [core] at waits some
    rw [user] at waits
    exact ⟨waits, some⟩
  · rintro ⟨waits, some⟩
    rw [← core] at waits some
    rw [← user] at waits
    exact ⟨waits, some⟩

/-- What was taken for the user is not empty. -/
theorem Receiving.taken (receiving : Receiving u) {packets : List UMPPacket}
    (user : ReceiveLists.recMsgPackets u.lists = some packets) : packets ≠ [] := by
  rcases receiving with ⟨v, follows, inOrder⟩ | ⟨trapped, idle⟩
  · rw [GLists.recMsgPackets_refines follows.lists] at user
    have unfolded : ReceiveLists.recMsgPackets v.lists =
        if v.lists.recMsgPackets = [] then none else some v.lists.recMsgPackets := rfl
    rw [unfolded] at user
    split at user
    · cases user
    · rename_i notEmpty
      rw [← Option.some.inj user]
      exact notEmpty
  · exact trapped.recMsgPackets user

/-- While nothing was taken for the user, no message waits. -/
theorem Receiving.idle (receiving : Receiving u)
    (none : ReceiveLists.recMsgPackets u.lists = none) : u.core.rcv.rcvPacketsMsgNum = 0 := by
  rcases receiving with ⟨v, follows, inOrder⟩ | ⟨trapped, idle⟩
  · rw [follows.core]
    apply inOrder.waiting
    rw [GLists.recMsgPackets_refines follows.lists] at none
    exact (recMsgPackets_isNone v.lists).mp (Option.isNone_iff_eq_none.mpr none)
  · exact idle

theorem umpHandleReceive_receiving (receiving : Receiving u) : Receiving (umpHandleReceive u) := by
  rcases receiving with ⟨v, follows, inOrder⟩ | ⟨trapped, idle⟩
  · exact .inl ⟨_, umpHandleReceive_follows follows inOrder, umpHandleReceive_inOrder inOrder⟩
  · right
    have finished : GLists.Trapped (finishReceive u).lists
        (finishReceive u).core.rcv.theirDataSeqBase ∧
          (finishReceive u).core.rcv.rcvPacketsMsgNum = 0 := by
      have noOther : ¬ u.core.rcv.rcvPacketsMsgNum ≥ 1 := by omega
      have internal : umpEndReceiveInternal u = pushAck (joinMessage u) := by
        rw [umpEndReceiveInternal_eq, if_neg noOther]
      unfold finishReceive
      rw [internal]
      exact ⟨trapped.free, idle⟩
    unfold umpHandleReceive
    dsimp only
    repeat' split
    all_goals
      first
      | exact ⟨trapped, idle⟩
      | exact finished

/-- Trapped lists take in packets, and nothing comes of it. -/
theorem storePacket_trapped
    (trapped : GLists.Trapped u.lists u.core.rcv.theirDataSeqBase)
    (inRange : ¬ umpCmpInRcvbase u.core.rcv p.seqNum u.core.rcv.theirDataSeqBase < 0) :
    ∃ lists, storePacket u p = { u with lists := lists } ∧
      GLists.Trapped lists u.core.rcv.theirDataSeqBase ∧
      lists.recMsgPackets = u.lists.recMsgPackets := by
  unfold storePacket
  split
  · exact ⟨u.lists, rfl, trapped, rfl⟩
  · rename_i lists inserted
    have still := trapped.insert inRange inserted
    refine ⟨lists, ?_, still, GLists.insertPacket_user inserted⟩
    unfold takeInOrder
    rw [still.soFarPacket]
    dsimp only
    rw [still.firstPacket]
    rfl

/-- An insertion before a head with `prev` leaves the lists trapped. -/
theorem storePacket_outside (follows : Follows u v) (inOrder : InOrder v)
    (inRange : ¬ umpCmpInRcvbase v.core.rcv p.seqNum v.core.rcv.theirDataSeqBase < 0)
    (outside : ¬ InsideList u v p) :
    ∃ lists, storePacket u p = { u with lists := lists } ∧
      (GLists.Trapped lists u.core.rcv.theirDataSeqBase ∧ u.core.rcv.rcvPacketsMsgNum = 0 ∨
        lists = u.lists) ∧
      lists.recMsgPackets = u.lists.recMsgPackets := by
  rw [← follows.core] at inRange
  unfold InsideList at outside
  have arranged := inOrder.arranged
  unfold Arranged at arranged
  rw [← follows.core] at outside arranged
  unfold storePacket
  split
  · exact ⟨u.lists, rfl, .inr rfl, rfl⟩
  · rename_i lists inserted
    obtain ⟨trapped, idle⟩ := follows.lists.trapped arranged inRange outside inserted
    refine ⟨lists, ?_, .inl ⟨trapped, idle⟩, GLists.insertPacket_user inserted⟩
    unfold takeInOrder
    rw [trapped.soFarPacket]
    dsimp only
    rw [trapped.firstPacket]
    rfl

theorem storePacket_receiving (receiving : Receiving u) (answered : Answered u)
    (inRange : ¬ umpCmpInRcvbase u.core.rcv p.seqNum u.core.rcv.theirDataSeqBase < 0) :
    Receiving (storePacket u p) ∧ Answered (storePacket u p) := by
  -- where the lists stay as they are for the user, calls are answered as before
  have kept {lists : GLists} (user : lists.recMsgPackets = u.lists.recMsgPackets) :
      Answered { u with lists := lists } := by
    refine ⟨fun locked => ?_, answered.some⟩
    have none := answered.waits locked
    have pointer : u.lists.recMsgPackets = Option.none := Option.map_eq_none_iff.mp none
    show lists.recMsgPackets.map _ = Option.none
    rw [user, pointer]
    rfl
  rcases receiving with ⟨v, follows, inOrder⟩ | ⟨trapped, idle⟩
  · have inRangeToo := inRange
    rw [follows.core] at inRangeToo
    by_cases inside : InsideList u v p
    · have stored := storePacket_follows follows inOrder inRangeToo inside
      have answeredToo := follows.answered.mp answered
      exact ⟨.inl ⟨_, stored, storePacket_inOrder inOrder inRangeToo⟩,
        stored.answered.mpr (storePacket_answered answeredToo inOrder inRangeToo)⟩
    · obtain ⟨lists, same, trapped | unchanged, user⟩ :=
        storePacket_outside follows inOrder inRangeToo inside
      · rw [same]
        exact ⟨.inr trapped, kept user⟩
      · rw [same, unchanged]
        exact ⟨.inl ⟨v, follows, inOrder⟩, answered⟩
  · obtain ⟨lists, same, still, user⟩ := storePacket_trapped trapped inRange
    rw [same]
    exact ⟨.inr ⟨still, idle⟩, kept user⟩

end Linked

end UserMessageProtocol
