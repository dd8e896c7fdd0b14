import UserMessageProtocol.Receiver.Deliveries
import UserMessageProtocol.Sender.IndexSafety

/-!
Contract: in every run each lock is locked exactly while the socket thread has its
mutex, and each call that is picked up is completed at most once.

Owns: the invariant of the receiving half (`Serving`) and the theorem
`callsLocked_of_run`.

A completion is an entry of the log; it releases the mutex and sets the done event of
its call, once each.

Does not own: the moves of the locks (`Socket.Locks`).
-/

set_option autoImplicit false

namespace UserMessageProtocol

/-- What holds of the receiving half between two handlers. -/
structure Serving (u : UMPSocket GLists) : Prop where
  receiving : Receiving u
  answered : Answered u
  fresh : u.core.ctrl.synReced = false →
    u.lists = ReceiveLists.new ∧ u.core.rcv.rcvPacketsMsgNum = 0

section Steps

variable {u w : UMPSocket GLists} {event : SockEvent} {p : UMPPacket}

/-- Empty lists fit any number. -/
theorem receiving_new (lists : u.lists = ReceiveLists.new)
    (idle : u.core.rcv.rcvPacketsMsgNum = 0) : Receiving u := by
  left
  refine ⟨⟨u.core, ReceiveLists.new⟩, ⟨rfl, ?_⟩, ⟨⟨?_, Nat.le_refl 0, ?_, ?_⟩, fun _ => idle⟩⟩
  · rw [lists]
    exact GLists.new_refines
  · show PlainLists.Counted _ u.core.rcv.rcvPacketsMsgNum _
    rw [idle]
    exact PlainLists.Counted.zero rfl _
  · intro q found
    cases found
  · intro _ q found
    cases found

theorem Receiving.congr (receiving : Receiving u) (lists : w.lists = u.lists)
    (received : w.core.received = u.core.received) : Receiving w := by
  have base : w.core.rcv.theirDataSeqBase = u.core.rcv.theirDataSeqBase :=
    congrArg ReceivePart.theirDataSeqBase received
  have msgNum : w.core.rcv.rcvPacketsMsgNum = u.core.rcv.rcvPacketsMsgNum :=
    congrArg ReceivePart.rcvPacketsMsgNum received
  rcases receiving with ⟨v, follows, inOrder⟩ | ⟨trapped, idle⟩
  · left
    refine ⟨⟨w.core, v.lists⟩, ⟨rfl, ?_⟩, ?_, ?_⟩
    · rw [lists]
      exact follows.lists
    · show PlainLists.Ordered v.lists w.core.rcv.theirDataSeqBase w.core.rcv.rcvPacketsMsgNum _
      rw [base, msgNum, follows.core]
      exact inOrder.arranged
    · show _ → w.core.rcv.rcvPacketsMsgNum = 0
      rw [msgNum, follows.core]
      exact inOrder.waiting
  · right
    rw [lists, base, msgNum]
    exact ⟨trapped, idle⟩

theorem Answered.congr (answered : Answered u) (lists : w.lists = u.lists)
    (received : w.core.received = u.core.received)
    (locked : w.core.rcv.recLocked = .locked → u.core.rcv.recLocked = .locked) : Answered w := by
  have deliveries : w.core.deliveries = u.core.deliveries :=
    congrArg ReceivePart.deliveries received
  constructor
  · intro waits
    rw [lists]
    exact answered.waits (locked waits)
  · rw [deliveries]
    exact answered.some

/-- A handler that leaves the lists and the numbers of the receiver alone. -/
theorem Serving.keep (serving : Serving u) (other : event ≠ .handleReceive)
    (lists : (sockStep u event).lists = u.lists)
    (received : (sockStep u event).core.received = u.core.received) :
    Serving (sockStep u event) := by
  refine ⟨serving.receiving.congr lists received,
    serving.answered.congr lists received (sockStep_recLocked other), ?_⟩
  intro still
  have before : u.core.ctrl.synReced = false := by
    by_contra syn
    rw [sockStep_synReced ((Bool.not_eq_false _).mp syn)] at still
    cases still
  have msgNum : (sockStep u event).core.rcv.rcvPacketsMsgNum = u.core.rcv.rcvPacketsMsgNum :=
    congrArg ReceivePart.rcvPacketsMsgNum received
  rw [lists, msgNum]
  exact serving.fresh before

theorem Serving.ctrlPacket (serving : Serving u) : Serving (sockStep u (.ctrlPacket p)) := by
  rcases umpHandleCtrlPacket_received u.core p with ⟨-, same⟩ | ⟨syn, taken⟩
  · exact serving.keep (by simp) rfl same
  · obtain ⟨lists, idle⟩ := serving.fresh syn.fresh
    have idleToo : (sockStep u (.ctrlPacket p)).core.rcv.rcvPacketsMsgNum = 0 := by
      have same := congrArg ReceivePart.rcvPacketsMsgNum taken
      exact same.trans idle
    have deliveries : (sockStep u (.ctrlPacket p)).core.deliveries = u.core.deliveries :=
      congrArg ReceivePart.deliveries taken
    refine ⟨receiving_new lists idleToo, ⟨fun locked => ?_, ?_⟩, fun _ => ⟨lists, idleToo⟩⟩
    · exact serving.answered.waits (sockStep_recLocked (by simp) locked)
    · rw [deliveries]
      exact serving.answered.some

theorem Serving.dataPacket (serving : Serving u) (sound : u.core.handshake.Sound) :
    Serving (sockStep u (.dataPacket p)) := by
  show Serving (umpHandleDataPacket u p)
  -- a scheduled ack and the ack of the packet leave the receiver alone
  generalize isScheduled : (if uPacketGetFlag p UP_DATA_SEQ then
    { u with core := { u.core with ackInfo := umpSetOurAckInfo u.core.ackInfo false } }
    else u) = w
  have same : w.lists = u.lists ∧ w.core.rcv = u.core.rcv ∧ w.core.received = u.core.received ∧
      w.core.ctrl = u.core.ctrl := by
    rw [← isScheduled]
    split <;> exact ⟨rfl, rfl, rfl, rfl⟩
  obtain ⟨lists, rcv, received, ctrl⟩ := same
  have ackedReceived := (umpHandleDataAck_received w.core p).trans received
  have ackedRcv := (umpHandleDataAck_rcv w.core p).trans rcv
  have ackedCtrl := (umpHandleDataAck_ctrl w.core p).trans ctrl
  generalize isAcked : umpHandleDataAck w.core p = acked at ackedReceived ackedRcv ackedCtrl
  have receiving : Receiving ⟨acked, w.lists⟩ := serving.receiving.congr lists ackedReceived
  have answered : Answered (⟨acked, w.lists⟩ : UMPSocket GLists) := by
    refine serving.answered.congr lists ackedReceived ?_
    dsimp only
    rw [ackedRcv]
    exact id
  have fresh : acked.ctrl.synReced = false →
      w.lists = ReceiveLists.new ∧ acked.rcv.rcvPacketsMsgNum = 0 := by
    rw [lists, ackedRcv, ackedCtrl]
    exact serving.fresh
  unfold umpHandleDataPacket
  dsimp only
  rw [isScheduled, isAcked]
  split
  · exact ⟨receiving, answered, fresh⟩
  · refine ⟨serving.receiving.congr lists received, serving.answered.congr lists received ?_, ?_⟩
    · rw [rcv]
      exact id
    · rw [lists, rcv, ctrl]
      exact serving.fresh
  · rename_i established
    unfold umpEstablishedHandleDataPacket
    dsimp only
    rw [isAcked]
    split
    · rename_i inRange
      have notBefore := (inReceiveRange_iff.mp inRange).2
      have stored := storePacket_receiving receiving answered notBefore
      refine ⟨stored.1, stored.2, ?_⟩
      -- an established connection had the peer's SYN
      intro unheard
      rw [storePacket_ctrl, ackedCtrl] at unheard
      rw [ctrl] at established
      have heard : u.core.ctrl.synReced = true := sound.opened (.inl established)
      rw [heard] at unheard
      cases unheard
    · exact ⟨receiving, answered, fresh⟩
  · exact ⟨receiving, answered, fresh⟩

theorem Serving.handleReceive (serving : Serving u) :
    Serving (sockStep u .handleReceive) := by
  refine ⟨umpHandleReceive_receiving serving.receiving,
    umpHandleReceive_answered serving.answered fun _ => serving.receiving.taken, ?_⟩
  intro unheard
  have before : u.core.ctrl.synReced = false := by
    rw [← unheard]
    exact congrArg ControlSide.synReced (umpHandleReceive_ctrl u).symm
  obtain ⟨lists, idle⟩ := serving.fresh before
  -- there is nothing to take from empty lists
  have none : ReceiveLists.recMsgPackets u.lists = none := by
    rw [lists]
    rfl
  show (umpHandleReceive u).lists = _ ∧ (umpHandleReceive u).core.rcv.rcvPacketsMsgNum = 0
  unfold umpHandleReceive
  rw [none]
  dsimp only
  repeat' split
  all_goals
    first
    | exact ⟨lists, idle⟩
    | contradiction

theorem Serving.step (serving : Serving u) (sound : u.core.handshake.Sound) :
    Serving (sockStep u event) := by
  cases event with
  | ctrlPacket p => exact serving.ctrlPacket
  | dataPacket p => exact serving.dataPacket sound
  | handleReceive => exact serving.handleReceive
  | userCtrl | userSend | userReceive | bufferLoad => exact serving.keep (by simp) rfl rfl
  | handleCtrl => exact serving.keep (by simp) rfl (umpHandleCtrl_received _)
  | handleSend => exact serving.keep (by simp) rfl (umpHandleSend_received _)
  | dataTimeout => exact serving.keep (by simp) rfl (umpHandleDataTimeout_received _)
  | refreshRwnd => exact serving.keep (by simp) rfl (umpRefreshOurRwndPos_received _)
  | refreshAck =>
      exact serving.keep (by simp) rfl
        (received_congr _ (umpRefreshOurAckInfo_rcv _) (umpRefreshOurAckInfo_log _))
  | actReqWnd => exact serving.keep (by simp) rfl (umpActReqWnd_received _)
  | ctrlTimeout => exact serving.keep (by simp) rfl (umpHandleCtrlTimeout_received _)
  | sendCtrlPacket => exact serving.keep (by simp) rfl (umpHandleSendCtrlPacket_received _)
  | heartbeat =>
      exact serving.keep (by simp) rfl
        (received_congr _ (umpHandleSendHeartbeat_rcv _) (umpHandleSendHeartbeat_log _))
  | sendData => exact serving.keep (by simp) rfl (umpHandleSendData_received _)
  | sendReset => exact serving.keep (by simp) rfl (umpHandleSendResetPacket_received _)

end Steps

/-! ### Runs -/

/-- The locks, their calls and the calls completed, in the state that `events` lead to
from `start`. -/
structure CallsLocked (start : UMPSocket GLists) (events : List SockEvent) (u : UMPSocket GLists) :
    Prop where
  ctrlHeld : u.core.ctrl.ctrlLocked = .locked ↔ u.core.ctrl.ctrlParaLock = true
  sendHeld : u.core.snd.sndLocked = .locked ↔ u.core.snd.sndParaLock = true
  receiveHeld : u.core.rcv.recLocked = .locked ↔ u.core.rcv.recParaLock = true
  ctrlPara : u.core.ctrl.ctrlLocked = .locked → u.core.ctrl.ctrlPara ≠ none
  sndPackets : u.core.snd.sndLocked = .locked →
    u.core.snd.sndPackets ≠ none ∧ 1 ≤ u.core.snd.sndPacketsCount
  receiveCalled : u.core.rcv.recLocked = .locked →
    u.core.rcv.receiveCalled = true ∧ ReceiveLists.recMsgPackets u.lists = none ∧
      u.core.rcv.rcvPacketsMsgNum = 0
  /-- `ump_end_receive_internal` found `rec_msg_packets` not `NULL`. -/
  recMsgPackets : ∀ packets message,
    Action.received packets (some message) ∈ u.core.log → packets ≠ []
  ctrlCalls : (u.core.log.filter Action.endsCtrl).length + u.core.ctrl.ctrlParaLock.toNat =
    (sockMachine GLists).tally picksCtrl start events
  sendCalls : (u.core.log.filter Action.endsSend).length + u.core.snd.sndParaLock.toNat =
    (sockMachine GLists).tally picksSend start events
  receiveCalls : (u.core.log.filter Action.endsReceive).length + u.core.rcv.recParaLock.toNat =
    (sockMachine GLists).tally picksReceive start events

section Runs

variable {seq : UInt16} {clock : Clock} {events : List SockEvent} {u : UMPSocket GLists}

theorem serving_new : Serving (umpSockNew GLists seq clock) := by
  refine ⟨receiving_new rfl rfl, ⟨?_, ?_⟩, fun _ => ⟨rfl, rfl⟩⟩
  · intro locked
    cases locked
  · intro packets member
    cases member

theorem serving_of_run (run : (sockMachine GLists).Run (umpSockNew GLists seq clock) events u) :
    WellShaped u ∧ Serving u := by
  let Holds (u : UMPSocket GLists) : Prop := WellShaped u ∧ Serving u
  have first : Holds (umpSockNew GLists seq clock) := ⟨wellShaped_new seq clock, serving_new⟩
  apply Machine.RunWhere.invariant run first
  intro u event holds allowed _
  exact ⟨holds.1.step allowed, holds.2.step holds.1.sound⟩

/-- A lock of a new socket. -/
theorem callLock_new : CallLock.Sound ⟨false, false, false, 0⟩ :=
  ⟨rfl, fun locked => by cases locked⟩

/-- In every run the locks are those of the calls in hand, and each call that is picked
up is in hand or was completed once. -/
theorem callsLocked_of_run
    (run : (sockMachine GLists).Run (umpSockNew GLists seq clock) events u) :
    CallsLocked (umpSockNew GLists seq clock) events u := by
  obtain ⟨shaped, serving⟩ := serving_of_run run
  let ctrlView (u : UMPSocket GLists) : CallLock := ctrlLock u.core
  let sendView (u : UMPSocket GLists) : CallLock := sendLock u.core
  let receiveView (u : UMPSocket GLists) : CallLock := receiveLock u.core
  have ctrl := CallLock.sound_of_run ctrlView run callLock_new fun _ _ => ctrlLock_moves
  have send := CallLock.sound_of_run sendView run callLock_new fun _ _ => sendLock_moves
  have receive := CallLock.sound_of_run receiveView run callLock_new fun _ _ => receiveLock_moves
  have ctrlPicked := CallLock.picked_of_run ctrlView run callLock_new fun _ _ => ctrlLock_moves
  have sendPicked := CallLock.picked_of_run sendView run callLock_new fun _ _ => sendLock_moves
  have receivePicked :=
    CallLock.picked_of_run receiveView run callLock_new fun _ _ => receiveLock_moves
  refine ⟨ctrl.locked_iff, send.locked_iff, receive.locked_iff, ?_, ?_, ?_, ?_,
    ctrlPicked.trans (Nat.zero_add _), sendPicked.trans (Nat.zero_add _),
    receivePicked.trans (Nat.zero_add _)⟩
  · intro locked
    exact Option.isSome_iff_ne_none.mp (ctrl.called_of locked)
  · intro locked
    obtain ⟨packets, held⟩ := shaped.shape.message locked
    have count : u.core.snd.sndPacketsCount = packets.length := held.count
    have positive := held.positive
    exact ⟨Option.isSome_iff_ne_none.mp (send.called_of locked), by omega⟩
  · intro locked
    have none := serving.answered.waits locked
    exact ⟨receive.called_of locked, none, serving.receiving.idle none⟩
  · intro packets message member
    apply serving.answered.some
    exact List.mem_filterMap.mpr ⟨_, member, rfl⟩

/-- A message of one packet with number `seqNum`, as it is received. -/
def dataMessage (seqNum : UInt16) : UMPPacket :=
  let p := uPacketSetData (uPacketNew .data .outgoing) [1]
  receivedForm
    { uPacketSetFlag (uPacketSetFlag p UP_DATA_SEQ) UP_DATA_BDR with seqNum := seqNum }

/-- A message is sent, and one comes while a call waits for it. -/
def bothWaysRun : List SockEvent :=
  passiveOpen 7 100 ++
    [.userReceive, .handleReceive, .userSend [1], .handleSend, .sendData,
      .dataPacket (dataMessage 7)]

/-- The theorem holds of a run in which one call is completed and one is not. -/
theorem callsLocked_bothWays :
    CallsLocked (umpSockNew GLists 100 ⟨fun _ => ⟨0, 0⟩, 0⟩) bothWaysRun
      ((sockMachine GLists).after (umpSockNew GLists 100 ⟨fun _ => ⟨0, 0⟩, 0⟩) bothWaysRun) :=
  callsLocked_of_run (Machine.runWhere_of_check (by decide))

end Runs

end UserMessageProtocol
