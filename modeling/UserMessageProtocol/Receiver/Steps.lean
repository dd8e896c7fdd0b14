import UserMessageProtocol.Receiver.Deliveries

/-!
Contract: what each event does to the receiver of a socket.

Owns: the acks of data that a socket owes (`DataAcks`), and the step lemma
`receive_step`: what an event does to the lists, to the numbers of the receiver and to
the acks it owes, when an ack becomes due (`ReceiveStep.due`), and that calls return the
bytes of the packets they took (`ReturnsBytes`).

Does not own: what the lists hold.
-/

set_option autoImplicit false

namespace UserMessageProtocol

/-! ### Acks of data -/

/-- The ack of data to send, and the reasons for the next one. -/
structure DataAcks where
  dataAckSet : Bool
  dataAckSeq : UInt16
  pushAck : Bool
  scheduleAck : Bool

namespace DataAcks

variable (acks : DataAcks)

/-- The next ack is asked for. -/
def owed : Bool := acks.pushAck || acks.scheduleAck

/-- `ump_set_our_ack_info`. -/
def ask (pushAck : Bool) : DataAcks :=
  if pushAck then { acks with pushAck := true }
  else if acks.scheduleAck = false then { acks with scheduleAck := true }
  else { acks with pushAck := true }

/-- The ack of these numbers is to be sent. -/
def tell (theirDataSeqBase : UInt16) : DataAcks := ⟨true, theirDataSeqBase, false, false⟩

/-- The ack is on the wire. -/
def told : DataAcks := { acks with dataAckSet := false }

@[simp] theorem ask_dataAckSet (pushAck : Bool) : (acks.ask pushAck).dataAckSet = acks.dataAckSet := by
  unfold ask
  repeat' split
  all_goals rfl

@[simp] theorem ask_dataAckSeq (pushAck : Bool) : (acks.ask pushAck).dataAckSeq = acks.dataAckSeq := by
  unfold ask
  repeat' split
  all_goals rfl

end DataAcks

def UMPAckInfo.data (ackInfo : UMPAckInfo) : DataAcks :=
  ⟨ackInfo.dataAckSet, ackInfo.dataAckSeq, ackInfo.pushAck, ackInfo.scheduleAck⟩

@[simp] theorem umpSetOurAckInfo_data (ackInfo : UMPAckInfo) (pushAck : Bool) :
    (umpSetOurAckInfo ackInfo pushAck).data = ackInfo.data.ask pushAck := by
  unfold umpSetOurAckInfo DataAcks.ask
  repeat' split
  all_goals first | rfl | contradiction

def SocketCore.acks (s : SocketCore) : DataAcks := s.ackInfo.data

section Core

variable (s : SocketCore) (p : UMPPacket) (method : UMPCallMethod)

/-- Acks of data are not part of the acks of control packets. -/
@[simp] theorem setCtrlAck_acks : (setCtrlAck s).acks = s.acks := rfl

theorem acks_congr {s t : SocketCore} (same : t.ackInfo = s.ackInfo) : t.acks = s.acks := by
  unfold SocketCore.acks
  rw [same]

/-! ### Control packets and calls -/

theorem connectingAck_ackInfo : (connectingAck s p).ackInfo = s.ackInfo := by
  unfold connectingAck
  dsimp only
  repeat' split
  all_goals simp

theorem closingAck_ackInfo : (closingAck s p).ackInfo = s.ackInfo := by
  unfold closingAck
  dsimp only
  repeat' split
  all_goals simp

theorem establishedAck_ackInfo : (establishedAck s p).ackInfo = s.ackInfo := by
  unfold establishedAck
  split
  · simp
  · rfl

theorem completeOpen_acks : (completeOpen s).acks = s.acks := by
  unfold completeOpen
  split
  · exact acks_congr (umpChangeState_ackInfo s _)
  · rfl

theorem completeClose_acks : (completeClose s).acks = s.acks := by
  unfold completeClose
  split
  · exact acks_congr (umpChangeState_ackInfo s _)
  · rfl

theorem countTheirs_acks : (countTheirs s p).acks = s.acks := acks_congr (countTheirs_ackInfo s p)

theorem smHandleCtrlPacket_acks : (smHandleCtrlPacket s p).acks = s.acks := by
  unfold smHandleCtrlPacket
  split
  · unfold umpClosedHandleCtrlPacket
    repeat' split
    · rfl
    · rfl
    · rw [setCtrlAck_acks, countTheirs_acks]
    · rfl
  · have acked := acks_congr (connectingAck_ackInfo s p)
    unfold umpConnectingHandleCtrlPacket
    dsimp only
    repeat' split
    · exact acked
    · rw [completeOpen_acks]
      exact acked
    · exact acked
    · rw [completeOpen_acks, setCtrlAck_acks, countTheirs_acks, acked]
    · rw [completeOpen_acks, acked]
  · have acked := acks_congr (establishedAck_ackInfo s p)
    unfold umpEstablishedHandleCtrlPacket
    dsimp only
    repeat' split
    · rw [setCtrlAck_acks, acks_congr (umpChangeState_ackInfo _ _)]
      exact (countTheirs_acks _ p).trans acked
    · rw [setCtrlAck_acks, countTheirs_acks, acked]
    · exact acked
  · have acked := acks_congr (closingAck_ackInfo s p)
    unfold umpClosingHandleCtrlPacket
    dsimp only
    split
    · rw [completeClose_acks, setCtrlAck_acks]
      exact (countTheirs_acks _ p).trans acked
    · rw [completeClose_acks, acked]

theorem umpHandleCtrlPacket_acks : (umpHandleCtrlPacket s p).acks = s.acks := by
  unfold umpHandleCtrlPacket
  split
  · exact acks_congr (umpConnectionErrorOccured_ackInfo s)
  · exact smHandleCtrlPacket_acks _ p

theorem smHandleCtrl_ackInfo : (smHandleCtrl s method).ackInfo = s.ackInfo := by
  unfold smHandleCtrl
  split
  · unfold umpClosedHandleCtrl
    repeat' split
    all_goals simp
  · unfold umpConnectingHandleCtrl
    split <;> simp
  · unfold umpEstablishedHandleCtrl
    repeat' split
    all_goals simp
  · unfold umpClosingHandleCtrl
    split <;> simp

theorem umpHandleCtrl_ackInfo : (umpHandleCtrl s).ackInfo = s.ackInfo := by
  unfold umpHandleCtrl
  dsimp only
  repeat' split
  · rfl
  · rfl
  · rfl
  · simp
  · exact smHandleCtrl_ackInfo _ _

theorem umpHandleSendCtrlPacket_acks : (umpHandleSendCtrlPacket s).acks = s.acks := by
  unfold umpHandleSendCtrlPacket sendCtrlAckAlone
  dsimp only
  repeat' split
  all_goals rfl

theorem umpHandleCtrlTimeout_ackInfo : (umpHandleCtrlTimeout s).ackInfo = s.ackInfo := by
  unfold umpHandleCtrlTimeout
  dsimp only
  repeat' split
  all_goals simp

theorem umpHandleDataTimeout_ackInfo : (umpHandleDataTimeout s).ackInfo = s.ackInfo := by
  unfold umpHandleDataTimeout
  dsimp only
  repeat' split
  all_goals simp

/-! ### Acks that are sent -/

/-- An ack that is sent is not due any more, and nothing else changes. -/
theorem umpHandleSendData_acks : (umpHandleSendData s).acks = s.acks ∨
    (umpHandleSendData s).acks = s.acks.told := by
  unfold umpHandleSendData umpSndlockedHandleSendData sendAckAlone
  dsimp only
  repeat' split
  all_goals first | exact .inl rfl | exact .inr rfl

/-- The ack of the numbers taken so far becomes due when one is owed. -/
theorem umpRefreshOurAckInfo_acks : (umpRefreshOurAckInfo s).acks = s.acks ∨
    s.acks.owed = true ∧ (umpRefreshOurAckInfo s).acks = .tell s.rcv.theirDataSeqBase := by
  unfold umpRefreshOurAckInfo
  dsimp only
  split
  · rename_i push
    exact .inr ⟨by simp [DataAcks.owed, SocketCore.acks, UMPAckInfo.data, push], rfl⟩
  · split
    · rename_i schedule
      split
      · exact .inl rfl
      · exact .inr ⟨by simp [DataAcks.owed, SocketCore.acks, UMPAckInfo.data, schedule], rfl⟩
    · exact .inl rfl

/-- A heartbeat asks for an ack of an open connection. -/
theorem umpHandleSendHeartbeat_acks : (umpHandleSendHeartbeat s).acks = s.acks ∨
    s.ctrl.state = .established ∧ (umpHandleSendHeartbeat s).acks = s.acks.ask false := by
  unfold umpHandleSendHeartbeat
  split
  · exact .inl rfl
  · rename_i open_
    dsimp only
    split
    · exact .inr ⟨not_not.mp open_, umpSetOurAckInfo_data _ _⟩
    · exact .inl rfl

end Core

/-! ### Received data -/

section Lists

variable {Lists : Type} [ReceiveLists Lists] (u : UMPSocket Lists) (p : UMPPacket)

theorem umpEndReceiveInternal_acks : (umpEndReceiveInternal u).core.acks = u.core.acks.ask true := by
  unfold umpEndReceiveInternal
  dsimp only
  split <;> rfl

theorem finishReceive_acks : (finishReceive u).core.acks = u.core.acks.ask true :=
  umpEndReceiveInternal_acks u

/-- What was received asks for an ack when it is passed on. -/
def Pushes (u w : UMPSocket Lists) : Prop :=
  w.core.acks = u.core.acks ∨ w.core.acks = u.core.acks.ask true

theorem umpEndReceive_acks : Pushes u (umpEndReceive u) := by
  unfold umpEndReceive
  split
  · exact .inl rfl
  · exact .inr (finishReceive_acks _)

theorem umpCheckRcvDataSoFar_acks : Pushes u (umpCheckRcvDataSoFar u) := by
  rw [umpCheckRcvDataSoFar_eq]
  split
  · split
    · exact umpEndReceive_acks (umpHarvestMessages (countMessage u))
    · exact .inl rfl
  · exact .inl rfl

theorem advanceTheirBase_acks (check : Bool) : Pushes u (advanceTheirBase u check) := by
  rw [advanceTheirBase_eq]
  split
  · exact umpCheckRcvDataSoFar_acks (moveSoFar u)
  · exact .inl rfl

theorem storePacket_acks : Pushes u (storePacket u p) := by
  unfold storePacket takeInOrder
  repeat' split
  · exact .inl rfl
  · exact advanceTheirBase_acks _ _
  · exact advanceTheirBase_acks _ _
  · exact .inl rfl

/-! ### The receiver as a machine -/

/-- The step from `u` to `w` leaves the receiver alone. -/
structure SameReceiver (u w : UMPSocket Lists) : Prop where
  lists : w.lists = u.lists
  received : w.core.received = u.core.received

/-- The acks asked for by a packet. -/
def DataAcks.askFor (acks : DataAcks) (p : UMPPacket) : DataAcks :=
  if uPacketGetFlag p UP_DATA_SEQ then acks.ask false else acks

/-- What an event can do to the receiver and to the acks it owes. -/
inductive ReceiveStep (u w : UMPSocket Lists) : SockEvent → Prop where
  | idle (event : SockEvent) (unheard : ∀ p, event ≠ .dataPacket p)
      (untaken : ∀ p, event = .ctrlPacket p → ¬ TakesSyn u.core.handshake p)
      (same : SameReceiver u w) (acks : w.core.acks = u.core.acks) : ReceiveStep u w event
  | syn (p : UMPPacket) (taken : TakesSyn u.core.handshake p) (lists : w.lists = u.lists)
      (received : w.core.received = { u.core.received with theirDataSeqBase := p.seqNum })
      (acks : w.core.acks = u.core.acks) : ReceiveStep u w (.ctrlPacket p)
  | tell (owed : u.core.acks.owed = true) (same : SameReceiver u w)
      (acks : w.core.acks = .tell u.core.rcv.theirDataSeqBase) : ReceiveStep u w .refreshAck
  | told (same : SameReceiver u w) (acks : w.core.acks = u.core.acks.told) :
      ReceiveStep u w .sendData
  | beat (established : u.core.ctrl.state = .established) (same : SameReceiver u w)
      (acks : w.core.acks = u.core.acks.ask false) : ReceiveStep u w .heartbeat
  | receive (user : (ReceiveLists.recMsgPackets u.lists).isSome)
      (finished : w = finishReceive u) : ReceiveStep u w .handleReceive
  | dropped (p : UMPPacket)
      (outside : u.core.ctrl.state ≠ .established ∨ inReceiveRange u.core.rcv p = false)
      (same : SameReceiver u w) (acks : w.core.acks = u.core.acks.askFor p) :
      ReceiveStep u w (.dataPacket p)
  | stored (p : UMPPacket) (established : u.core.ctrl.state = .established)
      (inRange : inReceiveRange u.core.rcv p = true) (v : UMPSocket Lists)
      (same : SameReceiver u v) (rcv : v.core.rcv = u.core.rcv)
      (acks : v.core.acks = u.core.acks.askFor p) (after : w = storePacket v p) :
      ReceiveStep u w (.dataPacket p)

theorem umpHandleReceive_receives : ReceiveStep u (umpHandleReceive u) .handleReceive := by
  have same {w : UMPSocket Lists} (same : SameReceiver u w) (acks : w.core.acks = u.core.acks) :
      ReceiveStep u w .handleReceive := .idle _ (by simp) (by simp) same acks
  unfold umpHandleReceive
  repeat' split
  · exact same ⟨rfl, rfl⟩ rfl
  · exact same ⟨rfl, rfl⟩ rfl
  · exact same ⟨rfl, rfl⟩ rfl
  · rename_i user
    exact .receive user rfl
  · exact same ⟨rfl, rfl⟩ rfl
  · exact same ⟨rfl, rfl⟩ rfl

theorem umpHandleDataPacket_receives :
    ReceiveStep u (umpHandleDataPacket u p) (.dataPacket p) := by
  -- the ack asked for and the one the packet brings leave the receiver alone
  generalize asked : (if uPacketGetFlag p UP_DATA_SEQ then
    { u with core := { u.core with ackInfo := umpSetOurAckInfo u.core.ackInfo false } }
    else u) = v
  have kept : v.lists = u.lists ∧ v.core.rcv = u.core.rcv ∧ v.core.log = u.core.log ∧
      v.core.ctrl = u.core.ctrl ∧ v.core.acks = u.core.acks.askFor p := by
    rw [← asked]
    unfold DataAcks.askFor
    split
    · exact ⟨rfl, rfl, rfl, rfl, umpSetOurAckInfo_data _ _⟩
    · exact ⟨rfl, rfl, rfl, rfl, rfl⟩
  obtain ⟨lists, rcv, log, ctrl, acks⟩ := kept
  have received := received_congr u.core rcv log
  have ackedRcv := umpHandleDataAck_rcv v.core p
  have acked : SameReceiver u ⟨umpHandleDataAck v.core p, v.lists⟩ :=
    ⟨lists, (umpHandleDataAck_received v.core p).trans received⟩
  have ackedAcks : (umpHandleDataAck v.core p).acks = u.core.acks.askFor p :=
    (acks_congr (umpHandleDataAck_ackInfo v.core p)).trans acks
  unfold umpHandleDataPacket
  dsimp only
  rw [asked, ctrl]
  cases state : u.core.ctrl.state with
  | closed => exact .dropped p (.inl (by rw [state]; decide)) acked ackedAcks
  | connecting => exact .dropped p (.inl (by rw [state]; decide)) ⟨lists, received⟩ acks
  | established =>
      dsimp only
      unfold umpEstablishedHandleDataPacket
      dsimp only
      rw [ackedRcv, rcv]
      split
      · rename_i inRange
        exact .stored p state inRange _ acked (ackedRcv.trans rcv) ackedAcks rfl
      · rename_i outside
        exact .dropped p (.inr ((Bool.not_eq_true _).mp outside)) acked ackedAcks
  | closing => exact .dropped p (.inl (by rw [state]; decide)) acked ackedAcks

/-- A socket, seen through its receiver. -/
theorem receive_step (event : SockEvent) : ReceiveStep u (sockStep u event) event := by
  have idle {event : SockEvent} (unheard : ∀ p, event ≠ .dataPacket p)
      (untaken : ∀ p, event ≠ .ctrlPacket p) (lists : (sockStep u event).lists = u.lists)
      (received : (sockStep u event).core.received = u.core.received)
      (acks : (sockStep u event).core.acks = u.core.acks) :
      ReceiveStep u (sockStep u event) event :=
    .idle event unheard (fun p same => absurd same (untaken p)) ⟨lists, received⟩ acks
  cases event with
  | userCtrl method => exact idle (by simp) (by simp) rfl rfl rfl
  | userSend data => exact idle (by simp) (by simp) rfl rfl rfl
  | userReceive => exact idle (by simp) (by simp) rfl rfl rfl
  | handleCtrl =>
      exact idle (by simp) (by simp) rfl (umpHandleCtrl_received u.core)
        (acks_congr (umpHandleCtrl_ackInfo u.core))
  | handleSend =>
      exact idle (by simp) (by simp) rfl (umpHandleSend_received u.core)
        (acks_congr (umpHandleSend_ackInfo u.core))
  | handleReceive => exact umpHandleReceive_receives u
  | bufferLoad load => exact idle (by simp) (by simp) rfl rfl rfl
  | ctrlPacket p =>
      have acks := umpHandleCtrlPacket_acks u.core p
      rcases umpHandleCtrlPacket_received u.core p with ⟨untaken, same⟩ | ⟨taken, took⟩
      · refine .idle _ (by simp) ?_ ⟨rfl, same⟩ acks
        intro q equal
        rw [← SockEvent.ctrlPacket.inj equal]
        exact untaken
      · exact .syn p taken rfl took acks
  | dataPacket p => exact umpHandleDataPacket_receives u p
  | dataTimeout =>
      exact idle (by simp) (by simp) rfl (umpHandleDataTimeout_received u.core)
        (acks_congr (umpHandleDataTimeout_ackInfo u.core))
  | refreshRwnd => exact idle (by simp) (by simp) rfl (umpRefreshOurRwndPos_received u.core) rfl
  | refreshAck =>
      have same : (umpRefreshOurAckInfo u.core).received = u.core.received :=
        received_congr u.core (umpRefreshOurAckInfo_rcv u.core) (umpRefreshOurAckInfo_log u.core)
      rcases umpRefreshOurAckInfo_acks u.core with kept | ⟨owed, tells⟩
      · exact idle (by simp) (by simp) rfl same kept
      · exact .tell owed ⟨rfl, same⟩ tells
  | actReqWnd =>
      exact idle (by simp) (by simp) rfl (umpActReqWnd_received u.core)
        (acks_congr (umpActReqWnd_ackInfo u.core))
  | ctrlTimeout =>
      exact idle (by simp) (by simp) rfl (umpHandleCtrlTimeout_received u.core)
        (acks_congr (umpHandleCtrlTimeout_ackInfo u.core))
  | sendCtrlPacket =>
      exact idle (by simp) (by simp) rfl (umpHandleSendCtrlPacket_received u.core)
        (umpHandleSendCtrlPacket_acks u.core)
  | heartbeat =>
      have same : (umpHandleSendHeartbeat u.core).received = u.core.received :=
        received_congr u.core (umpHandleSendHeartbeat_rcv u.core) (umpHandleSendHeartbeat_log u.core)
      rcases umpHandleSendHeartbeat_acks u.core with kept | ⟨established, asks⟩
      · exact idle (by simp) (by simp) rfl same kept
      · exact .beat established ⟨rfl, same⟩ asks
  | sendData =>
      have same := umpHandleSendData_received u.core
      rcases umpHandleSendData_acks u.core with kept | told
      · exact idle (by simp) (by simp) rfl same kept
      · exact .told ⟨rfl, same⟩ told
  | sendReset =>
      exact idle (by simp) (by simp) rfl (umpHandleSendResetPacket_received u.core)
        (acks_congr (umpHandleSendResetPacket_ackInfo u.core))

/-! ### Returned messages -/

/-- Every receive call returned the bytes of its packets. -/
def ReturnsBytes (s : SocketCore) : Prop :=
  s.returned = s.deliveries.map fun packets => packets.flatMap (·.userData)

variable {u p}

theorem finishReceive_returnsBytes (returns : ReturnsBytes u.core) :
    ReturnsBytes (finishReceive u).core := by
  have log : (finishReceive u).core.log =
      .received ((ReceiveLists.recMsgPackets u.lists).getD [])
        (some (((ReceiveLists.recMsgPackets u.lists).getD []).flatMap (·.userData))) ::
          u.core.log := by
    rw [finishReceive, act_log, umpEndReceiveInternal_eq]
    split <;> rfl
  unfold ReturnsBytes SocketCore.returned SocketCore.deliveries at returns ⊢
  rw [log]
  exact congrArg (_ :: ·) returns

theorem umpEndReceive_returnsBytes (returns : ReturnsBytes u.core) :
    ReturnsBytes (umpEndReceive u).core := by
  unfold umpEndReceive
  split
  · exact returns
  · exact finishReceive_returnsBytes returns

theorem umpCheckRcvDataSoFar_returnsBytes (returns : ReturnsBytes u.core) :
    ReturnsBytes (umpCheckRcvDataSoFar u).core := by
  rw [umpCheckRcvDataSoFar_eq]
  split
  · split
    · exact umpEndReceive_returnsBytes returns
    · exact returns
  · exact returns

theorem advanceTheirBase_returnsBytes (returns : ReturnsBytes u.core) (check : Bool) :
    ReturnsBytes (advanceTheirBase u check).core := by
  rw [advanceTheirBase_eq]
  split
  · exact umpCheckRcvDataSoFar_returnsBytes returns
  · exact returns

theorem storePacket_returnsBytes (returns : ReturnsBytes u.core) :
    ReturnsBytes (storePacket u p).core := by
  unfold storePacket takeInOrder
  repeat' split
  · exact returns
  all_goals first
    | exact returns
    | apply advanceTheirBase_returnsBytes; exact returns

theorem ReturnsBytes.congr {s t : SocketCore} (returns : ReturnsBytes s)
    (deliveries : t.deliveries = s.deliveries) (returned : t.returned = s.returned) :
    ReturnsBytes t := by
  unfold ReturnsBytes at returns ⊢
  rw [deliveries, returned]
  exact returns

theorem sockStep_returnsBytes {event : SockEvent} (returns : ReturnsBytes u.core) :
    ReturnsBytes (sockStep u event).core := by
  have kept {w : UMPSocket Lists} (same : SameReceiver u w) : ReturnsBytes w.core :=
    returns.congr (congrArg ReceivePart.deliveries same.received)
      (congrArg ReceivePart.returned same.received)
  have step := receive_step u event
  generalize sockStep u event = w at step
  cases step with
  | idle event unheard untaken same acks => exact kept same
  | syn p taken lists received acks =>
      exact returns.congr (congrArg ReceivePart.deliveries received)
        (congrArg ReceivePart.returned received)
  | tell owed same acks => exact kept same
  | told same acks => exact kept same
  | beat established same acks => exact kept same
  | receive user finished =>
      rw [finished]
      exact finishReceive_returnsBytes returns
  | dropped p outside same acks => exact kept same
  | stored p established inRange v same rcv acks after =>
      rw [after]
      exact storePacket_returnsBytes (kept same)

/-! ### Acks that become due -/

variable {w : UMPSocket Lists} {event : SockEvent}

theorem askFor_due (acks : DataAcks) (p : UMPPacket) :
    (acks.askFor p).dataAckSet = acks.dataAckSet ∧ (acks.askFor p).dataAckSeq = acks.dataAckSeq := by
  unfold DataAcks.askFor
  split
  · exact ⟨acks.ask_dataAckSet false, acks.ask_dataAckSeq false⟩
  · exact ⟨rfl, rfl⟩

omit [ReceiveLists Lists] in
theorem Pushes.due (pushes : Pushes u w) :
    w.core.acks.dataAckSet = u.core.acks.dataAckSet ∧
      w.core.acks.dataAckSeq = u.core.acks.dataAckSeq := by
  rcases pushes with same | same <;> rw [same]
  · exact ⟨rfl, rfl⟩
  · exact ⟨u.core.acks.ask_dataAckSet true, u.core.acks.ask_dataAckSeq true⟩

/-- The ack that is due behind a step was due before, or is for the numbers taken so far. -/
theorem ReceiveStep.due (step : ReceiveStep u w event)
    (due : w.core.acks.dataAckSet = true) :
    u.core.acks.dataAckSet = true ∧ w.core.acks.dataAckSeq = u.core.acks.dataAckSeq ∨
      u.core.acks.owed = true ∧ w.core.acks.dataAckSeq = u.core.rcv.theirDataSeqBase := by
  have kept (same : w.core.acks.dataAckSet = u.core.acks.dataAckSet ∧
      w.core.acks.dataAckSeq = u.core.acks.dataAckSeq) :
      u.core.acks.dataAckSet = true ∧ w.core.acks.dataAckSeq = u.core.acks.dataAckSeq ∨
        u.core.acks.owed = true ∧ w.core.acks.dataAckSeq = u.core.rcv.theirDataSeqBase :=
    .inl ⟨same.1.symm.trans due, same.2⟩
  cases step with
  | idle event unheard untaken same acks => exact kept (by rw [acks]; exact ⟨rfl, rfl⟩)
  | syn p taken lists received acks => exact kept (by rw [acks]; exact ⟨rfl, rfl⟩)
  | tell owed same acks => exact .inr ⟨owed, by rw [acks]; rfl⟩
  | told same acks =>
      rw [acks] at due
      cases due
  | beat established same acks =>
      exact kept (by
        rw [acks]
        exact ⟨DataAcks.ask_dataAckSet _ false, DataAcks.ask_dataAckSeq _ false⟩)
  | receive user finished =>
      apply kept
      rw [finished, finishReceive_acks]
      exact ⟨DataAcks.ask_dataAckSet _ true, DataAcks.ask_dataAckSeq _ true⟩
  | dropped p outside same acks => exact kept (by rw [acks]; exact askFor_due _ p)
  | stored p established inRange v same rcv acks after =>
      have pushed := (storePacket_acks v p).due
      rw [← after, acks] at pushed
      exact kept ⟨pushed.1.trans (askFor_due _ p).1, pushed.2.trans (askFor_due _ p).2⟩

/-- What makes a socket owe an ack. -/
theorem ReceiveStep.owes (step : ReceiveStep u w event)
    (owed : w.core.acks.owed = true) : u.core.acks.owed = true ∨
      u.core.ctrl.state = .established ∨ (ReceiveLists.recMsgPackets u.lists).isSome ∨
      ∃ p, event = .dataPacket p ∧ uPacketGetFlag p UP_DATA_SEQ := by
  cases step with
  | idle event unheard untaken same acks => exact .inl (acks ▸ owed)
  | syn p taken lists received acks => exact .inl (acks ▸ owed)
  | tell was same acks => exact .inl was
  | told same acks =>
      rw [acks] at owed
      exact .inl owed
  | beat established same acks => exact .inr (.inl established)
  | receive user finished => exact .inr (.inr (.inl user))
  | dropped p outside same acks =>
      rw [acks, DataAcks.askFor] at owed
      split at owed
      · rename_i flag
        exact .inr (.inr (.inr ⟨p, rfl, flag⟩))
      · exact .inl owed
  | stored p established inRange v same rcv acks after => exact .inr (.inl established)

end Lists

end UserMessageProtocol
