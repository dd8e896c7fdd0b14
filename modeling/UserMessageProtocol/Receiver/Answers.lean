import UserMessageProtocol.Foundation.Callers
import UserMessageProtocol.Receiver.Window
import UserMessageProtocol.Sender.Answers

/-!
Contract: the message that a receive call finds in `rec_msg`.

Owns: the socket as the threads that call `ump_sock_receive` see it (`receiveThread`), and
that `rec_msg` stays the message of the latest call that got one (`KeepsMessage`).

Does not own: which messages there are (`Receiver.Steps`), and what callers get that call
one after another (`Foundation.Callers`).
-/

set_option autoImplicit false

namespace UserMessageProtocol

/-! ### The thread -/

def SockEvent.isReceiveCall : SockEvent → Bool
  | .userReceive => true
  | _ => false

section Thread

variable (Lists : Type) [ReceiveLists Lists]

/-- A socket, seen by the callers of `ump_sock_receive`. -/
def receiveThread : CallThread (UMPSocket Lists) SockEvent where
  machine := sockMachine Lists
  view u := receiveCall u.core
  posts := SockEvent.isReceiveCall
  foreign := SockEvent.isUserCall

theorem receiveThread_lawful : (receiveThread Lists).Lawful where
  post := by
    intro u event allowed posts
    cases event with
    | userReceive => exact ⟨allowed, rfl⟩
    | _ => cases posts
  move := by
    intro u event allowed own
    have replied := (sockStep_replies u event).receive
    cases event with
    | userReceive => cases own
    | handleReceive => exact ⟨(receiveCall u.core).attempt, .inr rfl, replied⟩
    | _ => exact ⟨receiveCall u.core, .inl rfl, replied⟩

end Thread

/-! ### Who touches the message -/

section Core

variable (s : SocketCore) (p : UMPPacket)

@[simp] theorem umpFailReceive_recMsg : (umpFailReceive s).rcv.recMsg = s.rcv.recMsg := by
  unfold umpFailReceive
  split <;> rfl

@[simp] theorem umpChangeState_recMsg (state : UMPSockState) :
    (umpChangeState s state).rcv.recMsg = s.rcv.recMsg := by
  cases state with
  | closed =>
      unfold umpChangeState umpClosedEnterState
      dsimp only
      rw [umpEndCtrl_rcv]
      split
      · rw [umpFailReceive_recMsg]
        rfl
      · rfl
  | connecting => rfl
  | established => simp [umpChangeState]
  | closing => rfl

@[simp] theorem umpConnectionErrorOccured_recMsg :
    (umpConnectionErrorOccured s).rcv.recMsg = s.rcv.recMsg := by
  unfold umpConnectionErrorOccured
  simp

@[simp] theorem takeSyn_recMsg : (takeSyn s p).rcv.recMsg = s.rcv.recMsg := rfl

theorem smHandleCtrlPacket_recMsg : (smHandleCtrlPacket s p).rcv.recMsg = s.rcv.recMsg := by
  have connecting : (connectingAck s p).rcv = s.rcv := by
    unfold connectingAck
    dsimp only
    repeat' split
    all_goals simp
  have closing : (closingAck s p).rcv = s.rcv := by
    unfold closingAck
    dsimp only
    repeat' split
    all_goals simp
  have established : (establishedAck s p).rcv = s.rcv := by
    unfold establishedAck
    split <;> simp
  unfold smHandleCtrlPacket
  split
  · unfold umpClosedHandleCtrlPacket
    repeat' split
    all_goals simp
  · unfold umpConnectingHandleCtrlPacket completeOpen
    dsimp only
    repeat' split
    all_goals simp [connecting]
  · unfold umpEstablishedHandleCtrlPacket
    dsimp only
    repeat' split
    all_goals simp [established]
  · unfold umpClosingHandleCtrlPacket completeClose
    dsimp only
    repeat' split
    all_goals simp [closing]

theorem umpHandleCtrlPacket_recMsg : (umpHandleCtrlPacket s p).rcv.recMsg = s.rcv.recMsg := by
  unfold umpHandleCtrlPacket
  split
  · exact umpConnectionErrorOccured_recMsg s
  · exact smHandleCtrlPacket_recMsg _ p

theorem umpHandleCtrl_recMsg : (umpHandleCtrl s).rcv.recMsg = s.rcv.recMsg := by
  unfold umpHandleCtrl smHandleCtrl umpClosedHandleCtrl umpConnectingHandleCtrl
    umpEstablishedHandleCtrl umpClosingHandleCtrl
  dsimp only
  repeat' split
  all_goals simp

theorem umpHandleCtrlTimeout_recMsg : (umpHandleCtrlTimeout s).rcv.recMsg = s.rcv.recMsg := by
  unfold umpHandleCtrlTimeout
  dsimp only
  repeat' split
  all_goals simp

theorem umpHandleDataTimeout_recMsg : (umpHandleDataTimeout s).rcv.recMsg = s.rcv.recMsg := by
  unfold umpHandleDataTimeout
  dsimp only
  repeat' split
  all_goals simp

end Core

section Lists

variable {Lists : Type} [ReceiveLists Lists] {u w : UMPSocket Lists} {p : UMPPacket}

/-- Between two states one receive call at most got a message, which is `rec_msg` then;
otherwise `rec_msg` stays what it was. -/
def NextMessage (s t : SocketCore) : Prop :=
  t.returned = s.returned ∧ t.rcv.recMsg = s.rcv.recMsg ∨
    t.returned = t.rcv.recMsg :: s.returned

theorem NextMessage.refl (s : SocketCore) : NextMessage s s := .inl ⟨rfl, rfl⟩

theorem NextMessage.kept {s t : SocketCore} (received : t.received = s.received)
    (recMsg : t.rcv.recMsg = s.rcv.recMsg) : NextMessage s t :=
  .inl ⟨congrArg ReceivePart.returned received, recMsg⟩

theorem NextMessage.frame {s t : SocketCore} (received : t.received = s.received)
    (rcv : t.rcv = s.rcv) : NextMessage s t := .kept received (congrArg _ rcv)

theorem finishReceive_message (u : UMPSocket Lists) :
    NextMessage u.core (finishReceive u).core := by
  have before : (umpEndReceiveInternal u).core.returned = u.core.returned := by
    rw [umpEndReceiveInternal_eq]
    split <;> rfl
  exact .inr (congrArg (_ :: ·) before)

theorem umpEndReceive_message (u : UMPSocket Lists) :
    NextMessage u.core (umpEndReceive u).core := by
  unfold umpEndReceive
  split
  · exact .refl _
  · exact finishReceive_message (unlockReceive u)

theorem umpCheckRcvDataSoFar_message (u : UMPSocket Lists) :
    NextMessage u.core (umpCheckRcvDataSoFar u).core := by
  rw [umpCheckRcvDataSoFar_eq]
  split
  · split
    · exact umpEndReceive_message (umpHarvestMessages (countMessage u))
    · exact .refl _
  · exact .refl _

theorem advanceTheirBase_message (u : UMPSocket Lists) (check : Bool) :
    NextMessage u.core (advanceTheirBase u check).core := by
  rw [advanceTheirBase_eq]
  split
  · exact umpCheckRcvDataSoFar_message (moveSoFar u)
  · exact .refl _

theorem storePacket_message (u : UMPSocket Lists) (p : UMPPacket) :
    NextMessage u.core (storePacket u p).core := by
  unfold storePacket takeInOrder
  split
  · exact .refl _
  · rename_i lists _
    dsimp only
    split
    · exact advanceTheirBase_message ⟨u.core, lists⟩ false
    · split
      · exact advanceTheirBase_message ⟨u.core, ReceiveLists.startSoFar lists⟩ true
      · exact .refl _

theorem umpHandleReceive_message (u : UMPSocket Lists) :
    NextMessage u.core (umpHandleReceive u).core := by
  unfold umpHandleReceive
  repeat' split
  all_goals first | exact .refl _ | exact finishReceive_message u

omit [ReceiveLists Lists] in
theorem umpHandleCtrlPacket_message (s : SocketCore) (p : UMPPacket) :
    NextMessage s (umpHandleCtrlPacket s p) := by
  refine .inl ⟨?_, umpHandleCtrlPacket_recMsg s p⟩
  show (umpHandleCtrlPacket s p).received.returned = s.received.returned
  rcases umpHandleCtrlPacket_received s p with ⟨-, same⟩ | ⟨-, took⟩
  · rw [same]
  · rw [took]

theorem umpHandleDataPacket_message (u : UMPSocket Lists) (p : UMPPacket) :
    NextMessage u.core (umpHandleDataPacket u p).core := by
  -- the ack asked for and the one the packet brings leave the message alone
  have acked (w : UMPSocket Lists) (rcv : w.core.rcv = u.core.rcv)
      (log : w.core.log = u.core.log) :
      (umpHandleDataAck w.core p).received = u.core.received ∧
        (umpHandleDataAck w.core p).rcv = u.core.rcv :=
    ⟨(umpHandleDataAck_received w.core p).trans (received_congr u.core rcv log),
      (umpHandleDataAck_rcv w.core p).trans rcv⟩
  have dropped (w : UMPSocket Lists) (rcv : w.core.rcv = u.core.rcv)
      (log : w.core.log = u.core.log) : NextMessage u.core (umpHandleDataAck w.core p) :=
    .frame (acked w rcv log).1 (acked w rcv log).2
  have stored (w : UMPSocket Lists) (rcv : w.core.rcv = u.core.rcv)
      (log : w.core.log = u.core.log) :
      NextMessage u.core (storePacket { w with core := umpHandleDataAck w.core p } p).core := by
    obtain ⟨received, same⟩ := acked w rcv log
    have returned : (umpHandleDataAck w.core p).returned = u.core.returned :=
      congrArg ReceivePart.returned received
    have recMsg : (umpHandleDataAck w.core p).rcv.recMsg = u.core.rcv.recMsg :=
      congrArg ReceiveSide.recMsg same
    rcases storePacket_message { w with core := umpHandleDataAck w.core p } p with
      ⟨later, kept⟩ | later
    · exact .inl ⟨later.trans returned, kept.trans recMsg⟩
    · exact .inr (later.trans (congrArg (_ :: ·) returned))
  unfold umpHandleDataPacket umpEstablishedHandleDataPacket
  dsimp only
  repeat' split
  all_goals first
    | exact dropped _ rfl rfl
    | exact stored _ rfl rfl
    | exact .refl _

/-- Whatever happens to a socket, one receive call at most gets a message, in `rec_msg`. -/
theorem sockStep_message (u : UMPSocket Lists) (event : SockEvent) :
    NextMessage u.core (sockStep u event).core := by
  cases event with
  | userCtrl | userSend | userReceive | bufferLoad => exact .refl _
  | handleCtrl => exact .kept (umpHandleCtrl_received u.core) (umpHandleCtrl_recMsg u.core)
  | handleSend => exact .frame (umpHandleSend_received u.core) (umpHandleSend_rcv u.core)
  | handleReceive => exact umpHandleReceive_message u
  | ctrlPacket p => exact umpHandleCtrlPacket_message u.core p
  | dataPacket p => exact umpHandleDataPacket_message u p
  | dataTimeout =>
      exact .kept (umpHandleDataTimeout_received u.core) (umpHandleDataTimeout_recMsg u.core)
  | refreshRwnd =>
      refine .kept (umpRefreshOurRwndPos_received u.core) ?_
      show (umpRefreshOurRwndPos u.core.rcv).recMsg = _
      unfold umpRefreshOurRwndPos
      split <;> rfl
  | refreshAck =>
      have rcv := umpRefreshOurAckInfo_rcv u.core
      exact .frame (received_congr u.core rcv (umpRefreshOurAckInfo_log u.core)) rcv
  | actReqWnd => exact .frame (umpActReqWnd_received u.core) (umpActReqWnd_rcv u.core)
  | ctrlTimeout =>
      exact .kept (umpHandleCtrlTimeout_received u.core) (umpHandleCtrlTimeout_recMsg u.core)
  | sendCtrlPacket =>
      exact .frame (umpHandleSendCtrlPacket_received u.core) (umpHandleSendCtrlPacket_rcv u.core)
  | heartbeat =>
      have rcv := umpHandleSendHeartbeat_rcv u.core
      exact .frame (received_congr u.core rcv (umpHandleSendHeartbeat_log u.core)) rcv
  | sendData => exact .frame (umpHandleSendData_received u.core) (umpHandleSendData_rcv u.core)
  | sendReset =>
      exact .frame (umpHandleSendResetPacket_received u.core) (umpHandleSendResetPacket_rcv u.core)

/-! ### Messages and replies -/

/-- There are as many messages as there are replies with `TRUE`. -/
theorem length_returned (s : SocketCore) :
    s.returned.length = (receiveCall s).replies.countP fun ok => ok := by
  unfold SocketCore.returned receiveCall
  dsimp only
  generalize s.log = log
  induction log with
  | nil => rfl
  | cons action before inductionHypothesis =>
      cases action with
      | received packets message =>
          cases message with
          | none => exact inductionHypothesis
          | some message =>
              rw [List.filterMap_cons, List.filterMap_cons]
              dsimp only [Action.returned, Action.receiveReply, Option.isSome_some]
              rw [List.length_cons, List.countP_cons_of_pos rfl, inductionHypothesis]
      | _ => exact inductionHypothesis

/-- A step of the thread that ends no receive call leaves the messages and `rec_msg` alone;
one that ends a call adds its message exactly if it is answered with `TRUE`. -/
theorem receive_answered (u : UMPSocket Lists) {event : SockEvent}
    (own : event.isReceiveCall = false) :
    let w := sockStep u event
    if (receiveThread Lists).ends u event = true ∧ w.core.rcv.recOk = true then
      w.core.returned = w.core.rcv.recMsg :: u.core.returned
    else w.core.returned = u.core.returned ∧ w.core.rcv.recMsg = u.core.rcv.recMsg := by
  intro w
  have replied := (sockStep_replies u event).receive
  have begun : (began u event).receive.replies = (receiveCall u.core).replies := by
    cases event with
    | userReceive => cases own
    | handleReceive =>
        show ((receiveCall u.core).attempt).replies = _
        unfold CallRecord.attempt
        split <;> rfl
    | _ => rfl
  have before := length_returned u.core
  have after := length_returned w.core
  have message := sockStep_message u event
  have unread (same : w.core.returned.length = u.core.returned.length) :
      w.core.returned = u.core.returned ∧ w.core.rcv.recMsg = u.core.rcv.recMsg := by
    rcases message with kept | next
    · exact kept
    · have longer := congrArg List.length next
      rw [List.length_cons] at longer
      exact absurd (same.symm.trans longer) (Nat.ne_of_lt (Nat.lt_succ_self _))
  rcases replied.cases with ⟨same, -⟩ | ⟨-, more⟩
  · rw [begun] at same
    rw [if_neg]
    · apply unread
      rw [after, before]
      exact congrArg (List.countP fun ok => ok) same
    · rintro ⟨ends, -⟩
      exact of_decide_eq_true ends (congrArg List.length same)
  · rw [begun] at more
    have ends : (receiveThread Lists).ends u event = true := by
      have longer := congrArg List.length more
      apply decide_eq_true
      intro same
      exact absurd (longer.symm.trans same) (Nat.succ_ne_self _)
    have count := congrArg (List.countP fun ok => ok) more
    cases ok : w.core.rcv.recOk with
    | false =>
        rw [if_neg (by simp)]
        apply unread
        rw [after, before]
        refine count.trans (List.countP_cons_of_neg ?_)
        show ¬ w.core.rcv.recOk = true
        rw [ok]
        decide
    | true =>
        rw [if_pos ⟨ends, rfl⟩]
        rcases message with ⟨kept, -⟩ | next
        · have grown : w.core.returned.length = u.core.returned.length + 1 := by
            rw [after, before]
            exact count.trans (List.countP_cons_of_pos ok)
          rw [show w.core.returned = u.core.returned from kept] at grown
          exact absurd grown (Nat.ne_of_lt (Nat.lt_succ_self _))
        · exact next

end Lists

end UserMessageProtocol
