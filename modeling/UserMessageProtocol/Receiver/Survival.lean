import UserMessageProtocol.Connection.Pending
import UserMessageProtocol.Receiver.Gathering
import UserMessageProtocol.Receiver.Window

/-!
Contract: complete messages survive the end of the connection.

Owns: the messages a socket holds (`messages`), the receive side between handlers
(`Holding`), what a socket hands out after the end of its connection, and the theorem
`survives_of_run`.

Does not own: how messages come into the lists (`Receiver.Gathering`).
-/

set_option autoImplicit false

namespace UserMessageProtocol

open Serial Cuts

/-- The complete messages a socket holds, the one for the user first. -/
def messages (u : UMPSocket GLists) : List (List UMPPacket) :=
  (ReceiveLists.recMsgPackets u.lists).toList ++ closedGroups endsMessage u.lists.taken

/-- The receive side between handlers: `rcv_packets_msg_num` counts the ends of messages
up to `rcv_data_so_far`, `rcv_first_msg_end` is the first of them, and `rec_msg_packets`
is a whole message, or `NULL` while no complete message waits. -/
structure Holding (u : UMPSocket GLists) : Prop where
  lists : ∃ m, GLists.Refines u.lists m ∧ PlainLists.Exact m u.core.rcv.rcvPacketsMsgNum ∧
    (m.recMsgPackets = [] ∨ Closed endsMessage m.recMsgPackets)
  idle : ReceiveLists.recMsgPackets u.lists = none → u.core.rcv.rcvPacketsMsgNum = 0
  waits : u.core.rcv.recLocked = .locked → ReceiveLists.recMsgPackets u.lists = none
  open_ : u.core.rcv.recLocked = .locked →
    u.core.ctrl.state = .established ∨ u.core.ctrl.state = .closing

instance (h : Handshake) : Decidable h.Ended := by
  unfold Handshake.Ended
  infer_instance

/-- The connection is over behind the step. -/
def staysEnded (u : UMPSocket GLists) (event : SockEvent) : Prop :=
  (sockStep u event).core.handshake.Ended

instance (u : UMPSocket GLists) (event : SockEvent) : Decidable (staysEnded u event) := by
  unfold staysEnded
  infer_instance

/-! ### The lists -/

section Lists

variable {m : PlainLists} {v : UMPSocket PlainLists}

theorem PlainLists.Exact.firstEnd_le {msgNum : Int} (known : PlainLists.Exact m msgNum) :
    m.rcvFirstMsgEnd ≤ m.rcvDataSoFar := by
  have length : m.taken.length = m.rcvDataSoFar := List.length_take_of_le known.within
  rw [known.firstEnd, ← length]
  by_cases some : 0 < PlainLists.messageEnds m.taken
  · exact (PlainLists.firstBdr_within some).2.1
  · rw [PlainLists.firstBdr_of_none (by omega)]
    exact Nat.zero_le _

/-- The next message takes the place of the one that goes out. -/
theorem finishReceive_holds (known : PlainLists.Exact v.lists v.core.rcv.rcvPacketsMsgNum) :
    PlainLists.Exact (finishReceive v).lists (finishReceive v).core.rcv.rcvPacketsMsgNum ∧
      ((finishReceive v).lists.recMsgPackets = [] ∧
          (finishReceive v).core.rcv.rcvPacketsMsgNum = 0 ∧
          (finishReceive v).lists.taken = v.lists.taken ∨
        Closed endsMessage (finishReceive v).lists.recMsgPackets ∧
          (finishReceive v).lists.recMsgPackets ++ (finishReceive v).lists.taken =
            v.lists.taken) := by
  have joined : PlainLists.Exact (joinMessage v).lists v.core.rcv.rcvPacketsMsgNum :=
    ⟨known.within, known.counted, known.firstEnd⟩
  rcases finishReceive_cases v with ⟨positive, lists, -, msgNum⟩ | ⟨few, lists, -, msgNum⟩
  · have ⟨after, next, same, _⟩ := joined.harvest (by omega)
    rw [lists, msgNum]
    exact ⟨after, .inr ⟨next, same⟩⟩
  · have counted := known.counted
    rw [lists, msgNum]
    exact ⟨joined, .inl ⟨rfl, by omega, rfl⟩⟩

end Lists

/-! ### Steps behind the end -/

section Steps

variable {u w : UMPSocket GLists} {event : SockEvent}

/-- There are as many messages as are counted, with the one for the user. -/
theorem Holding.messages_length (holding : Holding u) :
    ((messages u).length : Int) =
      (ReceiveLists.recMsgPackets u.lists).toList.length + u.core.rcv.rcvPacketsMsgNum := by
  obtain ⟨m, refines, known, -⟩ := holding.lists
  unfold messages
  rw [List.length_append, length_closedGroups, refines.taken known.within, known.counted,
    Nat.cast_add]
  rfl

theorem Holding.messages_nil (holding : Holding u)
    (none : ReceiveLists.recMsgPackets u.lists = none) : messages u = [] := by
  have length := holding.messages_length
  rw [none, holding.idle none] at length
  exact List.eq_nil_of_length_eq_zero (by simpa using length)

/-- A call gets the first message. -/
theorem Holding.finish (holding : Holding u) (unlocked : u.core.rcv.recLocked = .unlocked)
    {packets : List UMPPacket} (user : ReceiveLists.recMsgPackets u.lists = some packets) :
    Holding (finishReceive u) ∧ messages u = packets :: messages (finishReceive u) := by
  obtain ⟨m, refines, known, -⟩ := holding.lists
  have follows : Follows u ⟨u.core, m⟩ := ⟨rfl, refines⟩
  have finished := finishReceive_follows follows known.firstEnd_le
  have ⟨after, next⟩ := finishReceive_holds (v := ⟨u.core, m⟩) known
  have lock : (finishReceive u).core.rcv.recLocked = .unlocked :=
    umpEndReceiveInternal_recLocked.trans unlocked
  generalize finishReceive ⟨u.core, m⟩ = v at finished after next
  have handed : (ReceiveLists.recMsgPackets (finishReceive u).lists).toList ++
      closedGroups endsMessage (finishReceive u).lists.taken = closedGroups endsMessage m.taken := by
    rw [finished.lists.taken after.within, GLists.recMsgPackets_refines finished.lists]
    rcases next with ⟨none, -, same⟩ | ⟨closed, same⟩
    · rw [Option.isNone_iff_eq_none.mp ((recMsgPackets_isNone v.lists).mpr none), same]
      rfl
    · rw [recMsgPackets_some closed.ne_nil, ← same, closedGroups_append closed]
      rfl
  refine ⟨⟨⟨v.lists, finished.lists, ?_, ?_⟩, ?_, ?_, ?_⟩, ?_⟩
  · rw [finished.core]
    exact after
  · exact next.imp And.left And.left
  · intro none
    rw [GLists.recMsgPackets_refines finished.lists] at none
    rw [finished.core]
    rcases next with ⟨-, idle, -⟩ | ⟨closed, -⟩
    · exact idle
    · exact absurd none (by rw [recMsgPackets_some closed.ne_nil]; simp)
  · intro locked
    exact absurd locked (not_locked lock)
  · intro locked
    exact absurd locked (not_locked lock)
  · unfold messages at handed ⊢
    rw [user, handed, refines.taken known.within]
    rfl

/-- A receive call goes on only while the connection is open or closing. -/
theorem sockStep_recOpen (other : event ≠ .handleReceive)
    (idle : u.core.rcv.recLocked = .locked → u.core.rcv.rcvPacketsMsgNum = 0)
    (open_ : u.core.rcv.recLocked = .locked →
      u.core.ctrl.state = .established ∨ u.core.ctrl.state = .closing)
    (locked : (sockStep u event).core.rcv.recLocked = .locked) :
    (sockStep u event).core.ctrl.state = .established ∨
      (sockStep u event).core.ctrl.state = .closing := by
  have flows := open_ (sockStep_recLocked other locked)
  have kept (same : (sockStep u event).core.handshake = u.core.handshake) :
      (sockStep u event).core.ctrl.state = .established ∨
        (sockStep u event).core.ctrl.state = .closing := by
    have state : (sockStep u event).core.ctrl.state = u.core.ctrl.state :=
      congrArg Handshake.state same
    rw [state]
    exact flows
  have error {s : SocketCore} (failed : (umpConnectionErrorOccured s).rcv.recLocked = .locked) :
      False := not_locked umpConnectionErrorOccured_unlocked.receive failed
  cases event with
  | handleReceive => exact absurd rfl other
  | ctrlPacket p =>
      by_cases reset : uPacketGetFlag p UP_CTRL_RST = true
      · have same : (sockStep u (.ctrlPacket p)).core = umpConnectionErrorOccured u.core :=
          if_pos reset
        rw [same] at locked
        exact (error locked).elim
      · have plain := (Bool.not_eq_true _).mp reset
        rcases flows with state | state
        · obtain ⟨old, new, moves⟩ := ctrlPacket_state (u := u) plain
          rw [state] at moves
          generalize (sockStep u (.ctrlPacket p)).core.ctrl.state = after at moves
          cases moves with
          | stay => exact .inl rfl
          | part => exact .inr rfl
        · have same : (sockStep u (.ctrlPacket p)).core =
              umpClosingHandleCtrlPacket (u.core.act (.processed p u.core.ctrl.ourCtrlSeq)) p := by
            show umpHandleCtrlPacket u.core p = _
            unfold umpHandleCtrlPacket smHandleCtrlPacket
            rw [if_neg reset, act_ctrl, state]
          obtain ⟨t, checked, call, -, rcv, -⟩ := closingPacket_check
            (s := u.core.act (.processed p u.core.ctrl.ourCtrlSeq)) (p := p)
          rw [same, checked] at locked ⊢
          unfold completeClose at locked ⊢
          split
          · rename_i complete
            rw [if_pos complete] at locked
            have unlocked : (umpChangeState t .closed).rcv.recLocked = .unlocked := by
              apply umpChangeState_receive
              rw [rcv]
              exact idle
            exact absurd locked (not_locked unlocked)
          · exact .inr ((congrArg CallPart.state call).trans state)
  | dataTimeout =>
      revert locked
      show (umpHandleDataTimeout u.core).rcv.recLocked = .locked →
        (umpHandleDataTimeout u.core).ctrl.state = .established ∨
          (umpHandleDataTimeout u.core).ctrl.state = .closing
      unfold umpHandleDataTimeout
      dsimp only
      repeat' split
      · exact fun _ => flows
      · exact fun locked => (error locked).elim
      · exact fun _ => flows
      · exact fun _ => flows
  | ctrlTimeout =>
      revert locked
      show (umpHandleCtrlTimeout u.core).rcv.recLocked = .locked →
        (umpHandleCtrlTimeout u.core).ctrl.state = .established ∨
          (umpHandleCtrlTimeout u.core).ctrl.state = .closing
      unfold umpHandleCtrlTimeout
      dsimp only
      repeat' split
      · exact fun _ => flows
      · exact fun _ => flows
      · exact fun _ => flows
      · exact fun _ => flows
      · exact fun locked => (error locked).elim
  | handleCtrl =>
      show (sockStep u .handleCtrl).core.handshake.state = .established ∨
        (sockStep u .handleCtrl).core.handshake.state = .closing
      have step := handshake_step u .handleCtrl
      generalize (sockStep u .handleCtrl).core.handshake = k at step ⊢
      cases step with
      | idle => exact flows
      | call method taken =>
          unfold Handshake.call
          split
          · exact flows
          · split
            · rename_i closed
              rcases flows with state | state <;> exact absurd (closed.symm.trans state) (by decide)
            · exact .inr rfl
            · exact flows
  | sendCtrlPacket =>
      show (umpHandleSendCtrlPacket u.core).call.state = .established ∨
        (umpHandleSendCtrlPacket u.core).call.state = .closing
      rw [sendCtrlPacket_call]
      exact flows
  | _ =>
      apply kept
      apply sockStep_quiet
      simp [SockEvent.isQuiet]

/-- What a step hands out of the messages a socket holds. -/
inductive Hands (u w : UMPSocket GLists) : Prop where
  | keep (same : messages w = messages u) (deliveries : w.core.deliveries = u.core.deliveries)
      (replies : (receiveCall w.core).replies = (receiveCall u.core).replies)
      (ok : w.core.rcv.recOk = u.core.rcv.recOk)
  | serve (packets : List UMPPacket) (first : messages u = packets :: messages w)
      (deliveries : w.core.deliveries = packets :: u.core.deliveries)
      (replies : (receiveCall w.core).replies = true :: (receiveCall u.core).replies)
      (ok : w.core.rcv.recOk = true)
  | refuse (none : messages u = []) (still : messages w = [])
      (deliveries : w.core.deliveries = u.core.deliveries)
      (replies : (receiveCall w.core).replies = false :: (receiveCall u.core).replies)
      (ok : w.core.rcv.recOk = false)

/-- What `ump_handle_receive` does behind the end of a connection. -/
inductive Answers (u w : UMPSocket GLists) : Prop where
  | idle (unpicked : picksReceive u .handleReceive = false) (same : w = u)
  | serve (unlocked : u.core.rcv.recLocked = .unlocked) (packets : List UMPPacket)
      (user : ReceiveLists.recMsgPackets u.lists = some packets) (finished : w = finishReceive u)
  | refuse (none : ReceiveLists.recMsgPackets u.lists = none) (lists : w.lists = u.lists)
      (unlocked : w.core.rcv.recLocked = .unlocked) (received : w.core.received = u.core.received)
      (replies : (receiveCall w.core).replies = false :: (receiveCall u.core).replies)
      (ok : w.core.rcv.recOk = false)

theorem umpHandleReceive_answers (ended : u.core.handshake.Ended) :
    Answers u (umpHandleReceive u) := by
  have unpicked (blocked : (receiveLock u.core).ready = false) :
      picksReceive u .handleReceive = false := by
    unfold picksReceive
    rw [blocked, Bool.and_false]
  unfold umpHandleReceive
  split
  · rename_i locked
    refine .idle (unpicked ?_) rfl
    simp [receiveLock, CallLock.ready, locked]
  · rename_i unlocked
    split
    · rename_i held
      refine .idle (unpicked ?_) rfl
      simp [receiveLock, CallLock.ready, held]
    · split
      · rename_i none
        refine .idle (unpicked ?_) rfl
        simp [receiveLock, CallLock.ready, none]
      · split
        · rename_i user
          obtain ⟨packets, user⟩ := Option.isSome_iff_exists.mp user
          exact .serve unlocked packets user rfl
        · rename_i none
          have none : ReceiveLists.recMsgPackets u.lists = Option.none := by simpa using none
          split
          · exact .refuse none rfl unlocked rfl rfl rfl
          · rename_i flows
            rcases ended with error | state | ⟨state, -⟩
            · exact absurd (.inr error) flows
            · refine absurd (.inl ?_) flows
              rw [show u.core.ctrl.state = .closing from state]
              decide
            · refine absurd (.inl ?_) flows
              rw [show u.core.ctrl.state = .closed from state]
              decide

theorem Holding.congr (holding : Holding u) (lists : w.lists = u.lists)
    (msgNum : w.core.rcv.rcvPacketsMsgNum = u.core.rcv.rcvPacketsMsgNum)
    (waits : w.core.rcv.recLocked = .locked → u.core.rcv.recLocked = .locked)
    (open_ : w.core.rcv.recLocked = .locked →
      w.core.ctrl.state = .established ∨ w.core.ctrl.state = .closing) : Holding w := by
  refine ⟨?_, ?_, ?_, open_⟩
  · rw [lists, msgNum]
    exact holding.lists
  · rw [lists, msgNum]
    exact holding.idle
  · rw [lists]
    exact fun locked => holding.waits (waits locked)

theorem messages_congr (lists : w.lists = u.lists) : messages w = messages u := by
  unfold messages
  rw [lists]

/-- As many calls had a message as messages were delivered. -/
theorem replies_count (log : List Action) :
    (log.filterMap Action.receiveReply).count true = (log.filterMap Action.delivery).length := by
  induction log with
  | nil => rfl
  | cons action rest inductionHypothesis =>
      cases action with
      | received packets message =>
          cases message with
          | none =>
              show (false :: rest.filterMap Action.receiveReply).count true = _
              rw [List.count_cons_of_ne (by decide)]
              exact inductionHypothesis
          | some bytes =>
              show (true :: rest.filterMap Action.receiveReply).count true = _
              rw [List.count_cons_self, inductionHypothesis]
              rfl
      | _ => exact inductionHypothesis

theorem Holding.handleReceive (holding : Holding u) (ended : u.core.handshake.Ended) :
    Holding (umpHandleReceive u) ∧ Hands u (umpHandleReceive u) := by
  have answers := umpHandleReceive_answers ended
  generalize umpHandleReceive u = w at answers
  cases answers with
  | idle unpicked same =>
      rw [same]
      exact ⟨holding, .keep rfl rfl rfl rfl⟩
  | serve unlocked packets user finished =>
      have ⟨holds, first⟩ := holding.finish unlocked user
      rw [finished]
      refine ⟨holds, .serve packets first (finishReceive_deliveries user) ?_ rfl⟩
      exact congrArg (fun k => k.receive.replies) (finishReceive_calls (u := u))
  | refuse none lists unlocked received replies ok =>
      have empty := holding.messages_nil none
      have msgNum := congrArg ReceivePart.rcvPacketsMsgNum received
      refine ⟨holding.congr lists msgNum (fun locked => ?_) (fun locked => ?_), ?_⟩
      · exact absurd locked (not_locked unlocked)
      · exact absurd locked (not_locked unlocked)
      · exact .refuse empty ((messages_congr lists).trans empty)
          (congrArg ReceivePart.deliveries received) replies ok

/-- Behind the end no packet comes into the lists. -/
theorem unstored_of_ended (ended : staysEnded u event) (allowed : sockEnabled u event)
    (other : event ≠ .handleReceive) :
    (sockStep u event).lists = u.lists ∧
      (sockStep u event).core.deliveries = u.core.deliveries ∧
      (sockStep u event).core.rcv.rcvPacketsMsgNum = u.core.rcv.rcvPacketsMsgNum := by
  have same (received : SameReceiver u (sockStep u event)) :
      (sockStep u event).lists = u.lists ∧
        (sockStep u event).core.deliveries = u.core.deliveries ∧
        (sockStep u event).core.rcv.rcvPacketsMsgNum = u.core.rcv.rcvPacketsMsgNum :=
    ⟨received.lists, congrArg ReceivePart.deliveries received.received,
      congrArg ReceivePart.rcvPacketsMsgNum received.received⟩
  have step := receive_step u event
  cases step with
  | idle _ _ _ kept => exact same kept
  | tell _ kept => exact same kept
  | told kept => exact same kept
  | beat _ kept => exact same kept
  | dropped _ _ kept => exact same kept
  | syn p taken lists received =>
      exact ⟨lists, congrArg ReceivePart.deliveries received,
        congrArg ReceivePart.rcvPacketsMsgNum received⟩
  | receive => exact absurd rfl other
  | stored p established =>
      have kept : (sockStep u (.dataPacket p)).core.handshake = u.core.handshake :=
        umpHandleDataPacket_handshake u p
      unfold staysEnded at ended
      rw [kept] at ended
      rcases ended with error | state | ⟨state, -⟩
      · exact absurd (allowed.1.symm.trans error) (by decide)
      · exact absurd (established.symm.trans state) (by decide)
      · exact absurd (established.symm.trans state) (by decide)

/-- A step other than that of receive calls ends the call in hand at most. -/
theorem sockStep_receiveReplies (other : event ≠ .handleReceive) :
    (receiveCall (sockStep u event).core).replies = (receiveCall u.core).replies ∧
        (sockStep u event).core.rcv.recOk = u.core.rcv.recOk ∨
      u.core.rcv.recLocked = .locked ∧
        (receiveCall (sockStep u event).core).replies =
          (sockStep u event).core.rcv.recOk :: (receiveCall u.core).replies := by
  have replied := (sockStep_replies u event).receive
  have begins : (began u event).receive.replies = (receiveCall u.core).replies ∧
      (began u event).receive.ok = u.core.rcv.recOk ∧
      (began u event).receive.locked = decide (u.core.rcv.recLocked = .locked) := by
    cases event with
    | handleReceive => exact absurd rfl other
    | _ => exact ⟨rfl, rfl, rfl⟩
  rcases replied.cases with same | ⟨locked, once⟩
  · rw [begins.1, begins.2.1] at same
    exact .inl same
  · rw [begins.2.2] at locked
    rw [begins.1] at once
    exact .inr ⟨of_decide_eq_true locked, once⟩

/-- Behind the end the socket hands out its messages in order, and nothing else. -/
theorem Holding.step (holding : Holding u) (ended : staysEnded u event)
    (allowed : sockEnabled u event) :
    Holding (sockStep u event) ∧ Hands u (sockStep u event) := by
  by_cases receives : event = .handleReceive
  · rw [receives]
    apply holding.handleReceive
    unfold staysEnded at ended
    rw [receives] at ended
    have same : (sockStep u .handleReceive).core.handshake = u.core.handshake :=
      umpHandleReceive_handshake u
    rw [same] at ended
    exact ended
  · obtain ⟨lists, deliveries, msgNum⟩ := unstored_of_ended ended allowed receives
    refine ⟨holding.congr lists msgNum (sockStep_recLocked receives) ?_, ?_⟩
    · apply sockStep_recOpen receives
      · exact fun locked => holding.idle (holding.waits locked)
      · exact holding.open_
    · have same := messages_congr lists
      rcases sockStep_receiveReplies (u := u) receives with ⟨replies, ok⟩ | ⟨locked, replies⟩
      · exact .keep same deliveries replies ok
      · have empty := holding.messages_nil (holding.waits locked)
        have refused : (sockStep u event).core.rcv.recOk = false := by
          by_contra accepted
          rw [Bool.not_eq_false] at accepted
          have before := replies_count u.core.log
          have after := replies_count (sockStep u event).core.log
          have count := congrArg List.length deliveries
          have longer := congrArg (List.count true) replies
          rw [accepted, List.count_cons_self] at longer
          unfold receiveCall at longer
          unfold SocketCore.deliveries at count
          dsimp only at longer
          omega
        rw [refused] at replies
        exact .refuse empty (same.trans empty) deliveries replies refused

end Steps

/-! ### Runs behind the end -/

/-- Of the messages that `u` held, `count` calls got the first ones, and no calls but those
behind the last message got none. -/
structure HandedOut (u w : UMPSocket GLists) (count : Nat) : Prop where
  left : messages w = (messages u).drop count
  deliveries : w.core.deliveries = ((messages u).take count).reverse ++ u.core.deliveries
  replies : (receiveCall w.core).replies =
    List.replicate (count - (messages u).length) false ++
      (List.replicate (min count (messages u).length) true ++ (receiveCall u.core).replies)
  ok : 0 < count → w.core.rcv.recOk = decide (count ≤ (messages u).length)

/-- A receive call that is taken up gets the first message, if there is one. -/
structure AnsweredFrom (u w : UMPSocket GLists) : Prop where
  replies : (receiveCall w.core).replies =
    (!(messages u).isEmpty) :: (receiveCall u.core).replies
  ok : w.core.rcv.recOk = !(messages u).isEmpty
  message : ∀ packets rest, messages u = packets :: rest →
    w.core.rcv.recMsg = packets.flatMap (·.userData) ∧
      w.core.deliveries = packets :: u.core.deliveries

/-- What becomes of the messages of `u` until `w`. -/
structure SurvivesEnd (u w : UMPSocket GLists) : Prop where
  complete : ∀ packets ∈ messages u, Closed endsMessage packets
  handed : ∃ count, HandedOut u w count
  answered : picksReceive w .handleReceive = true → AnsweredFrom w (sockStep w .handleReceive)
  closed : w.core.ctrl.state = .closed → w.core.rcv.recLocked = .unlocked

section Runs

variable {u w x : UMPSocket GLists} {events : List SockEvent} {count : Nat}

theorem Holding.complete (holding : Holding u) :
    ∀ packets ∈ messages u, Closed endsMessage packets := by
  intro packets member
  rcases List.mem_append.mp member with user | waiting
  · obtain ⟨m, refines, -, whole⟩ := holding.lists
    rw [GLists.recMsgPackets_refines refines] at user
    have same : ReceiveLists.recMsgPackets m = some packets := Option.mem_toList.mp user
    have isMessage := recMsgPackets_getD m
    rw [same] at isMessage
    rcases whole with empty | closed
    · rw [Option.isNone_iff_eq_none.mp ((recMsgPackets_isNone m).mpr empty)] at same
      cases same
    · rw [show packets = m.recMsgPackets from isMessage]
      exact closed
  · exact closed_of_mem waiting

theorem handedOut_start (u : UMPSocket GLists) : HandedOut u u 0 := by
  refine ⟨rfl, rfl, ?_, fun some => absurd some (Nat.lt_irrefl 0)⟩
  rw [Nat.zero_sub, Nat.zero_min]
  rfl

theorem HandedOut.step (handed : HandedOut u w count) (hands : Hands w x) :
    ∃ count', HandedOut u x count' := by
  have length := congrArg List.length handed.left
  rw [List.length_drop] at length
  cases hands with
  | keep same deliveries replies ok =>
      refine ⟨count, same.trans handed.left, deliveries.trans handed.deliveries,
        replies.trans handed.replies, ?_⟩
      rw [ok]
      exact handed.ok
  | serve packets first deliveries replies ok =>
      have inside : count < (messages u).length := by
        rw [first, List.length_cons] at length
        omega
      have left := handed.left
      rw [first, List.drop_eq_getElem_cons inside] at left
      obtain ⟨here, rest⟩ := List.cons.inj left
      refine ⟨count + 1, rest, ?_, ?_, fun _ => ?_⟩
      · rw [deliveries, handed.deliveries, here, List.take_succ_eq_append_getElem inside,
          List.reverse_append]
        rfl
      · rw [replies, handed.replies, Nat.sub_eq_zero_of_le (Nat.le_of_lt inside),
          Nat.sub_eq_zero_of_le inside, Nat.min_eq_left (Nat.le_of_lt inside),
          Nat.min_eq_left inside]
        rfl
      · rw [ok]
        exact (decide_eq_true inside).symm
  | refuse none still deliveries replies ok =>
      have all : (messages u).length ≤ count := by
        rw [none, List.length_nil] at length
        omega
      refine ⟨count + 1, ?_, ?_, ?_, fun _ => ?_⟩
      · rw [still, List.drop_eq_nil_of_le (Nat.le_succ_of_le all)]
      · rw [deliveries, handed.deliveries, List.take_of_length_le all,
          List.take_of_length_le (Nat.le_succ_of_le all)]
      · rw [replies, handed.replies, Nat.min_eq_right all,
          Nat.min_eq_right (Nat.le_succ_of_le all), Nat.succ_sub all]
        rfl
      · rw [ok]
        exact (decide_eq_false (Nat.not_le_of_lt (Nat.lt_succ_of_le all))).symm

theorem Holding.answered (holding : Holding w) (ended : w.core.handshake.Ended)
    (picked : picksReceive w .handleReceive = true) :
    AnsweredFrom w (sockStep w .handleReceive) := by
  have answers := umpHandleReceive_answers ended
  show AnsweredFrom w (umpHandleReceive w)
  generalize umpHandleReceive w = x at answers
  cases answers with
  | idle unpicked => exact absurd (picked.symm.trans unpicked) (by decide)
  | serve unlocked packets user finished =>
      have ⟨_, first⟩ := holding.finish unlocked user
      rw [finished]
      refine ⟨?_, ?_, ?_⟩
      · rw [first]
        exact congrArg (fun k => k.receive.replies) (finishReceive_calls (u := w))
      · rw [first]
        rfl
      · intro packets' rest same
        rw [first] at same
        obtain ⟨rfl, -⟩ := List.cons.inj same
        refine ⟨?_, finishReceive_deliveries user⟩
        show (umpEndReceiveInternal w).core.rcv.recMsg = _
        unfold umpEndReceiveInternal
        dsimp only
        rw [user]
        split <;> rfl
  | refuse none lists unlocked received replies ok =>
      have empty := holding.messages_nil none
      refine ⟨?_, ?_, ?_⟩
      · rw [empty]
        exact replies
      · rw [empty]
        exact ok
      · intro packets rest same
        rw [empty] at same
        cases same

theorem handedOut_of_run (holding : Holding u)
    (run : (sockMachine GLists).RunWhere staysEnded u events w) :
    Holding w ∧ ∃ count, HandedOut u w count := by
  induction run with
  | stay => exact ⟨holding, 0, handedOut_start u⟩
  | go _ allowed ended inductionHypothesis =>
      obtain ⟨holds, count, handed⟩ := inductionHypothesis
      obtain ⟨still, hands⟩ := holds.step ended allowed
      exact ⟨still, handed.step hands⟩

/-- The messages a socket holds when its connection ends go out in order, one for each
receive call, and the calls behind them get none. -/
theorem survives_of_run (holding : Holding u)
    (run : (sockMachine GLists).RunWhere staysEnded u events w)
    (ended : w.core.handshake.Ended) : SurvivesEnd u w := by
  obtain ⟨holds, handed⟩ := handedOut_of_run holding run
  refine ⟨holding.complete, handed, holds.answered ended, fun closed => ?_⟩
  apply unlocked_of_not
  intro locked
  rcases holds.open_ locked with state | state
  · exact absurd (closed.symm.trans state) (by decide)
  · exact absurd (closed.symm.trans state) (by decide)

/-- Every run that keeps links and counts leads to such a receive side. -/
theorem holding_of_run {seq : UInt16} {clock : Clock}
    (run : (sockMachine GLists).RunWhere takesOrderly (umpSockNew GLists seq clock) events u) :
    Holding u := by
  obtain ⟨r, gathers⟩ := gathers_of_run run
  have serving := (serving_of_run run.toRun).2
  have open_ : u.core.rcv.recLocked = .locked →
      u.core.ctrl.state = .established ∨ u.core.ctrl.state = .closing := by
    clear gathers serving
    induction run with
    | stay => exact fun locked => by cases locked
    | @go events w event run allowed _ inductionHypothesis =>
        have serving := (serving_of_run run.toRun).2
        intro locked
        by_cases receives : event = .handleReceive
        · subst receives
          show (umpHandleReceive w).core.ctrl.state = .established ∨
            (umpHandleReceive w).core.ctrl.state = .closing
          rw [umpHandleReceive_ctrl]
          exact umpHandleReceive_open inductionHypothesis locked
        · refine sockStep_recOpen receives (fun locked => ?_) inductionHypothesis locked
          exact serving.receiving.idle (serving.answered.waits locked)
  obtain ⟨m, refines, inOrder, gathered⟩ := gathers
  exact ⟨⟨m, refines, gathered.exact, gathered.user⟩, serving.receiving.idle,
    serving.answered.waits, open_⟩

end Runs

/-- An open socket with two messages for its user. -/
def twoHeld : UMPSocket GLists :=
  (sockMachine GLists).after (umpSockNew GLists 100 ⟨fun _ => ⟨0, 0⟩, 0⟩)
    (passiveOpen 7 100 ++ dataMessages 7 2)

/-- The peer closes the connection, and sends one more packet. -/
def passiveEnd : List SockEvent :=
  [.ctrlPacket (receivedForm (finPacket 8)), .userReceive, .dataPacket (dataMessage 9),
    .handleReceive, .sendCtrlPacket,
    .ctrlPacket (receivedForm
      { uPacketSetFlag (uPacketNew .control .outgoing) UP_CTRL_ACK with ackNum := 102 }),
    .userReceive, .handleReceive, .userReceive]

/-- The theorem holds of a socket that closed with two messages for its user: two calls
get them, and a third one is there. -/
theorem survives_passiveEnd :
    SurvivesEnd twoHeld ((sockMachine GLists).after twoHeld passiveEnd) ∧
      messages twoHeld = [[dataMessage 7], [dataMessage 8]] ∧
      ((sockMachine GLists).after twoHeld passiveEnd).core.deliveries =
        [[dataMessage 8], [dataMessage 7]] ∧
      ((sockMachine GLists).after twoHeld passiveEnd).core.ctrl.state = .closed ∧
      picksReceive ((sockMachine GLists).after twoHeld passiveEnd) .handleReceive = true :=
  ⟨survives_of_run (holding_of_run (Machine.runWhere_of_check (by decide +kernel)))
    (Machine.runWhere_of_check (by decide +kernel)) (by decide +kernel), by decide +kernel,
    by decide +kernel, by decide +kernel, by decide +kernel⟩

end UserMessageProtocol
