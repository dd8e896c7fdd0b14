import UserMessageProtocol.Core.Entries
import UserMessageProtocol.Socket.Locks

/-!
Contract: the wake-ups of `ump_accept`.

Owns: when a socket sets `accept_ok` (`Announced`), the connections that wait to be
accepted (`waiting`), and the theorem that `accept_ok` is set for one that no caller is
about to take, as long as a wait returns only while all but one of them are being taken.

Does not own: where the sockets are (`Core.Registry`).
-/

set_option autoImplicit false

namespace UserMessageProtocol

/-! ### What a socket announces -/

/-- A socket without a control call: from `start` to `s` it was established only with a
signal. -/
structure Announced (start s : SocketCore) : Prop where
  unlocked : s.ctrl.ctrlLocked = .unlocked
  counted : signals start ≤ signals s
  signaled : s.ctrl.publicState = .established →
    start.ctrl.publicState = .established ∨ signals start < signals s

section Sockets

variable {start s t : SocketCore}

theorem announced_refl (unlocked : s.ctrl.ctrlLocked = .unlocked) : Announced s s :=
  ⟨unlocked, Nat.le_refl _, .inl⟩

theorem Announced.congr (before : Announced start s)
    (locked : t.ctrl.ctrlLocked = s.ctrl.ctrlLocked)
    (state : t.ctrl.publicState = s.ctrl.publicState) (same : signals t = signals s) :
    Announced start t := by
  obtain ⟨unlocked, counted, signaled⟩ := before
  rw [← same] at counted signaled
  rw [← state] at signaled
  exact ⟨locked.trans unlocked, counted, signaled⟩

theorem signals_act {action : Action} (other : action ≠ .acceptable) :
    signals (s.act action) = signals s := List.count_cons_of_ne other

theorem signals_acceptable : signals (s.act .acceptable) = signals s + 1 := List.count_cons_self

section Calls

variable (method : UMPCallMethod) (ok : Bool)

/-- Without a control call, the end of one that connects is a signal, which accounts for any
state. -/
theorem umpEndCtrl_signals (unlocked : s.ctrl.ctrlLocked = .unlocked)
    (counted : signals start ≤ signals s) : Announced start (umpEndCtrl s .connect ok) := by
  unfold umpEndCtrl
  rw [unlocked]
  have grown : signals start < signals (s.act .acceptable) := by
    rw [signals_acceptable]
    exact Nat.lt_succ_of_le counted
  exact ⟨unlocked, Nat.le_of_lt grown, fun _ => .inr grown⟩

theorem umpEndCtrl_announced (before : Announced start s) :
    Announced start (umpEndCtrl s method ok) := by
  by_cases connects : method = .connect
  · rw [connects]
    exact umpEndCtrl_signals ok before.unlocked before.counted
  · unfold umpEndCtrl
    rw [before.unlocked]
    dsimp only
    rw [if_neg connects]
    exact before

theorem umpFailReceive_announced (before : Announced start s) :
    Announced start (umpFailReceive s) := by
  unfold umpFailReceive
  split
  · exact before
  · exact before.congr rfl rfl (signals_act (by simp))

theorem umpEndSend_announced (before : Announced start s) : Announced start (umpEndSend s ok) := by
  unfold umpEndSend
  split
  · exact before
  · exact before.congr rfl rfl (signals_act (by simp))

/-- A socket that enters another state than the established one. -/
theorem Announced.leave (before : Announced start s) (state : UMPSockState)
    (other : state ≠ .established) :
    Announced start
      (({ s with ctrl := { s.ctrl with state := state, publicState := state } } : SocketCore).act
        (.changed s.ctrl.state state)) := by
  refine ⟨before.unlocked, ?_, fun same => absurd same other⟩
  rw [signals_act (by simp)]
  exact before.counted

theorem umpChangeState_announced (state : UMPSockState) (before : Announced start s) :
    Announced start (umpChangeState s state) := by
  cases state with
  | closed =>
      have left := before.leave .closed (by decide)
      unfold umpChangeState umpClosedEnterState
      dsimp only
      apply umpEndCtrl_announced
      split
      · apply umpFailReceive_announced
        exact left.congr rfl rfl rfl
      · exact left.congr rfl rfl rfl
  | connecting => exact before.leave .connecting (by decide)
  | established =>
      apply umpEndCtrl_signals
      · exact before.unlocked
      · show signals start ≤ signals (s.act (.changed s.ctrl.state .established))
        rw [signals_act (by simp)]
        exact before.counted
  | closing => exact before.leave .closing (by decide)

theorem umpConnectionErrorOccured_announced (before : Announced start s) :
    Announced start (umpConnectionErrorOccured s) := by
  unfold umpConnectionErrorOccured
  apply umpFailReceive_announced
  apply umpEndSend_announced
  apply umpEndCtrl_announced
  apply umpChangeState_announced
  exact before.congr rfl rfl (signals_act (by simp))

end Calls

section Packets

variable (p : UMPPacket)

theorem queueCtrlPacket_announced (before : Announced start s) :
    Announced start (queueCtrlPacket s p) :=
  before.congr rfl rfl (signals_act (by simp))

theorem dropPending_announced (before : Announced start s) :
    Announced start (dropPending s) := by
  unfold dropPending
  dsimp only
  split
  · exact before.congr rfl rfl (signals_act (by simp))
  · exact before.congr rfl rfl rfl

theorem countTheirs_announced (before : Announced start s) :
    Announced start (countTheirs s p) := by
  unfold countTheirs
  split
  · exact before.congr rfl rfl rfl
  · exact before

theorem closedPacket_announced (before : Announced start s) :
    Announced start (umpClosedHandleCtrlPacket s p) := by
  unfold umpClosedHandleCtrlPacket
  split
  · split
    · apply umpChangeState_announced
      have taken : Announced start (takeSyn s p) := before.congr rfl rfl rfl
      exact (queueCtrlPacket_announced _ taken).congr rfl rfl rfl
    · exact before
  · split
    · exact (countTheirs_announced p before).congr rfl rfl rfl
    · exact before

theorem connectingAck_announced (before : Announced start s) :
    Announced start (connectingAck s p) := by
  unfold connectingAck
  split
  · dsimp only
    split
    · exact (dropPending_announced before).congr rfl rfl rfl
    · exact before.congr rfl rfl rfl
  · exact before

theorem completeOpen_announced (before : Announced start s) :
    Announced start (completeOpen s) := by
  unfold completeOpen
  split
  · exact umpChangeState_announced .established before
  · exact before

theorem connectingPacket_announced (before : Announced start s) :
    Announced start (umpConnectingHandleCtrlPacket s p) := by
  have acked := connectingAck_announced p before
  unfold umpConnectingHandleCtrlPacket
  dsimp only
  split
  · split
    · exact acked.congr rfl rfl rfl
    · split
      · apply completeOpen_announced
        exact acked.congr rfl rfl rfl
      · exact acked
  · split
    · apply completeOpen_announced
      exact (countTheirs_announced p acked).congr rfl rfl rfl
    · exact completeOpen_announced acked

theorem establishedAck_announced (before : Announced start s) :
    Announced start (establishedAck s p) := by
  unfold establishedAck
  split
  · apply umpEndCtrl_announced
    exact dropPending_announced before
  · exact before

theorem establishedPacket_announced (before : Announced start s) :
    Announced start (umpEstablishedHandleCtrlPacket s p) := by
  have acked := establishedAck_announced p before
  have counted := countTheirs_announced p acked
  unfold umpEstablishedHandleCtrlPacket
  dsimp only
  split
  · split
    · refine Announced.congr (umpChangeState_announced .closing ?_) rfl rfl rfl
      exact queueCtrlPacket_announced _ (counted.congr rfl rfl rfl)
    · exact counted.congr rfl rfl rfl
  · exact acked

theorem closingAck_announced (before : Announced start s) : Announced start (closingAck s p) := by
  unfold closingAck
  split
  · dsimp only
    split
    · exact (dropPending_announced before).congr rfl rfl rfl
    · exact before.congr rfl rfl rfl
  · exact before

theorem completeClose_announced (before : Announced start s) :
    Announced start (completeClose s) := by
  unfold completeClose
  split
  · exact umpChangeState_announced .closed before
  · exact before

theorem closingPacket_announced (before : Announced start s) :
    Announced start (umpClosingHandleCtrlPacket s p) := by
  have acked := closingAck_announced p before
  unfold umpClosingHandleCtrlPacket
  dsimp only
  split
  · apply completeClose_announced
    exact (countTheirs_announced p acked).congr rfl rfl rfl
  · exact completeClose_announced acked

theorem umpHandleCtrlPacket_announced (before : Announced start s) :
    Announced start (umpHandleCtrlPacket s p) := by
  unfold umpHandleCtrlPacket
  split
  · exact umpConnectionErrorOccured_announced before
  · have noted : Announced start (s.act (.processed p s.ctrl.ourCtrlSeq)) :=
      before.congr rfl rfl (signals_act (by simp))
    unfold smHandleCtrlPacket
    split
    · exact closedPacket_announced p noted
    · exact connectingPacket_announced p noted
    · exact establishedPacket_announced p noted
    · exact closingPacket_announced p noted

end Packets

/-- Without a control call there is none to take up. -/
theorem umpHandleCtrl_idle (unlocked : s.ctrl.ctrlLocked = .unlocked)
    (noCall : s.ctrl.ctrlPara = none) : umpHandleCtrl s = s := by
  unfold umpHandleCtrl
  rw [unlocked, noCall]
  exact ite_self s

theorem umpHandleCtrlTimeout_announced (unlocked : s.ctrl.ctrlLocked = .unlocked) :
    Announced s (umpHandleCtrlTimeout s) := by
  have before := announced_refl unlocked
  unfold umpHandleCtrlTimeout
  dsimp only
  repeat' split
  · exact before
  · exact before
  · exact before.congr rfl rfl rfl
  · exact before.congr rfl rfl rfl
  · apply umpConnectionErrorOccured_announced
    apply umpEndCtrl_announced
    exact before.congr rfl rfl rfl

theorem umpHandleDataTimeout_announced (unlocked : s.ctrl.ctrlLocked = .unlocked) :
    Announced s (umpHandleDataTimeout s) := by
  have before := announced_refl unlocked
  unfold umpHandleDataTimeout
  dsimp only
  repeat' split
  · exact before
  · apply umpConnectionErrorOccured_announced
    apply umpEndSend_announced
    exact before.congr rfl rfl rfl
  · exact before.congr rfl rfl rfl
  · exact before.congr rfl rfl rfl

/-- A socket without a control call is established only with a signal. -/
theorem sockStep_signals {Lists : Type} [ReceiveLists Lists] {u : UMPSocket Lists}
    (unlocked : u.core.ctrl.ctrlLocked = .unlocked) (noCall : u.core.ctrl.ctrlPara = none)
    (event : SockEvent)
    (established : (sockStep u event).core.ctrl.publicState = .established) :
    u.core.ctrl.publicState = .established ∨
      signals u.core < signals (sockStep u event).core := by
  have same (sameCtrl : (sockStep u event).core.ctrl.publicState = u.core.ctrl.publicState) :
      u.core.ctrl.publicState = .established ∨
        signals u.core < signals (sockStep u event).core := .inl (sameCtrl ▸ established)
  have frame (sameCtrl : (sockStep u event).core.ctrl = u.core.ctrl) := same (by rw [sameCtrl])
  cases event with
  | userCtrl => exact same rfl
  | userSend => exact frame rfl
  | userReceive => exact frame rfl
  | handleCtrl =>
      apply same
      show (umpHandleCtrl u.core).ctrl.publicState = _
      rw [umpHandleCtrl_idle unlocked noCall]
  | handleSend => exact frame (umpHandleSend_ctrl _)
  | handleReceive => exact frame (umpHandleReceive_ctrl _)
  | bufferLoad => exact frame rfl
  | ctrlPacket p =>
      exact (umpHandleCtrlPacket_announced p (announced_refl unlocked)).signaled established
  | dataPacket p => exact frame (umpHandleDataPacket_ctrl _ _)
  | dataTimeout => exact (umpHandleDataTimeout_announced unlocked).signaled established
  | refreshRwnd => exact frame rfl
  | refreshAck => exact frame (umpRefreshOurAckInfo_ctrl _)
  | actReqWnd => exact frame (umpActReqWnd_ctrl _)
  | ctrlTimeout => exact (umpHandleCtrlTimeout_announced unlocked).signaled established
  | sendCtrlPacket => exact same (umpHandleSendCtrlPacket_publicState _)
  | heartbeat => exact frame (umpHandleSendHeartbeat_ctrl _)
  | sendData => exact frame (umpHandleSendData_ctrl _)
  | sendReset => exact same (umpHandleSendResetPacket_publicState _)

end Sockets

/-! ### Connections that wait -/

/-- A socket without a control call, as in the backlog. -/
def ctrlIdle {Lists : Type} (u : UMPSocket Lists) : Prop :=
  u.core.ctrl.ctrlLocked = .unlocked ∧ u.core.ctrl.ctrlPara = none

theorem ctrlIdle_step {Lists : Type} [ReceiveLists Lists] {u : UMPSocket Lists}
    (idle : ctrlIdle u) {event : SockEvent} (thread : event.isUserCall = false) :
    ctrlIdle (sockStep u event) := by
  have notLocked : (ctrlLock u.core).locked = false := by simp [ctrlLock, idle.1]
  have notCalled : (ctrlLock u.core).called = false := by simp [ctrlLock, idle.2]
  have begins : (begun u event).ctrl = ctrlLock u.core := by
    cases event with
    | userCtrl => cases thread
    | handleCtrl =>
        apply if_neg
        show ¬ (ctrlLock u.core).ready = true
        simp [CallLock.ready, notCalled]
    | _ => rfl
  have ends := (sockStep_ends u event).ctrl
  rw [begins] at ends
  have same : ctrlLock (sockStep u event).core = ctrlLock u.core := by
    show (locks (sockStep u event).core).ctrl = _
    generalize (locks (sockStep u event).core).ctrl = after at ends
    cases ends with
    | none => rfl
    | once locked =>
        rw [notLocked] at locked
        cases locked
  constructor
  · have unlocked := (congrArg CallLock.locked same).trans notLocked
    cases held : (sockStep u event).core.ctrl.ctrlLocked with
    | unlocked => rfl
    | locked => simp [ctrlLock, held] at unlocked
  · have noCall := (congrArg CallLock.called same).trans notCalled
    exact Option.isSome_eq_false_iff.mp noCall |> Option.isNone_iff_eq_none.mp

section Cores

variable {Lists : Type} {u_core w : UMPCore Lists}

/-- The established connections in the backlog. -/
def waiting (u_core : UMPCore Lists) : List SockId :=
  u_core.backlogUmps.values.filter fun id => (u_core.socks id).publicState = .established

theorem mem_waiting {id : SockId} : id ∈ waiting u_core ↔
    id ∈ u_core.backlogUmps.values ∧ (u_core.socks id).publicState = .established := by
  unfold waiting
  rw [List.mem_filter, decide_eq_true_iff]

/-- `accept_ok` is set while more connections wait than callers of `ump_accept` are behind
their wait. -/
def Woken (u_core : UMPCore Lists) : Prop :=
  u_core.passing < (waiting u_core).length → u_core.acceptOk = true

/-- A wait for `accept_ok` returns only while all waiting connections but one are being
taken; every other event is allowed. -/
def oneWaits (u_core : UMPCore Lists) : CoreEvent → Prop
  | .acceptWait => (waiting u_core).length ≤ u_core.passing + 1
  | _ => True

instance (u_core : UMPCore Lists) (event : CoreEvent) : Decidable (oneWaits u_core event) :=
  match event with
  | .acceptWait => by unfold oneWaits; infer_instance
  | .receive .. | .connect .. | .finishConnect .. | .accept .. | .close .. | .clean .. | .fetch .. |
    .call .. | .handle .. => instDecidableTrue

/-- What holds of the backlog whenever `umps_lock` is free. -/
structure Backlog (u_core : UMPCore Lists) : Prop where
  registry : Registry u_core
  idle : ∀ id ∈ u_core.backlogUmps.values, ctrlIdle (u_core.socks id).socket
  woken : Woken u_core

/-! ### Sockets in the backlog -/

theorem values_nodup (registry : Registry u_core) : u_core.backlogUmps.values.Nodup := by
  apply List.Nodup.map_on
  · rintro ⟨address, id⟩ member ⟨other, another⟩ there same
    have found : u_core.tables .backlogUmps address = some id := AList.mem_lookup_iff.mpr member
    have second : u_core.tables .backlogUmps other = some another := AList.mem_lookup_iff.mpr there
    dsimp only at same
    rw [← same] at second
    rw [(registry.keyed.unique found second).2, same]
  · exact u_core.backlogUmps.nodupKeys.nodup

theorem waiting_nodup (registry : Registry u_core) : (waiting u_core).Nodup :=
  (values_nodup registry).filter _

theorem backlog_different (registry : Registry u_core) {id : SockId}
    (member : id ∈ u_core.backlogUmps.values) : id ≠ u_core.created := by
  obtain ⟨address, found⟩ := mem_values.mp member
  exact live_different
    (registry.keyed.owner (show u_core.tables .backlogUmps address = some id from found)).2

/-- A socket of the backlog is in no other table. -/
theorem not_backlog (registry : Registry u_core) {name : TableName} {address : SockaddrIn}
    {id : SockId} (found : u_core.tables name address = some id) (other : name ≠ .backlogUmps) :
    id ∉ u_core.backlogUmps.values := by
  intro member
  obtain ⟨second, there⟩ := mem_values.mp member
  exact other (registry.keyed.unique found
    (show u_core.tables .backlogUmps second = some id from there)).1

theorem values_erase {table : SockTable} {address : SockaddrIn} {id : SockId}
    (member : id ∈ SockTable.values (table.erase address)) : id ∈ table.values :=
  List.map_subset _ (List.kerase_sublist address table.entries).subset member

/-! ### Steps -/

/-- A step after which no other connections wait. -/
theorem Backlog.step (backlog : Backlog u_core) (registry : Registry w)
    (each : ∀ id ∈ w.backlogUmps.values, ctrlIdle (w.socks id).socket ∧
      ((w.socks id).publicState = .established → id ∈ waiting u_core))
    (passing : w.passing = u_core.passing)
    (signal : u_core.acceptOk = true → w.acceptOk = true) : Backlog w where
  registry := registry
  idle := fun id member => (each id member).1
  woken := by
    intro more
    apply signal
    apply backlog.woken
    rw [passing] at more
    apply Nat.lt_of_lt_of_le more
    apply List.Subperm.length_le
    apply List.subperm_of_subset (waiting_nodup registry)
    intro id member
    obtain ⟨inBacklog, established⟩ := mem_waiting.mp member
    exact (each id inBacklog).2 established

/-- A step that leaves the sockets of the backlog alone, or takes some out of it. -/
theorem Backlog.less (backlog : Backlog u_core) (registry : Registry w)
    (fewer : ∀ id ∈ w.backlogUmps.values, id ∈ u_core.backlogUmps.values)
    (same : ∀ id ∈ u_core.backlogUmps.values, (w.socks id).socket = (u_core.socks id).socket)
    (passing : w.passing = u_core.passing) (signal : w.acceptOk = u_core.acceptOk) :
    Backlog w := by
  apply backlog.step registry _ passing (fun isSet => signal.trans isSet)
  intro id member
  have before := fewer id member
  unfold CoreSock.publicState
  rw [same id before]
  exact ⟨backlog.idle id before, fun established => mem_waiting.mpr ⟨before, established⟩⟩

theorem newSock_backlog [ReceiveLists Lists] (registry : Registry u_core) (sender : SockaddrIn)
    (seq : UInt16) (clock : Clock) {id : SockId} (member : id ∈ u_core.backlogUmps.values) :
    ((newSock u_core sender seq clock).1.socks id).socket = (u_core.socks id).socket := by
  show (Function.update u_core.socks u_core.created _ id).socket = _
  rw [Function.update_of_ne (backlog_different registry member)]

theorem receiver_backlog [ReceiveLists Lists] (backlog : Backlog u_core) (sender : SockaddrIn)
    (u_p : UMPPacket) (seq : UInt16) (clock : Clock) :
    Backlog (receiver u_core sender u_p seq clock).1 := by
  have registry := (receiver_registry backlog.registry sender u_p seq clock).1
  rcases receiver_cases u_core sender u_p seq clock with
    ⟨id, found, -⟩ | ⟨none, ⟨ignored, -⟩ | ⟨-, added | refused⟩⟩
  · rw [found]
    exact backlog
  · rw [ignored]
    exact backlog
  · rw [added] at registry ⊢
    apply backlog.step registry _ rfl id
    intro id member
    obtain ⟨address, found⟩ := mem_values.mp member
    by_cases new : address = sender
    · -- the new socket is closed
      have isNew : some u_core.created = some id := by
        rw [← found, new]
        exact (AList.lookup_insert u_core.backlogUmps).symm
      show ctrlIdle ((newSock u_core sender seq clock).1.socks id).socket ∧
        (((newSock u_core sender seq clock).1.socks id).socket.core.ctrl.publicState =
          .established → id ∈ waiting u_core)
      rw [← Option.some.inj isNew, newSock_socket]
      exact ⟨⟨rfl, rfl⟩, fun established => by cases established⟩
    · have before : id ∈ u_core.backlogUmps.values := by
        refine mem_values.mpr ⟨address, ?_⟩
        rw [← AList.lookup_insert_ne new]
        exact found
      have same := newSock_backlog backlog.registry sender seq clock before
      refine ⟨?_, fun established => mem_waiting.mpr ⟨before, ?_⟩⟩
      · show ctrlIdle ((newSock u_core sender seq clock).1.socks id).socket
        rw [same]
        exact backlog.idle id before
      · have sameState := congrArg (fun u => u.core.ctrl.publicState) same
        exact sameState.symm.trans established
  · rw [refused] at registry ⊢
    apply backlog.less registry (fun _ member => member) _ rfl rfl
    exact fun _ => newSock_backlog backlog.registry sender seq clock

theorem queuePacket_backlog (backlog : Backlog u_core) (id : SockId) (u_p : UMPPacket) :
    Backlog (queuePacket u_core id u_p).core := by
  have registry := (queuePacket_registry backlog.registry id u_p).1
  unfold queuePacket at registry ⊢
  dsimp only at registry ⊢
  split at registry
  · rename_i space
    rw [if_pos space]
    apply backlog.less registry (fun _ member => member) _ rfl rfl
    intro other _
    show (Function.update u_core.socks id _ other).socket = _
    by_cases here : other = id
    · rw [here, Function.update_self]
    · rw [Function.update_of_ne here]
  · rename_i full
    rw [if_neg full]
    exact backlog

theorem receiveThreadFunc_backlog [ReceiveLists Lists] (backlog : Backlog u_core) (d : RecData)
    (seq : UInt16) (clock : Clock) : Backlog (receiveThreadFunc u_core d seq clock).core := by
  unfold receiveThreadFunc
  split
  · exact backlog
  · dsimp only
    split
    · exact backlog
    · rename_i u_p _
      have found := receiver_backlog backlog d.sender u_p seq clock
      split
      · exact found
      · rename_i id _
        exact queuePacket_backlog found id u_p

theorem umpConnect_backlog [ReceiveLists Lists] (backlog : Backlog u_core)
    (theirAddr : SockaddrIn) (seq : UInt16) (clock : Clock) :
    Backlog (umpConnect u_core theirAddr seq clock) := by
  have registry := (umpConnect_registry backlog.registry theirAddr seq clock).1
  unfold umpConnect at registry ⊢
  split at registry
  · rename_i there
    rw [if_pos there]
    exact backlog
  rename_i noAct
  rw [if_neg noAct]
  split at registry
  · rename_i there
    rw [if_pos there]
    exact backlog
  rename_i noUmps
  rw [if_neg noUmps]
  split at registry
  · rename_i there
    rw [if_pos there]
    exact backlog
  rename_i noClosed
  rw [if_neg noClosed]
  cases found : u_core.backlogUmps.lookup theirAddr with
  | some id =>
      rw [found] at registry
      dsimp only at registry ⊢
      split at registry
      · rename_i closing
        rw [if_pos closing]
        exact backlog.less registry (fun _ => values_erase) (fun _ _ => rfl) rfl rfl
      · rename_i notClosing
        rw [if_neg notClosing]
        exact backlog.less registry (fun _ => values_erase) (fun _ _ => rfl) rfl rfl
  | none =>
      rw [found] at registry
      apply backlog.less registry (fun _ member => member) _ rfl rfl
      exact fun _ => newSock_backlog backlog.registry theirAddr seq clock

theorem finishConnect_backlog {theirAddr : SockaddrIn} {id : SockId} (backlog : Backlog u_core)
    (called : (theirAddr, id) ∈ u_core.connecting) (connectR : Bool) :
    Backlog (finishConnect u_core theirAddr id connectR) := by
  have registry := (finishConnect_registry backlog.registry called connectR).1
  cases connectR with
  | true => exact backlog.less registry (fun _ member => member) (fun _ _ => rfl) rfl rfl
  | false => exact backlog.less registry (fun _ member => member) (fun _ _ => rfl) rfl rfl

/-- A wait returns: its caller takes the one connection that nobody is about to take. -/
theorem acceptWait_backlog (backlog : Backlog u_core)
    (one : (waiting u_core).length ≤ u_core.passing + 1) : Backlog (acceptWait u_core) where
  registry := backlog.registry.congr rfl rfl rfl rfl rfl rfl
  idle := backlog.idle
  woken := fun more => absurd more (Nat.not_lt.mpr one)

/-- A search that finds nothing went past no established connection. -/
theorem earliest_none (order : List SockId) {start : Option SockId}
    (none : order.foldl (earlier u_core) start = none) :
    start = Option.none ∧ ∀ s ∈ order, (u_core.socks s).publicState ≠ .established := by
  induction order generalizing start with
  | nil => exact ⟨none, by simp⟩
  | cons s rest inductionHypothesis =>
      obtain ⟨first, others⟩ := inductionHypothesis none
      unfold earlier at first
      split at first
      · split at first
        · cases first
        · split at first <;> cases first
      · rename_i notEstablished
        refine ⟨first, ?_⟩
        intro other member
        rcases List.mem_cons.mp member with rfl | behind
        · exact notEstablished
        · exact others other behind

theorem umpAccept_backlog (backlog : Backlog u_core) {order : List SockId}
    (behind : 0 < u_core.passing) (all : order.Perm u_core.backlogUmps.values) :
    Backlog (umpAccept u_core order) := by
  have registry := (umpAccept_registry backlog.registry all).1
  let passed : UMPCore Lists := { u_core with passing := u_core.passing - 1 }
  cases picked : order.foldl (earlier passed) none with
  | none =>
      have nothing : umpAccept u_core order = passed := by
        unfold umpAccept
        dsimp only
        rw [picked]
      rw [nothing] at registry ⊢
      have noneWaits : waiting passed = [] := by
        apply List.eq_nil_iff_forall_not_mem.mpr
        intro id member
        obtain ⟨inBacklog, established⟩ := mem_waiting.mp member
        exact (earliest_none order picked).2 id (all.mem_iff.mpr inBacklog) established
      refine ⟨registry, backlog.idle, fun more => ?_⟩
      rw [noneWaits] at more
      cases more
  | some id =>
      rcases earliest_mem _ _ picked with isNone | ⟨member, established⟩
      · cases isNone
      let taken : UMPCore Lists :=
        { passed with
          backlogUmps := u_core.backlogUmps.erase (u_core.addressOf id)
          umps := u_core.umps.insert (u_core.addressOf id) id
          handed := id :: u_core.handed }
      have isTaken : umpAccept u_core order = taken := by
        unfold umpAccept
        dsimp only
        rw [picked]
        rfl
      rw [isTaken] at registry ⊢
      have inBacklog : id ∈ u_core.backlogUmps.values := all.mem_iff.mp member
      have gone : id ∉ waiting taken := by
        intro still
        have found : taken.tables .umps (u_core.addressOf id) = some id :=
          AList.lookup_insert u_core.umps
        exact not_backlog registry found (by decide) (mem_waiting.mp still).1
      have inside : List.Subperm (id :: waiting taken) (waiting u_core) := by
        apply List.subperm_of_subset (List.nodup_cons.mpr ⟨gone, waiting_nodup registry⟩)
        intro other isHere
        rcases List.mem_cons.mp isHere with rfl | waits
        · exact mem_waiting.mpr ⟨inBacklog, established⟩
        · obtain ⟨stays, otherState⟩ := mem_waiting.mp waits
          exact mem_waiting.mpr ⟨values_erase stays, otherState⟩
      have shorter : (waiting taken).length + 1 ≤ (waiting u_core).length := inside.length_le
      refine ⟨registry, fun other member => backlog.idle other (values_erase member), ?_⟩
      intro more
      apply backlog.woken
      have passing : taken.passing = u_core.passing - 1 := rfl
      omega

theorem umpClose_backlog (backlog : Backlog u_core) {id : SockId}
    (isHanded : id ∈ u_core.handed) : Backlog (umpClose u_core id) := by
  have registry := (umpClose_registry backlog.registry isHanded).1
  unfold umpClose at registry ⊢
  dsimp only at registry ⊢
  rw [AList.lookup_erase] at registry ⊢
  exact backlog.less registry (fun _ => values_erase) (fun _ _ => rfl) rfl rfl

theorem cleanerPass_backlog (backlog : Backlog u_core) (cur : SockId → GTimeVal) :
    Backlog (cleanerPass u_core cur) := by
  have registry := (cleanerPass_registry backlog.registry cur).1
  apply backlog.less registry _ (fun _ _ => rfl) rfl rfl
  intro id member
  obtain ⟨address, found⟩ := mem_values.mp member
  exact mem_values.mpr ⟨address, (lookup_foreachRemove.mp found).1⟩

/-- A step of a socket: one that becomes established in the backlog sets `accept_ok`. -/
theorem stepSock_backlog [ReceiveLists Lists] (backlog : Backlog u_core) {id : SockId}
    {event : SockEvent}
    (thread : id ∈ u_core.backlogUmps.values → event.isUserCall = false) :
    Backlog (stepSock u_core id event) := by
  have registry := (stepSock_registry backlog.registry id event).1
  have stepped : ((stepSock u_core id event).socks id).socket =
      sockStep (u_core.socks id).socket event := by
    show (Function.update u_core.socks id _ id).socket = _
    rw [Function.update_self]
  have others {other : SockId} (different : other ≠ id) :
      (stepSock u_core id event).socks other = u_core.socks other := by
    show Function.update u_core.socks id _ other = _
    rw [Function.update_of_ne different]
  have idle : ∀ other ∈ u_core.backlogUmps.values,
      ctrlIdle ((stepSock u_core id event).socks other).socket := by
    intro other member
    by_cases here : other = id
    · rw [here] at member ⊢
      rw [stepped]
      exact ctrlIdle_step (backlog.idle id member) (thread member)
    · rw [others here]
      exact backlog.idle other member
  by_cases signal : signals (u_core.socks id).socket.core <
      signals (sockStep (u_core.socks id).socket event).core
  · refine ⟨registry, idle, fun _ => ?_⟩
    show (u_core.acceptOk || decide _) = true
    rw [decide_eq_true signal, Bool.or_true]
  · apply backlog.step registry _ rfl
    · intro isSet
      show (u_core.acceptOk || _) = true
      rw [isSet, Bool.true_or]
    · intro other member
      refine ⟨idle other member, fun established => mem_waiting.mpr ⟨member, ?_⟩⟩
      by_cases here : other = id
      · rw [here] at member established ⊢
        unfold CoreSock.publicState at established
        rw [stepped] at established
        obtain ⟨unlocked, noCall⟩ := backlog.idle id member
        exact (sockStep_signals unlocked noCall event established).resolve_right signal
      · rw [others here] at established
        exact established

/-! ### Runs -/

theorem backlog_bind [ReceiveLists Lists] (limit : Nat) (memory : SockId → CoreSock Lists) :
    Backlog (umpCoreBind limit memory) :=
  ⟨(registry_bind limit memory).1, fun _ member => (List.not_mem_nil member).elim,
    fun more => absurd more (Nat.not_lt_zero 0)⟩

theorem coreStep_backlog [ReceiveLists Lists] {event : CoreEvent} (backlog : Backlog u_core)
    (enabled : coreEnabled u_core event) (one : oneWaits u_core event) :
    Backlog (coreStep u_core event) := by
  cases event with
  | receive d seq clock => exact receiveThreadFunc_backlog backlog d seq clock
  | connect theirAddr seq clock => exact umpConnect_backlog backlog theirAddr seq clock
  | finishConnect theirAddr id connectR => exact finishConnect_backlog backlog enabled connectR
  | acceptWait => exact acceptWait_backlog backlog one
  | accept order => exact umpAccept_backlog backlog enabled.1 enabled.2
  | close id => exact umpClose_backlog backlog enabled
  | clean cur => exact cleanerPass_backlog backlog cur
  | fetch id =>
      have registry : Registry (coreStep u_core (.fetch id)) :=
        (coreStep_registry backlog.registry enabled).1
      apply backlog.less registry (fun _ member => member) _ rfl rfl
      intro other _
      show (Function.update u_core.socks id _ other).socket = _
      by_cases here : other = id
      · rw [here, Function.update_self]
      · rw [Function.update_of_ne here]
  | call id event =>
      obtain ⟨-, -, -, user⟩ := enabled
      apply stepSock_backlog backlog
      intro member
      exfalso
      rcases user with ⟨isHanded, -⟩ | ⟨connects, -⟩
      · exact not_backlog backlog.registry (backlog.registry.handed id isHanded) (by decide) member
      · obtain ⟨⟨address, other⟩, isCall, rfl⟩ := List.mem_map.mp connects
        exact not_backlog backlog.registry (backlog.registry.connecting _ isCall) (by decide)
          member
  | handle id event => exact stepSock_backlog backlog fun _ => enabled.2.2.1

/-- As long as a wait returns only while all waiting connections but one are being taken,
`accept_ok` is set whenever one waits that no caller is about to take. -/
theorem woken_of_run [ReceiveLists Lists] {limit : Nat} {memory : SockId → CoreSock Lists}
    {events : List CoreEvent}
    (run : (coreMachine Lists).RunWhere oneWaits (umpCoreBind limit memory) events u_core) :
    Woken u_core := by
  have backlog : Backlog u_core := by
    apply run.invariant (backlog_bind limit memory)
    intro u_core event backlog enabled one
    exact coreStep_backlog backlog enabled one
  exact backlog.woken

end Cores

/-! ### Two runs -/

/-- A peer opens a connection: its SYN, and its ack of ours. -/
def opensFrom (sender : SockaddrIn) (id : SockId) (seq : UInt16) : List CoreEvent :=
  let ack := { uPacketSetFlag (uPacketNew .control .outgoing) UP_CTRL_ACK with ackNum := seq + 1 }
  [.receive (synDatagram sender) seq ⟨fun _ => ⟨0, 0⟩, 0⟩, .fetch id,
    .handle id (.ctrlPacket (receivedForm (synPacket 7 1400))),
    .receive ⟨sender, (freshEncoding ack).1, fun _ => 0⟩ 0 ⟨fun _ => ⟨0, 0⟩, 0⟩, .fetch id,
    .handle id (.ctrlPacket (receivedForm ack))]

/-- Two connections one after the other. -/
def openingTurns : List CoreEvent :=
  opensFrom ⟨5000, 1⟩ 0 100 ++ [.acceptWait, .accept [0]] ++ opensFrom ⟨5000, 2⟩ 1 200

/-- The theorem holds of a run at the end of which a connection waits. -/
theorem woken_openingTurns :
    (waiting ((coreMachine PlainLists).after freshCore openingTurns)).length = 1 ∧
      Woken ((coreMachine PlainLists).after freshCore openingTurns) :=
  ⟨by decide, woken_of_run (Machine.runWhere_of_check (by decide))⟩

/-- Two connections are established before the first `ump_accept`. -/
def openingTogether : List CoreEvent :=
  opensFrom ⟨5000, 1⟩ 0 100 ++ opensFrom ⟨5000, 2⟩ 1 200 ++ [.acceptWait, .accept [0, 1]]

/-- The second connection waits, and `accept_ok` is not set. -/
theorem woken_fails :
    ¬ ∀ (limit : Nat) (memory : SockId → CoreSock PlainLists) (events : List CoreEvent)
      (u_core : UMPCore PlainLists),
      (coreMachine PlainLists).Run (umpCoreBind limit memory) events u_core → Woken u_core := by
  intro always
  have run : (coreMachine PlainLists).Run freshCore openingTogether
      ((coreMachine PlainLists).after freshCore openingTogether) :=
    Machine.runWhere_of_check (by decide)
  have isSet := always _ _ _ _ run (by decide)
  exact absurd isSet (by decide)

end UserMessageProtocol
