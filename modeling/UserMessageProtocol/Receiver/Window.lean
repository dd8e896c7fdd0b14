import UserMessageProtocol.Receiver.CallLocks
import UserMessageProtocol.Receiver.Steps

/-!
Contract: the receive window a socket announces.

Owns: the fact that only `ump_refresh_our_rwnd_pos` touches `our_rwnd` and
`our_rwnd_pos_seq` (`sockStep_window`), the condition under which the right edge stays
where it is (`keepsEdge`), and the theorem `windowAnnounced_of_run`.

Does not own: which packets the peer sends.
-/

set_option autoImplicit false

namespace UserMessageProtocol

open Serial

/-! ### Who touches the window -/

/-- The window announced, and the last number inside it. -/
def ReceiveSide.window (rcv : ReceiveSide) : UInt16 × UInt16 := (rcv.ourRwnd, rcv.ourRwndPosSeq)

section Core

variable (s : SocketCore) (p : UMPPacket) (method : UMPCallMethod) (ok : Bool)

@[simp] theorem umpFailReceive_window : (umpFailReceive s).rcv.window = s.rcv.window := by
  unfold umpFailReceive
  split <;> rfl

@[simp] theorem umpChangeState_window (state : UMPSockState) :
    (umpChangeState s state).rcv.window = s.rcv.window := by
  cases state with
  | closed =>
      unfold umpChangeState umpClosedEnterState
      dsimp only
      rw [umpEndCtrl_rcv]
      split
      · rw [umpFailReceive_window]
        rfl
      · rfl
  | connecting => rfl
  | established => simp [umpChangeState]
  | closing => rfl

@[simp] theorem umpConnectionErrorOccured_window :
    (umpConnectionErrorOccured s).rcv.window = s.rcv.window := by
  unfold umpConnectionErrorOccured
  simp

@[simp] theorem takeSyn_window : (takeSyn s p).rcv.window = s.rcv.window := rfl

theorem smHandleCtrlPacket_window : (smHandleCtrlPacket s p).rcv.window = s.rcv.window := by
  have connecting : (connectingAck s p).rcv = s.rcv := by
    unfold connectingAck
    dsimp only
    repeat' split
    all_goals simp
  have closing : (closingAck s p).rcv = s.rcv := by
    unfold closingAck
    dsimp only
    repeat' split
    all_goals simp
  have established : (establishedAck s p).rcv = s.rcv := by
    unfold establishedAck
    split <;> simp
  unfold smHandleCtrlPacket
  split
  · unfold umpClosedHandleCtrlPacket
    repeat' split
    all_goals simp
  · unfold umpConnectingHandleCtrlPacket completeOpen
    dsimp only
    repeat' split
    all_goals simp [connecting]
  · unfold umpEstablishedHandleCtrlPacket
    dsimp only
    repeat' split
    all_goals simp [established]
  · unfold umpClosingHandleCtrlPacket completeClose
    dsimp only
    repeat' split
    all_goals simp [closing]

theorem umpHandleCtrlPacket_window : (umpHandleCtrlPacket s p).rcv.window = s.rcv.window := by
  unfold umpHandleCtrlPacket
  split
  · exact umpConnectionErrorOccured_window s
  · exact smHandleCtrlPacket_window _ p

theorem umpHandleCtrl_window : (umpHandleCtrl s).rcv.window = s.rcv.window := by
  unfold umpHandleCtrl smHandleCtrl umpClosedHandleCtrl umpConnectingHandleCtrl
    umpEstablishedHandleCtrl umpClosingHandleCtrl
  dsimp only
  repeat' split
  all_goals simp

theorem umpHandleCtrlTimeout_window : (umpHandleCtrlTimeout s).rcv.window = s.rcv.window := by
  unfold umpHandleCtrlTimeout
  dsimp only
  repeat' split
  all_goals simp

theorem umpHandleDataTimeout_window : (umpHandleDataTimeout s).rcv.window = s.rcv.window := by
  unfold umpHandleDataTimeout
  dsimp only
  repeat' split
  all_goals simp

end Core

section Lists

variable {Lists : Type} [ReceiveLists Lists] (u : UMPSocket Lists) (p : UMPPacket)

@[simp] theorem finishReceive_window :
    (finishReceive u).core.rcv.window = u.core.rcv.window := by
  unfold finishReceive umpEndReceiveInternal umpHarvestMessages
  dsimp only
  split <;> rfl

@[simp] theorem umpEndReceive_window :
    (umpEndReceive u).core.rcv.window = u.core.rcv.window := by
  unfold umpEndReceive
  split
  · rfl
  · rw [finishReceive_window]
    rfl

theorem umpHandleReceive_window : (umpHandleReceive u).core.rcv.window = u.core.rcv.window := by
  unfold umpHandleReceive
  dsimp only
  repeat' split
  all_goals first | rfl | exact finishReceive_window u

theorem storePacket_window : (storePacket u p).core.rcv.window = u.core.rcv.window := by
  have checked (w : UMPSocket Lists) :
      (umpCheckRcvDataSoFar w).core.rcv.window = w.core.rcv.window := by
    rw [umpCheckRcvDataSoFar_eq]
    split
    · split
      · exact umpEndReceive_window (umpHarvestMessages (countMessage w))
      · rfl
    · rfl
  have advanced (w : UMPSocket Lists) (check : Bool) :
      (advanceTheirBase w check).core.rcv.window = w.core.rcv.window := by
    unfold advanceTheirBase
    dsimp only
    split
    · exact checked _
    · rfl
  unfold storePacket takeInOrder
  repeat' split
  · rfl
  · exact advanced _ _
  · exact advanced _ _
  · rfl

theorem umpHandleDataPacket_window :
    (umpHandleDataPacket u p).core.rcv.window = u.core.rcv.window := by
  have asked (w : UMPSocket Lists) (same : w.core.rcv = u.core.rcv) :
      (storePacket { w with core := umpHandleDataAck w.core p } p).core.rcv.window =
        u.core.rcv.window := by
    rw [storePacket_window, umpHandleDataAck_rcv, same]
  unfold umpHandleDataPacket umpEstablishedHandleDataPacket
  dsimp only
  repeat' split
  all_goals first | exact asked _ rfl | simp

/-- Only a refresh touches the window. -/
theorem sockStep_window {event : SockEvent} (other : event ≠ .refreshRwnd) :
    (sockStep u event).core.rcv.window = u.core.rcv.window := by
  cases event with
  | refreshRwnd => exact absurd rfl other
  | userCtrl | userSend | userReceive | bufferLoad => rfl
  | handleCtrl => exact umpHandleCtrl_window u.core
  | handleSend => exact congrArg ReceiveSide.window (umpHandleSend_rcv u.core)
  | handleReceive => exact umpHandleReceive_window u
  | ctrlPacket p => exact umpHandleCtrlPacket_window u.core p
  | dataPacket p => exact umpHandleDataPacket_window u p
  | dataTimeout => exact umpHandleDataTimeout_window u.core
  | refreshAck => exact congrArg ReceiveSide.window (umpRefreshOurAckInfo_rcv u.core)
  | actReqWnd => exact congrArg ReceiveSide.window (umpActReqWnd_rcv u.core)
  | ctrlTimeout => exact umpHandleCtrlTimeout_window u.core
  | sendCtrlPacket => exact congrArg ReceiveSide.window (umpHandleSendCtrlPacket_rcv u.core)
  | heartbeat => exact congrArg ReceiveSide.window (umpHandleSendHeartbeat_rcv u.core)
  | sendData => exact congrArg ReceiveSide.window (umpHandleSendData_rcv u.core)
  | sendReset => exact congrArg ReceiveSide.window (umpHandleSendResetPacket_rcv u.core)

end Lists

/-! ### The right edge -/

/-- The first number behind the window. -/
def rightEdge (rcv : ReceiveSide) : UInt16 := rcv.theirDataSeqBase + rcv.ourRwnd

/-- Complete messages wait, or the queue of received packets is loaded. -/
def windowWaits (rcv : ReceiveSide) : Prop :=
  rcv.rcvPacketsMsgNum > 0 ∨ rcv.bufferLoad > REC_QUEUE_LIMIT / 2

instance (rcv : ReceiveSide) : Decidable (windowWaits rcv) := by
  unfold windowWaits
  infer_instance

/-- While the window waits, the data in order has not passed the edge: what is left up to
it is no more than the window announced last. -/
def keepsEdge {Lists : Type} (u : UMPSocket Lists) : SockEvent → Prop
  | .refreshRwnd => windowWaits u.core.rcv →
      u.core.rcv.ourRwndPosSeq + 1 - u.core.rcv.theirDataSeqBase ≤ u.core.rcv.ourRwnd
  | _ => True

instance {Lists : Type} (u : UMPSocket Lists) (event : SockEvent) :
    Decidable (keepsEdge u event) :=
  match event with
  | .refreshRwnd => by unfold keepsEdge; infer_instance
  | .userCtrl .. | .userSend .. | .userReceive | .handleCtrl | .handleSend | .handleReceive |
    .bufferLoad .. | .ctrlPacket .. | .dataPacket .. | .dataTimeout | .refreshAck | .actReqWnd |
    .ctrlTimeout | .sendCtrlPacket | .heartbeat | .sendData | .sendReset => instDecidableTrue

/-- While the window waits, it shrinks to what is left up to the edge. -/
theorem umpRefreshOurRwndPos_waits {rcv : ReceiveSide} (waits : windowWaits rcv)
    (few : rcv.ourRwnd.toNat ≤ REC_QUEUE_LIMIT / 2)
    (left : rcv.ourRwndPosSeq + 1 - rcv.theirDataSeqBase ≤ rcv.ourRwnd) :
    umpRefreshOurRwndPos rcv =
      { rcv with ourRwnd := rcv.ourRwndPosSeq + 1 - rcv.theirDataSeqBase } := by
  have size := UInt16.le_iff_toNat_le.mp left
  generalize room : rcv.ourRwndPosSeq + 1 - rcv.theirDataSeqBase = x at left size
  have last : rcv.ourRwndPosSeq = place rcv.theirDataSeqBase ((x.toNat : Int) - 1) := by
    have value := toNat_place rcv.theirDataSeqBase ((x.toNat : Int) - 1)
    have room := congrArg UInt16.toNat room
    have bound := rcv.ourRwndPosSeq.toNat_lt
    have bound' := rcv.theirDataSeqBase.toNat_lt
    rw [UInt16.toNat_sub, UInt16.toNat_add, UInt16.toNat_one] at room
    apply UInt16.toNat_inj.mp
    omega
  have distance : umpCmpInRcvbase rcv rcv.ourRwndPosSeq rcv.theirDataSeqBase = x.toNat - 1 := by
    have limit : REC_QUEUE_LIMIT / 2 = 50 := rfl
    rw [umpCmpInRcvbase_eq, offset_self, Int.sub_zero, last]
    exact offset_place _ (by omega) (by omega)
  have least : min (rcv.ourRwnd.toNat : Int) (x.toNat - 1) + 1 = x.toNat := by omega
  unfold umpRefreshOurRwndPos
  rw [if_pos (show rcv.rcvPacketsMsgNum > 0 ∨ _ from waits), distance, least]
  have low : UInt16.ofInt (x.toNat : Int) = x := by
    have bound := x.toNat_lt
    apply UInt16.toNat_inj.mp
    simp only [UInt16.ofInt, UInt16.toNat_ofNat']
    omega
  rw [low]

theorem umpRefreshOurRwndPos_free {rcv : ReceiveSide} (free : ¬ windowWaits rcv) :
    (umpRefreshOurRwndPos rcv).ourRwnd.toNat = REC_QUEUE_LIMIT / 2 ∧
      rightEdge (umpRefreshOurRwndPos rcv) = (umpRefreshOurRwndPos rcv).ourRwndPosSeq + 1 := by
  unfold umpRefreshOurRwndPos
  rw [if_neg (show ¬ (rcv.rcvPacketsMsgNum > 0 ∨ _) from free)]
  refine ⟨rfl, ?_⟩
  have next := place_add_one rcv.theirDataSeqBase 49
  exact next.symm

/-- The window then ends where it did. -/
theorem rightEdge_waits {rcv : ReceiveSide} (waits : windowWaits rcv)
    (few : rcv.ourRwnd.toNat ≤ REC_QUEUE_LIMIT / 2)
    (left : rcv.ourRwndPosSeq + 1 - rcv.theirDataSeqBase ≤ rcv.ourRwnd) :
    rightEdge (umpRefreshOurRwndPos rcv) = rcv.ourRwndPosSeq + 1 := by
  rw [umpRefreshOurRwndPos_waits waits few left]
  show rcv.theirDataSeqBase + (rcv.ourRwndPosSeq + 1 - rcv.theirDataSeqBase) = _
  rw [UInt16.add_comm, UInt16.sub_add_cancel]

/-! ### Runs -/

section Runs

variable {Lists : Type} [ReceiveLists Lists] {u : UMPSocket Lists} {event : SockEvent}

/-- The right edge behind the last refresh without a complete message since the peer's
SYN was taken. -/
def idleEdge (u : UMPSocket Lists) (event : SockEvent) (edge : Option UInt16) : Option UInt16 :=
  if u.core.ctrl.synReced = false ∧ (sockStep u event).core.ctrl.synReced = true then none
  else if event = .refreshRwnd ∧ u.core.rcv.rcvPacketsMsgNum ≤ 0 then
    some (rightEdge (sockStep u event).core.rcv)
  else edge

/-- The window is not too large, and while messages wait it ends no further than it did
before. -/
structure WindowAnnounced (rcv : ReceiveSide) (edge : Option UInt16) : Prop where
  bounded : rcv.ourRwnd.toNat ≤ REC_QUEUE_LIMIT / 2
  edge : rcv.rcvPacketsMsgNum > 0 → ∀ before ∈ edge, offset before (rightEdge rcv) ≤ 0

/-- The edge before messages waited is the one `our_rwnd_pos_seq` stands for. -/
structure Edged (rcv : ReceiveSide) (edge : Option UInt16) : Prop where
  few : rcv.ourRwnd.toNat ≤ REC_QUEUE_LIMIT / 2
  last : ∀ before ∈ edge, before = rcv.ourRwndPosSeq + 1

theorem Edged.refresh {edge : Option UInt16} (edged : Edged u.core.rcv edge)
    (kept : keepsEdge u .refreshRwnd) :
    Edged (umpRefreshOurRwndPos u.core.rcv) (idleEdge u .refreshRwnd edge) ∧
      (windowWaits u.core.rcv → ∀ before ∈ edge,
        before = rightEdge (umpRefreshOurRwndPos u.core.rcv)) := by
  have sameSyn : ¬ (u.core.ctrl.synReced = false ∧
      (sockStep u .refreshRwnd).core.ctrl.synReced = true) := by
    rintro ⟨unheard, heard⟩
    exact absurd (unheard.symm.trans heard) (by decide)
  have after : (sockStep u .refreshRwnd).core.rcv = umpRefreshOurRwndPos u.core.rcv := rfl
  unfold idleEdge
  rw [if_neg sameSyn, after]
  by_cases waits : windowWaits u.core.rcv
  · have closed := umpRefreshOurRwndPos_waits waits edged.few (kept waits)
    have ends := rightEdge_waits waits edged.few (kept waits)
    have samePos : (umpRefreshOurRwndPos u.core.rcv).ourRwndPosSeq = u.core.rcv.ourRwndPosSeq := by
      rw [closed]
    refine ⟨⟨?_, ?_⟩, fun _ before member => ?_⟩
    · rw [closed]
      exact Nat.le_trans (UInt16.le_iff_toNat_le.mp (kept waits)) edged.few
    · intro before member
      rw [samePos]
      split at member
      · rw [← Option.some.inj member, ends]
      · exact edged.last before member
    · rw [ends]
      exact edged.last before member
  · obtain ⟨size, ends⟩ := umpRefreshOurRwndPos_free waits
    have idle : u.core.rcv.rcvPacketsMsgNum ≤ 0 := by
      by_contra some
      exact waits (.inl (by omega))
    rw [if_pos ⟨rfl, idle⟩]
    refine ⟨⟨Nat.le_of_eq size, ?_⟩, fun again => absurd again waits⟩
    intro before member
    rw [← Option.some.inj member, ends]

theorem Edged.step {edge : Option UInt16} (edged : Edged u.core.rcv edge)
    (kept : keepsEdge u event) :
    Edged (sockStep u event).core.rcv (idleEdge u event edge) := by
  by_cases refresh : event = .refreshRwnd
  · subst refresh
    exact (edged.refresh kept).1
  · have same := sockStep_window u refresh
    have sameRwnd : (sockStep u event).core.rcv.ourRwnd = u.core.rcv.ourRwnd :=
      congrArg Prod.fst same
    have samePos : (sockStep u event).core.rcv.ourRwndPosSeq = u.core.rcv.ourRwndPosSeq :=
      congrArg Prod.snd same
    refine ⟨by rw [sameRwnd]; exact edged.few, ?_⟩
    rw [samePos]
    unfold idleEdge
    split
    · nofun
    · rw [if_neg fun both => refresh both.1]
      exact edged.last

/-- While the data in order stays before the edge announced, every refresh announces a
window of at most `REC_QUEUE_LIMIT / 2` that ends no further than before messages
waited. -/
theorem windowAnnounced_of_run {seq : UInt16} {clock : Clock} {events : List SockEvent}
    (run : (sockMachine Lists).RunWhere keepsEdge (umpSockNew Lists seq clock) events u)
    (kept : keepsEdge u .refreshRwnd) :
    WindowAnnounced (sockStep u .refreshRwnd).core.rcv
      ((sockMachine Lists).noted idleEdge (umpSockNew Lists seq clock) events none) := by
  let Holds (u : UMPSocket Lists) (edge : Option UInt16) : Prop := Edged u.core.rcv edge
  have first : Holds (umpSockNew Lists seq clock) none := ⟨Nat.le_refl 50, nofun⟩
  have edged : Holds u
      ((sockMachine Lists).noted idleEdge (umpSockNew Lists seq clock) events none) := by
    refine run.noted_invariant first ?_
    intro state event edge edged allowed kept
    exact edged.step kept
  obtain ⟨after, ends⟩ := Edged.refresh edged kept
  refine ⟨after.few, fun some before member => ?_⟩
  have counted : (umpRefreshOurRwndPos u.core.rcv).rcvPacketsMsgNum =
      u.core.rcv.rcvPacketsMsgNum := by
    unfold umpRefreshOurRwndPos
    split <;> rfl
  have waits : windowWaits u.core.rcv := .inl (by rw [← counted]; exact some)
  rw [ends waits before member]
  exact Int.le_of_eq (offset_self _)

end Runs

/-- Messages of one packet, numbered from `first` on. -/
def dataMessages (first : UInt16) (count : Nat) : List SockEvent :=
  (List.range count).map fun i => .dataPacket (dataMessage (first + UInt16.ofNat i))

/-- The theorem holds of a socket in which a message waits behind the one for the user. -/
theorem windowAnnounced_twoMessages :
    WindowAnnounced
      (sockStep ((sockMachine GLists).after (umpSockNew GLists 100 ⟨fun _ => ⟨0, 0⟩, 0⟩)
        (passiveOpen 7 100 ++ .refreshRwnd :: dataMessages 7 2)) .refreshRwnd).core.rcv
      ((sockMachine GLists).noted idleEdge (umpSockNew GLists 100 ⟨fun _ => ⟨0, 0⟩, 0⟩)
        (passiveOpen 7 100 ++ .refreshRwnd :: dataMessages 7 2) none) :=
  windowAnnounced_of_run (Machine.runWhere_of_check (by decide +kernel)) (by decide +kernel)

/-- Behind a window of 50 come 51 messages before the next refresh. -/
theorem windowAnnounced_fails :
    ¬ ∀ (seq : UInt16) (clock : Clock) (events : List SockEvent) (u : UMPSocket GLists),
      (sockMachine GLists).Run (umpSockNew GLists seq clock) events u →
        u.core.ctrl.state = .established →
          WindowAnnounced (sockStep u .refreshRwnd).core.rcv
            ((sockMachine GLists).noted idleEdge (umpSockNew GLists seq clock) events none) := by
  intro always
  have run : (sockMachine GLists).Run (umpSockNew GLists 100 ⟨fun _ => ⟨0, 0⟩, 0⟩)
      (passiveOpen 7 100 ++ .refreshRwnd :: dataMessages 7 51) _ :=
    Machine.runWhere_of_check (by decide +kernel)
  have small := (always 100 _ _ _ run (by decide +kernel)).bounded
  exact absurd small (by decide +kernel)

end UserMessageProtocol
