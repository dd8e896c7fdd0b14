import UserMessageProtocol.Network.Wire
import UserMessageProtocol.Receiver.Window
import UserMessageProtocol.Sender.IndexSafety
import UserMessageProtocol.Socket.Iteration

/-!
Contract: acks of received data, from the packet that asks for one to the packet that
carries it.

Owns: which packets carry an ack (`Tells`), what each event does to the acks owed, how
many numbered packets were handled since the last ack (`unackedBehind`), and the theorem
`delayedAcks_of_run` about the iterations of the socket thread.

Does not own: the answers to window probes (`Receiver.Probes`).
-/

set_option autoImplicit false

namespace UserMessageProtocol

/-! ### Packets that carry an ack -/

def carriesAck (p : UMPPacket) : Bool := p.pType == .data && uPacketGetFlag p UP_DATA_ACK

/-- A data packet with the ack and the window of `ackInfo`. -/
structure Tells (ackInfo : UMPAckInfo) (p : UMPPacket) : Prop where
  carries : carriesAck p = true
  windowed : uPacketGetFlag p UP_DATA_WND = true
  ackNum : p.ackNum = ackInfo.dataAckSeq
  wndNum : p.wndNum = ackInfo.dataAckWnd

theorem tells_toBinary {p : UMPPacket} (ackInfo : UMPAckInfo) (data : p.pType = .data) :
    Tells ackInfo (uPacketToBinary (umpSetPacketAckInfo ackInfo p)) := by
  have flag (mask : UInt8) : uPacketGetFlag (uPacketToBinary (umpSetPacketAckInfo ackInfo p)) mask =
      (uPacketGetFlag p mask || decide (UP_DATA_ACK &&& mask > 0) ||
        decide (UP_DATA_WND &&& mask > 0)) := by
    rw [getFlag_toBinary, setPacketAckInfo_getFlag _ _ data]
  constructor
  · have set : decide (UP_DATA_ACK &&& UP_DATA_ACK > 0) = true := by decide
    rw [carriesAck, toBinary_pType, setPacketAckInfo_pType, data, flag UP_DATA_ACK, set]
    simp
  · have set : decide (UP_DATA_WND &&& UP_DATA_WND > 0) = true := by decide
    rw [flag UP_DATA_WND, set]
    simp
  · simp [umpSetPacketAckInfo]
  · unfold uPacketToBinary
    split <;> rfl

/-- The flags of an ack and of its window. -/
def IsAckFlag (mask : UInt8) : Prop := mask = UP_DATA_ACK ∨ mask = UP_DATA_WND

theorem ackFlag_clearPacketAckInfo (p : UMPPacket) {mask : UInt8} (ackFlag : IsAckFlag mask) :
    uPacketGetFlag (umpClearPacketAckInfo p) mask = false := by
  unfold umpClearPacketAckInfo
  rcases ackFlag with ack | wnd
  · rw [ack, getFlag_clearFlag _ _ _ (by decide), getFlag_clearFlag_self]
  · rw [wnd, getFlag_clearFlag_self]

/-- A packet with an ack or a window is sent only when an ack is due, and carries that one. -/
theorem Sent.tells {s : SocketCore} {p : UMPPacket} {mask : UInt8} (sent : Sent s p)
    (typed : s.handshake.Typed) (data : p.pType = .data) (ackFlag : IsAckFlag mask)
    (flag : uPacketGetFlag p mask) : s.ackInfo.dataAckSet = true ∧ Tells s.ackInfo p := by
  cases sent with
  | dataAck due => exact ⟨due, tells_toBinary _ rfl⟩
  | probe => rcases ackFlag with rfl | rfl <;> exact absurd flag (by decide)
  | fragment q locked found =>
      rw [outgoingPacket_pType] at data
      unfold outgoingPacket at flag ⊢
      split
      · rename_i due
        exact ⟨due, tells_toBinary _ data⟩
      · rename_i clear
        rw [if_neg clear, getFlag_toBinary, ackFlag_clearPacketAckInfo _ ackFlag] at flag
        cases flag
  | pending q pending =>
      rw [pendingOnWire_pType _ (typed q pending)] at data
      cases data
  | ctrlAck due => exact absurd ((ctrlAckAlone_pType _).symm.trans data) (by decide)
  | reset => exact absurd data (by decide)

/-! ### What the events do to the acks owed -/

section Steps

variable {Lists : Type} [ReceiveLists Lists] {u : UMPSocket Lists} {event : SockEvent}

/-- An ack that is due goes out with the next packet, unless there is no packet at
`our_data_pos`. -/
theorem sendData_acks (shaped : WellShaped u) :
    (u.core.ackInfo.dataAckSet = true ∧ (sockStep u .sendData).core.acks = u.core.acks.told ∧
        ∃ p, sentBy u .sendData = [p] ∧ Tells u.core.ackInfo p) ∨
      (u.core.ackInfo.dataAckSet = false ∨ ¬ IndexSafe u.core.snd) ∧
        (sockStep u .sendData).core.acks = u.core.acks := by
  have quiet (clear : u.core.ackInfo.dataAckSet = false) : u.core.acks.told = u.core.acks := by
    unfold DataAcks.told SocketCore.acks UMPAckInfo.data
    rw [clear]
  have alone (same : (sockStep u .sendData).core = sendAckAlone u.core) :
      (u.core.ackInfo.dataAckSet = true ∧ (sockStep u .sendData).core.acks = u.core.acks.told ∧
          ∃ p, sentBy u .sendData = [p] ∧ Tells u.core.ackInfo p) ∨
        (u.core.ackInfo.dataAckSet = false ∨ ¬ IndexSafe u.core.snd) ∧
          (sockStep u .sendData).core.acks = u.core.acks := by
    unfold sendAckAlone at same
    split at same
    · rename_i due
      refine .inl ⟨due, congrArg SocketCore.acks same, _, ?_,
        tells_toBinary (p := uPacketNew .data .outgoing) _ rfl⟩
      have logged : traffic (sockStep u .sendData).core.log =
          [.sendto (uPacketToBinary (umpSetPacketAckInfo u.core.ackInfo
            (uPacketNew .data .outgoing)))] ++ traffic u.core.log := by
        rw [same]
        rfl
      rw [sentBy_eq logged]
      rfl
    · rename_i clear
      exact .inr ⟨.inl ((Bool.not_eq_true _).mp clear), congrArg SocketCore.acks same⟩
  have step : (sockStep u .sendData).core = umpHandleSendData u.core := rfl
  unfold umpHandleSendData umpSndlockedHandleSendData at step
  split at step
  · exact alone step
  · rename_i locked
    split at step
    · rename_i window
      split at step
      · rename_i none
        refine .inr ⟨.inr fun safe => ?_, congrArg SocketCore.acks step⟩
        obtain ⟨-, -, p, found, -⟩ := safe locked window
        rw [found] at none
        cases none
      · rename_i p found
        have logged : traffic (sockStep u .sendData).core.log =
            [.sendto (outgoingPacket u.core.ackInfo p)] ++ traffic u.core.log := by
          rw [step]
          rfl
        have acks : (sockStep u .sendData).core.acks = u.core.acks.told :=
          congrArg SocketCore.acks step
        cases due : u.core.ackInfo.dataAckSet with
        | false => exact .inr ⟨.inl rfl, acks.trans (quiet due)⟩
        | true =>
            refine .inl ⟨rfl, acks, _, by rw [sentBy_eq logged]; rfl, ?_⟩
            unfold outgoingPacket
            rw [if_pos due]
            exact tells_toBinary _ (Sent.fragment_pType shaped.shape locked found)
    · exact alone step

/-- The acks `acks'` come from `acks` by asking for more. -/
inductive Asks (acks : DataAcks) : DataAcks → Prop where
  | none : Asks acks acks
  | more {acks' : DataAcks} (pushAck : Bool) (asks : Asks acks acks') :
      Asks acks (acks'.ask pushAck)

namespace Asks

variable {acks acks' : DataAcks}

theorem dataAckSet (asks : Asks acks acks') : acks'.dataAckSet = acks.dataAckSet := by
  induction asks with
  | none => rfl
  | more pushAck asks inductionHypothesis => rw [DataAcks.ask_dataAckSet, inductionHypothesis]

theorem dataAckSeq (asks : Asks acks acks') : acks'.dataAckSeq = acks.dataAckSeq := by
  induction asks with
  | none => rfl
  | more pushAck asks inductionHypothesis => rw [DataAcks.ask_dataAckSeq, inductionHypothesis]

end Asks

theorem DataAcks.owed_ask (acks : DataAcks) (pushAck : Bool) : (acks.ask pushAck).owed = true := by
  unfold DataAcks.ask DataAcks.owed
  repeat' split
  all_goals simp

/-- Who asks a second time is answered at once. -/
theorem DataAcks.ask_again {acks : DataAcks} (owed : acks.owed = true) (pushAck : Bool) :
    (acks.ask pushAck).pushAck = true := by
  unfold DataAcks.owed at owed
  unfold DataAcks.ask
  repeat' split
  · rfl
  · rename_i first
    rw [first, Bool.or_false] at owed
    exact owed
  · rfl

theorem Asks.owed {acks acks' : DataAcks} (asks : Asks acks acks') (owed : acks.owed = true) :
    acks'.owed = true := by
  cases asks with
  | none => exact owed
  | more pushAck asks => exact DataAcks.owed_ask _ _

theorem Asks.pushAck {acks acks' : DataAcks} (asks : Asks acks acks')
    (push : acks.pushAck = true) : acks'.pushAck = true := by
  induction asks with
  | none => exact push
  | more pushAck asks inductionHypothesis =>
      apply DataAcks.ask_again
      unfold DataAcks.owed
      rw [inductionHypothesis, Bool.true_or]

/-- The event is a numbered data packet. -/
def SockEvent.bringsNumber : SockEvent → Bool
  | .dataPacket p => uPacketGetFlag p UP_DATA_SEQ
  | _ => false

/-- An event that neither tells an ack nor sends data asks for acks at most, and a
numbered packet asks for one. -/
theorem sockStep_asks (untold : event ≠ .refreshAck) (unsent : event ≠ .sendData) :
    Asks (if event.bringsNumber then u.core.acks.ask false else u.core.acks)
      (sockStep u event).core.acks := by
  have step := receive_step u event
  generalize sockStep u event = w at step ⊢
  cases step with
  | idle event unheard untaken same acks =>
      rw [acks]
      cases event with
      | dataPacket p => exact absurd rfl (unheard p)
      | _ => exact .none
  | syn p taken lists received acks =>
      rw [acks]
      exact .none
  | tell owed same acks => exact absurd rfl untold
  | told same acks => exact absurd rfl unsent
  | beat established same acks =>
      rw [acks]
      exact .more false .none
  | receive user finished =>
      rw [finished, finishReceive_acks]
      exact .more true .none
  | dropped p outside same acks =>
      rw [acks]
      exact .none
  | stored p established inRange v same rcv acks after =>
      rw [after]
      rcases storePacket_acks v p with kept | pushed
      · rw [kept, acks]
        exact .none
      · rw [pushed, acks]
        exact .more true .none

theorem umpRefreshOurAckInfo_pushAck (s : SocketCore) :
    (umpRefreshOurAckInfo s).ackInfo.pushAck = false := by
  unfold umpRefreshOurAckInfo
  dsimp only
  repeat' split
  · rfl
  · rename_i idle _ _
    exact (Bool.not_eq_true _).mp idle
  · rfl
  · rename_i idle _
    exact (Bool.not_eq_true _).mp idle

/-! ### How many packets were not acknowledged -/

/-- The numbered packets handled since an ack was last sent. -/
def unackedBehind (u : UMPSocket Lists) (event : SockEvent) (count : Nat) : Nat :=
  if (sentBy u event).any carriesAck then 0 else count + event.bringsNumber.toNat

/-- A numbered packet that was not acknowledged asked for an ack, and a second one wants
it at once. -/
structure Owing (acks : DataAcks) (count : Nat) : Prop where
  one : 1 ≤ count → acks.owed = true ∨ acks.dataAckSet = true
  two : 2 ≤ count → acks.pushAck = true ∨ acks.dataAckSet = true

theorem Owing.zero (acks : DataAcks) : Owing acks 0 := ⟨by omega, by omega⟩

theorem Owing.asks {acks acks' : DataAcks} {count : Nat} (owing : Owing acks count)
    (asks : Asks acks acks') : Owing acks' count where
  one some := by
    rw [asks.dataAckSet]
    exact (owing.one some).imp_left asks.owed
  two some := by
    rw [asks.dataAckSet]
    exact (owing.two some).imp_left asks.pushAck

theorem Owing.number {acks : DataAcks} {count : Nat} (owing : Owing acks count) :
    Owing (acks.ask false) (count + 1) where
  one _ := .inl (DataAcks.owed_ask acks false)
  two some := by
    rw [DataAcks.ask_dataAckSet]
    exact (owing.one (by omega)).imp_left fun owed => DataAcks.ask_again owed false

theorem Owing.tell (base : UInt16) (count : Nat) : Owing (.tell base) count :=
  ⟨fun _ => .inr rfl, fun _ => .inr rfl⟩

/-- What an event leaves owed to the packets that were not acknowledged. -/
theorem Owing.step {count : Nat} (shaped : WellShaped u) (owing : Owing u.core.acks count) :
    Owing (sockStep u event).core.acks (unackedBehind u event count) := by
  unfold unackedBehind
  split
  · exact .zero _
  · rename_i unacked
    by_cases refreshes : event = .refreshAck
    · subst refreshes
      show Owing (umpRefreshOurAckInfo u.core).acks count
      rcases umpRefreshOurAckInfo_acks u.core with kept | ⟨-, tells⟩
      · rw [kept]
        exact owing
      · rw [tells]
        exact .tell _ count
    · by_cases sends : event = .sendData
      · subst sends
        rcases sendData_acks shaped with ⟨-, -, p, sent, tells⟩ | ⟨-, kept⟩
        · rw [sent] at unacked
          simp [tells.carries] at unacked
        · rw [kept]
          exact owing
      · have asks := sockStep_asks (u := u) refreshes sends
        split at asks
        · rename_i number
          rw [number]
          exact owing.number.asks asks
        · rename_i plain
          rw [(Bool.not_eq_true _).mp plain]
          exact owing.asks asks

/-! ### The packets of an iteration -/

/-- The packets sent along some events, oldest first. -/
def sentAlong : UMPSocket Lists → List SockEvent → List UMPPacket
  | _, [] => []
  | u, event :: rest => sentBy u event ++ sentAlong (sockStep u event) rest

theorem sentAlong_append (events later : List SockEvent) :
    sentAlong u (events ++ later) =
      sentAlong u events ++ sentAlong ((sockMachine Lists).after u events) later := by
  induction events generalizing u with
  | nil => rfl
  | cons event events inductionHypothesis =>
      rw [List.cons_append, sentAlong, sentAlong, inductionHypothesis, List.append_assoc]
      rfl

/-- The ack and the window in a data packet are those of the receiver. -/
def Current (theirDataSeqBase ourRwnd : UInt16) (p : UMPPacket) : Prop :=
  p.pType = .data →
    (uPacketGetFlag p UP_DATA_ACK → p.ackNum = theirDataSeqBase) ∧
      (uPacketGetFlag p UP_DATA_WND → p.wndNum = ourRwnd)

/-- An ack that is due tells where the receiver is, and its window. -/
def UpToDate (s : SocketCore) : Prop :=
  s.ackInfo.dataAckSet = true →
    s.ackInfo.dataAckSeq = s.rcv.theirDataSeqBase ∧ s.ackInfo.dataAckWnd = s.rcv.ourRwnd

theorem UpToDate.unset {s : SocketCore} (unset : s.ackInfo.dataAckSet = false) : UpToDate s := by
  intro due
  rw [unset] at due
  cases due

theorem UpToDate.current {p : UMPPacket} (fresh : UpToDate u.core) (shaped : WellShaped u)
    (member : p ∈ sentBy u event) :
    Current u.core.rcv.theirDataSeqBase u.core.rcv.ourRwnd p := by
  have sent := sent_of_sentBy shaped member
  have typed := shaped.sound.typed
  intro data
  constructor
  · intro flag
    obtain ⟨due, tells⟩ := sent.tells typed data (.inl rfl) flag
    exact tells.ackNum.trans (fresh due).1
  · intro flag
    obtain ⟨due, tells⟩ := sent.tells typed data (.inr rfl) flag
    exact tells.wndNum.trans (fresh due).2

/-- The handlers behind `ump_refresh_our_ack_info`. -/
def sendEvents : List SockEvent :=
  [.actReqWnd, .ctrlTimeout, .sendCtrlPacket, .heartbeat, .sendData, .sendReset]

/-- What the acks are made of. -/
def SocketCore.ackSource (s : SocketCore) : UInt16 × UInt16 × UInt16 :=
  (s.rcv.theirDataSeqBase, s.rcv.ourRwnd, s.ackInfo.dataAckWnd)

theorem umpSetOurAckInfo_dataAckWnd (ackInfo : UMPAckInfo) (pushAck : Bool) :
    (umpSetOurAckInfo ackInfo pushAck).dataAckWnd = ackInfo.dataAckWnd := by
  unfold umpSetOurAckInfo
  repeat' split
  all_goals rfl

theorem umpHandleSendCtrlPacket_dataAckWnd (s : SocketCore) :
    (umpHandleSendCtrlPacket s).ackInfo.dataAckWnd = s.ackInfo.dataAckWnd := by
  unfold umpHandleSendCtrlPacket sendCtrlAckAlone
  dsimp only
  repeat' split
  all_goals rfl

theorem umpHandleSendHeartbeat_dataAckWnd (s : SocketCore) :
    (umpHandleSendHeartbeat s).ackInfo.dataAckWnd = s.ackInfo.dataAckWnd := by
  unfold umpHandleSendHeartbeat
  dsimp only
  repeat' split
  · rfl
  · exact umpSetOurAckInfo_dataAckWnd _ _
  · rfl

theorem umpHandleSendData_dataAckWnd (s : SocketCore) :
    (umpHandleSendData s).ackInfo.dataAckWnd = s.ackInfo.dataAckWnd := by
  unfold umpHandleSendData umpSndlockedHandleSendData sendAckAlone
  dsimp only
  repeat' split
  all_goals rfl

/-- The handlers that send leave what acks are made of alone. -/
theorem sockStep_ackSource (sends : event ∈ sendEvents) :
    (sockStep u event).core.ackSource = u.core.ackSource := by
  have same (received : (sockStep u event).core.received = u.core.received)
      (window : (sockStep u event).core.rcv.window = u.core.rcv.window)
      (wnd : (sockStep u event).core.ackInfo.dataAckWnd = u.core.ackInfo.dataAckWnd) :
      (sockStep u event).core.ackSource = u.core.ackSource := by
    have base := congrArg ReceivePart.theirDataSeqBase received
    have ourRwnd := congrArg Prod.fst window
    exact Prod.ext base (Prod.ext ourRwnd wnd)
  have other : event ≠ .refreshRwnd := by
    rintro rfl
    exact absurd sends (by decide)
  have window := sockStep_window u other
  have ackInfo {t : SocketCore} (kept : t.ackInfo = u.core.ackInfo) :
      t.ackInfo.dataAckWnd = u.core.ackInfo.dataAckWnd := congrArg UMPAckInfo.dataAckWnd kept
  simp only [sendEvents, List.mem_cons, List.not_mem_nil, or_false] at sends
  rcases sends with rfl | rfl | rfl | rfl | rfl | rfl
  · exact same (umpActReqWnd_received u.core) window (ackInfo (umpActReqWnd_ackInfo u.core))
  · exact same (umpHandleCtrlTimeout_received u.core) window
      (ackInfo (umpHandleCtrlTimeout_ackInfo u.core))
  · exact same (umpHandleSendCtrlPacket_received u.core) window
      (umpHandleSendCtrlPacket_dataAckWnd u.core)
  · have received := received_congr u.core (umpHandleSendHeartbeat_rcv u.core)
      (umpHandleSendHeartbeat_log u.core)
    exact same received window (umpHandleSendHeartbeat_dataAckWnd u.core)
  · exact same (umpHandleSendData_received u.core) window (umpHandleSendData_dataAckWnd u.core)
  · exact same (umpHandleSendResetPacket_received u.core) window
      (ackInfo (umpHandleSendResetPacket_ackInfo u.core))

/-- Only `ump_refresh_our_ack_info` makes an ack due. -/
theorem sockStep_dataAckSet (untold : event ≠ .refreshAck) (unsent : event ≠ .sendData) :
    (sockStep u event).core.acks.dataAckSet = u.core.acks.dataAckSet := by
  have asks := sockStep_asks (u := u) untold unsent
  rw [asks.dataAckSet]
  split
  · rw [DataAcks.ask_dataAckSet]
  · rfl

/-- While no ack is due, none is sent. -/
theorem current_of_unset {p : UMPPacket} (unset : u.core.ackInfo.dataAckSet = false)
    (shaped : WellShaped u) (member : p ∈ sentBy u event) (theirDataSeqBase ourRwnd : UInt16) :
    Current theirDataSeqBase ourRwnd p := by
  have sent := sent_of_sentBy shaped member
  have silent {mask : UInt8} (data : p.pType = .data) (ackFlag : IsAckFlag mask)
      (flag : uPacketGetFlag p mask) : False := by
    obtain ⟨due, _⟩ := sent.tells shaped.sound.typed data ackFlag flag
    rw [unset] at due
    cases due
  exact fun data => ⟨fun flag => (silent data (.inl rfl) flag).elim,
    fun flag => (silent data (.inr rfl) flag).elim⟩

/-! ### Phases of an iteration -/

/-- What the runs in which no ack is read as a number before the message keep. -/
structure SafeIndex (u : UMPSocket Lists) : Prop where
  shaped : WellShaped u
  positions : Positions u.core.snd

theorem SafeIndex.step (safe : SafeIndex u) (allowed : sockEnabled u event)
    (kept : keepsStart u event) : SafeIndex (sockStep u event) :=
  ⟨safe.shaped.step allowed, sockStep_positions allowed kept safe.shaped.shape safe.positions⟩

/-- An ack that is due goes out with `ump_handle_send_data`. -/
theorem SafeIndex.sendData (safe : SafeIndex u) :
    (sockStep u .sendData).core.acks.dataAckSet = false := by
  rcases sendData_acks safe.shaped with ⟨-, told, -⟩ | ⟨unset | unsafe', kept⟩
  · rw [told]
    rfl
  · rw [kept]
    exact unset
  · exact absurd (safe.positions.indexSafe safe.shaped.shape) unsafe'

/-- What the handlers before `ump_refresh_our_ack_info` keep. -/
structure Unset (u : UMPSocket Lists) : Prop where
  safe : SafeIndex u
  unset : u.core.acks.dataAckSet = false

variable {w : UMPSocket Lists} {events : List SockEvent}

theorem Unset.along (unset : Unset u)
    (run : (sockMachine Lists).RunWhere keepsStart u events w)
    (early : ∀ event ∈ events, event ≠ .refreshAck ∧ event ≠ .sendData) :
    Unset w ∧ ∀ p ∈ sentAlong u events, ∀ theirDataSeqBase ourRwnd,
      Current theirDataSeqBase ourRwnd p := by
  induction run with
  | stay => exact ⟨unset, fun p member => absurd member List.not_mem_nil⟩
  | @go events w event run allowed kept inductionHypothesis =>
      obtain ⟨before, quiet⟩ := inductionHypothesis fun event member =>
        early event (List.mem_append_left _ member)
      obtain ⟨untold, unsent⟩ := early event (List.mem_append_right _ List.mem_cons_self)
      refine ⟨⟨before.safe.step allowed kept, ?_⟩, ?_⟩
      · show (sockStep w event).core.acks.dataAckSet = false
        rw [sockStep_dataAckSet untold unsent]
        exact before.unset
      · intro p member
        rw [sentAlong_append, run.after_eq, sentAlong, sentAlong, List.append_nil] at member
        rcases List.mem_append.mp member with earlier | last
        · exact quiet p earlier
        · exact current_of_unset before.unset before.safe.shaped last

/-- What the handlers behind `ump_refresh_our_ack_info` keep. -/
structure Refreshed (u : UMPSocket Lists) (count : Nat) : Prop where
  safe : SafeIndex u
  upToDate : UpToDate u.core
  bounded : 2 ≤ count → u.core.acks.dataAckSet = true

theorem UpToDate.step (upToDate : UpToDate u.core) (safe : SafeIndex u)
    (sends : event ∈ sendEvents) : UpToDate (sockStep u event).core := by
  by_cases sending : event = .sendData
  · subst sending
    exact .unset safe.sendData
  · have untold : event ≠ .refreshAck := by
      rintro rfl
      exact absurd sends (by decide)
    have set := sockStep_dataAckSet (u := u) untold sending
    have asks := (sockStep_asks (u := u) untold sending).dataAckSeq
    have source := sockStep_ackSource (u := u) sends
    have number : (sockStep u event).core.ackInfo.dataAckSeq = u.core.ackInfo.dataAckSeq := by
      refine asks.trans ?_
      split
      · exact DataAcks.ask_dataAckSeq _ _
      · rfl
    unfold SocketCore.ackSource at source
    obtain ⟨base, ourRwnd, wnd⟩ := Prod.mk.inj source |>.imp_right Prod.mk.inj
    intro due
    rw [number, wnd, base, ourRwnd]
    exact upToDate (set.symm.trans due)

theorem Refreshed.step {count : Nat} (refreshed : Refreshed u count)
    (allowed : sockEnabled u event) (kept : keepsStart u event) (sends : event ∈ sendEvents) :
    Refreshed (sockStep u event) (unackedBehind u event count) where
  safe := refreshed.safe.step allowed kept
  upToDate := refreshed.upToDate.step refreshed.safe sends
  bounded := by
    have unnumbered : event.bringsNumber = false := by
      simp only [sendEvents, List.mem_cons, List.not_mem_nil, or_false] at sends
      rcases sends with rfl | rfl | rfl | rfl | rfl | rfl <;> rfl
    unfold unackedBehind
    rw [unnumbered]
    split
    · intro two
      omega
    · rename_i unacked
      intro two
      by_cases sending : event = .sendData
      · subst sending
        have due := refreshed.bounded two
        rcases sendData_acks refreshed.safe.shaped with ⟨-, -, p, sent, tells⟩ | ⟨unset | wild, -⟩
        · rw [sent] at unacked
          simp [tells.carries] at unacked
        · exact absurd (due.symm.trans unset) (by decide)
        · exact absurd (refreshed.safe.positions.indexSafe refreshed.safe.shaped.shape) wild
      · have untold : event ≠ .refreshAck := by
          rintro rfl
          exact absurd sends (by decide)
        rw [sockStep_dataAckSet untold sending]
        exact refreshed.bounded two

theorem Refreshed.along {count : Nat} (refreshed : Refreshed u count)
    (run : (sockMachine Lists).RunWhere keepsStart u events w)
    (sends : ∀ event ∈ events, event ∈ sendEvents) :
    Refreshed w ((sockMachine Lists).noted unackedBehind u events count) ∧
      w.core.ackSource = u.core.ackSource ∧
      ∀ p ∈ sentAlong u events, Current u.core.rcv.theirDataSeqBase u.core.rcv.ourRwnd p := by
  induction run with
  | stay => exact ⟨refreshed, rfl, fun p member => absurd member List.not_mem_nil⟩
  | @go events w event run allowed kept inductionHypothesis =>
      obtain ⟨before, source, current⟩ := inductionHypothesis fun event member =>
        sends event (List.mem_append_left _ member)
      have last := sends event (List.mem_append_right _ List.mem_cons_self)
      rw [Machine.noted_append, run.after_eq]
      refine ⟨before.step allowed kept last, (sockStep_ackSource last).trans source, ?_⟩
      intro p member
      rw [sentAlong_append, run.after_eq, sentAlong, sentAlong, List.append_nil] at member
      rcases List.mem_append.mp member with earlier | here
      · exact current p earlier
      · have base : w.core.rcv.theirDataSeqBase = u.core.rcv.theirDataSeqBase :=
          congrArg Prod.fst source
        have ourRwnd : w.core.rcv.ourRwnd = u.core.rcv.ourRwnd :=
          congrArg (fun source => source.2.1) source
        rw [← base, ← ourRwnd]
        exact before.upToDate.current before.safe.shaped here

/-! ### Iterations -/

/-- `ump_refresh_our_ack_info` takes the numbers of the receiver. -/
theorem upToDate_refreshAck (unset : u.core.acks.dataAckSet = false) :
    UpToDate (sockStep u .refreshAck).core := by
  have clear : u.core.ackInfo.dataAckSet = false := unset
  show UpToDate (umpRefreshOurAckInfo u.core)
  unfold umpRefreshOurAckInfo
  dsimp only
  repeat' split
  · exact fun _ => ⟨rfl, rfl⟩
  · exact .unset clear
  · exact fun _ => ⟨rfl, rfl⟩
  · exact .unset clear

/-- The events of an iteration up to `ump_refresh_our_ack_info`. -/
def earlyEvents (q : PacketQueues) : List SockEvent :=
  packetEvents q ++ [.dataTimeout, .refreshRwnd]

theorem earlyEvents_early {q : PacketQueues} :
    ∀ event ∈ earlyEvents q, event ≠ .refreshAck ∧ event ≠ .sendData := by
  intro event member
  unfold earlyEvents packetEvents fetchedEvents callEvents at member
  simp only [List.mem_append, List.mem_cons, List.mem_map, List.not_mem_nil, or_false] at member
  rcases member with ((calls | rfl | ⟨p, -, rfl⟩) | ⟨p, -, rfl⟩) | rfl | rfl
  · rcases calls with rfl | rfl | rfl <;> simp
  all_goals simp

theorem iterationEvents_phases {s : UMPSocket Lists} {q : PacketQueues}
    (all : RunsAllHandlers s q) :
    iterationEvents s q =
      earlyEvents (umpSockFetchReceivedPackets q) ++ .refreshAck :: sendEvents := by
  rw [iterationEvents_all all, earlyEvents, List.append_assoc]
  rfl

/-- What an iteration that starts with no ack due does. -/
structure Iterated (u w : UMPSocket Lists) (events : List SockEvent) : Prop where
  unset : Unset w
  current : ∀ p ∈ sentAlong u events,
    Current w.core.rcv.theirDataSeqBase w.core.rcv.ourRwnd p

/-- An iteration that ends early sends no ack. -/
theorem Unset.iterated (unset : Unset u) (run : (sockMachine Lists).RunWhere keepsStart u events w)
    (early : ∀ event ∈ events, event ≠ .refreshAck ∧ event ≠ .sendData) :
    Iterated u w events := by
  obtain ⟨still, quiet⟩ := unset.along run early
  exact ⟨still, fun p member => quiet p member _ _⟩

theorem SafeIndex.along (safe : SafeIndex u)
    (run : (sockMachine Lists).RunWhere keepsStart u events w) : SafeIndex w :=
  run.invariant safe fun _ _ before allowed kept => before.step allowed kept

theorem Owing.along {count : Nat} (owing : Owing u.core.acks count) (safe : SafeIndex u)
    (run : (sockMachine Lists).RunWhere keepsStart u events w) :
    Owing w.core.acks ((sockMachine Lists).noted unackedBehind u events count) := by
  let Holds (u : UMPSocket Lists) (count : Nat) : Prop :=
    SafeIndex u ∧ Owing u.core.acks count
  have first : Holds u count := ⟨safe, owing⟩
  have holds : Holds w ((sockMachine Lists).noted unackedBehind u events count) := by
    apply run.noted_invariant first
    intro u event count before allowed kept
    exact ⟨before.1.step allowed kept, before.2.step before.1.shaped⟩
  exact holds.2

/-- The handlers that send leave no ack due. -/
theorem sendEvents_unset (safe : SafeIndex u)
    (passed : (sockMachine Lists).check keepsStart u sendEvents = true) :
    ((sockMachine Lists).after u sendEvents).core.acks.dataAckSet = false := by
  have parts : sendEvents = [.actReqWnd, .ctrlTimeout, .sendCtrlPacket, .heartbeat] ++
      [.sendData, .sendReset] := rfl
  rw [parts] at passed ⊢
  obtain ⟨first, _⟩ := Machine.runWhere_split passed
  have before := safe.along first
  rw [after_append]
  generalize (sockMachine Lists).after u [.actReqWnd, .ctrlTimeout, .sendCtrlPacket, .heartbeat] = v
    at before
  show (sockStep (sockStep v .sendData) .sendReset).core.acks.dataAckSet = false
  rw [sockStep_dataAckSet (by decide) (by decide)]
  exact before.sendData

/-- A whole iteration tells its acks with the numbers of its end and leaves one packet
without an ack at most. -/
theorem Unset.iterated_all {q : PacketQueues} {count : Nat} (unset : Unset u)
    (owing : Owing u.core.acks count)
    (passed : (sockMachine Lists).check keepsStart u
      (earlyEvents q ++ .refreshAck :: sendEvents) = true) :
    Iterated u ((sockMachine Lists).after u (earlyEvents q ++ .refreshAck :: sendEvents))
        (earlyEvents q ++ .refreshAck :: sendEvents) ∧
      (sockMachine Lists).noted unackedBehind u (earlyEvents q ++ .refreshAck :: sendEvents)
        count ≤ 1 := by
  -- up to the refresh no ack is sent
  obtain ⟨early, rest⟩ := Machine.runWhere_split passed
  obtain ⟨before, quiet⟩ := unset.along early earlyEvents_early
  have owed := owing.along unset.safe early
  obtain ⟨v, reached⟩ : ∃ v, (sockMachine Lists).after u (earlyEvents q) = v := ⟨_, rfl⟩
  rw [reached] at early rest before owed
  -- the refresh makes what is owed due
  have refreshed : Refreshed (sockStep v .refreshAck) (unackedBehind v .refreshAck
      ((sockMachine Lists).noted unackedBehind u (earlyEvents q) count)) := by
    refine ⟨before.safe.step trivial trivial, upToDate_refreshAck before.unset, ?_⟩
    intro two
    have pushed : (sockStep v .refreshAck).core.acks.pushAck = false :=
      umpRefreshOurAckInfo_pushAck v.core
    rcases (owed.step before.safe.shaped).two two with push | due
    · exact absurd (pushed.symm.trans push) (by decide)
    · exact due
  -- what is due is sent
  simp only [Machine.check, Bool.and_eq_true] at rest
  have run := Machine.runWhere_of_check rest.2
  obtain ⟨final, source, current⟩ := refreshed.along run fun _ member => member
  have told : ((sockMachine Lists).after u (earlyEvents q ++ .refreshAck :: sendEvents)) =
      (sockMachine Lists).after (sockStep v .refreshAck) sendEvents := by
    rw [after_append, reached]
    rfl
  have clear := sendEvents_unset refreshed.safe rest.2
  rw [told]
  refine ⟨⟨⟨final.safe, clear⟩, ?_⟩, ?_⟩
  · intro p member
    rw [sentAlong_append, reached] at member
    rcases List.mem_append.mp member with first | later
    · exact quiet p first _ _
    · rcases List.mem_append.mp later with refresh | later
      · exact current_of_unset before.unset before.safe.shaped refresh _ _
      · have base := congrArg Prod.fst source
        have ourRwnd := congrArg (fun source => source.2.1) source
        have now := current p later
        exact fun data => ⟨fun flag => ((now data).1 flag).trans base.symm,
          fun flag => ((now data).2 flag).trans ourRwnd.symm⟩
  · rw [Machine.noted_append, reached]
    apply Nat.lt_succ_iff.mp
    apply Nat.lt_of_not_le
    intro two
    exact absurd (clear.symm.trans (final.bounded two)) (by decide)

/-! ### Runs -/

/-- The next iteration of the thread leaves one numbered packet without an ack at most,
and tells its acks with the numbers of its end. -/
structure AcksInTime (start : UMPSocket Lists) (t : ThreadState Lists) : Prop where
  bounded : RunsAllHandlers t.socket t.queues →
    (sockMachine Lists).noted unackedBehind start (threadStep t .iterate).events 0 ≤ 1
  current : ∀ p ∈ sentAlong t.socket (iterationEvents t.socket t.queues),
    Current (threadStep t .iterate).socket.core.rcv.theirDataSeqBase
      (threadStep t .iterate).socket.core.rcv.ourRwnd p

variable {start : UMPSocket Lists} {t : ThreadState Lists}

/-- An iteration starts and ends with no ack due. -/
theorem Unset.iterate (unset : Unset t.socket) (met : iterates keepsStart t .iterate) :
    Unset (threadStep t .iterate).socket ∧
      ∀ p ∈ sentAlong t.socket (iterationEvents t.socket t.queues),
        Current (threadStep t .iterate).socket.core.rcv.theirDataSeqBase
          (threadStep t .iterate).socket.core.rcv.ourRwnd p := by
  have reached : (threadStep t .iterate).socket =
      (sockMachine Lists).after t.socket (iterationEvents t.socket t.queues) :=
    umpSockThreadFunc_after t.socket t.queues
  rw [reached]
  by_cases all : RunsAllHandlers t.socket t.queues
  · have passed : (sockMachine Lists).check keepsStart t.socket
        (iterationEvents t.socket t.queues) = true := met
    rw [iterationEvents_phases all] at passed ⊢
    obtain ⟨iterated, _⟩ := unset.iterated_all (.zero _) passed
    exact ⟨iterated.unset, iterated.current⟩
  · have early : ∀ event ∈ iterationEvents t.socket t.queues,
        event ≠ .refreshAck ∧ event ≠ .sendData := by
      intro event member
      apply earlyEvents_early (q := umpSockFetchReceivedPackets t.queues) event
      unfold earlyEvents packetEvents fetchedEvents
      rcases iterationEvents_early all with calls | fetched
      · rw [calls] at member
        simp [member]
      · rw [fetched, fetchedEvents] at member
        rw [List.append_assoc]
        exact List.mem_append_left _ member
    have iterated := unset.iterated (Machine.runWhere_of_check met) early
    exact ⟨iterated.unset, iterated.current⟩

theorem Unset.call (unset : Unset u) (user : event.isUserCall) (allowed : sockEnabled u event)
    (kept : keepsStart u event) : Unset (sockStep u event) where
  safe := unset.safe.step allowed kept
  unset := by
    rw [sockStep_dataAckSet (by rintro rfl; cases user) (by rintro rfl; cases user)]
    exact unset.unset

variable {seq : UInt16} {clock : Clock} {threadEvents : List ThreadEvent}

theorem unset_new : Unset (umpSockNew Lists seq clock) :=
  ⟨⟨wellShaped_new seq clock, positions_new seq clock⟩, rfl⟩

/-- While no ack is read as a number before the message, every iteration that runs all
handlers ends with one numbered packet that was not acknowledged at most, and every ack
it sends tells the base and the window of that iteration. -/
theorem delayedAcks_of_run
    (run : (threadMachine Lists).RunWhere (iterates keepsStart) (.new (umpSockNew Lists seq clock))
      threadEvents t)
    (met : iterates keepsStart t .iterate) : AcksInTime (umpSockNew Lists seq clock) t := by
  let Holds (t : ThreadState Lists) : Prop := Unset t.socket
  have first : Holds (.new (umpSockNew Lists seq clock)) := unset_new
  have unset : Holds t := by
    apply Machine.RunWhere.invariant run first
    intro t event before allowed kept
    cases event with
    | call event => exact before.call allowed.1 allowed.2 kept
    | receive p => exact before
    | iterate => exact (before.iterate kept).1
  have earlier := sockMachine_runWhere run
  have owing := (Owing.zero _).along unset_new.safe earlier
  refine ⟨fun all => ?_, (unset.iterate met).2⟩
  have passed : (sockMachine Lists).check keepsStart t.socket
      (iterationEvents t.socket t.queues) = true := met
  show (sockMachine Lists).noted unackedBehind _
    (t.events ++ iterationEvents t.socket t.queues) 0 ≤ 1
  rw [Machine.noted_append, earlier.after_eq, iterationEvents_phases all]
  rw [iterationEvents_phases all] at passed
  exact (unset.iterated_all owing passed).2

end Steps

/-! ### Two runs of a thread -/

/-- A passive open, one handshake packet in each iteration. -/
def openedLife (theirs ours : UInt16) : List ThreadEvent :=
  [.receive (receivedForm (synPacket theirs 1400)), .iterate,
    .receive (receivedForm
      { uPacketSetFlag (uPacketNew .control .outgoing) UP_CTRL_ACK with ackNum := ours + 1 }),
    .iterate]

/-- Two messages of the peer come, and one is to be sent. -/
def twoMessagesLife : List ThreadEvent :=
  openedLife 7 100 ++
    [.call (.userSend [1]), .receive (dataMessage 7), .receive (dataMessage 8)]

def twoMessagesThread : ThreadState PlainLists :=
  (threadMachine PlainLists).after (.new (umpSockNew PlainLists 100 ⟨fun _ => ⟨0, 0⟩, 0⟩))
    twoMessagesLife

/-- The theorem holds of an iteration that handles two numbered packets and acknowledges
both with the packet it sends. -/
theorem delayedAcks_twoMessages :
    AcksInTime (umpSockNew PlainLists 100 ⟨fun _ => ⟨0, 0⟩, 0⟩) twoMessagesThread ∧
      (sentAlong twoMessagesThread.socket
        (iterationEvents twoMessagesThread.socket twoMessagesThread.queues)).map
          UMPPacket.ackNum = [9] :=
  ⟨delayedAcks_of_run (Machine.runWhere_of_check (by decide +kernel)) (by decide +kernel),
    by decide +kernel⟩

/-- Acks before the first packet put the base 32768 numbers ahead of the message, then
two numbered packets come with the acks that start a fast retransmit. -/
def wildIndexLife : List ThreadEvent :=
  openedLife 7 32769 ++
    [.receive (dataAck 0 50), .receive (dataAck 1 50), .iterate, .call (.userSend [1]),
      .receive (dataAck 1 50), .receive (dataAck 1 50),
      .receive (dataMessage 7), .receive (dataMessage 8)]

/-- The packet that should carry the ack is looked for before the start of
`snd_packets`. -/
theorem delayedAcks_fails :
    ¬ ∀ (seq : UInt16) (clock : Clock) (events : List ThreadEvent) (t : ThreadState PlainLists),
      (threadMachine PlainLists).Run (.new (umpSockNew PlainLists seq clock)) events t →
        AcksInTime (umpSockNew PlainLists seq clock) t := by
  intro always
  have run : (threadMachine PlainLists).Run
      (.new (umpSockNew PlainLists 32769 ⟨fun _ => ⟨0, 0⟩, 0⟩)) wildIndexLife _ :=
    Machine.runWhere_of_check (by decide +kernel)
  have inTime := always 32769 _ wildIndexLife _ run
  exact absurd (inTime.bounded (by decide +kernel)) (by decide +kernel)

end UserMessageProtocol
