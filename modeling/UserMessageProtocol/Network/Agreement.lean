import UserMessageProtocol.Network.Control
import UserMessageProtocol.Receiver.Steps

/-!
Contract: what two sockets agree on when a connection is established.

Owns: how often a socket that opens once queues a SYN or FIN (`Once`), what holds of a
socket until it is established (`Blank`), and the theorem `agreed_of_run`.

Does not own: the control numbers (`Network.Control`).
-/

set_option autoImplicit false

namespace UserMessageProtocol

open Serial

variable {Lists : Type}

/-! ### A socket that opens once -/

/-- The SYN and the FIN of a socket that opens once. -/
structure Once (own : OwnSide) (synReced : Bool) : Prop where
  fresh : own.state = .closed → own.errorOccured = false → synReced = false → own.queued = 0
  opened : own.state = .connecting ∨ own.state = .established → own.queued = 1
  few : own.queued ≤ 2

/-- No connection was opened yet, or one is being opened. -/
def Handshake.Opening (h : Handshake) : Prop := ¬ h.Ended ∧ h.state ≠ .established

section Moves

variable {event : SockEvent} {own own' : OwnSide} {synReced synReced' : Bool}

/-- An established connection stays so, is closed, or fails. -/
theorem OwnMove.established (move : OwnMove event own own') (open_ : own.state = .established) :
    own'.state = .established ∨ own'.state = .closing ∨ own'.errorOccured = true := by
  cases move with
  | keep | opened => exact .inl (by first | exact open_ | rfl)
  | heard p packet ack connecting => exact absurd (open_.symm.trans connecting) (by decide)
  | syn closed => exact absurd (open_.symm.trans closed) (by decide)
  | fin => exact .inr (.inl rfl)
  | finish closing => exact absurd (open_.symm.trans closing) (by decide)
  | fail => exact .inr (.inr rfl)

theorem Once.move (once : Once own synReced) (move : OwnMove event own own')
    (later : synReced' = false → synReced = false)
    (closing : own.state = .closing → synReced = true)
    (fresh : own.state = .closed → own'.state = .connecting → own'.errorOccured = false →
      synReced = false) : Once own' synReced' := by
  cases move with
  | keep pending left =>
      exact ⟨fun closed noError unheard => once.fresh closed noError (later unheard), once.opened,
        once.few⟩
  | heard p packet ack connecting pending left state reached =>
      have one := once.opened (.inl connecting)
      refine ⟨fun closed => ?_, fun _ => one, once.few⟩
      rcases reached with same | same
      · exact absurd (same.symm.trans closed) (by decide)
      · exact absurd (same.symm.trans closed) (by decide)
  | opened connecting acked =>
      exact ⟨nofun, fun _ => once.opened (.inl connecting), once.few⟩
  | syn closed noError ourMss =>
      have none := once.fresh closed noError (fresh closed rfl noError)
      refine ⟨nofun, fun _ => ?_, ?_⟩
      · show own.queued + 1 = 1
        omega
      · show own.queued + 1 ≤ 2
        omega
  | fin established noError =>
      have one := once.opened (.inr established)
      refine ⟨nofun, nofun, ?_⟩
      show own.queued + 1 ≤ 2
      omega
  | finish closed pending left =>
      refine ⟨fun _ _ unheard => ?_, nofun, once.few⟩
      rw [closing closed] at later
      exact absurd (later unheard) (by decide)
  | fail pending left => exact ⟨nofun, nofun, once.few⟩

end Moves

section Steps

variable [ReceiveLists Lists] {u : UMPSocket Lists} {event : SockEvent}

theorem Once.step (once : Once u.core.handshake.own u.core.ctrl.synReced)
    (allowed : sockEnabled u event) (opens : opensOnce u event)
    (sound : u.core.handshake.Sound) :
    Once (sockStep u event).core.handshake.own (sockStep u event).core.ctrl.synReced := by
  refine once.move (sides_step allowed sound).1 ?_ (fun closing => sound.opened (.inr closing)) ?_
  · intro unheard
    by_contra heard
    rw [sockStep_synReced ((Bool.not_eq_false _).mp heard)] at unheard
    cases unheard
  · intro closed connecting noError
    -- behind the end of a connection no other one is opened
    by_contra heard
    have finished : u.core.handshake.Ended := .inr (.inr ⟨closed, (Bool.not_eq_false _).mp heard⟩)
    rcases sockStep_ended allowed opens sound finished with failed | closing | ⟨closed, -⟩
    · exact absurd (noError.symm.trans failed) (by decide)
    · exact absurd (connecting.symm.trans closing) (by decide)
    · exact absurd (connecting.symm.trans closed) (by decide)

/-- A socket that is opening was opening before. -/
theorem opening_before (allowed : sockEnabled u event) (opens : opensOnce u event)
    (sound : u.core.handshake.Sound) (opening : (sockStep u event).core.handshake.Opening) :
    u.core.handshake.Opening := by
  refine ⟨fun ended => opening.1 (sockStep_ended allowed opens sound ended), ?_⟩
  intro established
  rcases (sides_step allowed sound).1.established established with still | closing | failed
  · exact opening.2 still
  · exact opening.1 (.inr (.inl closing))
  · exact opening.1 (.inl failed)

/-- Data is sent only behind the ack of the SYN. -/
theorem locked_acked (allowed : sockEnabled u event) (shaped : WellShaped u)
    {seed : UInt16} (counted : Counted seed u.core.handshake.own)
    (before : u.core.snd.sndLocked = .locked → u.core.ctrl.synAckReced = true)
    (locked : (sockStep u event).core.snd.sndLocked = .locked) :
    (sockStep u event).core.ctrl.synAckReced = true := by
  obtain ⟨move, -⟩ := sides_step allowed shaped.sound
  by_cases starts : event = .handleSend
  · subst starts
    have same : (sockStep u .handleSend).core.ctrl = u.core.ctrl := umpHandleSend_ctrl u.core
    rw [same]
    have step := umpHandleSend_sends u.core
    have locked : (umpHandleSend u.core).snd.sndLocked = .locked := locked
    obtain ⟨added, step, -⟩ := step
    generalize (umpHandleSend u.core).snd = snd' at step locked
    generalize (umpHandleSend u.core).handshake = k at step
    cases step with
    | idle => exact before locked
    | signal event p kind => cases kind
    | refuse => cases locked
    | start packets unlocked posted some established noError =>
        exact counted.acked (.inl established)
    | giveUp event noData parted untaken =>
        unfold endedSend at locked
        split at locked
        · rename_i unlocked
          exact absurd (unlocked.symm.trans locked) (by decide)
        · cases locked
  · exact move.synAckReced (before (sockStep_sndLocked starts locked))

end Steps

/-! ### Before a connection is established -/

/-- The control packets and the data a socket that opens once has put on the wire. -/
structure SpeaksOnce (e : Endpoint Lists) : Prop where
  once : Once e.socket.core.handshake.own e.socket.core.ctrl.synReced
  locked : e.socket.core.snd.sndLocked = .locked → e.socket.core.ctrl.synAckReced = true
  data : ∀ d ∈ e.wire, d.packet.pType = .data → uPacketGetFlag d.packet UP_DATA_SEQ →
    e.socket.core.ctrl.synAckReced = true

/-- A receiver that took no data yet, and the acks it owes, which are for the number of
its peer's SYN, `theirs`. -/
structure Unfed [ReceiveLists Lists] (theirs : UInt16) (u : UMPSocket Lists) : Prop where
  base : u.core.ctrl.synReced = true → u.core.rcv.theirDataSeqBase = theirs
  lists : u.lists = ReceiveLists.new
  owed : u.core.acks.owed = true → u.core.ctrl.synReced = true
  due : u.core.acks.dataAckSet = true → u.core.acks.dataAckSeq = theirs

/-- Until it is established a socket takes no data, and its peer's data is not
acknowledged. -/
structure Blank [ReceiveLists Lists] (theirs : UInt16) (e peer : Endpoint Lists) : Prop where
  unfed : Unfed theirs e.socket
  told : ∀ d ∈ e.wire, d.packet.pType = .data → uPacketGetFlag d.packet UP_DATA_ACK →
    d.packet.ackNum = theirs
  numbers : peer.socket.core.snd.numbers = (theirs, theirs)

/-- Each socket opens once. -/
def opensOnceEach (net : Duo (Endpoint Lists)) : NetworkEvent → Prop
  | .act side event => opensOnce (net.get side).socket event
  | .deliver _ _ => True

instance (net : Duo (Endpoint Lists)) (cause : NetworkEvent) : Decidable (opensOnceEach net cause) :=
  match cause with
  | .act _ _ => by unfold opensOnceEach; infer_instance
  | .deliver _ _ => instDecidableTrue

section Network

variable [ReceiveLists Lists] {seeds : Duo UInt16} {net : Duo (Endpoint Lists)}
  {cause : NetworkEvent} {side : Side} {event : SockEvent}

theorem Acts.opensOnce (acts : Acts net cause side event) (each : opensOnceEach net cause) :
    opensOnce (net.get side).socket event := by
  rcases acts.own with packet | own
  · rintro rfl
    cases packet
  · rw [own] at each
    exact each

/-- A data packet that is handled is one the peer sent. -/
theorem Acts.dataArrives {p : UMPPacket} (acts : Acts net cause side event)
    (related : net.Related (Speaks seeds)) (packet : event = .dataPacket p) :
    ∃ d ∈ (net.get side.other).wire, cause = .deliver side d ∧ d.packet.pType = .data ∧
      p = receivedForm d.packet := by
  obtain ⟨d, member, caused, decoded⟩ := acts.packet p (.inr packet)
  have peer := (related side.other).control
  have data : p.pType = .data := by
    have allowed := acts.allowed
    rw [packet] at allowed
    exact allowed.2
  have same := received_of_arrived (peer.encoded d member) decoded
  rw [same, receivedForm_pType] at data
  exact ⟨d, member, caused, data, same⟩

theorem SpeaksOnce.step {seed : UInt16} {e : Endpoint Lists} (speaks : SpeaksOnce e)
    (control : OwnControl seed e) (allowed : sockEnabled e.socket event)
    (opens : UserMessageProtocol.opensOnce e.socket event) : SpeaksOnce (e.take event) where
  once := speaks.once.step allowed opens control.shaped.sound
  locked := locked_acked allowed control.shaped control.counted speaks.locked
  data := by
    obtain ⟨own, -⟩ := sides_step allowed control.shaped.sound
    intro d member type flag
    apply own.synAckReced
    rcases wire_cases member with old | ⟨p, new, rfl⟩
    · exact speaks.data d old type flag
    · obtain ⟨locked, -⟩ := (control.sent new).dataSeq type flag fun q waits =>
        (control.counted.waiting q waits).1
      exact speaks.locked locked

/-- A socket that is not established stays unfed. -/
theorem Unfed.step {theirs : UInt16} {u : UMPSocket Lists} (unfed : Unfed theirs u)
    (nothing : ReceiveLists.recMsgPackets (ReceiveLists.new : Lists) = none)
    (closed : u.core.ctrl.state ≠ .established)
    (data : ∀ p, event = .dataPacket p → uPacketGetFlag p UP_DATA_SEQ →
      u.core.ctrl.synReced = true)
    (syn : ∀ p, event = .ctrlPacket p → TakesSyn u.core.handshake p → p.seqNum = theirs) :
    Unfed theirs (sockStep u event) := by
  have heard : u.core.ctrl.synReced = true → (sockStep u event).core.ctrl.synReced = true :=
    sockStep_synReced
  have step := receive_step u event
  have opens := @sockStep_opens Lists _ u event
  generalize sockStep u event = w at step heard opens ⊢
  -- unless a SYN is taken, the number of the receiver stays where it is
  have still (untaken : ∀ p, event = .ctrlPacket p → ¬ TakesSyn u.core.handshake p)
      (same : SameReceiver u w) : (w.core.ctrl.synReced = true →
        w.core.rcv.theirDataSeqBase = theirs) ∧ w.lists = ReceiveLists.new := by
    refine ⟨?_, same.lists.trans unfed.lists⟩
    intro now
    rcases opens now with before | ⟨p, packet, taken⟩
    · exact (congrArg ReceivePart.theirDataSeqBase same.received).trans (unfed.base before)
    · exact absurd taken (untaken p packet)
  cases step with
  | idle event unheard untaken same acks =>
      obtain ⟨base, lists⟩ := still untaken same
      exact ⟨base, lists, by rw [acks]; exact fun owed => heard (unfed.owed owed),
        by rw [acks]; exact unfed.due⟩
  | syn p taken lists received acks =>
      refine ⟨fun _ => ?_, lists.trans unfed.lists, ?_, by rw [acks]; exact unfed.due⟩
      · exact (congrArg ReceivePart.theirDataSeqBase received).trans (syn p rfl taken)
      · rw [acks]
        exact fun owed => heard (unfed.owed owed)
  | tell owed same acks =>
      obtain ⟨base, lists⟩ := still (by simp) same
      refine ⟨base, lists, by rw [acks]; nofun, fun _ => ?_⟩
      rw [acks]
      exact unfed.base (unfed.owed owed)
  | told same acks =>
      obtain ⟨base, lists⟩ := still (by simp) same
      exact ⟨base, lists, by rw [acks]; exact fun owed => heard (unfed.owed owed),
        by rw [acks]; nofun⟩
  | beat established => exact absurd established closed
  | receive user finished =>
      rw [unfed.lists, nothing] at user
      cases user
  | dropped p outside same acks =>
      obtain ⟨base, lists⟩ := still (by simp) same
      refine ⟨base, lists, ?_, ?_⟩
      · rw [acks, DataAcks.askFor]
        split
        · rename_i flag
          exact fun _ => heard (data p rfl flag)
        · exact fun owed => heard (unfed.owed owed)
      · rw [acks, DataAcks.askFor]
        split
        · rw [DataAcks.ask_dataAckSet, DataAcks.ask_dataAckSeq]
          exact unfed.due
        · exact unfed.due
  | stored p established => exact absurd established closed

/-- The SYN of a socket that opens once has its first number. -/
theorem Speaks.syn {p : UMPPacket} (acts : Acts net cause side event)
    (related : net.Related (Speaks seeds)) (once : SpeaksOnce (net.get side.other))
    (packet : event = .ctrlPacket p) (taken : TakesSyn (net.get side).socket.core.handshake p) :
    p.seqNum = seeds.get side.other := by
  obtain ⟨index, before, ordinal, -⟩ := (acts.arrives related packet).sequenced taken.numbered
  have few := once.once.few
  have even := of_decide_eq_true (ordinal.syn.symm.trans taken.syn)
  have first : index = 0 := by omega
  rw [ordinal.seqNum, first]
  exact place_zero _

/-- A socket that opens stays blank. -/
theorem Blank.step (related : net.Related (Speaks seeds))
    (once : ∀ side, SpeaksOnce (net.get side)) (acts : Acts net cause side event)
    (nothing : ReceiveLists.recMsgPackets (ReceiveLists.new : Lists) = none)
    (opening : (net.get side).socket.core.handshake.Opening)
    (blank : Blank (seeds.get side.other) (net.get side) (net.get side.other)) :
    Blank (seeds.get side.other) ((net.get side).take event) (net.get side.other) := by
  have control := (related side).control
  refine ⟨?_, ?_, blank.numbers⟩
  · apply blank.unfed.step nothing opening.2
    · intro p packet flag
      obtain ⟨d, member, -, data, same⟩ := acts.dataArrives related packet
      rw [same, receivedForm_getFlag] at flag
      have peer := (related side.other).acked ((once side.other).data d member data flag)
      rwa [Side.other_other] at peer
    · intro p packet taken
      exact Speaks.syn acts related (once side.other) packet taken
  · intro d member type flag
    rcases wire_cases member with old | ⟨p, new, rfl⟩
    · exact blank.told d old type flag
    · obtain ⟨due, number⟩ := (control.sent new).dataAckNum type flag fun q waits =>
        (control.counted.waiting q waits).1
      exact number.trans (blank.unfed.due due)

/-- The data of a socket is not acknowledged while its peer is blank. -/
theorem Blank.peerStep (related : net.Related (Speaks seeds)) (acts : Acts net cause side event)
    (blank : Blank (seeds.get side) (net.get side.other) (net.get side)) :
    Blank (seeds.get side) (net.get side.other) ((net.get side).take event) := by
  refine ⟨blank.unfed, blank.told, ?_⟩
  have before := blank.numbers
  rcases sockStep_numbers (net.get side).socket event with same | ⟨p, packet, flag, ahead⟩
  · exact same.trans before
  · obtain ⟨d, member, -, data, same⟩ := acts.dataArrives related packet
    have base : (net.get side).socket.core.snd.ourDataSeqBase = seeds.get side :=
      congrArg Prod.snd before
    rw [same, receivedForm_getFlag] at flag
    rw [same, receivedForm_dataAck data flag, blank.told d member data flag, base,
      offset_self] at ahead
    exact absurd ahead (by decide)

/-- What holds of two sockets that open once. -/
structure Meet (seeds : Duo UInt16) (net : Duo (Endpoint Lists)) : Prop where
  related : net.Related (Speaks seeds)
  once : ∀ side, SpeaksOnce (net.get side)
  blank : ∀ side, (net.get side).socket.core.handshake.Opening →
    Blank (seeds.get side.other) (net.get side) (net.get side.other)

theorem newNetwork_meet (seeds : Duo UInt16) (clocks : Duo Clock) :
    Meet seeds (newNetwork Lists seeds clocks) where
  related := newNetwork_speaks seeds clocks
  once := by
    have fresh (seed : UInt16) (clock : Clock) :
        SpeaksOnce (Endpoint.new seed clock : Endpoint Lists) :=
      ⟨⟨fun _ _ _ => rfl, by rintro (connecting | established) <;> contradiction, Nat.zero_le 2⟩,
        nofun, nofun⟩
    rintro (_ | _)
    · exact fresh _ _
    · exact fresh _ _
  blank := by
    rintro (_ | _) -
    · exact ⟨⟨nofun, rfl, nofun, nofun⟩, nofun, rfl⟩
    · exact ⟨⟨nofun, rfl, nofun, nofun⟩, nofun, rfl⟩

theorem Meet.step (nothing : ReceiveLists.recMsgPackets (ReceiveLists.new : Lists) = none)
    (meet : Meet seeds net) (enabled : networkEnabled net cause) (each : opensOnceEach net cause) :
    Meet seeds (networkStep net cause) := by
  have related := networkStep_speaks meet.related enabled
  rcases networkStep_cases enabled with same | ⟨side, event, acts⟩
  · rw [same]
    exact meet
  · refine ⟨related, ?_, ?_⟩
    · apply networkStep_each (fun _ => SpeaksOnce) meet.once enabled
      intro side event acts
      exact (meet.once side).step (meet.related side).control acts.allowed (acts.opensOnce each)
    · rw [acts.step]
      intro here opening
      rcases side.eq_or_other here with rfl | rfl
      · rw [Duo.get_set_self] at opening ⊢
        rw [Duo.get_set_other]
        have before := opening_before acts.allowed (acts.opensOnce each)
          (meet.related here).control.shaped.sound opening
        exact Blank.step meet.related meet.once acts nothing before (meet.blank here before)
      · rw [Duo.get_set_other] at opening ⊢
        rw [Side.other_other, Duo.get_set_self]
        have blank := meet.blank side.other opening
        rw [Side.other_other] at blank
        exact blank.peerStep meet.related acts

theorem meet_of_run {clocks : Duo Clock} {events : List NetworkEvent}
    (nothing : ReceiveLists.recMsgPackets (ReceiveLists.new : Lists) = none)
    (run : (networkMachine Lists).RunWhere opensOnceEach (newNetwork Lists seeds clocks)
      events net) : Meet seeds net :=
  run.invariant (newNetwork_meet seeds clocks)
    fun _ _ meet enabled each => meet.step nothing enabled each

end Network

/-! ### Agreement -/

/-- What the socket `u` knows of its peer, whose first number is `theirs`. -/
structure Agreed (theirs : UInt16) (u peer : UMPSocket Lists) : Prop where
  heard : peer.core.ctrl.synReced = true
  data : u.core.rcv.theirDataSeqBase = peer.core.snd.ourDataStartSeq
  some : 1 ≤ (u.core.ctrl.theirCtrlSeq - theirs).toNat
  queued : (u.core.ctrl.theirCtrlSeq - theirs).toNat ≤ queuedCount peer.core.log

/-- A socket that becomes established in this step agrees with its peer. -/
def AgreesWhenEstablished [ReceiveLists Lists] (seeds : Duo UInt16) (net : Duo (Endpoint Lists))
    (cause : NetworkEvent) : Prop :=
  ∀ side, (net.get side).socket.core.ctrl.state ≠ .established →
    ((networkStep net cause).get side).socket.core.ctrl.state = .established →
    Agreed (seeds.get side.other) ((networkStep net cause).get side).socket
      ((networkStep net cause).get side.other).socket

section Agreement

variable [ReceiveLists Lists] {seeds : Duo UInt16} {net : Duo (Endpoint Lists)}
  {cause : NetworkEvent} {side : Side} {event : SockEvent}

omit [ReceiveLists Lists] in
/-- The number of the peer's SYNs and FINs that were counted. -/
theorem Speaks.counted {e peer : Endpoint Lists} (speaks : Speaks seeds side e peer)
    (once : SpeaksOnce peer) (heard : e.socket.core.ctrl.synReced = true) :
    1 ≤ (e.socket.core.ctrl.theirCtrlSeq - seeds.get side.other).toNat ∧
      (e.socket.core.ctrl.theirCtrlSeq - seeds.get side.other).toNat ≤
        queuedCount peer.socket.core.log := by
  obtain ⟨count, positive, queued, number⟩ := speaks.heard heard
  have few := once.once.few
  have distance := toNat_place_sub (seeds.get side.other) (by omega : (0 : Int) ≤ count)
    (by omega)
  rw [place_zero, ← number] at distance
  have logged : peer.socket.core.handshake.own.queued = queuedCount peer.socket.core.log :=
    queuedCount_milestones _
  omega

/-- A socket that enters `UMP_ESTABLISHED` was opening. -/
theorem opening_of_enters {u : UMPSocket Lists} (allowed : sockEnabled u event)
    (opens : opensOnce u event) (shaped : WellShaped u) (before : u.core.ctrl.state ≠ .established)
    (after : (sockStep u event).core.ctrl.state = .established) : u.core.handshake.Opening := by
  refine ⟨?_, before⟩
  intro finished
  rcases sockStep_ended allowed opens shaped.sound finished with failed | closing | ⟨closed, -⟩
  · have closed := (sockStep_sound allowed shaped.sound).failed failed
    exact absurd (closed.symm.trans after) (by decide)
  · exact absurd (closing.symm.trans after) (by decide)
  · exact absurd (closed.symm.trans after) (by decide)

/-- Two sockets that meet agree whenever one of them becomes established. -/
theorem Meet.agrees (nothing : ReceiveLists.recMsgPackets (ReceiveLists.new : Lists) = none)
    (meet : Meet seeds net) (enabled : networkEnabled net cause) (each : opensOnceEach net cause) :
    AgreesWhenEstablished seeds net cause := by
  have later := meet.step nothing enabled each
  intro here before after
  have control := (later.related here).control
  have heard := control.shaped.sound.opened (.inl after)
  have acked := control.counted.acked (.inl after)
  obtain ⟨some, queued⟩ := (later.related here).counted (later.once here.other) heard
  suffices data : ((networkStep net cause).get here).socket.core.rcv.theirDataSeqBase =
      ((networkStep net cause).get here.other).socket.core.snd.ourDataStartSeq from
    ⟨(later.related here).acked acked, data, some, queued⟩
  rcases networkStep_cases enabled with same | ⟨side, event, acts⟩
  · rw [same] at after
    exact absurd after before
  · rw [acts.step] at after heard ⊢
    rcases side.eq_or_other here with rfl | rfl
    · rw [Duo.get_set_self] at after heard ⊢
      rw [Duo.get_set_other]
      have shaped := (meet.related here).control.shaped
      have opening := opening_of_enters acts.allowed (acts.opensOnce each) shaped before after
      have blank := Blank.step meet.related meet.once acts nothing opening (meet.blank here opening)
      have start : (net.get here.other).socket.core.snd.ourDataStartSeq = seeds.get here.other :=
        congrArg Prod.fst blank.numbers
      rw [start]
      exact blank.unfed.base heard
    · rw [Duo.get_set_other] at after
      exact absurd after before

end Agreement

/-- In every run of two sockets that open once, each of them agrees with its peer when it
becomes established. -/
theorem agreed_of_run {seeds : Duo UInt16} {clocks : Duo Clock} {events : List NetworkEvent}
    {net : Duo (Endpoint GLists)} {cause : NetworkEvent}
    (run : (networkMachine GLists).RunWhere opensOnceEach (newNetwork GLists seeds clocks)
      events net)
    (enabled : networkEnabled net cause) (each : opensOnceEach net cause) :
    AgreesWhenEstablished seeds net cause :=
  (meet_of_run rfl run).agrees rfl enabled each

/-- The left socket opens, the right one answers, and the answer is on its way. -/
def answeredSyn : Duo (Endpoint GLists) :=
  let new := newNetwork GLists ⟨100, 7⟩ ⟨⟨fun _ => ⟨0, 0⟩, 0⟩, ⟨fun _ => ⟨0, 0⟩, 0⟩⟩
  (networkMachine GLists).after new (cued new (answeredOpen.take 5))

/-- The answer establishes the connection of the left socket. -/
theorem agreed_answeredSyn :
    AgreesWhenEstablished ⟨100, 7⟩ answeredSyn ((Cue.deliver .left 0).event answeredSyn) ∧
      (networkStep answeredSyn ((Cue.deliver .left 0).event answeredSyn)).left.socket.core.ctrl.state =
        .established :=
  ⟨agreed_of_run (Machine.runWhere_of_check (by decide +kernel)) (by decide +kernel) (by decide +kernel),
    by decide +kernel⟩

end UserMessageProtocol
