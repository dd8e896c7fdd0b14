import UserMessageProtocol.Foundation.Cuts
import UserMessageProtocol.Network.Agreement
import UserMessageProtocol.Network.Stream

/-!
Contract: the messages that a user passed, in the stream of the socket.

Owns: the message that waits for the socket thread (`MessagePart.posted`), messages that are
passed one after another (`passesInTurn`), and that the stream of a socket is made of the
messages its user passed (`Passing`).

Does not own: what a receiver gets of them (`Network.Messages`).
-/

set_option autoImplicit false

namespace UserMessageProtocol

open Cuts

/-! ### The message that waits -/

/-- The packets that were passed and not taken up yet. -/
def MessagePart.posted (m : MessagePart) : Option (List UMPPacket) :=
  match m.sndLocked with
  | .unlocked => m.sndPackets
  | .locked => none

theorem MessagePart.posted_eq_some {m : MessagePart} {packets : List UMPPacket} :
    m.posted = some packets ↔ m.sndLocked = .unlocked ∧ m.sndPackets = some packets := by
  unfold posted
  cases m.sndLocked <;> simp

theorem posted_endedSend (snd : SendSide) (ok : Bool) :
    (endedSend snd ok).message.posted = snd.message.posted := by
  unfold endedSend
  cases locked : snd.sndLocked with
  | unlocked => rfl
  | locked => simp [MessagePart.posted, SendSide.message, endSend, locked]

theorem posted_endedByAck (snd : SendSide) (ackSeq : UInt16) :
    (endedByAck snd ackSeq).message.posted = snd.message.posted := by
  unfold endedByAck
  split
  · exact posted_endedSend snd true
  · rfl

theorem AckStep.posted {snd snd' : SendSide} {p : UMPPacket} {added : List Action}
    (step : AckStep snd p snd' added) : snd'.message.posted = snd.message.posted := by
  cases step with
  | noAck now flag => rw [notified_message]
  | outside flag range => rw [recounted_message]
  | old now flag range same => rw [notified_message, recounted_message]
  | new now time fastRetran cwnd rtoCpt flag range ahead grown =>
      rw [posted_endedByAck, settled_message, acknowledgedBy_message]

section Steps

variable {Lists : Type} [ReceiveLists Lists] {u : UMPSocket Lists} {event : SockEvent}

/-- What a step does to the message that waits: it stays, it comes, it is refused, or it is
numbered. -/
inductive PostStep (u : UMPSocket Lists) (event : SockEvent) : Prop where
  | keep (same : (sockStep u event).core.snd.message.posted = u.core.snd.message.posted)
      (stream : streamOf (traffic (sockStep u event).core.log) =
        streamOf (traffic u.core.log))
  | post (data : List UInt8) (isPost : event = .userSend data)
  | refuse (isHandle : event = .handleSend)
      (gone : (sockStep u event).core.snd.sndPackets = none)
      (stream : streamOf (traffic (sockStep u event).core.log) =
        streamOf (traffic u.core.log))
  | start (packets : List UMPPacket) (isHandle : event = .handleSend)
      (posted : u.core.snd.message.posted = some packets)
      (established : u.core.ctrl.state = .established)
      (noError : u.core.ctrl.errorOccured = false)
      (locked : (sockStep u event).core.snd.sndLocked = .locked)
      (grown : streamOf (traffic (sockStep u event).core.log) =
        streamOf (traffic u.core.log) ++
          (preparePackets u.core.snd.ourDataStartSeq packets).map fragment)

theorem post_step (shaped : WellShaped u) (event : SockEvent) : PostStep u event := by
  obtain ⟨added, step, logged⟩ := send_step u event
  have still (quiet : ∀ action ∈ added, Quiet action) :
      streamOf (traffic (sockStep u event).core.log) = streamOf (traffic u.core.log) := by
    rw [logged, streamOf_append quiet]
  have kept (quiet : ∀ action ∈ added, Quiet action)
      (same : (sockStep u event).core.snd.message.posted = u.core.snd.message.posted) :
      PostStep u event := .keep same (still quiet)
  generalize after : (sockStep u event).core.snd = snd' at step kept
  generalize (sockStep u event).core.handshake = k at step
  cases step with
  | idle | syn => exact kept (by simp) rfl
  | rewind =>
      apply kept (by simp)
      rw [rewindAfterTimeout_message]
      rfl
  | signal event p kind =>
      exact kept (List.forall_mem_singleton.mpr (kind.quiet shaped.sound.typed)) rfl
  | probe asking => exact kept (List.forall_mem_singleton.mpr (probe_quiet shaped.shape)) rfl
  | post data => exact .post data rfl
  | refuse packets unlocked posted =>
      exact .refuse rfl (by rw [after]; rfl) (still (List.forall_mem_singleton.mpr trivial))
  | start packets unlocked posted some established noError =>
      exact .start packets rfl (MessagePart.posted_eq_some.mpr ⟨unlocked, posted⟩) established noError
        (by rw [after]; rfl) (by rw [logged]; rfl)
  | giveUp event noData parted untaken => exact kept ending_quiet (posted_endedSend _ false)
  | expired parted => exact kept ending_quiet (posted_endedSend _ false)
  | transmit p locked window found =>
      refine .keep ?_ (by rw [logged]; rfl)
      rw [after]
      simp [MessagePart.posted, SendSide.message, afterTransmit_eq, locked]
  | ack p heard snd added ackStep => exact kept ackStep.quiet ackStep.posted

end Steps

/-! ### Messages passed one after another -/

instance (h : Handshake) : Decidable h.Opening := by
  unfold Handshake.Opening Handshake.Ended
  infer_instance

/-- A message is passed only when the one before was sent or given up, and once the
connection was established. -/
def passesInTurn {Lists : Type} (u : UMPSocket Lists) : SockEvent → Prop
  | .userSend _ => u.core.snd.sndPackets = none ∧ ¬ u.core.handshake.Opening
  | _ => True

instance {Lists : Type} (u : UMPSocket Lists) (event : SockEvent) :
    Decidable (passesInTurn u event) :=
  match event with
  | .userSend _ => by unfold passesInTurn; infer_instance
  | .userCtrl .. | .userReceive | .handleCtrl | .handleSend | .handleReceive | .bufferLoad .. |
    .ctrlPacket .. | .dataPacket .. | .dataTimeout | .refreshRwnd | .refreshAck | .actReqWnd |
    .ctrlTimeout | .sendCtrlPacket | .heartbeat | .sendData | .sendReset => instDecidableTrue

/-- The stream of a socket is made of the messages its user passed, all but perhaps the last
one, which may wait or have been refused. -/
structure Passing {Lists : Type} (e : Endpoint Lists) (groups : List (List Fragment)) : Prop where
  stream : e.stream = groups.flatten
  closed : ∀ group ∈ groups, Closed Fragment.last group
  passed : groups.map fragmentBytes <+: e.passed
  resting : ¬ e.socket.core.handshake.Ended → e.socket.core.snd.message.posted = none →
    groups.map fragmentBytes = e.passed
  waiting : ∀ packets, e.socket.core.snd.message.posted = some packets →
    packets ≠ [] ∧ ¬ e.socket.core.handshake.Opening ∧
      (¬ e.socket.core.handshake.Ended →
        e.passed = groups.map fragmentBytes ++ [packets.flatMap (·.userData)])

section Passing

variable {Lists : Type} [ReceiveLists Lists] {e : Endpoint Lists} {event : SockEvent}
  {groups : List (List Fragment)}

theorem passing_new (seed : UInt16) (clock : Clock) :
    Passing (Endpoint.new seed clock : Endpoint Lists) [] where
  stream := rfl
  closed := by simp
  passed := List.prefix_refl _
  resting _ _ := rfl
  waiting := nofun

theorem take_passed (unposted : ∀ data, event ≠ .userSend data) :
    (e.take event).passed = e.passed := by
  unfold Endpoint.take
  cases event with
  | userSend data => exact absurd rfl (unposted data)
  | _ => rfl

/-- The packets of a message, as they are numbered, are one group with its bytes. -/
theorem preparePackets_group (seq : UInt16) {packets : List UMPPacket} (some : packets ≠ [])
    (fresh : ∀ p ∈ packets, Fresh p) :
    Closed Fragment.last ((preparePackets seq packets).map fragment) ∧
      fragmentBytes ((preparePackets seq packets).map fragment) =
        packets.flatMap (·.userData) := by
  constructor
  · have length := preparePackets_length seq packets
    have nonempty : preparePackets seq packets ≠ [] := by
      rw [← List.length_pos_iff, length]
      exact List.length_pos_iff.mpr some
    have ends {i : Nat} {q : UMPPacket} (found : (preparePackets seq packets)[i]? = Option.some q) :
        (fragment q).last = decide (i + 1 = packets.length) := by
      have inside := (List.getElem?_eq_some_iff.mp found).1
      obtain ⟨q', there, numbered⟩ := preparePackets_numbered seq fresh
        (List.getElem?_eq_getElem (length ▸ inside))
      obtain rfl : q' = q := Option.some.inj (there.symm.trans found)
      exact (Bool.eq_iff_iff.mpr (numbered.last.trans decide_eq_true_iff.symm))
    refine ⟨(preparePackets seq packets).dropLast.map fragment,
      fragment ((preparePackets seq packets).getLast nonempty), ?_, ?_, ?_⟩
    · rw [← List.map_singleton, ← List.map_append, List.dropLast_append_getLast]
    · have last := List.getLast_eq_getElem nonempty
      rw [last, ends (List.getElem?_eq_getElem _), decide_eq_true_iff]
      have := List.length_pos_iff.mpr some
      omega
    · intro f member
      obtain ⟨q, inFront, rfl⟩ := List.mem_map.mp member
      obtain ⟨i, inside, here⟩ := List.getElem_of_mem inFront
      rw [List.length_dropLast] at inside
      rw [List.getElem_dropLast] at here
      rw [ends (here ▸ List.getElem?_eq_getElem _), decide_eq_false_iff_not]
      omega
  · rw [fragmentBytes, List.flatMap_map, ← preparePackets_bytes seq fresh]
    rfl

/-- A message is passed. -/
theorem Passing.post {data : List UInt8} (passing : Passing e groups)
    (allowed : sockEnabled e.socket (.userSend data)) (shaped : WellShaped e.socket)
    (inTurn : passesInTurn e.socket (.userSend data)) :
    Passing (e.take (.userSend data)) groups := by
  obtain ⟨free, some, -, mss⟩ := allowed
  obtain ⟨none, opened⟩ := inTurn
  have unlocked : e.socket.core.snd.sndLocked = .unlocked := shaped.shape.unlocked free
  have resting : ¬ e.socket.core.handshake.Ended → groups.map fragmentBytes = e.passed :=
    fun open_ => passing.resting open_ (by
      simp [MessagePart.posted, SendSide.message, unlocked, none])
  have posted : (sockStep e.socket (.userSend data)).core.snd.message.posted =
      Option.some (messagePackets e.socket.core.snd.ourMss data) :=
    MessagePart.posted_eq_some.mpr ⟨unlocked, rfl⟩
  have bytes := messagePackets_bytes mss data
  refine ⟨passing.stream, passing.closed, passing.passed.trans (List.prefix_append _ _), ?_, ?_⟩
  · intro _ nothing
    rw [Endpoint.take_socket, posted] at nothing
    cases nothing
  · intro packets isPosted
    rw [Endpoint.take_socket, posted, Option.some.injEq] at isPosted
    rw [← isPosted, bytes]
    refine ⟨?_, opened, fun open_ => ?_⟩
    · intro empty
      rw [empty] at bytes
      exact some bytes.symm
    · rw [resting open_]
      rfl

/-- A message that was passed is refused only behind the end of the connection. -/
theorem refused_ended {packets : List UMPPacket} (shaped : WellShaped e.socket)
    (posted : e.socket.core.snd.message.posted = some packets) (some : packets ≠ [])
    (opened : ¬ e.socket.core.handshake.Opening)
    (gone : (sockStep e.socket .handleSend).core.snd.sndPackets = none) :
    e.socket.core.handshake.Ended := by
  by_contra open_
  have noError : e.socket.core.ctrl.errorOccured = false := by
    by_contra failed
    exact open_ (.inl ((Bool.not_eq_false _).mp failed))
  have established : e.socket.core.ctrl.state = .established := by
    by_contra other
    exact opened ⟨open_, other⟩
  obtain ⟨unlocked, held⟩ := MessagePart.posted_eq_some.mp posted
  change e.socket.core.snd.sndLocked = .unlocked at unlocked
  change e.socket.core.snd.sndPackets = Option.some packets at held
  have count : ¬ e.socket.core.snd.sndPacketsCount < 1 := by
    have length : e.socket.core.snd.sndPacketsCount = packets.length :=
      (shaped.shape.posted unlocked packets held).1
    have := List.length_pos_iff.mpr some
    omega
  have step : (umpHandleSend e.socket.core).snd.sndPackets = none := gone
  unfold umpHandleSend at step
  cases para : e.socket.core.snd.sndParaLock with
  | true => simp [unlocked, para, held] at step
  | false =>
      simp [unlocked, para, held, count, established, noError, startMessage,
        umpRefreshSndWndPos, SocketCore.act] at step

/-- The stream stays made of the messages that were passed. -/
theorem Passing.step (passing : Passing e groups) (allowed : sockEnabled e.socket event)
    (opens : opensOnce e.socket event) (shaped : WellShaped e.socket)
    (inTurn : passesInTurn e.socket event) : ∃ groups', Passing (e.take event) groups' := by
  by_cases posts : ∃ data, event = .userSend data
  · obtain ⟨data, rfl⟩ := posts
    exact ⟨groups, passing.post allowed shaped inTurn⟩
  have passed : (e.take event).passed = e.passed :=
    take_passed fun data isPost => posts ⟨data, isPost⟩
  have before : ¬ (sockStep e.socket event).core.handshake.Ended →
      ¬ e.socket.core.handshake.Ended :=
    fun open_ ended => open_ (sockStep_ended allowed opens shaped.sound ended)
  cases post_step shaped event with
  | post data isPost => exact absurd ⟨data, isPost⟩ posts
  | keep same stream =>
      refine ⟨groups, stream.trans passing.stream, passing.closed, passed ▸ passing.passed, ?_, ?_⟩
      · intro open_ none
        rw [passed]
        exact passing.resting (before open_) (same.symm.trans none)
      · intro packets posted
        obtain ⟨some, opened, waits⟩ := passing.waiting packets (same.symm.trans posted)
        rw [passed]
        exact ⟨some, fun opening => opened (opening_before allowed opens shaped.sound opening),
          fun open_ => waits (before open_)⟩
  | refuse isHandle gone stream =>
      subst isHandle
      refine ⟨groups, stream.trans passing.stream, passing.closed, passed ▸ passing.passed, ?_, ?_⟩
      · intro open_ _
        rw [passed]
        cases posted : e.socket.core.snd.message.posted with
        | none => exact passing.resting (before open_) posted
        | some packets =>
            obtain ⟨some, opened, -⟩ := passing.waiting packets posted
            exact absurd (refused_ended shaped posted some opened gone) (before open_)
      · intro packets posted
        cases gone.symm.trans (MessagePart.posted_eq_some.mp posted).2
  | start packets isHandle posted established noError locked grown =>
      obtain ⟨some, -, waits⟩ := passing.waiting packets posted
      have all := waits (Handshake.not_ended established noError)
      obtain ⟨unlocked, held⟩ := MessagePart.posted_eq_some.mp posted
      obtain ⟨closed, bytes⟩ := preparePackets_group e.socket.core.snd.ourDataStartSeq some
        (shaped.shape.posted unlocked packets held).2
      generalize (preparePackets e.socket.core.snd.ourDataStartSeq packets).map fragment = group
        at closed bytes grown
      have messages : (groups ++ [group]).map fragmentBytes = e.passed := by
        rw [List.map_append, all, ← bytes]
        rfl
      refine ⟨groups ++ [group], ?_, ?_, ?_, ?_, ?_⟩
      · rw [List.flatten_append, List.flatten_singleton, ← passing.stream]
        exact grown
      · intro other member
        rcases List.mem_append.mp member with old | new
        · exact passing.closed other old
        · rw [List.mem_singleton.mp new]
          exact closed
      · exact (messages.trans passed.symm) ▸ List.prefix_refl _
      · exact fun _ _ => messages.trans passed.symm
      · intro packets' posted'
        cases locked.symm.trans (MessagePart.posted_eq_some.mp posted').1

end Passing

end UserMessageProtocol
