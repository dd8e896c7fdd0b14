import UserMessageProtocol.Transfer.Written

/-!
Contract: no byte of a file is lost or duplicated on its way.

Owns: what a socket holds for its user (`UMPSocket.held`), that everything that was passed is
with the receiver while the sender rests (`Carrying.conserved`), and the run theorem
(`conserved_of_run`).

Does not own: which message a receive call gets (`Transfer.Written`).
-/

set_option autoImplicit false

namespace UserMessageProtocol

open Serial

/-- The bytes that came in order and are not for any call yet. -/
def UMPSocket.held (u : UMPSocket GLists) : List UInt8 :=
  ((ReceiveLists.recMsgPackets u.lists).getD [] ++ u.lists.taken).flatMap (·.userData)

section Conserved

variable {seeds : Duo UInt16} {net : Duo (Endpoint GLists)} {side : Side}

/-- A sender without a message of a connection that has not ended is acknowledged to the end. -/
theorem Carrying.acked (carrying : Carrying seeds net)
    (idle : (net.get side).socket.core.snd.sndPackets = none)
    (open_ : ¬ (net.get side).socket.core.handshake.Ended) :
    (net.get side).acked = (net.get side).stream.length := by
  have shaped := (carrying.converses.flows.meet.related side).control.shaped
  obtain ⟨start, sent, r, flow⟩ := carrying.converses.flows.flow side
  have tracks := flow.outgoing.tracks
  cases locked : (net.get side).socket.core.snd.sndLocked with
  | locked =>
      obtain ⟨packets, holds⟩ := shaped.shape.message locked
      cases idle.symm.trans holds.held
  | unlocked =>
      obtain ⟨acked, -, length⟩ := tracks.resting locked open_
      exact acked.trans length.symm

/-- While the sender rests, what it passed is what the receiver's calls returned and what its
socket holds. -/
theorem Carrying.conserved (carrying : Carrying seeds net) (side : Side)
    (idle : (net.get side).socket.core.snd.sndPackets = none)
    (open_ : ¬ (net.get side).socket.core.handshake.Ended) :
    (net.get side.other).socket.core.returned.reverse.flatten ++ (net.get side.other).socket.held =
      (net.get side).passed.flatten := by
  have acked := carrying.acked idle open_
  obtain ⟨start, sent, r, flow⟩ := carrying.converses.flows.flow side
  obtain ⟨groups, passing⟩ := carrying.converses.passing side
  have returns := carrying.converses.returns side.other
  generalize net.get side = a at idle open_ acked flow passing ⊢
  generalize net.get side.other = b at flow returns ⊢
  have count := flow.incoming.count
  have between := flow.between
  have gathers : Gathers [] b.socket r := flow.incoming.gathers
  obtain ⟨delivered, deliveries, -, all⟩ := gathers.delivered
  rw [List.append_nil] at deliveries
  -- every position that was acknowledged was got, and no other was sent
  have whole : r.got.map fragment = a.stream := by
    cases heard : b.socket.core.ctrl.synReced with
    | false =>
        have none := (flow.incoming.unheard heard).got
        rw [none, List.length_nil] at count
        have empty : a.stream.length = 0 := by omega
        rw [none, List.eq_nil_of_length_eq_zero empty]
        rfl
    | true =>
        have front := (flow.incoming.aligned heard).front
        apply front.eq_of_length_le
        rw [List.length_map]
        omega
  have posted : a.socket.core.snd.message.posted = none := by
    cases posted : a.socket.core.snd.message.posted with
    | none => rfl
    | some packets => cases idle.symm.trans (MessagePart.posted_eq_some.mp posted).2
  have bytes : fragmentBytes a.stream = a.passed.flatten := by
    rw [← passing.resting open_ posted, passing.stream]
    unfold fragmentBytes
    rw [List.flatMap_def, List.map_flatten, List.flatten_flatten, List.map_map]
    rfl
  calc b.socket.core.returned.reverse.flatten ++ b.socket.held
      = delivered.reverse.flatten.flatMap (·.userData) ++ b.socket.held := by
        rw [returns, deliveries, ← List.map_reverse, List.flatMap_def, List.map_flatten,
          List.flatten_flatten, List.map_map]
        rfl
    _ = r.got.flatMap (·.userData) := by
        rw [all, List.flatMap_append]
        rfl
    _ = fragmentBytes (r.got.map fragment) := by
        rw [fragmentBytes, List.flatMap_map]
        rfl
    _ = a.passed.flatten := by rw [whole, bytes]

end Conserved

/-- In every run in which each socket opens once, nothing arrives half a turn late and every
packet is inserted safely: while no call of `send_file` waits and its connection has not ended,
the file is what the receive calls returned, then what the right socket holds, then what was
not read yet. -/
theorem conserved_of_run {file : List UInt8} {seeds : Duo UInt16} {clocks : Duo Clock}
    {events : List TransferEvent} {t : Transfer}
    (run : transferMachine.RunWhere transfersSafely (newTransfer file seeds clocks) events t)
    (returned : ∀ call ∈ t.sends, call.isReturned = true)
    (open_ : ¬ t.net.left.socket.core.handshake.Ended) :
    t.net.right.socket.core.returned.reverse.flatten ++ t.net.right.socket.held ++ t.unread =
        file ∧
      ((∀ call ∈ t.receives, call.isReturned = true) →
        t.net.right.socket.core.returned.reverse = t.written) := by
  have transferring := transferring_of_run run
  have idle := (transferring.inTurn.sends.latest.returned returned).1
  constructor
  · have conserved := transferring.carrying.conserved .left
      (Option.not_isSome_iff_eq_none.mp ((Bool.not_eq_true _).mpr idle)) open_
    exact Eq.trans (congrArg (· ++ t.unread) conserved) transferring.passed
  · intro all
    have got := transferring.got
    unfold Got at got
    rw [(transferring.inTurn.receives.latest.returned all).2] at got
    exact got.trans (List.append_nil _)

/-- The first chunk is written and the second one is with the right socket when the sender is
done. -/
theorem conserved_sentFile :
    sentTransfer.net.right.socket.core.returned.reverse.flatten ++
        sentTransfer.net.right.socket.held ++ sentTransfer.unread = exampleFile ∧
      sentTransfer.written.length = 1 ∧ sentTransfer.net.right.socket.held = [2] := by
  have allowed : transferCuesAllowed exampleTransfer sentFile := by decide +kernel
  obtain ⟨events, run⟩ := exampleTransfer_run allowed
  have run : transferMachine.RunWhere transfersSafely exampleTransfer events sentTransfer := run
  have returned : ∀ call ∈ sentTransfer.sends, call.isReturned = true := by decide +kernel
  have open_ : ¬ sentTransfer.net.left.socket.core.handshake.Ended := by
    unfold Handshake.Ended
    decide +kernel
  have conserved := (conserved_of_run run returned open_).1
  exact ⟨conserved, by decide +kernel, by decide +kernel⟩

end UserMessageProtocol
