import UserMessageProtocol.Foundation.Unread
import UserMessageProtocol.Transfer.Cues

/-!
Contract: what `receive_file` writes is the front of the file that `send_file` reads.

Owns: that the two programs pass short messages in turn, the messages that receive calls got
(`Got`), what holds of the two programs (`Transferring`), and the run theorem
(`written_of_run`).

Does not own: the network (`Network.Carrying`), and the answers to calls
(`Foundation.Callers`).
-/

set_option autoImplicit false

namespace UserMessageProtocol

/-! ### The users of each side -/

theorem fileSenders_lawful : fileSenders.Lawful :=
  (onNetwork_faithful .left rfl).lawful (sendThread_lawful GLists)

theorem fileReceivers_lawful : fileReceivers.Lawful :=
  (onNetwork_faithful .right rfl).lawful (receiveThread_lawful GLists)

theorem fileCalls_lawful : fileCalls.Lawful :=
  (CallThread.besideCallers_faithful fileReceivers fileSenders rfl).lawful fileReceivers_lawful

/-! ### The steps of the programs -/

section Calls

variable {c : Callers (Callers (Duo (Endpoint GLists)))}
  {event : CallerEvent (CallerEvent NetworkEvent)} {cause : NetworkEvent}

/-- The users of each side call one after another. -/
structure CallsInTurn (c : Callers (Callers (Duo (Endpoint GLists)))) : Prop where
  sends : fileSenders.Orderly c.thread
  receives : fileCalls.Orderly c

theorem CallsInTurn.step (inTurn : CallsInTurn c) (allowed : fileCalls.callerEnabled c event)
    (receives : CallThread.oneAtATime c event)
    (sends : ∀ inner, event.cause = some inner → CallThread.oneAtATime c.thread inner) :
    CallsInTurn (fileCalls.callerStep c event) := by
  refine ⟨?_, inTurn.receives.step fileCalls_lawful allowed receives⟩
  rw [CallThread.callerStep_thread]
  cases causes : event.cause with
  | none => exact inTurn.sends
  | some inner =>
      exact inTurn.sends.step fileSenders_lawful (CallThread.callerEnabled_cause allowed causes)
        (sends inner causes)

/-! ### The messages that were got -/

/-- The messages that receive calls got: those that were written, and one that its user has
not read yet. -/
def Got (c : Callers (Callers (Duo (Endpoint GLists)))) (written : List (List UInt8)) : Prop :=
  c.thread.thread.right.socket.core.returned.reverse =
    written ++ if CallThread.unread c then [c.thread.thread.right.socket.core.rcv.recMsg] else []

variable {written : List (List UInt8)} {inner : CallerEvent NetworkEvent}

theorem right_step (c : Callers (Duo (Endpoint GLists))) (inner : CallerEvent NetworkEvent) :
    (fileSenders.callerStep c inner).thread.right.socket =
      (inner.cause.bind (NetworkEvent.onSide .right)).elim c.thread.right.socket
        (sockStep c.thread.right.socket) := by
  rw [CallThread.callerStep_thread]
  cases inner.cause with
  | none => rfl
  | some cause =>
      have steps : ((networkStep c.thread cause).get .right).socket =
          (cause.onSide .right).elim (c.thread.get .right).socket
            (sockStep (c.thread.get .right).socket) := networkStep_onSide
      exact steps

/-- The socket thread adds the message of a call that it completes, and no other. -/
theorem Got.thread (got : Got c written) (inTurn : CallsInTurn c)
    (allowed : fileCalls.callerEnabled c (.thread inner)) :
    Got (fileCalls.callerStep c (.thread inner)) written := by
  have unread := inTurn.receives.latest.unread_thread fileCalls_lawful inTurn.receives.sound allowed
  have after : (fileCalls.callerStep c (.thread inner)).thread =
      fileSenders.callerStep c.thread inner := CallThread.callerStep_thread fileCalls c _
  have own :
      (inner.cause.bind (NetworkEvent.onSide .right)).any SockEvent.isReceiveCall = false := by
    have posts : inner.cause.any fileReceivers.posts = false := allowed.2.1
    cases causes : inner.cause with
    | none => rfl
    | some cause =>
        rw [causes] at posts
        exact posts
  have message : if fileCalls.ends c.thread inner = true ∧
      (fileSenders.callerStep c.thread inner).thread.right.socket.core.rcv.recOk = true then
        (fileSenders.callerStep c.thread inner).thread.right.socket.core.returned =
          (fileSenders.callerStep c.thread inner).thread.right.socket.core.rcv.recMsg ::
            c.thread.thread.right.socket.core.returned
      else (fileSenders.callerStep c.thread inner).thread.right.socket.core.returned =
          c.thread.thread.right.socket.core.returned ∧
        (fileSenders.callerStep c.thread inner).thread.right.socket.core.rcv.recMsg =
          c.thread.thread.right.socket.core.rcv.recMsg := by
    have ends : fileCalls.ends c.thread inner = decide
        ((receiveCall
            (fileSenders.callerStep c.thread inner).thread.right.socket.core).replies.length ≠
          (receiveCall c.thread.thread.right.socket.core).replies.length) := rfl
    rw [ends, right_step]
    cases does : inner.cause.bind (NetworkEvent.onSide .right) with
    | none =>
        rw [Option.elim_none, if_neg]
        · exact ⟨rfl, rfl⟩
        · rintro ⟨changed, -⟩
          exact of_decide_eq_true changed rfl
    | some event =>
        rw [does] at own
        exact receive_answered c.thread.thread.right.socket own
  unfold Got at got ⊢
  rw [after]
  rcases unread with ⟨goesOn, same⟩ | ⟨ends, none, reply⟩
  · rw [if_neg (fun both => absurd (goesOn.symm.trans both.1) (by decide))] at message
    rw [same, message.1, message.2]
    exact got
  · have ok : CallThread.unread (fileCalls.callerStep c (.thread inner)) =
        (fileSenders.callerStep c.thread inner).thread.right.socket.core.rcv.recOk := reply
    rw [none, if_neg (by decide), List.append_nil] at got
    rw [ok]
    cases success : (fileSenders.callerStep c.thread inner).thread.right.socket.core.rcv.recOk with
    | true =>
        rw [if_pos ⟨ends, success⟩] at message
        rw [message, List.reverse_cons, got]
        rfl
    | false =>
        rw [if_neg (fun both => absurd (success.symm.trans both.2) (by decide))] at message
        rw [message.1, got]
        exact (List.append_nil _).symm

/-- A receive call is left only when all messages were written. -/
theorem Got.receive (got : Got c written) (inTurn : CallsInTurn c)
    (returned : ∀ call ∈ c.calls, call.isReturned = true) :
    Got (fileCalls.callerStep c receiveCause) written := by
  obtain ⟨-, none⟩ := inTurn.receives.latest.returned returned
  have after : (fileCalls.callerStep c receiveCause).thread =
      fileSenders.callerStep c.thread (.thread (.act .right .userReceive)) :=
    CallThread.callerStep_thread fileCalls c _
  have same : (fileCalls.callerStep c receiveCause).thread.thread.right.socket.core.returned =
      c.thread.thread.right.socket.core.returned := by
    rw [after, right_step]
    rfl
  have read : CallThread.unread (fileCalls.callerStep c receiveCause) = false :=
    CallThread.unread_post _
  unfold Got at got ⊢
  rw [none] at got
  rw [same, read]
  exact got

/-- The user writes the message that its call got. -/
theorem Got.answer (got : Got c written) (inTurn : CallsInTurn c)
    (allowed : fileCalls.callerEnabled c (.answer 0)) :
    let rcv := c.thread.thread.right.socket.core.rcv
    Got (fileCalls.callerStep c (.answer 0))
      (if rcv.recOk then written ++ [rcv.recMsg] else written) := by
  intro rcv
  obtain ⟨ok, read⟩ := inTurn.receives.latest.unread_answer allowed
  have ok : CallThread.unread c = rcv.recOk := ok
  unfold Got at got ⊢
  rw [read]
  refine Eq.trans got ?_
  rw [ok]
  cases rcv.recOk with
  | true => exact (List.append_nil _).symm
  | false => rfl

end Calls

/-! ### The run -/

/-- What holds of two programs that transfer a file. -/
structure Transferring (file : List UInt8) (seeds : Duo UInt16) (t : Transfer) : Prop where
  inTurn : CallsInTurn t.calls
  carrying : Carrying seeds t.net
  published : Published t.net.left.socket.core
  opened : t.accepted = true → ¬ t.net.left.socket.core.handshake.Opening
  passed : t.net.left.passed.flatten ++ t.unread = file
  got : Got t.calls t.written

section Runs

variable {file : List UInt8} {seeds : Duo UInt16} {t : Transfer} {event : TransferEvent}

theorem newTransfer_transferring (file : List UInt8) (seeds : Duo UInt16) (clocks : Duo Clock) :
    Transferring file seeds (newTransfer file seeds clocks) where
  inTurn :=
    ⟨CallThread.orderly_start (sendCall_sound_new seeds.left clocks.left) rfl,
      CallThread.orderly_start ⟨rfl, fun called => by cases called⟩ rfl⟩
  carrying :=
    { converses := newNetwork_converses seeds clocks
      short := by
        rintro (_ | _)
        · exact Int.natCast_nonneg _
        · exact Int.natCast_nonneg _ }
  published := rfl
  opened := nofun
  passed := rfl
  got := rfl

/-- What a step of the programs or of the network keeps. -/
structure Keeps (seeds : Duo UInt16) (t : Transfer) (net : Duo (Endpoint GLists)) : Prop where
  carrying : Carrying seeds net
  published : Published net.left.socket.core
  opened : t.accepted = true → ¬ net.left.socket.core.handshake.Opening

theorem Transferring.keeps (transferring : Transferring file seeds t)
    {event : CallerEvent (CallerEvent NetworkEvent)}
    (allowed : fileCalls.callerEnabled t.calls event)
    (safely : ∀ cause ∈ netCause event, arrivesSafely t.net cause)
    (passes : ∀ cause ∈ netCause event,
      passesInTurnEach t.net cause ∧ postsShortEach 32768 t.net cause) :
    Keeps seeds t (fileCalls.callerStep t.calls event).thread.thread := by
  obtain ⟨inTurn, carrying, published, opened, passed, got⟩ := transferring
  rw [callerStep_net]
  cases causes : netCause event with
  | none => exact ⟨carrying, published, opened⟩
  | some cause =>
      have enabled := callerEnabled_net allowed causes
      have opens := (safely cause causes).1
      refine ⟨?_, ?_, ?_⟩
      · exact carrying.step enabled (safely cause causes) (passes cause causes).1
          (passes cause causes).2
      · exact networkStep_published .left published
      · exact fun accepted => carrying.opened enabled opens .left (opened accepted)

/-- The events of neither program. -/
theorem Transferring.other (transferring : Transferring file seeds t)
    {event : CallerEvent (CallerEvent NetworkEvent)}
    (allowed : fileCalls.callerEnabled t.calls event) (other : ofPrograms event = false)
    (safely : ∀ cause ∈ netCause event, arrivesSafely t.net cause) :
    Transferring file seeds { t with calls := fileCalls.callerStep t.calls event } := by
  have silent : ∀ cause ∈ netCause event, ∀ side data, cause ≠ .act side (.userSend data) := by
    rintro cause causes side data rfl
    cases event with
    | post inner => cases other
    | answer i => cases other
    | set | wake i => cases causes
    | thread inner =>
        cases inner with
        | post first => cases other
        | answer i => cases other
        | set | wake i => cases causes
        | thread first =>
            obtain rfl := Option.some.inj causes
            cases other
  have keeps := transferring.keeps allowed safely fun cause causes => by
    cases cause with
    | deliver side d => exact ⟨trivial, trivial⟩
    | act side own =>
        cases own with
        | userSend data => exact absurd rfl (silent _ causes side data)
        | _ => exact ⟨trivial, trivial⟩
  refine ⟨?_, keeps.carrying, keeps.published, keeps.opened, ?_, ?_⟩
  · apply transferring.inTurn.step allowed
    · cases event with
      | post inner => cases other
      | _ => trivial
    · intro inner causes
      cases event with
      | post first => cases other
      | answer i => cases other
      | set | wake i => cases causes
      | thread first =>
          obtain rfl := Option.some.inj causes
          cases first with
          | post cause => cases other
          | _ => trivial
  · show (fileCalls.callerStep t.calls event).thread.thread.left.passed.flatten ++ t.unread = file
    have same : ((fileCalls.callerStep t.calls event).thread.thread.get .left).passed =
        (t.net.get .left).passed := by
      rw [callerStep_net]
      cases causes : netCause event with
      | none => rfl
      | some cause =>
          exact networkStep_passed (callerEnabled_net allowed causes) .left
            (silent cause causes .left)
    exact Eq.trans (congrArg (List.flatten · ++ t.unread) same) transferring.passed
  · show Got (fileCalls.callerStep t.calls event) t.written
    cases event with
    | post inner => cases other
    | answer i => cases other
    | thread inner => exact transferring.got.thread transferring.inTurn allowed
    | set => exact transferring.got
    | wake i =>
        have got := transferring.got
        unfold Got at got ⊢
        rw [transferring.inTurn.receives.latest.unread_wake allowed]
        exact got

/-- `send_file` passes what it read. -/
theorem Transferring.fread (transferring : Transferring file seeds t)
    (enabled : transferEnabled t .fread) : Transferring file seeds (transferStep t .fread) := by
  obtain ⟨accepted, -, returned, able⟩ := enabled
  unfold transferStep
  dsimp only
  split
  · exact ⟨transferring.inTurn, transferring.carrying, transferring.published, transferring.opened,
      transferring.passed, transferring.got⟩
  · rename_i some
    have allowed := able some
    have causes : netCause (sendCause t.buffer) =
        Option.some (.act .left (.userSend t.buffer)) := rfl
    have enabled : networkEnabled t.net (.act .left (.userSend t.buffer)) :=
      callerEnabled_net allowed causes
    have idle : (fileSenders.view t.calls.thread.thread).called = false :=
      (transferring.inTurn.sends.latest.returned returned).1
    have turn : passesInTurn t.net.left.socket (.userSend t.buffer) :=
      ⟨Option.not_isSome_iff_eq_none.mp ((Bool.not_eq_true _).mpr idle),
        transferring.opened accepted⟩
    have short : pktsCount t.net.left.socket.core.snd.ourMss.toNat t.buffer.length ≤ 32768 := by
      have mss : 0 < t.net.left.socket.core.snd.ourMss.toNat :=
        positive_of_ne_zero enabled.2.2.2.2
      rw [pktsCount_le_iff mss]
      have length : t.buffer.length ≤ FILE_BUFFER := List.length_take_le _ _
      unfold FILE_BUFFER at length
      omega
    have opens : opensOnceEach t.net (.act .left (.userSend t.buffer)) := by
      intro handles
      cases handles
    have keeps := transferring.keeps allowed
      (fun cause member => by
        obtain rfl := Option.some.inj (causes.symm.trans member)
        exact ⟨opens, trivial, trivial⟩)
      (fun cause member => by
        obtain rfl := Option.some.inj (causes.symm.trans member)
        exact ⟨turn, short⟩)
    refine ⟨?_, keeps.carrying, keeps.published, keeps.opened, ?_, ?_⟩
    · apply transferring.inTurn.step allowed trivial
      intro inner first
      obtain rfl := Option.some.inj first
      exact returned
    · have grown : (fileCalls.callerStep t.calls (sendCause t.buffer)).thread.thread.left.passed =
          t.net.left.passed ++ [t.buffer] := by
        rw [callerStep_net, causes]
        rfl
      refine Eq.trans (congrArg (List.flatten · ++ _) grown) ?_
      rw [List.flatten_concat, List.append_assoc, Transfer.buffer, List.take_append_drop]
      exact transferring.passed
    · exact transferring.got.thread transferring.inTurn allowed

/-- A step that leaves the network alone. -/
theorem Transferring.rests (transferring : Transferring file seeds t)
    {event : CallerEvent (CallerEvent NetworkEvent)}
    (allowed : fileCalls.callerEnabled t.calls event) (still : netCause event = none) :
    Keeps seeds t (fileCalls.callerStep t.calls event).thread.thread := by
  apply transferring.keeps allowed
  · intro cause causes
    rw [still] at causes
    cases causes
  · intro cause causes
    rw [still] at causes
    cases causes

/-- `receive_file` calls again. -/
theorem Transferring.receive (transferring : Transferring file seeds t)
    (enabled : transferEnabled t .receive) : Transferring file seeds (transferStep t .receive) := by
  obtain ⟨-, -, returned, allowed⟩ := enabled
  have causes : netCause receiveCause = some (.act .right .userReceive) := rfl
  have opens : opensOnceEach t.net (.act .right .userReceive) := by
    intro handles
    cases handles
  have keeps := transferring.keeps allowed
    (fun cause member => by
      obtain rfl := Option.some.inj (causes.symm.trans member)
      exact ⟨opens, trivial, trivial⟩)
    (fun cause member => by
      obtain rfl := Option.some.inj (causes.symm.trans member)
      exact ⟨trivial, trivial⟩)
  refine ⟨?_, keeps.carrying, keeps.published, keeps.opened, ?_, ?_⟩
  · apply transferring.inTurn.step allowed returned
    intro inner first
    obtain rfl := Option.some.inj first
    trivial
  · have same : (fileCalls.callerStep t.calls receiveCause).thread.thread.left = t.net.left := by
      rw [callerStep_net, causes]
      rfl
    exact Eq.trans (congrArg (fun e => e.passed.flatten ++ t.unread) same) transferring.passed
  · exact transferring.got.receive transferring.inTurn returned

/-- `receive_file` writes what its call got. -/
theorem Transferring.received (transferring : Transferring file seeds t)
    (allowed : fileCalls.callerEnabled t.calls (.answer 0)) :
    Transferring file seeds (transferStep t .received) := by
  have rests := transferring.rests allowed rfl
  have inTurn : CallsInTurn (fileCalls.callerStep t.calls (.answer 0)) :=
    transferring.inTurn.step allowed trivial fun inner first => by cases first
  have got := transferring.got.answer transferring.inTurn allowed
  dsimp only at got
  unfold transferStep
  dsimp only
  split
  · rename_i ok
    have ok : t.calls.thread.thread.right.socket.core.rcv.recOk = true := ok
    rw [if_pos ok] at got
    exact ⟨inTurn, rests.carrying, rests.published, rests.opened, transferring.passed, got⟩
  · rename_i failed
    have failed : ¬ t.calls.thread.thread.right.socket.core.rcv.recOk = true := failed
    rw [if_neg failed] at got
    exact ⟨inTurn, rests.carrying, rests.published, rests.opened, transferring.passed, got⟩

theorem Transferring.step (transferring : Transferring file seeds t)
    (enabled : transferEnabled t event) (safely : transfersSafely t event) :
    Transferring file seeds (transferStep t event) := by
  have inTurn := transferring.inTurn
  cases event with
  | accept =>
      refine ⟨inTurn, transferring.carrying, transferring.published, fun _ opening => ?_,
        transferring.passed, transferring.got⟩
      exact opening.2 (transferring.published.symm.trans enabled)
  | connect =>
      exact ⟨inTurn, transferring.carrying, transferring.published, transferring.opened,
        transferring.passed, transferring.got⟩
  | fread => exact transferring.fread enabled
  | sent =>
      have allowed : fileCalls.callerEnabled t.calls (.thread (.answer 0)) := enabled
      have rests := transferring.rests allowed rfl
      have same : (fileCalls.callerStep t.calls (.thread (.answer 0))).thread.thread = t.net :=
        callerStep_net t.calls _
      refine ⟨inTurn.step allowed trivial ?_, rests.carrying, rests.published, rests.opened, ?_,
        transferring.got.thread inTurn allowed⟩
      · intro inner first
        obtain rfl := Option.some.inj first
        trivial
      · exact Eq.trans (congrArg (fun net => net.left.passed.flatten ++ t.unread) same)
          transferring.passed
  | receive => exact transferring.receive enabled
  | received => exact transferring.received enabled
  | other event => exact transferring.other enabled.1 enabled.2 safely

theorem transferring_of_run {clocks : Duo Clock} {events : List TransferEvent}
    (run : transferMachine.RunWhere transfersSafely (newTransfer file seeds clocks) events t) :
    Transferring file seeds t :=
  run.invariant (newTransfer_transferring file seeds clocks)
    fun _ _ transferring enabled safely => transferring.step enabled safely

/-- In every run in which each socket opens once, nothing arrives half a turn late and every
packet is inserted safely, what `receive_file` wrote is the front of the file that `send_file`
reads; it is the whole file when all was read and every message that was passed is written. -/
theorem written_of_run {clocks : Duo Clock} {events : List TransferEvent}
    (run : transferMachine.RunWhere transfersSafely (newTransfer file seeds clocks) events t) :
    t.written.flatten <+: file ∧
      (t.unread = [] → t.written.length = t.net.left.passed.length → t.written.flatten = file) := by
  have transferring := transferring_of_run run
  have arrived : t.net.right.socket.core.returned.reverse <+: t.net.left.passed :=
    transferring.carrying.converses.deliversPrefix .left
  have written : t.written <+: t.net.left.passed :=
    (List.prefix_append _ _).trans (transferring.got ▸ arrived)
  have passed := transferring.passed
  constructor
  · obtain ⟨rest, all⟩ := written
    rw [← passed, ← all, List.flatten_append, List.append_assoc]
    exact List.prefix_append _ _
  · intro all count
    rw [all, List.append_nil] at passed
    rw [← passed, written.eq_of_length count]

end Runs

/-! ### A file of two chunks -/

/-- The right socket opens a connection to the left one. -/
def connectCues : List TransferCue :=
  ([.act .right (.userCtrl .connect), .act .right .handleCtrl, .act .right .sendCtrlPacket,
    .deliver .left 0, .act .left .sendCtrlPacket, .deliver .right 0, .act .right .sendCtrlPacket,
    .deliver .left 0] : List Cue).map .network

/-- A packet goes to the right, where it arrives twice, so that its ack does not wait. -/
def acknowledgedCues : List TransferCue :=
  ([.act .left .sendData, .deliver .right 0, .deliver .right 0, .act .right .refreshAck,
    .act .right .sendData, .deliver .left 0] : List Cue).map .network

/-- A chunk is read, and its call returns behind some packets. -/
def sendCues (packets : Nat) : List TransferCue :=
  [.program .fread, .network (.act .left .handleSend)] ++
    (List.replicate packets acknowledgedCues).flatten ++
    [.program (.other (.thread .set)), .program (.other (.thread (.wake 0))), .program .sent]

/-- A message is received and written. -/
def receiveCues : List TransferCue :=
  [.program .receive, .network (.act .right .handleReceive), .program (.other .set),
    .program (.other (.wake 0)), .program .received]

/-- A byte more than one chunk. -/
def exampleFile : List UInt8 := List.replicate 4096 1 ++ [2]

def exampleTransfer : Transfer :=
  newTransfer exampleFile ⟨100, 7⟩ ⟨⟨fun _ => ⟨0, 0⟩, 0⟩, ⟨fun _ => ⟨0, 0⟩, 0⟩⟩

theorem exampleTransfer_run {cues : List TransferCue}
    (allowed : transferCuesAllowed exampleTransfer cues) :
    ∃ events, transferMachine.RunWhere transfersSafely exampleTransfer events
      (cues.foldl TransferCue.step exampleTransfer) := by
  have related : exampleTransfer.net.Related (Speaks ⟨100, 7⟩) := newNetwork_speaks _ _
  exact transferRun_of_cues .stay related allowed

/-- Both chunks are sent, and the first one is written. -/
def sentFile : List TransferCue :=
  connectCues ++ [.program .accept, .program .connect] ++ sendCues 3 ++ receiveCues ++ sendCues 1

def sentTransfer : Transfer := sentFile.foldl TransferCue.step exampleTransfer

/-- The second one is written as well, and the left program finds nothing more to read. -/
def receivedFile : List TransferCue := sentFile ++ receiveCues ++ [.program .fread]

def receivedTransfer : Transfer := receivedFile.foldl TransferCue.step exampleTransfer

/-- The theorem holds of a run in which a file of two chunks is transferred. -/
theorem written_receivedFile : receivedTransfer.written.length = 2 ∧
    receivedTransfer.sendOver = true ∧ receivedTransfer.written.flatten = exampleFile := by
  have allowed : transferCuesAllowed exampleTransfer receivedFile := by decide +kernel
  obtain ⟨events, run⟩ := exampleTransfer_run allowed
  exact ⟨by decide +kernel, by decide +kernel,
    (written_of_run run).2 (by decide +kernel) (by decide +kernel)⟩

end UserMessageProtocol
