import UserMessageProtocol.Network.Carrying
import UserMessageProtocol.Receiver.Answers

/-!
Contract: the file transfer of `test_ump.c`.

Owns: the machine of two users, of whom the left one accepts and runs `send_file`, and the
right one connects and runs `receive_file` (`transferMachine`), and the runs in which the
network brings what it should (`transfersSafely`).

Each call of `ump_send_message` and `ump_receive_message` takes the three steps that its
user takes: the critical section, the wait, and the reading of the reply. A file is its
bytes, and is read and written without failures.

Does not own: what arrives (`Transfer.Written`).
-/

set_option autoImplicit false

namespace UserMessageProtocol

/-! ### Two users -/

/-- The network, as the users see it that send on the left side. -/
def fileSenders : CallThread (Duo (Endpoint GLists)) NetworkEvent :=
  (onNetwork .left (sendThread GLists)).whole

/-- The network, as the users see it that receive on the right side. -/
def fileReceivers : CallThread (Duo (Endpoint GLists)) NetworkEvent :=
  (onNetwork .right (receiveThread GLists)).whole

/-- The same with the users on the left side. -/
def fileCalls : CallThread (Callers (Duo (Endpoint GLists))) (CallerEvent NetworkEvent) :=
  (fileReceivers.besideCallers fileSenders).whole

/-- `l` of `send_file`. -/
def FILE_BUFFER : Nat := 4096

/-- The two programs with the network: what the left one did not read from its file yet, and
what the right one wrote, one entry for each `fwrite`. -/
structure Transfer where
  calls : Callers (Callers (Duo (Endpoint GLists)))
  accepted : Bool
  connected : Bool
  unread : List UInt8
  sendOver : Bool
  written : List (List UInt8)
  receiveOver : Bool

namespace Transfer

variable (t : Transfer)

def net : Duo (Endpoint GLists) := t.calls.thread.thread

/-- The calls of `ump_send_message`. -/
def sends : List UserCall := t.calls.thread.calls

/-- The calls of `ump_receive_message`. -/
def receives : List UserCall := t.calls.calls

/-- What `fread` gets. -/
def buffer : List UInt8 := t.unread.take FILE_BUFFER

end Transfer

/-- What happens: `ump_accept` and `ump_connect` return, the left program reads from its file
and passes what it got, its call returns, the right program calls, its call returns, or
something else. -/
inductive TransferEvent where
  | accept
  | connect
  | fread
  | sent
  | receive
  | received
  | other (event : CallerEvent (CallerEvent NetworkEvent))

/-- The call of a message on the left side. -/
def sendCause (data : List UInt8) : CallerEvent (CallerEvent NetworkEvent) :=
  .thread (.post (.act .left (.userSend data)))

/-- The call of a receive on the right side. -/
def receiveCause : CallerEvent (CallerEvent NetworkEvent) :=
  .post (.thread (.act .right .userReceive))

/-- The steps of the two programs, and calls that neither of them makes. -/
def ofPrograms : CallerEvent (CallerEvent NetworkEvent) → Bool
  | .post _ | .answer _ | .thread (.post _) | .thread (.answer _) => true
  | .thread (.thread (.act _ event)) => event.isSendCall || event.isReceiveCall
  | .thread (.thread (.deliver _ _)) | .thread .set | .thread (.wake _) | .set | .wake _ => false

/-- A program goes on only behind the return of its call. -/
def transferEnabled (t : Transfer) : TransferEvent → Prop
  | .accept => t.net.left.socket.core.ctrl.publicState = .established
  | .connect => t.net.right.socket.core.ctrl.publicState = .established
  | .fread => t.accepted = true ∧ t.sendOver = false ∧ (∀ call ∈ t.sends, call.isReturned = true) ∧
      (t.unread ≠ [] → fileCalls.callerEnabled t.calls (sendCause t.buffer))
  | .sent => fileCalls.callerEnabled t.calls (.thread (.answer 0))
  | .receive => t.connected = true ∧ t.receiveOver = false ∧
      (∀ call ∈ t.receives, call.isReturned = true) ∧ fileCalls.callerEnabled t.calls receiveCause
  | .received => fileCalls.callerEnabled t.calls (.answer 0)
  | .other event => fileCalls.callerEnabled t.calls event ∧ ofPrograms event = false

/-- The loops of `send_file` and `receive_file`. -/
def transferStep (t : Transfer) : TransferEvent → Transfer
  | .accept => { t with accepted := true }
  | .connect => { t with connected := true }
  | .fread =>
      if t.unread = [] then { t with sendOver := true }
      else
        { t with
          calls := fileCalls.callerStep t.calls (sendCause t.buffer)
          unread := t.unread.drop FILE_BUFFER }
  | .sent =>
      { t with
        calls := fileCalls.callerStep t.calls (.thread (.answer 0))
        sendOver := t.sendOver || !t.net.left.socket.core.snd.sndOk }
  | .receive => { t with calls := fileCalls.callerStep t.calls receiveCause }
  | .received =>
      let rcv := t.net.right.socket.core.rcv
      let calls := fileCalls.callerStep t.calls (.answer 0)
      if rcv.recOk then { t with calls := calls, written := t.written ++ [rcv.recMsg] }
      else { t with calls := calls, receiveOver := true }
  | .other event => { t with calls := fileCalls.callerStep t.calls event }

/-- Two programs that transfer a file. -/
def transferMachine : Machine Transfer TransferEvent where
  enabled := transferEnabled
  step := transferStep

/-- Two programs that have just got their sockets, and a file to send. -/
def newTransfer (file : List UInt8) (seeds : Duo UInt16) (clocks : Duo Clock) : Transfer where
  calls := CallThread.start (CallThread.start (newNetwork GLists seeds clocks))
  accepted := false
  connected := false
  unread := file
  sendOver := false
  written := []
  receiveOver := false

/-! ### What the network does -/

/-- What an event makes the network do. -/
def netCause (event : CallerEvent (CallerEvent NetworkEvent)) : Option NetworkEvent :=
  event.cause.bind CallerEvent.cause

section Calls

variable {c : Callers (Callers (Duo (Endpoint GLists)))}
  {event : CallerEvent (CallerEvent NetworkEvent)} {cause : NetworkEvent}

theorem callerStep_net (c : Callers (Callers (Duo (Endpoint GLists))))
    (event : CallerEvent (CallerEvent NetworkEvent)) :
    (fileCalls.callerStep c event).thread.thread =
      (netCause event).elim c.thread.thread (networkStep c.thread.thread) := by
  rw [CallThread.callerStep_thread, netCause]
  cases event.cause with
  | none => rfl
  | some inner => exact CallThread.callerStep_thread fileSenders c.thread inner

theorem callerEnabled_net (allowed : fileCalls.callerEnabled c event)
    (causes : netCause event = some cause) : networkEnabled c.thread.thread cause := by
  obtain ⟨inner, first, second⟩ := Option.bind_eq_some_iff.mp causes
  have able : fileSenders.callerEnabled c.thread inner :=
    CallThread.callerEnabled_cause allowed first
  exact CallThread.callerEnabled_cause able second

end Calls

/-- What the network does to the programs. -/
def transfersSafely (t : Transfer) : TransferEvent → Prop
  | .other event => ∀ cause ∈ netCause event, arrivesSafely t.net cause
  | _ => True

instance (t : Transfer) (event : TransferEvent) : Decidable (transfersSafely t event) :=
  match event with
  | .other event =>
      inferInstanceAs (Decidable (∀ cause ∈ netCause event, arrivesSafely t.net cause))
  | .accept | .connect | .fread | .sent | .receive | .received => instDecidableTrue

/-! ### Runs told by cues -/

/-- A step of the network or of a program. -/
inductive TransferCue where
  | network (cue : Cue)
  | program (event : TransferEvent)

def TransferCue.event (t : Transfer) : TransferCue → TransferEvent
  | .network cue => .other (.thread (.thread (cue.event t.net)))
  | .program event => event

section Decidability

variable (t : Transfer)

instance (net : Duo (Endpoint GLists)) (cause : NetworkEvent) :
    Decidable (fileSenders.machine.enabled net cause) :=
  inferInstanceAs (Decidable (networkEnabled net cause))

instance (c : Callers (Duo (Endpoint GLists))) (event : CallerEvent NetworkEvent) :
    Decidable (fileCalls.machine.enabled c event) :=
  inferInstanceAs (Decidable (fileSenders.callers.enabled c event))

instance (event : CallerEvent (CallerEvent NetworkEvent)) :
    Decidable (fileCalls.callerEnabled t.calls event) :=
  inferInstanceAs (Decidable (fileCalls.callers.enabled t.calls event))

instance (event : TransferEvent) : Decidable (transferMachine.enabled t event) :=
  match event with
  | .accept =>
      inferInstanceAs (Decidable (t.net.left.socket.core.ctrl.publicState = .established))
  | .connect =>
      inferInstanceAs (Decidable (t.net.right.socket.core.ctrl.publicState = .established))
  | .fread =>
      inferInstanceAs (Decidable (t.accepted = true ∧ t.sendOver = false ∧
        (∀ call ∈ t.sends, call.isReturned = true) ∧
        (t.unread ≠ [] → fileCalls.callerEnabled t.calls (sendCause t.buffer))))
  | .sent => inferInstanceAs (Decidable (fileCalls.callerEnabled t.calls (.thread (.answer 0))))
  | .receive =>
      inferInstanceAs (Decidable (t.connected = true ∧ t.receiveOver = false ∧
        (∀ call ∈ t.receives, call.isReturned = true) ∧
        fileCalls.callerEnabled t.calls receiveCause))
  | .received => inferInstanceAs (Decidable (fileCalls.callerEnabled t.calls (.answer 0)))
  | .other event =>
      inferInstanceAs (Decidable (fileCalls.callerEnabled t.calls event ∧ ofPrograms event = false))

end Decidability

end UserMessageProtocol
