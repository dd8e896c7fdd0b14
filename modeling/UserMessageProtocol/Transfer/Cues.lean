import UserMessageProtocol.Network.Cues
import UserMessageProtocol.Transfer.Programs

/-!
Contract: runs of the two programs told by cues, without decoding.

Owns: the programs behind a cue when each packet is taken in the form in which it is received
(`TransferCue.step`), and that allowed cues are a run of the machine (`transferRun_of_cues`).

Does not own: the network behind a cue (`Network.Cues`).
-/

set_option autoImplicit false

/-- The users of a thread behind a step of it, for the state it leads to. -/
def CallThread.behind {State Event : Type} (t : CallThread State Event) (c : Callers State)
    (after : State) : Callers State :=
  if decide ((t.view after).replies.length ≠ (t.view c.thread).replies.length) then
    { c with
      thread := after
      owed := true
      calls := c.calls.map fun call => call.complete (t.view after).ok }
  else { c with thread := after }

namespace UserMessageProtocol

/-! ### What arrives, in the form in which it is received -/

/-- What the network brings, when it brings packets. -/
def receivesSafely (net : Duo (Endpoint GLists)) : NetworkEvent → Prop
  | .act side event => arrivesSafely net (.act side event)
  | .deliver side d => arrivesFresh net (.deliver side d) ∧
      takesSafely (net.get side).socket (packetEvent (receivedForm d.packet))

instance (net : Duo (Endpoint GLists)) (cause : NetworkEvent) :
    Decidable (receivesSafely net cause) :=
  match cause with
  | .act side event => inferInstanceAs (Decidable (arrivesSafely net (.act side event)))
  | .deliver side d =>
      inferInstanceAs (Decidable (arrivesFresh net (.deliver side d) ∧
        takesSafely (net.get side).socket (packetEvent (receivedForm d.packet))))

/-- A cue that is no call of a user. -/
def Cue.isQuiet : Cue → Bool
  | .act _ event => !(event.isSendCall || event.isReceiveCall)
  | .deliver _ _ => true

/-- The programs behind a cue. -/
def TransferCue.step (t : Transfer) : TransferCue → Transfer
  | .network cue =>
      { t with
        calls := fileCalls.behind t.calls (fileSenders.behind t.calls.thread (cue.step t.net)) }
  | .program event => transferStep t event

/-- A cue that a safe run allows; the network goes on when no user is to be woken. -/
def TransferCue.Allowed (t : Transfer) : TransferCue → Prop
  | .network cue => t.calls.owed = false ∧ t.calls.thread.owed = false ∧ cue.isQuiet = true ∧
      cue.Allowed receivesSafely t.net
  | .program event => transferMachine.enabled t event ∧ transfersSafely t event

def transferCuesAllowed : Transfer → List TransferCue → Prop
  | _, [] => True
  | t, cue :: rest => cue.Allowed t ∧ transferCuesAllowed (cue.step t) rest

instance (t : Transfer) (cue : TransferCue) : Decidable (cue.Allowed t) :=
  match cue with
  | .network cue =>
      inferInstanceAs (Decidable (t.calls.owed = false ∧ t.calls.thread.owed = false ∧
        cue.isQuiet = true ∧ cue.Allowed receivesSafely t.net))
  | .program event =>
      inferInstanceAs (Decidable (transferMachine.enabled t event ∧ transfersSafely t event))

instance decidableTransferCuesAllowed :
    (t : Transfer) → (cues : List TransferCue) → Decidable (transferCuesAllowed t cues)
  | _, [] => instDecidableTrue
  | t, cue :: rest =>
      have := decidableTransferCuesAllowed (cue.step t) rest
      inferInstanceAs (Decidable (cue.Allowed t ∧ transferCuesAllowed (cue.step t) rest))

section Runs

variable {seeds : Duo UInt16} {t start : Transfer} {event : TransferEvent}

theorem packetEvent_isQuiet (p : UMPPacket) :
    (packetEvent p).isSendCall = false ∧ (packetEvent p).isReceiveCall = false := by
  unfold packetEvent
  split <;> exact ⟨rfl, rfl⟩

/-- No user calls by such a cue. -/
theorem Cue.posts_quiet (cue : Cue) (net : Duo (Endpoint GLists)) (quiet : cue.isQuiet = true)
    (side : Side) : ((cue.event net).onSide side).any SockEvent.isSendCall = false ∧
      ((cue.event net).onSide side).any SockEvent.isReceiveCall = false := by
  have silent (here : Side) (event : Option SockEvent)
      (none : ∀ e ∈ event, e.isSendCall = false ∧ e.isReceiveCall = false) :
      (if here = side then event else Option.none).any SockEvent.isSendCall = false ∧
        (if here = side then event else Option.none).any SockEvent.isReceiveCall = false := by
    split
    · cases event with
      | none => exact ⟨rfl, rfl⟩
      | some e => exact none e rfl
    · exact ⟨rfl, rfl⟩
  cases cue with
  | act here event =>
      have neither : event.isSendCall = false ∧ event.isReceiveCall = false := by
        simpa [Cue.isQuiet] using quiet
      apply silent here (some event)
      intro e same
      obtain rfl := Option.some.inj same
      exact neither
  | deliver here place =>
      unfold Cue.event
      dsimp only
      split
      · rename_i d found
        apply silent here ((arrived d.packet).map packetEvent)
        intro e same
        obtain ⟨p, -, rfl⟩ := Option.map_eq_some_iff.mp same
        exact packetEvent_isQuiet p
      · apply silent here (some .sendReset)
        intro e same
        obtain rfl := Option.some.inj same
        exact ⟨rfl, rfl⟩

theorem Cue.ofPrograms_quiet (cue : Cue) (net : Duo (Endpoint GLists))
    (quiet : cue.isQuiet = true) : ofPrograms (.thread (.thread (cue.event net))) = false := by
  cases cue with
  | act side event => simpa [Cue.isQuiet, Cue.event, ofPrograms] using quiet
  | deliver side place =>
      unfold Cue.event
      dsimp only
      split <;> rfl

/-- What a step of the machine makes the network do. -/
def TransferEvent.cause (t : Transfer) : TransferEvent → Option NetworkEvent
  | .fread => if t.unread = [] then none else some (.act .left (.userSend t.buffer))
  | .receive => some (.act .right .userReceive)
  | .other event => netCause event
  | .accept | .connect | .sent | .received => none

theorem transferStep_net (t : Transfer) (event : TransferEvent) :
    (transferStep t event).net = (event.cause t).elim t.net (networkStep t.net) := by
  cases event with
  | fread =>
      show (transferStep t .fread).net = (if t.unread = [] then none else some _).elim _ _
      unfold transferStep
      dsimp only
      split
      · rfl
      · exact callerStep_net t.calls (sendCause t.buffer)
  | receive => exact callerStep_net t.calls receiveCause
  | received =>
      unfold transferStep
      dsimp only
      split <;> exact callerStep_net t.calls (.answer 0)
  | other event => exact callerStep_net t.calls event
  | sent => exact callerStep_net t.calls (.thread (.answer 0))
  | accept | connect => rfl

theorem networkEnabled_of_transferEnabled {cause : NetworkEvent} (enabled : transferEnabled t event)
    (causes : event.cause t = some cause) : networkEnabled t.net cause := by
  cases event with
  | fread =>
      have causes : (if t.unread = [] then none else some (.act .left (.userSend t.buffer))) =
          some cause := causes
      split at causes
      · cases causes
      · rename_i some
        exact callerEnabled_net (enabled.2.2.2 some) causes
  | receive => exact callerEnabled_net enabled.2.2.2 causes
  | other event => exact callerEnabled_net enabled.1 causes
  | accept | connect | sent | received => cases causes

/-- What two sockets know of each other stays true under the programs. -/
theorem transferStep_speaks (related : t.net.Related (Speaks seeds))
    (enabled : transferEnabled t event) : (transferStep t event).net.Related (Speaks seeds) := by
  rw [transferStep_net]
  cases causes : event.cause t with
  | none => exact related
  | some cause =>
    exact networkStep_speaks related (networkEnabled_of_transferEnabled enabled causes)

theorem receivesSafely.arrives {net : Duo (Endpoint GLists)} {cue : Cue}
    (related : net.Related (Speaks seeds)) (allowed : cue.Allowed receivesSafely net)
    (safely : receivesSafely net (cue.event net)) : arrivesSafely net (cue.event net) := by
  cases cue with
  | act side event => exact safely
  | deliver side place =>
      cases found : (net.get side.other).wire[place]? with
      | none => simp only [Cue.Allowed, found] at allowed
      | some d =>
          have member := List.mem_of_getElem? found
          have decoded := arrived_of_encoded ((related side.other).control.encoded d member)
          simp only [Cue.event, found] at safely ⊢
          refine ⟨trivial, safely.1, fun p decoded' => ?_⟩
          rw [Option.some.inj (decoded'.symm.trans decoded)]
          exact safely.2

/-- What an allowed cue stands for. -/
theorem TransferCue.Allowed.transfers {cue : TransferCue} (allowed : cue.Allowed t)
    (related : t.net.Related (Speaks seeds)) : transferEnabled t (cue.event t) ∧
      transfersSafely t (cue.event t) ∧ transferStep t (cue.event t) = cue.step t := by
  cases cue with
  | program event => exact ⟨allowed.1, allowed.2, rfl⟩
  | network cue =>
      obtain ⟨noReceive, noSend, quiet, able⟩ := allowed
      obtain ⟨enabled, safely, same⟩ := able.event related
      have sends := (cue.posts_quiet t.net quiet .left).1
      have receives := (cue.posts_quiet t.net quiet .right).2
      refine ⟨⟨⟨⟨enabled, sends, .inl noSend⟩, receives, .inl noReceive⟩,
        cue.ofPrograms_quiet t.net quiet⟩, ?_, ?_⟩
      · intro cause causes
        obtain rfl := Option.some.inj causes
        exact receivesSafely.arrives related able safely
      · have behind : transferStep t (.other (.thread (.thread (cue.event t.net)))) =
            { t with
              calls := fileCalls.behind t.calls
                (fileSenders.behind t.calls.thread (networkStep t.net (cue.event t.net))) } := rfl
        exact behind.trans (by rw [same]; rfl)

/-- Allowed cues behind a safe run make it a longer one. -/
theorem transferRun_of_cues {events : List TransferEvent} {cues : List TransferCue}
    (run : transferMachine.RunWhere transfersSafely start events t)
    (related : t.net.Related (Speaks seeds)) (allowed : transferCuesAllowed t cues) :
    ∃ later, transferMachine.RunWhere transfersSafely start later
      (cues.foldl TransferCue.step t) := by
  induction cues generalizing t events with
  | nil => exact ⟨events, run⟩
  | cons cue rest inductionHypothesis =>
      obtain ⟨enabled, safely, same⟩ := TransferCue.Allowed.transfers allowed.1 related
      have next := Machine.RunWhere.go run enabled safely
      have spoken := transferStep_speaks related enabled
      rw [show transferMachine.step t (cue.event t) = cue.step t from same] at next
      rw [same] at spoken
      exact inductionHypothesis next spoken allowed.2

end Runs

end UserMessageProtocol
