import UserMessageProtocol.Network.Delivery
import UserMessageProtocol.Network.Passing

/-!
Contract: the messages that a user gets are those that the peer's user passed.

Owns: the runs in which messages are passed one after another (`passesInTurnEach`) and packets
are inserted safely, and the theorem that receive calls return the first of the messages that
were passed, in order and with their bytes.

Does not own: the flow of packets (`Network.Flow`), and how messages are numbered
(`Network.Passing`).
-/

set_option autoImplicit false

namespace UserMessageProtocol

open Serial Cuts

/-! ### Conditions -/

/-- Messages are passed one after another. -/
def passesInTurnEach {Lists : Type} (net : Duo (Endpoint Lists)) : NetworkEvent → Prop
  | .act side event => passesInTurn (net.get side).socket event
  | .deliver _ _ => True

/-- What the users and the network do: each socket opens once, messages are passed one after
another, and what arrives is fresh. -/
def passesAndFresh {Lists : Type} (net : Duo (Endpoint Lists)) (cause : NetworkEvent) : Prop :=
  opensAndFresh net cause ∧ passesInTurnEach net cause

/-- A packet that is stored is inserted safely. -/
def takesSafely (u : UMPSocket GLists) : SockEvent → Prop
  | .dataPacket p =>
      u.core.ctrl.state = .established → inReceiveRange u.core.rcv p = true → insertsSafely u p
  | _ => True

/-- Messages are passed one after another, they end only when they are complete, what arrives
is fresh, and packets are inserted safely. -/
def conversesSafely (net : Duo (Endpoint GLists)) (cause : NetworkEvent) : Prop :=
  conversesInTime net cause ∧ passesInTurnEach net cause ∧ takesEach takesSafely net cause

section Decidability

variable {Lists : Type} (net : Duo (Endpoint Lists)) (cause : NetworkEvent)

instance : Decidable (passesInTurnEach net cause) :=
  match cause with
  | .act _ _ => by unfold passesInTurnEach; infer_instance
  | .deliver _ _ => instDecidableTrue

instance : Decidable (passesAndFresh net cause) := by
  unfold passesAndFresh
  infer_instance

instance (u : UMPSocket GLists) (event : SockEvent) : Decidable (takesSafely u event) :=
  match event with
  | .dataPacket _ => by unfold takesSafely; infer_instance
  | .userCtrl .. | .userSend .. | .userReceive | .handleCtrl | .handleSend | .handleReceive |
    .bufferLoad .. | .ctrlPacket .. | .dataTimeout | .refreshRwnd | .refreshAck | .actReqWnd |
    .ctrlTimeout | .sendCtrlPacket | .heartbeat | .sendData | .sendReset => instDecidableTrue

instance (net : Duo (Endpoint GLists)) : Decidable (conversesSafely net cause) := by
  unfold conversesSafely
  infer_instance

end Decidability

section Acts

variable {net : Duo (Endpoint GLists)} {cause : NetworkEvent} {side : Side} {event : SockEvent}

theorem Acts.passesInTurn {Lists : Type} [ReceiveLists Lists] {net : Duo (Endpoint Lists)}
    (acts : Acts net cause side event) (inTurn : passesInTurnEach net cause) :
    UserMessageProtocol.passesInTurn (net.get side).socket event := by
  rcases acts.own with packet | own
  · cases event with
    | userSend data => cases packet
    | _ => trivial
  · rw [own] at inTurn
    exact inTurn

theorem takes_of_takesSafely (takes : takesEach takesSafely net cause) :
    takesEach linkedGatherer.takes net cause := by
  cases cause with
  | act side event =>
      rintro p rfl established inRange
      exact takes established inRange
  | deliver side d =>
      intro q decoded p packet established inRange
      have taken := takes q decoded
      rw [packet] at taken
      exact taken established inRange

end Acts

/-! ### Messages that arrive -/

/-- The receive calls of each user returned the first of the messages that the other one
passed. -/
def DeliversPrefix {Lists : Type} (net : Duo (Endpoint Lists)) : Prop :=
  ∀ side, (net.get side.other).socket.core.returned.reverse <+: (net.get side).passed

section Delivered

variable {seed : UInt16} {stream : List Fragment} {sent : Nat} {r : Reception}

/-- What was got in order is the front of the stream. -/
theorem Reception.Aligned.front (aligned : r.Aligned seed stream sent) :
    r.got.map fragment <+: stream := by
  rw [List.prefix_iff_getElem?]
  intro i inside
  rw [List.length_map] at inside
  rw [(aligned.got i _ (List.getElem?_eq_getElem inside)).found, List.getElem_map]

/-- The messages a receiver got of a stream are the first ones that it is made of. -/
theorem Incoming.messages {b : Endpoint GLists} {groups : List (List Fragment)}
    (incoming : Incoming linkedGatherer seed stream sent b r) (made : stream = groups.flatten)
    (closed : ∀ group ∈ groups, Closed Fragment.last group) :
    b.socket.core.deliveries.reverse.map (fun packets => packets.flatMap (·.userData)) <+:
      groups.map fragmentBytes := by
  cases heard : b.socket.core.ctrl.synReced with
  | false =>
      rw [(incoming.unheard heard).delivered]
      exact List.nil_prefix
  | true =>
      have gathers : Gathers [] b.socket r := incoming.gathers
      obtain ⟨delivered, deliveries, messages, all⟩ := gathers.delivered
      rw [List.append_nil] at deliveries
      have front := (incoming.aligned heard).front
      rw [all, List.map_append, made] at front
      have first : (delivered.reverse.map (List.map fragment)).flatten <+: groups.flatten := by
        rw [← List.map_flatten]
        exact (List.prefix_append _ _).trans front
      have isPrefix := prefix_of_flatten (fun group member => ?_) closed first
      · have bytes := isPrefix.map fragmentBytes
        rw [List.map_map] at bytes
        rw [deliveries]
        refine Eq.mp (congrArg (· <+: _) (List.map_congr_left fun packets _ => ?_)) bytes
        rw [Function.comp_apply, fragmentBytes, List.flatMap_map]
        rfl
      · obtain ⟨packets, inside, rfl⟩ := List.mem_map.mp member
        exact (messages packets (List.mem_reverse.mp inside)).map fun _ => rfl

end Delivered

/-! ### Runs -/

/-- What holds of two sockets whose users pass messages one after another. -/
structure Converses (seeds : Duo UInt16) (net : Duo (Endpoint GLists)) : Prop where
  flows : Flows linkedGatherer seeds net
  passing : ∀ side, ∃ groups, Passing (net.get side) groups
  returns : ∀ side, ReturnsBytes (net.get side).socket.core

section Runs

variable {seeds : Duo UInt16} {net : Duo (Endpoint GLists)} {cause : NetworkEvent}

theorem newNetwork_converses (seeds : Duo UInt16) (clocks : Duo Clock) :
    Converses seeds (newNetwork GLists seeds clocks) where
  flows := newNetwork_flows linkedGatherer seeds clocks
  passing := by
    rintro (_ | _)
    · exact ⟨[], passing_new _ _⟩
    · exact ⟨[], passing_new _ _⟩
  returns := by
    rintro (_ | _)
    · rfl
    · rfl

theorem Converses.step (converses : Converses seeds net) (enabled : networkEnabled net cause)
    (safely : conversesSafely net cause) : Converses seeds (networkStep net cause) := by
  obtain ⟨inTime, inTurn, takes⟩ := safely
  refine ⟨converses.flows.step enabled inTime (takes_of_takesSafely takes), ?_, ?_⟩
  · apply networkStep_each (fun _ e => ∃ groups, Passing e groups) converses.passing enabled
    intro side event acts
    obtain ⟨groups, passing⟩ := converses.passing side
    exact passing.step acts.allowed (acts.meets inTime.1).1
      (converses.flows.meet.related side).control.shaped (acts.passesInTurn inTurn)
  · apply networkStep_each (fun _ e => ReturnsBytes e.socket.core) converses.returns enabled
    intro side event acts
    exact sockStep_returnsBytes (converses.returns side)

theorem Converses.deliversPrefix (converses : Converses seeds net) : DeliversPrefix net := by
  intro side
  obtain ⟨groups, passing⟩ := converses.passing side
  obtain ⟨start, sent, r, flow⟩ := converses.flows.flow side
  have messages := flow.incoming.messages passing.stream passing.closed
  rw [converses.returns side.other, ← List.map_reverse]
  exact messages.trans passing.passed

end Runs

/-- In every run in which messages are passed one after another, each socket opens once, nothing
arrives half a turn late, no message ends before it is complete and every packet is inserted
safely, the receive calls return the first of the messages that were passed. -/
theorem deliversPrefix_of_run {seeds : Duo UInt16} {clocks : Duo Clock} {events : List NetworkEvent}
    {net : Duo (Endpoint GLists)}
    (run : (networkMachine GLists).RunWhere conversesSafely (newNetwork GLists seeds clocks)
      events net) : DeliversPrefix net :=
  (run.invariant (newNetwork_converses seeds clocks)
    fun _ _ converses enabled safely => converses.step enabled safely).deliversPrefix

/-- Two sockets with linked lists. -/
def linkedNetwork : Duo (Endpoint GLists) :=
  newNetwork GLists ⟨100, 7⟩ ⟨⟨fun _ => ⟨0, 0⟩, 0⟩, ⟨fun _ => ⟨0, 0⟩, 0⟩⟩

/-- The left socket sends a message of one packet, which arrives twice and is acknowledged. -/
def sendAcked (data : List UInt8) : List Cue :=
  [.act .left (.userSend data), .act .left .handleSend, .act .left .sendData, .deliver .right 0,
    .deliver .right 0, .act .right .refreshAck, .act .right .sendData, .deliver .left 0]

/-- The user of the right socket gets a message. -/
def userReceives : List Cue := [.act .right .userReceive, .act .right .handleReceive]

/-- Two messages are sent, and the user gets the first one. -/
def twoMessages : List Cue :=
  answeredOpen ++ [.deliver .right 0] ++ sendAcked [1, 2] ++ sendAcked [3] ++ userReceives

/-- The theorem holds of a run in which two messages are passed and one of them is got. -/
theorem deliversPrefix_twoMessages :
    DeliversPrefix ((networkMachine GLists).after linkedNetwork (cued linkedNetwork twoMessages)) ∧
      ((networkMachine GLists).after linkedNetwork
        (cued linkedNetwork twoMessages)).right.socket.core.returned = [[1, 2]] ∧
      ((networkMachine GLists).after linkedNetwork
        (cued linkedNetwork twoMessages)).left.passed = [[1, 2], [3]] := by
  have run : (networkMachine GLists).RunWhere conversesSafely linkedNetwork
      (cued linkedNetwork twoMessages) _ := Machine.runWhere_of_check (by decide +kernel)
  exact ⟨deliversPrefix_of_run run, by decide +kernel, by decide +kernel⟩

/-! ### A packet that is overtaken -/

/-- While the first message is for the user and the second one waits, the second packet of the
third one comes. Then the user gets a message, the first packet comes, and the user gets
another message. -/
def overtaken : List Cue :=
  answeredOpen ++ [.deliver .right 0] ++ sendAcked [1] ++ sendAcked [2] ++
    [.act .left (.userSend (List.replicate 1401 3)), .act .left .handleSend, .act .left .sendData,
      .act .left .sendData, .deliver .right 0] ++ userReceives ++ [.deliver .right 1] ++ userReceives

theorem overtaken_allowed : cuesAllowed passesAndFresh linkedNetwork overtaken := by decide +kernel

/-- What is left of the two calls. -/
theorem overtaken_returned :
    ((overtaken.foldl Cue.step linkedNetwork).left.socket.core.ctrl.state = .established ∧
      (overtaken.foldl Cue.step linkedNetwork).right.socket.core.ctrl.state = .established) ∧
    ¬ (overtaken.foldl Cue.step linkedNetwork).right.socket.core.returned.reverse <+:
      (overtaken.foldl Cue.step linkedNetwork).left.passed := by
  decide +kernel

/-- The packet that comes late is linked behind the second message, because the head of
`rcv_data_packets` still has its `prev` there: the user gets the second and the third
message as one. -/
theorem deliversPrefix_fails :
    ¬ ∀ (seeds : Duo UInt16) (clocks : Duo Clock) (events : List NetworkEvent)
      (net : Duo (Endpoint GLists)),
      (networkMachine GLists).RunWhere passesAndFresh (newNetwork GLists seeds clocks) events net →
        net.left.socket.core.ctrl.state = .established →
          net.right.socket.core.ctrl.state = .established → DeliversPrefix net := by
  intro always
  have new : (networkMachine GLists).RunWhere passesAndFresh linkedNetwork [] linkedNetwork := .stay
  have run := run_of_cues new overtaken_allowed
  have returned := overtaken_returned
  generalize overtaken.foldl Cue.step linkedNetwork = net at run returned
  obtain ⟨events, run⟩ := run
  exact returned.2 (always _ _ _ _ run returned.1.1 returned.1.2 .left)

end UserMessageProtocol
