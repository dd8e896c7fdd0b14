import UserMessageProtocol.Receiver.Gathering

/-!
Contract: messages come out of a stream of packets as they were cut, whatever the order
in which the packets come.

Owns: streams of numbered packets (`Stream`), how far a receiver got in one
(`Reception.Within`), and the theorem `reassembled_of_run`.

Does not own: lists and counts (`Receiver.Exact`, `Receiver.Gathering`).
-/

set_option autoImplicit false

namespace UserMessageProtocol

open Serial Cuts

/-- Data packets with consecutive numbers from `base` on, at most half a turn of them. -/
structure Stream (base : UInt16) (stream : List UMPPacket) : Prop where
  short : stream.length ≤ 32768
  numbered : ∀ p ∈ stream, uPacketGetFlag p UP_DATA_SEQ = true
  number : ∀ (i : Nat) (p : UMPPacket), stream[i]? = some p → p.seqNum = place base i

section Streams

variable {base : UInt16} {stream : List UMPPacket} {p q : UMPPacket} {i j : Nat}

theorem Stream.index_lt (found : stream[i]? = some p) : i < stream.length :=
  (List.getElem?_eq_some_iff.mp found).1

/-- The number of a packet tells its place in the stream. -/
theorem Stream.index_eq (isStream : Stream base stream) (first : stream[i]? = some p)
    (second : stream[j]? = some q) (same : p.seqNum = q.seqNum) : i = j := by
  have short := isStream.short
  have inside := Stream.index_lt first
  have inside' := Stream.index_lt second
  rw [isStream.number i p first, isStream.number j q second] at same
  have equal := place_inj base (by omega) (by omega) same
  omega

/-- How far a packet is from another place of the stream. -/
theorem Stream.offset_eq (isStream : Stream base stream) {count : Nat}
    (within : count ≤ stream.length) (found : stream[i]? = some p) :
    offset (place base count) p.seqNum = (i : Int) - count := by
  have short := isStream.short
  have inside := Stream.index_lt found
  rw [isStream.number i p found]
  exact offset_near base (by omega) (by omega)

/-! ### How far a receiver got -/

/-- The packets got in order are the front of the stream, those that wait lie behind the
next one, and these are all that were given. -/
structure Reception.Within (base : UInt16) (stream : List UMPPacket) (given : UMPPacket → Prop)
    (r : Reception) : Prop where
  front : r.got = stream.take r.got.length
  within : r.got.length ≤ stream.length
  isBase : r.base = place base r.got.length
  waits : ∀ q ∈ r.waiting, ∃ i, r.got.length < i ∧ stream[i]? = some q
  all : ∀ q, given q → q ∈ r.got ∨ q ∈ r.waiting
  came : ∀ q, q ∈ r.got ∨ q ∈ r.waiting → given q

variable {given : UMPPacket → Prop} {r r' : Reception}

/-- A packet behind those got in order is missing. -/
theorem Reception.Within.missing (inside : r.Within base stream given)
    (isStream : Stream base stream) (next : stream[r.got.length]? = some p) : ¬ given p := by
  intro came
  rcases inside.all p came with got | waits
  · rw [inside.front] at got
    obtain ⟨i, early, found⟩ := List.getElem_of_mem got
    rw [List.length_take] at early
    rw [List.getElem_take] at found
    have there : stream[i]? = some p := by
      rw [← found]
      exact List.getElem?_eq_getElem (by omega)
    have same := isStream.index_eq there next rfl
    omega
  · obtain ⟨i, later, there⟩ := inside.waits p waits
    have same := isStream.index_eq there next rfl
    omega

/-- The packets that follow the packet of the base are the next ones of the stream. -/
theorem Reception.Within.follow (inside : r.Within base stream given)
    (isStream : Stream base stream) (ascending : Ascending r.base (r.waiting.map (·.seqNum)))
    (next : stream[r.got.length]? = some p) :
    p :: r.waiting.take (r.following p) =
      (stream.drop r.got.length).take (r.following p + 1) := by
  have number := isStream.number _ _ next
  have bounded := GLists.consecutive_le p r.waiting
  apply List.ext_getElem?
  intro index
  rw [List.getElem?_take, List.getElem?_drop]
  cases index with
  | zero =>
      rw [List.getElem?_cons_zero, if_pos (Nat.succ_pos _), Nat.add_zero]
      exact next.symm
  | succ index =>
      rw [List.getElem?_cons_succ, List.getElem?_take]
      by_cases early : index < r.following p
      · have early' : index < successors p.seqNum (r.waiting.map (·.seqNum)) := by
          rw [← PlainLists.consecutive_eq]
          exact early
        have there : index < r.waiting.length := Nat.lt_of_lt_of_le early bounded
        have carries := successors_getElem (by rw [List.length_map]; exact there) early'
        rw [List.getElem_map, number, place_place] at carries
        obtain ⟨place', -, found⟩ := inside.waits _ (List.getElem_mem there)
        have placed := isStream.number _ _ found
        rw [carries] at placed
        have inRange := Stream.index_lt found
        have short := isStream.short
        have within := inside.within
        have inNumbers : index < (r.waiting.map (·.seqNum)).length := by
          rw [List.length_map]
          exact there
        have near := ascending.index_lt inNumbers
        have upper := offset_upper r.base (r.waiting.map (·.seqNum))[index]
        have same : place' = r.got.length + (index + 1) := by
          have equal := place_inj base (by omega) (by omega) placed
          omega
        rw [if_pos early, if_pos (Nat.succ_lt_succ early), List.getElem?_eq_getElem there, ← same,
          found]
      · rw [if_neg early, if_neg (fun late => early (Nat.lt_of_succ_lt_succ late))]

/-- A packet of the stream that is at or ahead of the base. -/
theorem Reception.Within.take (inside : r.Within base stream given)
    (isStream : Stream base stream) (ascending : Ascending r.base (r.waiting.map (·.seqNum)))
    (ascending' : Ascending r'.base (r'.waiting.map (·.seqNum))) (found : stream[j]? = some p)
    (takes : r.Takes p r') : r'.Within base stream fun q => given q ∨ q = p := by
  have ahead := isStream.offset_eq inside.within found
  rw [← inside.isBase] at ahead
  cases takes with
  | again q waits same =>
      obtain ⟨i, later, there⟩ := inside.waits q waits
      have equal := isStream.index_eq there found same
      rw [equal, found] at there
      obtain rfl := Option.some.inj there
      refine ⟨inside.front, inside.within, inside.isBase, inside.waits, ?_, ?_⟩
      · rintro q (came | rfl)
        · exact inside.all q came
        · exact .inr waits
      · exact fun q here => .inl (inside.came q here)
  | ahead left right waits far =>
      refine ⟨inside.front, inside.within, inside.isBase, ?_, ?_, ?_⟩
      · intro q member
        rcases List.mem_append.mp member with inLeft | member
        · exact inside.waits q (by rw [waits]; exact List.mem_append_left _ inLeft)
        · rcases List.mem_cons.mp member with rfl | inRight
          · rw [ahead] at far
            refine ⟨j, ?_, found⟩
            show r.got.length < j
            omega
          · exact inside.waits q (by rw [waits]; exact List.mem_append_right _ inRight)
      · rintro q (came | rfl)
        · rcases inside.all q came with got | waited
          · exact .inl got
          · right
            rw [waits] at waited
            rcases List.mem_append.mp waited with inLeft | inRight
            · exact List.mem_append_left _ inLeft
            · exact List.mem_append_right _ (List.mem_cons_of_mem _ inRight)
        · exact .inr (List.mem_append_right _ List.mem_cons_self)
      · rintro q (got | member)
        · exact .inl (inside.came q (.inl got))
        · rcases List.mem_append.mp member with inLeft | member
          · exact .inl (inside.came q (.inr (by rw [waits]; exact List.mem_append_left _ inLeft)))
          · rcases List.mem_cons.mp member with rfl | inRight
            · exact .inr rfl
            · exact .inl (inside.came q
                (.inr (by rw [waits]; exact List.mem_append_right _ inRight)))
  | next here =>
      have isNext : j = r.got.length := by
        rw [here, offset_self] at ahead
        omega
      rw [isNext] at found
      have run := inside.follow isStream ascending found
      have bounded : r.following p ≤ r.waiting.length := GLists.consecutive_le p r.waiting
      have count : (r.fill p).got.length = r.got.length + (r.following p + 1) := by
        show (r.got ++ p :: r.waiting.take (r.following p)).length = _
        rw [List.length_append, List.length_cons, List.length_take_of_le bounded]
      have front : (r.fill p).got = stream.take (r.got.length + (r.following p + 1)) := by
        show r.got ++ p :: r.waiting.take (r.following p) = _
        have parts : stream.take (r.got.length + (r.following p + 1)) =
            stream.take r.got.length ++ (stream.drop r.got.length).take (r.following p + 1) :=
          List.take_add
        rw [run, parts, ← inside.front]
      have within : r.got.length + (r.following p + 1) ≤ stream.length := by
        have length := congrArg List.length front
        rw [count, List.length_take] at length
        omega
      have isBase : (r.fill p).base = place base (r.got.length + (r.following p + 1) : Nat) := by
        show place r.base (r.following p + 1) = _
        rw [inside.isBase, place_place]
        congr 1
      refine ⟨by rw [count]; exact front, by rw [count]; exact within, by rw [count]; exact isBase,
        ?_, ?_, ?_⟩
      · intro q member
        obtain ⟨i, -, there⟩ := inside.waits q (List.mem_of_mem_drop member)
        have far := ascending'.ahead q.seqNum (List.mem_map_of_mem member)
        rw [isBase, isStream.offset_eq within there] at far
        exact ⟨i, by rw [count]; omega, there⟩
      · rintro q (came | rfl)
        · rcases inside.all q came with got | waited
          · exact .inl (List.mem_append_left _ got)
          · rw [← List.take_append_drop (r.following p) r.waiting] at waited
            rcases List.mem_append.mp waited with first | later
            · exact .inl (List.mem_append_right _ (List.mem_cons_of_mem _ first))
            · exact .inr later
        · exact .inl (List.mem_append_right _ List.mem_cons_self)
      · rintro q (got | later)
        · rcases List.mem_append.mp got with before | member
          · exact .inl (inside.came q (.inl before))
          · rcases List.mem_cons.mp member with rfl | first
            · exact .inr rfl
            · exact .inl (inside.came q (.inr (List.mem_of_mem_take first)))
        · exact .inl (inside.came q (.inr (List.mem_of_mem_drop later)))

end Streams

/-! ### Runs -/

/-- The receiver of an established connection that got nothing yet, at the start of a
stream. -/
structure StartsStream (u : UMPSocket GLists) (stream : List UMPPacket) : Prop where
  established : u.core.ctrl.state = .established
  lists : u.lists = ReceiveLists.new
  idle : u.core.rcv.rcvPacketsMsgNum = 0
  isStream : Stream u.core.rcv.theirDataSeqBase stream

/-- A packet of the stream, or a receive call and its handler. -/
def dealsStream (stream : List UMPPacket) : SockEvent → Prop
  | .dataPacket p => p ∈ stream
  | .userReceive | .handleReceive => True
  | _ => False

instance (stream : List UMPPacket) (event : SockEvent) : Decidable (dealsStream stream event) :=
  match event with
  | .dataPacket _ => by unfold dealsStream; infer_instance
  | .userReceive | .handleReceive => instDecidableTrue
  | .userCtrl .. | .userSend .. | .handleCtrl | .handleSend | .bufferLoad .. | .ctrlPacket .. |
    .dataTimeout | .refreshRwnd | .refreshAck | .actReqWnd | .ctrlTimeout | .sendCtrlPacket |
    .heartbeat | .sendData | .sendReset => instDecidableFalse

/-- The packets of a stream come in any order, and none of them breaks the links or passes
an end. -/
def reassembles (stream : List UMPPacket) (u : UMPSocket GLists) (event : SockEvent) : Prop :=
  dealsStream stream event ∧ takesOrderly u event

instance (stream : List UMPPacket) (u : UMPSocket GLists) (event : SockEvent) :
    Decidable (reassembles stream u event) := by
  unfold reassembles
  infer_instance

/-- The messages delivered since `start`, the one for the user and the groups of `rest`. -/
def Messages (start u : UMPSocket GLists) (rest : List UMPPacket)
    (messages : List (List UMPPacket)) : Prop :=
  ∃ delivered, u.core.deliveries = delivered ++ start.core.deliveries ∧
    delivered.reverse ++
      ((ReceiveLists.recMsgPackets u.lists).toList ++ cuts endsMessage rest) = messages

/-- What a receiver has made of the packets of a stream. -/
structure Reassembled (start : UMPSocket GLists) (stream : List UMPPacket)
    (events : List SockEvent) (u : UMPSocket GLists) : Prop where
  counted : u.core.rcv.rcvPacketsMsgNum = (closedGroups endsMessage u.lists.taken).length
  front : ∃ count, (∀ p ∈ stream.take count, .dataPacket p ∈ events) ∧
    (∀ p, stream[count]? = some p → .dataPacket p ∉ events) ∧
      Messages start u u.lists.taken (cuts endsMessage (stream.take count))
  whole : (∀ p ∈ stream, .dataPacket p ∈ events) →
    Messages start u u.lists.packets (cuts endsMessage stream) ∧
      u.core.rcv.rcvPacketsMsgNum = (closedGroups endsMessage u.lists.packets).length

section Runs

variable {start u : UMPSocket GLists} {stream : List UMPPacket} {events : List SockEvent}
  {event : SockEvent} {r : Reception}

/-- What holds along a run. -/
structure Reassembling (start : UMPSocket GLists) (stream : List UMPPacket)
    (events : List SockEvent) (u : UMPSocket GLists) (r : Reception) : Prop where
  established : u.core.ctrl.state = .established
  gathers : Gathers start.core.deliveries u r
  within : r.Within start.core.rcv.theirDataSeqBase stream fun p => .dataPacket p ∈ events

theorem reassembling_start (starts : StartsStream start stream) :
    Reassembling start stream [] start ⟨start.core.rcv.theirDataSeqBase, [], []⟩ := by
  refine ⟨starts.established, gathers_new starts.lists starts.idle, ?_⟩
  refine ⟨rfl, Nat.zero_le _, (place_zero _).symm, by simp, by simp, by simp⟩

theorem Reception.Within.congr {base : UInt16} {given given' : UMPPacket → Prop}
    (inside : r.Within base stream given) (same : ∀ p, given' p ↔ given p) :
    r.Within base stream given' := by
  refine ⟨inside.front, inside.within, inside.isBase, inside.waits, ?_, ?_⟩
  · intro p came
    exact inside.all p ((same p).mp came)
  · intro p here
    exact (same p).mpr (inside.came p here)

/-- A packet below the base is one of those got in order. -/
theorem Reception.Within.again {base : UInt16} {given : UMPPacket → Prop} {p : UMPPacket}
    (inside : r.Within base stream given) (isStream : Stream base stream) (member : p ∈ stream)
    (behind : offset r.base p.seqNum < 0) : r.Within base stream fun q => given q ∨ q = p := by
  obtain ⟨j, inStream, found⟩ := List.getElem_of_mem member
  have there : stream[j]? = some p := by
    rw [← found]
    exact List.getElem?_eq_getElem inStream
  rw [inside.isBase, isStream.offset_eq inside.within there] at behind
  have early : j < r.got.length := by omega
  have got : p ∈ r.got := by
    rw [inside.front, ← found]
    exact List.mem_take_iff_getElem.mpr ⟨j, by omega, rfl⟩
  apply inside.congr
  intro q
  constructor
  · rintro (came | rfl)
    · exact came
    · exact inside.came q (.inl got)
  · exact .inl

/-- Neither a packet nor a receive call ends the connection. -/
theorem dealsStream_state (deals : dealsStream stream event) :
    (sockStep u event).core.ctrl.state = u.core.ctrl.state := by
  cases event with
  | dataPacket p =>
      have kept : (umpHandleDataPacket u p).core.handshake = u.core.handshake :=
        umpHandleDataPacket_handshake u p
      exact congrArg Handshake.state kept
  | userReceive => rfl
  | handleReceive => exact congrArg ControlSide.state (umpHandleReceive_ctrl u)
  | _ => exact absurd deals (fun impossible => impossible)

theorem Reassembling.step (reassembling : Reassembling start stream events u r)
    (isStream : Stream start.core.rcv.theirDataSeqBase stream) (met : reassembles stream u event) :
    ∃ r', Reassembling start stream (events ++ [event]) (sockStep u event) r' := by
  have ⟨deals, orderly⟩ := met
  have within := reassembling.within
  have unsyned : ∀ p, event = .ctrlPacket p → TakesSyn u.core.handshake p →
      u.lists = ReceiveLists.new := by
    intro p isCtrl
    rw [isCtrl] at deals
    cases deals
  obtain ⟨r', gathers, gathered⟩ := reassembling.gathers.step orderly unsyned
  have established := (dealsStream_state (u := u) deals).trans reassembling.established
  refine ⟨r', established, gathers, ?_⟩
  cases gathered with
  | keep _ unstored =>
      cases event with
      | dataPacket p =>
          have out := unstored p rfl reassembling.established
          have numbered := isStream.numbered p deals
          have behind : offset r.base p.seqNum < 0 := by
            rw [inReceiveRange, numbered, umpCmpInRcvbase_eq, offset_self,
              reassembling.gathers.base] at out
            simpa using out
          apply (within.again isStream deals behind).congr
          intro q
          simp [List.mem_append]
      | _ =>
          apply within.congr
          intro q
          simp [List.mem_append]
  | syn p => cases deals
  | take p r' _ inRange takes =>
      obtain ⟨j, inStream, found⟩ := List.getElem_of_mem (show p ∈ stream from deals)
      have there : stream[j]? = some p := by
        rw [← found]
        exact List.getElem?_eq_getElem inStream
      apply (within.take isStream reassembling.gathers.ascending gathers.ascending there
        takes).congr
      intro q
      simp [List.mem_append]

theorem reassembling_of_run (starts : StartsStream start stream)
    (run : (sockMachine GLists).RunWhere (reassembles stream) start events u) :
    ∃ r, Reassembling start stream events u r := by
  induction run with
  | stay => exact ⟨_, reassembling_start starts⟩
  | go _ _ met inductionHypothesis =>
      obtain ⟨r, reassembling⟩ := inductionHypothesis
      exact reassembling.step starts.isStream met

/-- The cuts of what was got in order. -/
theorem Gathers.messages {old : List (List UMPPacket)} (gathers : Gathers old u r)
    (more : List UMPPacket) :
    ∃ delivered, u.core.deliveries = delivered ++ old ∧
      delivered.reverse ++ ((ReceiveLists.recMsgPackets u.lists).toList ++
        cuts endsMessage (u.lists.taken ++ more)) = cuts endsMessage (r.got ++ more) := by
  obtain ⟨delivered, since, closed, all⟩ := gathers.delivered
  refine ⟨delivered, since, ?_⟩
  rw [all, List.append_assoc, List.append_assoc]
  rw [cuts_flatten (fun message member => closed message (List.mem_reverse.mp member))]
  congr 1
  cases user : ReceiveLists.recMsgPackets u.lists with
  | none => rfl
  | some packets => exact (cuts_append (gathers.user user) _).symm

/-- What a run makes of a stream of packets. -/
theorem reassembled_of_run (starts : StartsStream start stream)
    (run : (sockMachine GLists).RunWhere (reassembles stream) start events u) :
    Reassembled start stream events u := by
  obtain ⟨r, reassembling⟩ := reassembling_of_run starts run
  have ⟨_, gathers, within⟩ := reassembling
  have counted : u.core.rcv.rcvPacketsMsgNum =
      (closedGroups endsMessage u.lists.taken).length := by
    rw [gathers.counted, length_closedGroups]
    rfl
  refine ⟨counted, ⟨r.got.length, ?_, ?_, ?_⟩, ?_⟩
  · intro p early
    rw [← within.front] at early
    exact within.came p (.inl early)
  · intro p next
    exact within.missing starts.isStream next
  · have messages := gathers.messages []
    rw [List.append_nil, List.append_nil, within.front] at messages
    exact messages
  · intro everything
    have complete : r.got.length = stream.length := by
      by_contra short
      have next : r.got.length < stream.length := by
        have bound := within.within
        omega
      have found := List.getElem?_eq_getElem next
      exact within.missing starts.isStream found (everything _ (List.getElem_mem next))
    have noneWaits : r.waiting = [] := by
      apply List.eq_nil_iff_forall_not_mem.mpr
      intro q member
      obtain ⟨i, later, found⟩ := within.waits q member
      have inside := Stream.index_lt found
      omega
    have all : u.lists.packets = u.lists.taken := by
      unfold GLists.taken
      rw [gathers.waiting, noneWaits, List.length_nil, Nat.sub_zero, List.take_length]
    rw [all]
    refine ⟨?_, counted⟩
    have messages := gathers.messages []
    rw [List.append_nil, List.append_nil, within.front, complete, List.take_length] at messages
    exact messages

end Runs

/-! ### Two streams -/

/-- The receiver behind a passive open of a peer that numbers from 7 on. -/
def openedReceiver : UMPSocket GLists :=
  (sockMachine GLists).after (umpSockNew GLists 100 ⟨fun _ => ⟨0, 0⟩, 0⟩) (passiveOpen 7 100)

/-- A packet in the middle of a message, as it is received. -/
def dataFragment (seqNum : UInt16) : UMPPacket :=
  receivedForm
    { uPacketSetFlag (uPacketSetData (uPacketNew .data .outgoing) [1]) UP_DATA_SEQ with
      seqNum := seqNum }

/-- A message of two packets and one of one packet. -/
def shortStream : List UMPPacket := [dataFragment 7, dataMessage 8, dataMessage 9]

/-- The second packet comes first, and again behind the other two. -/
def shortStreamRun : List SockEvent :=
  [.dataPacket (dataMessage 8), .userReceive, .handleReceive, .dataPacket (dataFragment 7),
    .handleReceive, .dataPacket (dataMessage 9), .dataPacket (dataMessage 8), .userReceive]

theorem startsStream_shortStream : StartsStream openedReceiver shortStream where
  established := by decide
  lists := rfl
  idle := by decide
  isStream := {
    short := by decide
    numbered := by decide
    number := by
      intro i p found
      rcases i with _ | _ | _ | i
      · exact congrArg UMPPacket.seqNum (Option.some.inj found).symm
      · exact congrArg UMPPacket.seqNum (Option.some.inj found).symm
      · exact congrArg UMPPacket.seqNum (Option.some.inj found).symm
      · cases found }

/-- The theorem holds of three packets out of order: the first message is handed to the
user, the second one waits for the next call. -/
theorem reassembled_shortStream :
    Reassembled openedReceiver shortStream shortStreamRun
        ((sockMachine GLists).after openedReceiver shortStreamRun) ∧
      ((sockMachine GLists).after openedReceiver shortStreamRun).core.deliveries =
        [[dataFragment 7, dataMessage 8]] :=
  ⟨reassembled_of_run startsStream_shortStream (Machine.runWhere_of_check (by decide +kernel)),
    by decide +kernel⟩

/-- Two messages of one packet each. -/
def twoMessagesStream : List UMPPacket := [dataMessage 7, dataMessage 8]

/-- The second one comes first. -/
def swappedRun : List SockEvent := [.dataPacket (dataMessage 8), .dataPacket (dataMessage 7)]

theorem startsStream_twoMessages : StartsStream openedReceiver twoMessagesStream where
  established := by decide
  lists := rfl
  idle := by decide
  isStream := {
    short := by decide
    numbered := by decide
    number := by
      intro i p found
      rcases i with _ | _ | i
      · exact congrArg UMPPacket.seqNum (Option.some.inj found).symm
      · exact congrArg UMPPacket.seqNum (Option.some.inj found).symm
      · cases found }

/-- The two messages are taken for the user as one. -/
theorem reassembled_fails :
    ¬ ∀ (start u : UMPSocket GLists) (stream : List UMPPacket) (events : List SockEvent),
      StartsStream start stream →
        (sockMachine GLists).RunWhere (fun _ event => dealsStream stream event) start events u →
          Reassembled start stream events u := by
  intro always
  have run : (sockMachine GLists).RunWhere (fun _ event => dealsStream twoMessagesStream event)
      openedReceiver swappedRun _ := Machine.runWhere_of_check (by decide +kernel)
  have reassembled := always _ _ _ _ startsStream_twoMessages run
  obtain ⟨⟨delivered, since, messages⟩, -⟩ := reassembled.whole (by decide)
  have none : ((sockMachine GLists).after openedReceiver swappedRun).core.deliveries = [] := by
    decide +kernel
  have fresh : openedReceiver.core.deliveries = [] := by decide
  rw [none, fresh, List.append_nil] at since
  rw [← since] at messages
  exact absurd messages (by decide +kernel)

end UserMessageProtocol
