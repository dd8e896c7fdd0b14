import UserMessageProtocol.Sender.Shape

/-!
Contract: serial numbers of the sender as positions of an unbounded sequence.

Owns: what the traffic of a sender says about its messages (`streamOf`,
`lastNumbered`, `sinceNumbered`, `highestSent`), the invariant that gives start, base
and highest transmission of a sender their positions (`Tracks`), and its preservation
by every step whose acks are for transmitted packets.

Does not own: why acks are for transmitted packets (`Sender.Transmission`, and the
peer).
-/

set_option autoImplicit false

namespace UserMessageProtocol

open Serial

/-! ### What the traffic says -/

/-- A data packet with a number. -/
def isNumbered (p : UMPPacket) : Bool := p.pType == .data && uPacketGetFlag p UP_DATA_SEQ

/-- The packets of the latest message, as they were numbered. -/
def lastNumbered : List Action → Option (List UMPPacket)
  | [] => none
  | .numbered packets :: _ => some packets
  | _ :: before => lastNumbered before

/-- The traffic since then. -/
def sinceNumbered : List Action → List Action
  | [] => []
  | .numbered _ :: _ => []
  | action :: before => action :: sinceNumbered before

/-- The fragments of all messages, the first one first. -/
def streamOf : List Action → List Fragment
  | [] => []
  | .numbered packets :: before => streamOf before ++ packets.map fragment
  | _ :: before => streamOf before

/-- What transmission does not change in a packet of a message. -/
def essence (p : UMPPacket) : UInt16 × Fragment := (p.seqNum, fragment p)

/-- All packets of the latest message were transmitted since it was numbered. -/
def MessageTransmitted (before : List Action) : Prop :=
  ∃ packets, lastNumbered before = some packets ∧
    ∀ m ∈ packets, ∃ q, .sendto q ∈ sinceNumbered before ∧ isNumbered q ∧ essence q = essence m

/-- The highest number transmitted, each number being compared with the highest
one before it. -/
def highestSent : List Action → Option UInt16
  | [] => none
  | .sendto q :: before =>
      if isNumbered q then
        match highestSent before with
        | none => some q.seqNum
        | some highest => some (if 0 < offset highest q.seqNum then q.seqNum else highest)
      else highestSent before
  | _ :: before => highestSent before

/-- An action that neither numbers a message nor transmits a packet of one. -/
def Quiet : Action → Prop
  | .sendto p => isNumbered p = false
  | .numbered _ => False
  | _ => True

/-- What ends with a message is no packet. -/
theorem ending_quiet {snd : SendSide} {ok : Bool} : ∀ action ∈ ending snd ok, Quiet action := by
  unfold ending
  split <;> simp [Quiet]

section Quiet

variable {action : Action} (quiet : Quiet action) (before : List Action)

include quiet

theorem lastNumbered_cons : lastNumbered (action :: before) = lastNumbered before := by
  cases action with
  | numbered packets => exact absurd quiet id
  | _ => rfl

theorem sinceNumbered_cons : sinceNumbered (action :: before) = action :: sinceNumbered before := by
  cases action with
  | numbered packets => exact absurd quiet id
  | _ => rfl

theorem streamOf_cons : streamOf (action :: before) = streamOf before := by
  cases action with
  | numbered packets => exact absurd quiet id
  | _ => rfl

theorem highestSent_cons : highestSent (action :: before) = highestSent before := by
  cases action with
  | sendto p =>
      have plain : isNumbered p = false := quiet
      simp [highestSent, plain]
  | _ => rfl

end Quiet

/-- A signal is not a packet of a message. -/
theorem Signal.quiet {s : SocketCore} {event : SockEvent} {p : UMPPacket}
    (signal : Signal s event p) (typed : s.handshake.Typed) : Quiet (.sendto p) := by
  cases signal with
  | dataAck due =>
      have type : (uPacketNew .data .outgoing).pType = .data := rfl
      have flag := setPacketAckInfo_getFlag s.ackInfo (uPacketNew .data .outgoing) type UP_DATA_SEQ
      have masks : (uPacketGetFlag (uPacketNew .data .outgoing) UP_DATA_SEQ ||
          decide (UP_DATA_ACK &&& UP_DATA_SEQ > 0) || decide (UP_DATA_WND &&& UP_DATA_SEQ > 0)) =
          false := by decide
      simp only [Quiet, isNumbered, getFlag_toBinary]
      rw [flag, masks, Bool.and_false]
  | pending p pending =>
      have control : (pendingOnWire s.ackInfo p).pType = .control := by
        unfold pendingOnWire
        rw [toBinary_pType]
        split <;> simp [typed p pending]
      simp [Quiet, isNumbered, control]
  | ctrlAck due =>
      have control : (ctrlAckAlone s.ackInfo).pType = .control := by
        unfold ctrlAckAlone
        rw [toBinary_pType]
        rfl
      simp [Quiet, isNumbered, control]
  | reset => exact (by decide : isNumbered resetPacket = false)

/-! ### Positions -/

/-- The message with its packets, at positions from `start` on; `acked` packets are
acknowledged and `sent` were transmitted. -/
structure Sending (snd : SendSide) (traffic : List Action) (start acked sent : Nat)
    (packets : List UMPPacket) : Prop where
  held : snd.sndPackets = some packets
  unfinished : acked < start + packets.length
  inside : sent ≤ start + packets.length
  notBehind : (acked : Int) ≤ start + snd.ourDataPos
  notAhead : start + snd.ourDataPos ≤ sent
  window : snd.ourWndPos ≤ 32767
  numbered : ∃ asNumbered, lastNumbered traffic = some asNumbered ∧
    asNumbered.map essence = packets.map essence
  transmitted : ∀ (i : Nat) (m : UMPPacket), packets[i]? = some m → start + i < sent →
    ∃ q, .sendto q ∈ sinceNumbered traffic ∧ isNumbered q ∧ essence q = essence m
  stream : ∃ done : List Fragment, done.length = start ∧
    streamOf traffic = done ++ packets.map fragment

/-- The highest number transmitted when `sent` positions were. -/
def highestAt (seed : UInt16) : Nat → Option UInt16
  | 0 => none
  | sent + 1 => some (place seed sent)

/-- The position `our_data_sent` stands for when `sent` positions were transmitted: it
is zero at first, and never moves back. -/
def lastSent (seed : UInt16) (sent : Nat) : Int :=
  if sent = 0 then offset seed 0 else max (offset seed 0) (sent - 1)

/-- A transmitted position that is at most the next one. -/
theorem lastSent_max (seed : UInt16) {sent position : Nat} (next : position ≤ sent) :
    lastSent seed (max sent (position + 1)) =
      if lastSent seed sent < position then (position : Int) else lastSent seed sent := by
  unfold lastSent
  rw [if_neg (by omega)]
  by_cases none : sent = 0
  · rw [if_pos none]
    split <;> omega
  · rw [if_neg none]
    split <;> omega

/-- The numbers of a sender whose first one was `seed`, as positions; `gone` says
that the connection is over. -/
structure Tracks (seed : UInt16) (gone : Prop) (snd : SendSide) (traffic : List Action)
    (start acked sent : Nat) : Prop where
  startAt : snd.ourDataStartSeq = place seed start
  baseAt : snd.ourDataSeqBase = place seed acked
  ordered : start ≤ acked ∧ acked ≤ sent
  near : sent ≤ start + 32767
  transmitted : ∀ i, i < sent → ∃ q, .sendto q ∈ traffic ∧ isNumbered q ∧ q.seqNum = place seed i
  known : ∀ q, .sendto q ∈ traffic → isNumbered q → ∃ i, i < sent ∧ q.seqNum = place seed i
  highest : highestSent traffic = highestAt seed sent
  sentAt : snd.ourDataSent = place seed (lastSent seed sent)
  repeated : snd.ackRepCount ≤ 1
  sending : snd.sndLocked = .locked → ∃ packets, Sending snd traffic start acked sent packets
  resting : snd.sndLocked = .unlocked → ¬ gone →
    acked = start ∧ sent = start ∧ (streamOf traffic).length = start

section Tracks

variable {seed : UInt16} {gone : Prop} {snd : SendSide} {traffic : List Action}
  {start acked sent : Nat}

theorem tracks_new (seed : UInt16) (clock : Clock) (gone : Prop) :
    Tracks seed gone (umpSockNewCore seed clock).snd [] 0 0 0 where
  startAt := (place_zero seed).symm
  baseAt := (place_zero seed).symm
  ordered := ⟨Nat.le_refl 0, Nat.le_refl 0⟩
  near := Nat.zero_le _
  transmitted := by simp
  known := by simp
  highest := rfl
  sentAt := (place_offset seed 0).symm
  repeated := Int.zero_le_ofNat 1
  sending := by simp [umpSockNewCore]
  resting := by simp [streamOf]

/-- The base lies this far behind the start of the message. -/
theorem Tracks.acked_eq (tracks : Tracks seed gone snd traffic start acked sent) :
    snd.acked = acked - start := by
  have ordered := tracks.ordered
  have near := tracks.near
  rw [SendSide.acked, tracks.startAt, tracks.baseAt]
  exact offset_near seed (by omega) (by omega)

/-- The distance of a position from the base. -/
theorem Tracks.offset_base (tracks : Tracks seed gone snd traffic start acked sent) {i : Int}
    (lower : -32768 ≤ i - acked) (upper : i - acked ≤ 32767) :
    offset snd.ourDataSeqBase (place seed i) = i - acked := by
  rw [tracks.baseAt]
  exact offset_near seed lower upper

/-- The distance of `our_data_sent` from a base that is at most half a turn behind what was
sent. -/
theorem offset_lastSent (baseAt : snd.ourDataSeqBase = place seed acked)
    (sentAt : snd.ourDataSent = place seed (lastSent seed sent)) (ordered : acked ≤ sent)
    (near : sent ≤ acked + 32767) :
    offset snd.ourDataSeqBase snd.ourDataSent = lastSent seed sent - acked := by
  have lower := offset_lower seed 0
  have upper := offset_upper seed 0
  rw [baseAt, sentAt]
  unfold lastSent
  split
  · exact offset_near seed (by omega) (by omega)
  · exact offset_near seed (by omega) (by omega)

/-- The distance of `our_data_sent` from the base. -/
theorem Tracks.offset_sent (tracks : Tracks seed gone snd traffic start acked sent) :
    offset snd.ourDataSeqBase snd.ourDataSent = lastSent seed sent - acked := by
  have ordered := tracks.ordered
  have near := tracks.near
  exact offset_lastSent tracks.baseAt tracks.sentAt (by omega) (by omega)

/-- `our_data_sent` behind the transmission of a position near the base. -/
theorem sentBehind_place {i : Nat} (baseAt : snd.ourDataSeqBase = place seed acked)
    (sentAt : snd.ourDataSent = place seed (lastSent seed sent)) (ordered : acked ≤ i ∧ i ≤ sent)
    (near : sent ≤ acked + 32767) (inside : i ≤ acked + 32767) :
    sentBehind snd (place seed i) = place seed (lastSent seed (max sent (i + 1))) := by
  have distance := offset_lastSent baseAt sentAt (by omega) near
  have position : offset snd.ourDataSeqBase (place seed i) = i - acked := by
    rw [baseAt]
    exact offset_near seed (by omega) (by omega)
  rw [sentBehind, umpCmpInSndbase_eq, distance, position, sentAt, lastSent_max seed ordered.2]
  by_cases new : lastSent seed sent < i
  · rw [if_pos (by omega), if_pos new]
  · rw [if_neg (by omega), if_neg new]

theorem Tracks.mono {gone' : Prop} (tracks : Tracks seed gone snd traffic start acked sent)
    (later : gone → gone') : Tracks seed gone' snd traffic start acked sent :=
  { startAt := tracks.startAt
    baseAt := tracks.baseAt
    ordered := tracks.ordered
    near := tracks.near
    transmitted := tracks.transmitted
    known := tracks.known
    highest := tracks.highest
    sentAt := tracks.sentAt
    repeated := tracks.repeated
    sending := tracks.sending
    resting := fun unlocked open_ => tracks.resting unlocked fun ended => open_ (later ended) }

/-- More traffic that starts no message. -/
theorem Sending.log {packets : List UMPPacket} {action : Action}
    (sending : Sending snd traffic start acked sent packets) (quiet : Quiet action) :
    Sending snd (action :: traffic) start acked sent packets where
  held := sending.held
  unfinished := sending.unfinished
  inside := sending.inside
  notBehind := sending.notBehind
  notAhead := sending.notAhead
  window := sending.window
  numbered := by
    rw [lastNumbered_cons quiet]
    exact sending.numbered
  transmitted := by
    intro i m found before
    obtain ⟨q, member, numbered, same⟩ := sending.transmitted i m found before
    rw [sinceNumbered_cons quiet]
    exact ⟨q, List.mem_cons_of_mem _ member, numbered, same⟩
  stream := by
    rw [streamOf_cons quiet]
    exact sending.stream

theorem Tracks.log {action : Action} (tracks : Tracks seed gone snd traffic start acked sent)
    (quiet : Quiet action) :
    Tracks seed gone snd (action :: traffic) start acked sent where
  startAt := tracks.startAt
  baseAt := tracks.baseAt
  ordered := tracks.ordered
  near := tracks.near
  transmitted := by
    intro i before
    obtain ⟨q, member, numbered, same⟩ := tracks.transmitted i before
    exact ⟨q, List.mem_cons_of_mem _ member, numbered, same⟩
  known := by
    intro q member numbered
    rcases List.mem_cons.mp member with rfl | before
    · exact absurd (numbered.symm.trans quiet) (by decide)
    · exact tracks.known q before numbered
  highest := by
    rw [highestSent_cons quiet]
    exact tracks.highest
  sentAt := tracks.sentAt
  repeated := tracks.repeated
  sending := by
    intro locked
    obtain ⟨packets, sending⟩ := tracks.sending locked
    exact ⟨packets, sending.log quiet⟩
  resting := by
    rw [streamOf_cons quiet]
    exact tracks.resting

/-- Only these fields of a sender matter. -/
theorem Tracks.congr {snd' : SendSide} (tracks : Tracks seed gone snd traffic start acked sent)
    (sameStart : snd'.ourDataStartSeq = snd.ourDataStartSeq)
    (sameBase : snd'.ourDataSeqBase = snd.ourDataSeqBase)
    (sameLock : snd'.sndLocked = snd.sndLocked) (sameSent : snd'.ourDataSent = snd.ourDataSent)
    (few : snd'.ackRepCount ≤ 1)
    (sameHeld : snd'.sndLocked = .locked → snd'.sndPackets = snd.sndPackets ∧
      snd'.ourDataPos = snd.ourDataPos ∧ snd'.ourWndPos ≤ 32767) :
    Tracks seed gone snd' traffic start acked sent where
  startAt := sameStart.trans tracks.startAt
  baseAt := sameBase.trans tracks.baseAt
  ordered := tracks.ordered
  near := tracks.near
  transmitted := tracks.transmitted
  known := tracks.known
  highest := tracks.highest
  sentAt := sameSent.trans tracks.sentAt
  repeated := few
  sending := by
    intro locked
    obtain ⟨packets, sending⟩ := tracks.sending (sameLock.symm.trans locked)
    obtain ⟨held, position, window⟩ := sameHeld locked
    refine ⟨packets, ?_⟩
    exact
      { held := held.trans sending.held
        unfinished := sending.unfinished
        inside := sending.inside
        notBehind := by rw [position]; exact sending.notBehind
        notAhead := by rw [position]; exact sending.notAhead
        window := window
        numbered := sending.numbered
        transmitted := sending.transmitted
        stream := sending.stream }
  resting := by
    intro unlocked
    exact tracks.resting (sameLock.symm.trans unlocked)

/-- The next packet to send may be any between the base and the highest one sent. -/
theorem Tracks.moveTo (tracks : Tracks seed gone snd traffic start acked sent) {position : Int}
    (notBehind : (acked : Int) ≤ start + position) (notAhead : start + position ≤ sent) :
    Tracks seed gone { snd with ourDataPos := position } traffic start acked sent where
  startAt := tracks.startAt
  baseAt := tracks.baseAt
  ordered := tracks.ordered
  near := tracks.near
  transmitted := tracks.transmitted
  known := tracks.known
  highest := tracks.highest
  sentAt := tracks.sentAt
  repeated := tracks.repeated
  sending := by
    intro locked
    obtain ⟨packets, sending⟩ := tracks.sending locked
    exact ⟨packets, sending.held, sending.unfinished, sending.inside, notBehind, notAhead,
      sending.window, sending.numbered, sending.transmitted, sending.stream⟩
  resting := tracks.resting

/-- A sender that moves back to the base. -/
theorem Tracks.rewound (tracks : Tracks seed gone snd traffic start acked sent) :
    Tracks seed gone { snd with ourDataPos := snd.acked } traffic start acked sent := by
  have ordered := tracks.ordered
  have position := tracks.acked_eq
  apply tracks.moveTo
  · omega
  · omega

theorem Tracks.window_le (tracks : Tracks seed gone snd traffic start acked sent)
    (locked : snd.sndLocked = .locked) : snd.ourWndPos ≤ 32767 := by
  obtain ⟨packets, sending⟩ := tracks.sending locked
  exact sending.window

/-- The window never reaches more than half a turn behind the start. -/
theorem umpRefreshSndWndPos_le (snd : SendSide) : (umpRefreshSndWndPos snd).ourWndPos ≤ 32767 := by
  rw [umpRefreshSndWndPos_ourWndPos, Int.bmod_def]
  omega

/-! ### A message starts -/

theorem Tracks.begin {synReced : Bool} {packets : List UMPPacket}
    (tracks : Tracks seed gone snd traffic start acked sent)
    (shape : Shape synReced snd.message) (open_ : ¬ gone) (unlocked : snd.sndLocked = .unlocked)
    (posted : snd.sndPackets = some packets) (some : 1 ≤ snd.sndPacketsCount) :
    Tracks seed gone (startMessage { snd with sndParaLock := true, sndLocked := .locked } packets)
      (.numbered (preparePackets snd.ourDataStartSeq packets) :: traffic) start acked sent := by
  obtain ⟨atStart, allSent, streamLength⟩ := tracks.resting unlocked open_
  have count : snd.sndPacketsCount = packets.length := (shape.posted unlocked packets posted).1
  exact
    { startAt := tracks.startAt
      baseAt := tracks.baseAt
      ordered := tracks.ordered
      near := tracks.near
      transmitted := by
        intro i before
        obtain ⟨q, member, numbered, same⟩ := tracks.transmitted i before
        exact ⟨q, List.mem_cons_of_mem _ member, numbered, same⟩
      known := by
        intro q member numbered
        exact tracks.known q (by simpa using member) numbered
      highest := tracks.highest
      sentAt := tracks.sentAt
      repeated := tracks.repeated
      sending := by
        intro locked
        refine ⟨preparePackets snd.ourDataStartSeq packets, ?_⟩
        exact
          { held := rfl
            unfinished := by rw [preparePackets_length]; omega
            inside := by rw [preparePackets_length]; omega
            notBehind := by simp [startMessage, umpRefreshSndWndPos, atStart]
            notAhead := by simp [startMessage, umpRefreshSndWndPos, allSent]
            window := umpRefreshSndWndPos_le _
            numbered := ⟨_, rfl, rfl⟩
            transmitted := by
              intro i m found before
              omega
            stream := ⟨streamOf traffic, streamLength, rfl⟩ }
      resting := by simp [startMessage, umpRefreshSndWndPos] }

/-! ### A packet is transmitted -/

/-- The packet at the next position, with its number and its place in the stream. -/
theorem Tracks.next {synReced : Bool} {p : UMPPacket}
    (tracks : Tracks seed gone snd traffic start acked sent)
    (shape : Shape synReced snd.message) (locked : snd.sndLocked = .locked)
    (found : packetAt snd snd.ourDataPos = some p) :
    ∃ (packets : List UMPPacket) (i : Nat), Sending snd traffic start acked sent packets ∧
      snd.ourDataPos = i ∧ packets[i]? = some p ∧ InSequence (place seed (start + i)) p ∧
      (streamOf traffic)[start + i]? = some (fragment p) := by
  obtain ⟨packets, sending⟩ := tracks.sending locked
  obtain ⟨held, holds⟩ := shape.message locked
  have same : held = packets := Option.some.inj (holds.held.symm.trans sending.held)
  subst same
  have inside : 0 ≤ snd.ourDataPos := by
    by_contra outside
    simp [packetAt, outside] at found
  obtain ⟨i, here⟩ := Int.eq_ofNat_of_zero_le inside
  rw [here, holds.packetAt] at found
  obtain ⟨done, length, stream⟩ := sending.stream
  refine ⟨held, i, sending, here, found, ?_, ?_⟩
  · have inSequence := holds.inMessage i p found
    rw [show snd.message.ourDataStartSeq = place seed start from tracks.startAt,
      place_place] at inSequence
    exact inSequence
  · rw [stream, List.getElem?_append_right (by omega), length, Nat.add_sub_cancel_left,
      List.getElem?_map, found]
    rfl

theorem outgoing_isNumbered {number : UInt16} {p : UMPPacket} (inSequence : InSequence number p)
    (ackInfo : UMPAckInfo) : isNumbered (outgoingPacket ackInfo p) = true := by
  have outgoing := inSequence.outgoing ackInfo
  simp [isNumbered, outgoing.numbered, inSequence.pType]

theorem outgoing_essence {number : UInt16} {p : UMPPacket} (inSequence : InSequence number p)
    (ackInfo : UMPAckInfo) : essence (outgoingPacket ackInfo p) = essence p := by
  rw [essence, outgoingPacket_seqNum, outgoingPacket_fragment ackInfo p inSequence.pType, essence]

theorem Tracks.transmit {synReced : Bool} {p : UMPPacket} {now : GTimeVal} {ackInfo : UMPAckInfo}
    (tracks : Tracks seed gone snd traffic start acked sent)
    (shape : Shape synReced snd.message) (locked : snd.sndLocked = .locked)
    (inWindow : snd.ourDataPos < snd.ourWndPos) (found : packetAt snd snd.ourDataPos = some p) :
    Tracks seed gone (afterTransmit snd (outgoingPacket ackInfo p) now)
      (.sendto (outgoingPacket ackInfo p) :: traffic) start acked
      (max sent (start + snd.ourDataPos.toNat + 1)) := by
  obtain ⟨packets, i, sending, here, there, inSequence, -⟩ := tracks.next shape locked found
  have inside : i < packets.length := (List.getElem?_eq_some_iff.mp there).1
  have numbered := outgoing_isNumbered inSequence ackInfo
  have same := outgoing_essence inSequence ackInfo
  have window := sending.window
  have notAhead := sending.notAhead
  have notBehind := sending.notBehind
  have ordered := tracks.ordered
  have near := tracks.near
  have insideSent := sending.inside
  have sequence : (outgoingPacket ackInfo p).seqNum = place seed (start + i) := by
    rw [outgoingPacket_seqNum]
    exact inSequence.seqNum
  rw [here] at notAhead notBehind inWindow
  rw [afterTransmit_eq, here, Int.toNat_natCast]
  exact
    { startAt := tracks.startAt
      baseAt := tracks.baseAt
      ordered := by omega
      near := by omega
      transmitted := by
        intro j before
        by_cases old : j < sent
        · obtain ⟨q, member, numbered, number⟩ := tracks.transmitted j old
          exact ⟨q, List.mem_cons_of_mem _ member, numbered, number⟩
        · refine ⟨_, List.mem_cons_self, numbered, ?_⟩
          have last : j = start + i := by omega
          rw [sequence, last, Nat.cast_add]
      known := by
        intro q member _
        rcases List.mem_cons.mp member with here | before
        · refine ⟨start + i, by omega, ?_⟩
          rw [Action.sendto.inj here, sequence, Nat.cast_add]
        · obtain ⟨j, sent, number⟩ := tracks.known q before ‹_›
          exact ⟨j, by omega, number⟩
      highest := by
        have first : highestSent (.sendto (outgoingPacket ackInfo p) :: traffic) =
            match highestAt seed sent with
            | none => some (place seed (start + i))
            | some highest =>
                some (if 0 < offset highest (place seed (start + i)) then place seed (start + i)
                  else highest) := by
          rw [highestSent, if_pos numbered, tracks.highest, sequence]
        rw [first]
        cases sent with
        | zero =>
            have next : max 0 (start + i + 1) = start + i + 1 := by omega
            rw [next]
            simp [highestAt]
        | succ sent =>
            have distance : offset (place seed sent) (place seed (start + i)) =
                start + i - sent := offset_near seed (by omega) (by omega)
            dsimp only [highestAt]
            rw [distance]
            by_cases ahead : sent + 1 ≤ start + i
            · have next : max (sent + 1) (start + i + 1) = start + i + 1 := by omega
              rw [next, if_pos (by omega)]
              simp
            · have next : max (sent + 1) (start + i + 1) = sent + 1 := by omega
              rw [next, if_neg (by omega)]
      sentAt := by
        rw [sequence, ← Nat.cast_add]
        exact sentBehind_place tracks.baseAt tracks.sentAt (by omega) (by omega) (by omega)
      repeated := tracks.repeated
      sending := by
        intro _
        refine ⟨packets.set i (outgoingPacket ackInfo p), ?_⟩
        exact
          { held := by simp [sending.held]
            unfinished := by rw [List.length_set]; exact sending.unfinished
            inside := by rw [List.length_set]; omega
            notBehind := by dsimp only; omega
            notAhead := by dsimp only; omega
            window := window
            numbered := by
              obtain ⟨asNumbered, last, alike⟩ := sending.numbered
              exact ⟨asNumbered, last, alike.trans (map_set_same there same).symm⟩
            transmitted := by
              intro j m found before
              by_cases current : i = j
              · subst current
                rw [List.getElem?_set_self inside, Option.some.injEq] at found
                rw [← found]
                exact ⟨_, List.mem_cons_self, numbered, rfl⟩
              · rw [List.getElem?_set_ne current] at found
                obtain ⟨q, member, numbered, alike⟩ := sending.transmitted j m found (by omega)
                exact ⟨q, List.mem_cons_of_mem _ member, numbered, alike⟩
            stream := by
              obtain ⟨done, length, stream⟩ := sending.stream
              refine ⟨done, length, stream.trans ?_⟩
              rw [map_set_same there (congrArg Prod.snd same)] }
      resting := by simp [locked] }

/-! ### An ack comes -/

/-- A new ack that is accepted leaves no packet of the message, or fewer than 32769
(up to whole turns). -/
def endsComplete (snd : SendSide) (p : UMPPacket) : Prop :=
  snd.sndLocked = .locked → uPacketGetFlag p UP_DATA_ACK → ackInRange snd p.ackNum →
    0 < ackDiff snd p.ackNum →
    snd.sndPacketsCount - umpSeqToRelativeViaSndstartseq snd p.ackNum = 0 ∨
      (snd.sndPacketsCount - umpSeqToRelativeViaSndstartseq snd p.ackNum - 1) % 65536 < 32768

instance (snd : SendSide) (p : UMPPacket) : Decidable (endsComplete snd p) := by
  unfold endsComplete
  infer_instance

theorem Tracks.recount (tracks : Tracks seed gone snd traffic start acked sent)
    (ackSeq : UInt16) : Tracks seed gone (recounted snd ackSeq) traffic start acked sent := by
  rcases recounted_cases snd ackSeq with ⟨same, -⟩ | ⟨-, few, counted⟩ | ⟨-, backPoint, rewound⟩
  · rw [same]
    exact tracks
  · rw [counted]
    exact tracks.congr rfl rfl rfl rfl (by dsimp only; omega)
      fun locked => ⟨rfl, rfl, tracks.window_le locked⟩
  · rw [rewound]
    exact tracks.rewound.congr rfl rfl rfl rfl (Int.zero_le_ofNat 1)
      fun locked => ⟨rfl, rfl, tracks.window_le locked⟩

theorem Tracks.notify (tracks : Tracks seed gone snd traffic start acked sent)
    (p : UMPPacket) (now : GTimeVal) :
    Tracks seed gone (notified snd p now) traffic start acked sent := by
  rcases notified_eq snd p now with ⟨same, -⟩ | ⟨-, time, changed⟩
  · rw [same]
    exact tracks
  · rw [changed]
    exact tracks.congr rfl rfl rfl rfl tracks.repeated
      fun _ => ⟨rfl, rfl, umpRefreshSndWndPos_le _⟩

theorem Tracks.fail (tracks : Tracks seed gone snd traffic start acked sent)
    (ended : gone) : Tracks seed gone (endedSend snd false) traffic start acked sent := by
  unfold endedSend
  split
  · exact tracks
  · exact
      { startAt := tracks.startAt
        baseAt := tracks.baseAt
        ordered := tracks.ordered
        near := tracks.near
        transmitted := tracks.transmitted
        known := tracks.known
        highest := tracks.highest
        sentAt := tracks.sentAt
        repeated := tracks.repeated
        sending := by simp [endSend]
        resting := fun _ open_ => absurd ended open_ }

theorem Tracks.rewind (tracks : Tracks seed gone snd traffic start acked sent) :
    Tracks seed gone (rewindAfterTimeout snd) traffic start acked sent := by
  obtain ⟨backPoint, rewound⟩ := rewindAfterTimeout_eq snd
  rw [rewound]
  exact tracks.rewound.congr rfl rfl rfl rfl (Int.zero_le_ofNat 1)
    fun _ => ⟨rfl, rfl, umpRefreshSndWndPos_le _⟩

/-- The end of a message whose packets are all acknowledged. -/
theorem Tracks.finish {synReced : Bool} {packets : List UMPPacket}
    (startAt : snd.ourDataStartSeq = place seed start)
    (baseAt : snd.ourDataSeqBase = place seed (start + packets.length : Nat))
    (shape : Shape synReced snd.message) (locked : snd.sndLocked = .locked)
    (held : snd.sndPackets = some packets)
    (transmitted : ∀ i, i < start + packets.length →
      ∃ q, .sendto q ∈ traffic ∧ isNumbered q ∧ q.seqNum = place seed i)
    (known : ∀ q, .sendto q ∈ traffic → isNumbered q →
      ∃ i, i < start + packets.length ∧ q.seqNum = place seed i)
    (highest : highestSent traffic = highestAt seed (start + packets.length))
    (sentAt : snd.ourDataSent = place seed (lastSent seed (start + packets.length)))
    (repeated : snd.ackRepCount ≤ 1)
    (stream : (streamOf traffic).length = start + packets.length) :
    Tracks seed gone (endSend snd true) traffic (start + packets.length)
      (start + packets.length) (start + packets.length) where
  startAt := by
    obtain ⟨packets', holds⟩ := shape.message locked
    have same : packets' = packets := Option.some.inj (holds.held.symm.trans held)
    subst same
    have count : snd.sndPacketsCount = packets'.length := holds.count
    have behind : (endSend snd true).ourDataStartSeq =
        place snd.ourDataStartSeq (snd.sndPacketsCount % 65536) := rfl
    rw [behind, startAt, place_place, place_eq_iff]
    omega
  baseAt := baseAt
  ordered := ⟨Nat.le_refl _, Nat.le_refl _⟩
  near := by omega
  transmitted := transmitted
  known := known
  highest := highest
  sentAt := sentAt
  repeated := repeated
  sending := by simp [endSend]
  resting := fun _ _ => ⟨rfl, rfl, stream⟩

/-- A new ack moves neither the next packet to send nor, without a window of its
own, the end of the window. -/
theorem acknowledgedBy_position (p : UMPPacket) (now : GTimeVal) :
    (acknowledgedBy snd p now).ourDataPos = (recounted snd p.ackNum).ourDataPos ∧
      ((acknowledgedBy snd p now).ourWndPos = (recounted snd p.ackNum).ourWndPos ∨
        (acknowledgedBy snd p now).ourWndPos ≤ 32767) := by
  obtain ⟨backPoint, advanced⟩ := advanceBase_eq (recounted snd p.ackNum) p.ackNum
  unfold acknowledgedBy
  rcases notified_eq (advanceBase (recounted snd p.ackNum) p.ackNum) p now with
    ⟨same, -⟩ | ⟨-, time, changed⟩
  · rw [same, advanced]
    exact ⟨rfl, .inl rfl⟩
  · rw [changed, advanced]
    exact ⟨rfl, .inr (umpRefreshSndWndPos_le _)⟩

/-- Behind a new ack no ack has been repeated. -/
theorem acknowledgedBy_ackRepCount (p : UMPPacket) (now : GTimeVal) :
    (acknowledgedBy snd p now).ackRepCount = 0 := by
  obtain ⟨backPoint, advanced⟩ := advanceBase_eq (recounted snd p.ackNum) p.ackNum
  unfold acknowledgedBy
  rcases notified_eq (advanceBase (recounted snd p.ackNum) p.ackNum) p now with
    ⟨same, -⟩ | ⟨-, time, changed⟩
  · rw [same, advanced]
  · rw [changed, advanced]
    rfl

/-- A message being sent, behind a new ack that leaves some of it. -/
theorem Sending.acknowledge {packets : List UMPPacket} {snd' : SendSide} {ackPosition : Nat}
    (sending : Sending snd traffic start acked sent packets)
    (held : snd'.sndPackets = snd.sndPackets) (window : snd'.ourWndPos ≤ 32767)
    (position : snd'.ourDataPos = max snd.ourDataPos (ackPosition - start))
    (transmitted : ackPosition ≤ sent) (unfinished : ackPosition < start + packets.length) :
    Sending snd' traffic start ackPosition sent packets where
  held := held.trans sending.held
  unfinished := unfinished
  inside := sending.inside
  notBehind := by rw [position]; omega
  notAhead := by
    have notAhead := sending.notAhead
    rw [position]
    omega
  window := window
  numbered := sending.numbered
  transmitted := sending.transmitted
  stream := sending.stream

/-- A message all of whose packets were sent was transmitted. -/
theorem Sending.messageTransmitted {packets : List UMPPacket}
    (sending : Sending snd traffic start acked sent packets)
    (all : start + packets.length ≤ sent) : MessageTransmitted traffic := by
  obtain ⟨asNumbered, last, alike⟩ := sending.numbered
  refine ⟨asNumbered, last, ?_⟩
  intro m member
  obtain ⟨i, inside, here⟩ := List.mem_iff_getElem.mp member
  have sameLength : asNumbered.length = packets.length := by
    simpa using congrArg List.length alike
  have found : packets[i]? = some packets[i] := List.getElem?_eq_getElem (by omega)
  obtain ⟨q, sent, numbered, same⟩ := sending.transmitted i packets[i] found (by omega)
  refine ⟨q, sent, numbered, same.trans ?_⟩
  have place : (asNumbered.map essence)[i]? = (packets.map essence)[i]? := by rw [alike]
  rw [List.getElem?_map, List.getElem?_map, found, List.getElem?_eq_getElem inside, here] at place
  exact (Option.some.inj place).symm

/-- A message that ends with success in this state was transmitted, and all fragments of the
stream up to `acked` are its and those before it. -/
structure Completes (snd : SendSide) (traffic : List Action) (start acked : Nat) : Prop where
  locked : snd.sndLocked = .locked
  transmitted : MessageTransmitted traffic
  started : start = acked
  whole : (streamOf traffic).length = acked

/-- A new ack for transmitted packets moves the base, and ends the message when it
is for all of them. -/
theorem Tracks.acknowledge {synReced : Bool} {p : UMPPacket} {now time : GTimeVal}
    {fastRetran : Bool} {cwnd : UInt16} {rtoCpt : RTOComputer} {ackPosition : Nat}
    (tracks : Tracks seed gone snd traffic start acked sent)
    (shape : Shape synReced snd.message) (number : p.ackNum = place seed ackPosition)
    (new : acked < ackPosition) (transmitted : ackPosition ≤ sent)
    (complete : snd.sndLocked = .locked →
      snd.sndPacketsCount - (ackPosition - start) = 0 ∨
        (snd.sndPacketsCount - (ackPosition - start) - 1) % 65536 < 32768) :
    ∃ start', start ≤ start' ∧
      Tracks seed gone
        (endedByAck (settled (acknowledgedBy snd p now) p.ackNum fastRetran cwnd time rtoCpt)
          p.ackNum)
        (endingByAck (settled (acknowledgedBy snd p now) p.ackNum fastRetran cwnd time rtoCpt)
          p.ackNum ++ traffic) start' ackPosition sent ∧
      (.sendDone true ∈ endingByAck
          (settled (acknowledgedBy snd p now) p.ackNum fastRetran cwnd time rtoCpt) p.ackNum →
        Completes snd traffic start' ackPosition) := by
  have recounts := tracks.recount p.ackNum
  obtain ⟨position, window⟩ := @acknowledgedBy_position snd p now
  obtain ⟨sameStart, sameBase, -⟩ := acknowledgedBy_numbers snd p now
  have message : (settled (acknowledgedBy snd p now) p.ackNum fastRetran cwnd time rtoCpt).message =
      snd.message := by
    rw [settled_message, acknowledgedBy_message]
  have behind : (acknowledgedBy snd p now).acked = ackPosition - start := by
    have ordered := tracks.ordered
    have near := tracks.near
    rw [SendSide.acked, sameStart, sameBase, number, tracks.startAt]
    exact offset_near seed (by omega) (by omega)
  have settledPosition :
      (settled (acknowledgedBy snd p now) p.ackNum fastRetran cwnd time rtoCpt).ourDataPos =
        max (recounted snd p.ackNum).ourDataPos (ackPosition - start) := by
    rw [settled_eq, ← position, ← behind]
  have settledWindow :
      (settled (acknowledgedBy snd p now) p.ackNum fastRetran cwnd time rtoCpt).ourWndPos =
        (acknowledgedBy snd p now).ourWndPos := by
    rw [settled_eq]
  have settledBase :
      (settled (acknowledgedBy snd p now) p.ackNum fastRetran cwnd time rtoCpt).ourDataSeqBase =
        place seed ackPosition := by
    rw [settled_eq, ← number]
    exact sameBase
  have settledSent :
      (settled (acknowledgedBy snd p now) p.ackNum fastRetran cwnd time rtoCpt).ourDataSent =
        snd.ourDataSent := by
    rw [settled_eq]
    exact (acknowledgedBy_numbers snd p now).2.2
  have settledRepeated :
      (settled (acknowledgedBy snd p now) p.ackNum fastRetran cwnd time rtoCpt).ackRepCount ≤ 1 := by
    rw [settled_eq]
    exact (acknowledgedBy_ackRepCount p now).symm ▸ Int.zero_le_ofNat 1
  generalize settled (acknowledgedBy snd p now) p.ackNum fastRetran cwnd time rtoCpt = m
    at message settledPosition settledWindow settledBase settledSent settledRepeated ⊢
  have lock : m.sndLocked = snd.sndLocked := congrArg MessagePart.sndLocked message
  have startAt : m.ourDataStartSeq = place seed start :=
    (congrArg MessagePart.ourDataStartSeq message).trans tracks.startAt
  have recountedMessage := recounted_message snd p.ackNum
  have recountedLock : (recounted snd p.ackNum).sndLocked = snd.sndLocked :=
    congrArg MessagePart.sndLocked recountedMessage
  have heldSame : m.sndPackets = (recounted snd p.ackNum).sndPackets :=
    (congrArg MessagePart.sndPackets message).trans
      (congrArg MessagePart.sndPackets recountedMessage).symm
  have shape' : Shape synReced m.message := by
    rw [message]
    exact shape
  cases locked : snd.sndLocked with
  | unlocked =>
      -- nothing is sent, so there is no new ack unless the connection is over
      have same : endedByAck m p.ackNum = m := by
        unfold endedByAck endedSend
        rw [lock, locked]
        exact ite_self m
      have quiet : endingByAck m p.ackNum = [] := by
        unfold endingByAck ending
        rw [lock, locked]
        exact ite_self []
      rw [same, quiet]
      refine ⟨start, Nat.le_refl _, ?_, by simp⟩
      exact
        { startAt := startAt
          baseAt := settledBase
          ordered := ⟨by have := tracks.ordered; omega, transmitted⟩
          near := tracks.near
          transmitted := tracks.transmitted
          known := tracks.known
          highest := tracks.highest
          sentAt := settledSent.trans tracks.sentAt
          repeated := settledRepeated
          sending := by
            intro lockedNow
            rw [lock, locked] at lockedNow
            exact absurd lockedNow (by decide)
          resting := by
            intro _ open_
            obtain ⟨atStart, allSent, -⟩ := tracks.resting locked open_
            omega }
  | locked =>
      obtain ⟨packets, sending⟩ := recounts.sending (recountedLock.trans locked)
      have heldNow : m.sndPackets = some packets := heldSame.trans sending.held
      obtain ⟨packets', holds⟩ := shape'.message (lock.trans locked)
      have samePackets : packets' = packets := Option.some.inj (holds.held.symm.trans heldNow)
      subst samePackets
      have count : snd.sndPacketsCount = packets'.length :=
        (congrArg MessagePart.sndPacketsCount message).symm.trans holds.count
      have left := complete locked
      have near := tracks.near
      have ordered := tracks.ordered
      have inside := sending.inside
      have last : m.ourMsgLastSeq = place seed (start + (packets'.length - 1)) := by
        have place' : m.ourMsgLastSeq = place m.ourDataStartSeq (packets'.length - 1) := holds.last
        rw [place', startAt, place_place]
      have compared : umpCmpInSndbase m p.ackNum m.ourMsgLastSeq =
          -((start + (packets'.length - 1) - ackPosition : Int).bmod 65536) := by
        rw [umpCmpInSndbase_eq, settledBase, number, offset_self, last, offset_place_place,
          Int.zero_sub]
      rw [Int.bmod_def] at compared
      by_cases all : ackPosition = start + packets'.length
      · have gone' : umpCmpInSndbase m p.ackNum m.ourMsgLastSeq > 0 := by omega
        have ends : endedByAck m p.ackNum = endSend m true := by
          unfold endedByAck endedSend
          rw [if_pos gone', lock, locked]
        have done : endingByAck m p.ackNum = [.sendDone true] := by
          unfold endingByAck ending
          rw [if_pos gone', lock, locked]
        have allSent : sent = start + packets'.length := by omega
        rw [ends, done, all, allSent, List.singleton_append]
        have streamed : (streamOf traffic).length = start + packets'.length := by
          obtain ⟨finished, length, stream⟩ := sending.stream
          rw [stream, List.length_append, List.length_map, length]
        refine ⟨start + packets'.length, by omega, ?_, fun _ =>
          ⟨locked, sending.messageTransmitted (by omega), rfl, streamed⟩⟩
        refine (Tracks.finish startAt (by rw [settledBase, all]) shape' (lock.trans locked) heldNow
          ?_ ?_ ?_ ?_ settledRepeated streamed).log trivial
        · intro i before
          exact tracks.transmitted i (by omega)
        · rw [← allSent]
          exact tracks.known
        · rw [← allSent]
          exact tracks.highest
        · rw [← allSent]
          exact settledSent.trans tracks.sentAt
      · have under : ¬ umpCmpInSndbase m p.ackNum m.ourMsgLastSeq > 0 := by omega
        have same : endedByAck m p.ackNum = m := by
          unfold endedByAck
          rw [if_neg under]
        have quiet : endingByAck m p.ackNum = [] := by
          unfold endingByAck
          rw [if_neg under]
        rw [same, quiet]
        refine ⟨start, Nat.le_refl _, ?_, by simp⟩
        have windowNow : m.ourWndPos ≤ 32767 := by
          rw [settledWindow]
          rcases window with kept | refreshed
          · rw [kept]
            exact sending.window
          · exact refreshed
        exact
          { startAt := startAt
            baseAt := settledBase
            ordered := by omega
            near := near
            transmitted := tracks.transmitted
            known := tracks.known
            highest := tracks.highest
            sentAt := settledSent.trans tracks.sentAt
            repeated := settledRepeated
            sending := fun _ => ⟨packets', sending.acknowledge heldSame windowNow settledPosition
              transmitted (by omega)⟩
            resting := by
              intro unlocked
              rw [lock, locked] at unlocked
              exact absurd unlocked (by decide) }

end Tracks

theorem probe_quiet {synReced : Bool} {snd : SendSide} (shape : Shape synReced snd.message) :
    Quiet (.sendto (reqWndPacket snd)) := by
  rw [shape.reqWndPacket]
  exact (by decide : isNumbered probePacket = false)

/-! ### Steps of a socket -/

section Steps

variable {Lists : Type} [ReceiveLists Lists] {u : UMPSocket Lists} {event : SockEvent}
  {seed : UInt16} {start acked sent : Nat}

/-- The new acks an event brings are for transmitted packets. -/
def AcksTransmitted (seed : UInt16) (acked sent : Nat) (u : UMPSocket Lists)
    (event : SockEvent) : Prop :=
  ∀ p, event = .dataPacket p → u.core.ctrl.state ≠ .connecting → uPacketGetFlag p UP_DATA_ACK →
    ackInRange u.core.snd p.ackNum → 0 < ackDiff u.core.snd p.ackNum →
    ∃ ackPosition : Nat, acked < ackPosition ∧ ackPosition ≤ sent ∧
      p.ackNum = place seed ackPosition

/-- The new acks an event brings end a message only when it is complete. -/
def endsMessages (u : UMPSocket Lists) : SockEvent → Prop
  | .dataPacket p => u.core.ctrl.state ≠ .connecting → endsComplete u.core.snd p
  | _ => True

instance : Decidable (endsMessages u event) :=
  match event with
  | .dataPacket _ => by unfold endsMessages; infer_instance
  | .userCtrl .. | .userSend .. | .userReceive | .handleCtrl | .handleSend | .handleReceive |
    .bufferLoad .. | .ctrlPacket .. | .dataTimeout | .refreshRwnd | .refreshAck | .actReqWnd |
    .ctrlTimeout | .sendCtrlPacket | .heartbeat | .sendData | .sendReset => instDecidableTrue

/-- The positions a step can lead to. -/
structure Progress (seed : UInt16) (u : UMPSocket Lists) (event : SockEvent)
    (start acked sent start' acked' sent' : Nat) : Prop where
  tracks : Tracks seed (sockStep u event).core.handshake.Ended (sockStep u event).core.snd
    (traffic (sockStep u event).core.log) start' acked' sent'
  ordered : start ≤ start' ∧ acked ≤ acked' ∧ sent ≤ sent'
  acknowledged : acked' = acked ∨ acked' ≤ sent ∧ ∃ p, event = .dataPacket p ∧
    uPacketGetFlag p UP_DATA_ACK ∧ p.ackNum = place seed acked'
  reported : ∃ added, traffic (sockStep u event).core.log = added ++ traffic u.core.log ∧
    (.sendDone true ∈ added → Completes u.core.snd (traffic u.core.log) start' acked')

/-- A step that leaves all positions where they are. -/
theorem Progress.still {k : Handshake} {snd' : SendSide} {added : List Action}
    (after : (sockStep u event).core.handshake = k) (sender : (sockStep u event).core.snd = snd')
    (logged : traffic (sockStep u event).core.log = added ++ traffic u.core.log)
    (tracks : Tracks seed k.Ended snd' (added ++ traffic u.core.log) start acked sent)
    (unreported : .sendDone true ∉ added) :
    Progress seed u event start acked sent start acked sent where
  tracks := by rw [after, sender, logged]; exact tracks
  ordered := ⟨Nat.le_refl _, Nat.le_refl _, Nat.le_refl _⟩
  acknowledged := .inl rfl
  reported := ⟨added, logged, fun reported => absurd reported unreported⟩

omit [ReceiveLists Lists] in
theorem ackStep_progress {p : UMPPacket} {snd' : SendSide} {added : List Action}
    (tracks : Tracks seed u.core.handshake.Ended u.core.snd (traffic u.core.log) start acked sent)
    (shaped : WellShaped u) (after : Handshake)
    (ended : u.core.handshake.Ended → after.Ended)
    (acks : AcksTransmitted seed acked sent u (.dataPacket p))
    (complete : endsMessages u (.dataPacket p)) (heard : u.core.ctrl.state ≠ .connecting)
    (step : AckStep u.core.snd p snd' added) :
    ∃ start' acked', start ≤ start' ∧ acked ≤ acked' ∧
      Tracks seed after.Ended snd' (added ++ traffic u.core.log) start' acked' sent ∧
      (acked' = acked ∨ acked' ≤ sent ∧ uPacketGetFlag p UP_DATA_ACK ∧
        p.ackNum = place seed acked') ∧
      (.sendDone true ∈ added → Completes u.core.snd (traffic u.core.log) start' acked') := by
  have still (tracks : Tracks seed u.core.handshake.Ended snd' (traffic u.core.log) start acked
      sent) (quiet : added = []) : ∃ start' acked', start ≤ start' ∧ acked ≤ acked' ∧
      Tracks seed after.Ended snd' (added ++ traffic u.core.log) start' acked' sent ∧
      (acked' = acked ∨ acked' ≤ sent ∧ uPacketGetFlag p UP_DATA_ACK ∧
        p.ackNum = place seed acked') ∧
      (.sendDone true ∈ added → Completes u.core.snd (traffic u.core.log) start' acked') := by
    rw [quiet]
    exact ⟨start, acked, Nat.le_refl _, Nat.le_refl _, tracks.mono ended, .inl rfl, by simp⟩
  cases step with
  | noAck now flag => exact still (tracks.notify p now) rfl
  | outside flag range => exact still (tracks.recount p.ackNum) rfl
  | old now flag range same => exact still ((tracks.recount p.ackNum).notify p now) rfl
  | new now time fastRetran cwnd rtoCpt flag range ahead grown =>
      rw [ackInRange_recounted] at range
      rw [ackDiff_recounted] at ahead
      have ahead' : 0 < ackDiff u.core.snd p.ackNum := by
        rw [ackDiff_eq]
        exact ahead
      obtain ⟨ackPosition, new, transmitted, number⟩ := acks p rfl heard flag range ahead'
      have ordered := tracks.ordered
      have near := tracks.near
      have relative : umpSeqToRelativeViaSndstartseq u.core.snd p.ackNum = ackPosition - start := by
        rw [umpSeqToRelativeViaSndstartseq_eq, number, tracks.startAt]
        exact offset_near seed (by omega) (by omega)
      have left : u.core.snd.sndLocked = .locked →
          u.core.snd.sndPacketsCount - (ackPosition - start) = 0 ∨
            (u.core.snd.sndPacketsCount - (ackPosition - start) - 1) % 65536 < 32768 := by
        intro locked
        rw [← relative]
        exact complete heard locked flag range ahead'
      obtain ⟨start', later, moved, reported⟩ :=
        (tracks.mono ended).acknowledge shaped.shape number new transmitted left
      exact ⟨start', ackPosition, later, by omega, moved, .inr ⟨transmitted, flag, number⟩, reported⟩

/-- What a step does to the positions of the sender, when its acks are for
transmitted packets. -/
theorem sockStep_progress (allowed : sockEnabled u event) (shaped : WellShaped u)
    (tracks : Tracks seed u.core.handshake.Ended u.core.snd (traffic u.core.log) start acked sent)
    (once : opensOnce u event) (acks : AcksTransmitted seed acked sent u event)
    (complete : endsMessages u event) :
    ∃ start' acked' sent', Progress seed u event start acked sent start' acked' sent' := by
  obtain ⟨added, step, logged⟩ := send_step u event
  have ended := sockStep_ended allowed once shaped.sound
  generalize after : (sockStep u event).core.handshake = k at step ended
  generalize sender : (sockStep u event).core.snd = snd' at step
  have later := tracks.mono ended
  cases step with
  | idle event unheard =>
      exact ⟨start, acked, sent, .still after sender logged later (by simp)⟩
  | signal event p kind =>
      exact ⟨start, acked, sent, .still after sender logged (later.log (kind.quiet shaped.sound.typed))
        (by simp)⟩
  | probe asking =>
      refine ⟨start, acked, sent, .still after sender logged
        (Tracks.log ?_ (probe_quiet shaped.shape)) (by simp)⟩
      exact later.congr rfl rfl rfl rfl later.repeated
        fun locked => ⟨rfl, rfl, later.window_le locked⟩
  | post data =>
      refine ⟨start, acked, sent, .still after sender logged ?_ (by simp)⟩
      refine later.congr rfl rfl rfl rfl later.repeated ?_
      intro locked
      cases locked.symm.trans (shaped.shape.unlocked allowed.1)
  | refuse packets unlocked posted =>
      refine ⟨start, acked, sent, .still after sender logged
        (Tracks.log ?_ trivial) (by simp)⟩
      refine later.congr rfl rfl ?_ rfl later.repeated ?_
      · rw [unlocked]
        rfl
      · simp [endSend]
  | start packets unlocked posted some established noError =>
      have open_ : ¬ u.core.handshake.Ended := Handshake.not_ended established noError
      exact ⟨start, acked, sent, .still after sender logged
        ((tracks.begin shaped.shape open_ unlocked posted some).mono ended) (by simp)⟩
  | giveUp event noData parted =>
      refine ⟨start, acked, sent, .still after sender logged ?_ ?_⟩
      · have failed := later.fail parted.ended
        unfold ending
        split
        · exact failed
        · exact failed.log trivial
      · unfold ending
        split <;> simp
  | syn p taken =>
      refine ⟨start, acked, sent, .still after sender logged ?_ (by simp)⟩
      exact later.congr rfl rfl rfl rfl later.repeated
        fun locked => ⟨rfl, rfl, later.window_le locked⟩
  | transmit p locked window found =>
      refine ⟨start, acked, max sent (start + u.core.snd.ourDataPos.toNat + 1), ?_⟩
      exact
        { tracks := by
            rw [after, sender, logged]
            exact later.transmit shaped.shape locked window found
          ordered := by omega
          acknowledged := .inl rfl
          reported := ⟨_, logged, by simp⟩ }
  | expired parted =>
      refine ⟨start, acked, sent, .still after sender logged ?_ ?_⟩
      · have emptied : Tracks seed k.Ended { u.core.snd with tmList := [] } (traffic u.core.log)
            start acked sent := by
          exact later.congr rfl rfl rfl rfl later.repeated
            fun locked => ⟨rfl, rfl, later.window_le locked⟩
        have failed := emptied.fail parted.ended
        unfold ending
        split
        · exact failed
        · exact failed.log trivial
      · unfold ending
        split <;> simp
  | rewind =>
      refine ⟨start, acked, sent, .still after sender logged (Tracks.rewind ?_) (by simp)⟩
      exact later.congr rfl rfl rfl rfl later.repeated
        fun locked => ⟨rfl, rfl, later.window_le locked⟩
  | ack p heard snd added ackStep =>
      obtain ⟨start', acked', laterStart, laterAcked, moved, acknowledged, reported⟩ :=
        ackStep_progress tracks shaped k ended acks complete heard ackStep
      refine ⟨start', acked', sent, ?_⟩
      exact
        { tracks := by rw [after, sender, logged]; exact moved
          ordered := ⟨laterStart, laterAcked, Nat.le_refl _⟩
          acknowledged := by
            rcases acknowledged with same | ⟨sent, flag, number⟩
            · exact .inl same
            · exact .inr ⟨sent, p, rfl, flag, number⟩
          reported := ⟨_, logged, reported⟩ }

end Steps

end UserMessageProtocol
