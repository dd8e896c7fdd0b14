import UserMessageProtocol.Sender.Liveness
import UserMessageProtocol.Sender.Marker

/-!
Contract: the timers of a sender are those of the packets in flight.

Owns: what the timer list is between two handlers (`MirrorsFlight`), what
`tm_ack_packet` leaves of it (`timersLeft_filter`), the invariant behind that
(`Mirrors`), the condition on a run (`keepsTimers`), and the run theorem.

Does not own: which timer fires when.
-/

set_option autoImplicit false

namespace UserMessageProtocol

open Serial

/-! ### What an ack leaves of the timers -/

section Flight

variable {base ackSeq : UInt16} {count acked index : Nat} {tl : List TmEntry}

theorem flight_length (base : UInt16) (count : Nat) : (flight base count).length = count := by
  induction count generalizing base with
  | zero => rfl
  | succ count inductionHypothesis => rw [flight, List.length_cons, inductionHypothesis]

theorem flight_getElem? (inside : index < count) :
    (flight base count)[index]? = some (place base index) := by
  induction count generalizing base index with
  | zero => omega
  | succ count inductionHypothesis =>
      rw [flight]
      cases index with
      | zero =>
          rw [List.getElem?_cons_zero]
          exact congrArg some (place_zero base).symm
      | succ index =>
          rw [List.getElem?_cons_succ, inductionHypothesis (by omega), place_of_add_one]
          rfl

/-- The timer at an index is that of the packet there. -/
theorem seq_of_getElem? {entry : TmEntry} (timers : tl.map TmEntry.seq = flight base count)
    (found : tl[index]? = some entry) : index < count ∧ entry.seq = place base index := by
  have here := congrArg (fun numbers => numbers[index]?) timers
  simp only [List.getElem?_map, found, Option.map_some] at here
  have inside : index < count := by
    have some := (List.getElem?_eq_some_iff.mp here.symm).1
    rwa [flight_length] at some
  rw [flight_getElem? inside] at here
  exact ⟨inside, Option.some.inj here⟩

/-- The timers behind the first `acked` are those that do not lie below the ack. -/
theorem drop_eq_filter (timers : tl.map TmEntry.seq = flight base count) (few : count ≤ 32767) :
    tl.drop acked = tl.filter fun entry => !(offset base entry.seq < acked) := by
  have below : (tl.take acked).filter (fun entry => !(offset base entry.seq < acked)) = [] := by
    rw [List.filter_eq_nil_iff]
    intro entry member
    obtain ⟨i, found⟩ := List.mem_iff_getElem?.mp member
    rw [List.getElem?_take] at found
    by_cases before : i < acked
    · rw [if_pos before] at found
      obtain ⟨inside, here⟩ := seq_of_getElem? timers found
      rw [here, offset_place base (by omega) (by omega)]
      simp [before]
    · rw [if_neg before] at found
      cases found
  have behind : (tl.drop acked).filter (fun entry => !(offset base entry.seq < acked)) =
      tl.drop acked := by
    rw [List.filter_eq_self]
    intro entry member
    obtain ⟨i, found⟩ := List.mem_iff_getElem?.mp member
    rw [List.getElem?_drop] at found
    obtain ⟨inside, here⟩ := seq_of_getElem? timers found
    rw [here, offset_place base (by omega) (by omega)]
    simp
  conv_rhs => rw [← List.take_append_drop acked tl]
  rw [List.filter_append, below, behind, List.nil_append]

/-- The loop drops the timers up to that of the packet the ack is for. -/
theorem tmAckLoop_eq (timers : tl.map TmEntry.seq = flight base count)
    (number : ackSeq = place base acked) (new : 0 < acked) (near : acked < 65536) :
    (tmAckLoop ackSeq tl).2 = tl.drop acked := by
  induction tl generalizing base count acked with
  | nil => rw [List.drop_nil]; rfl
  | cons entry rest inductionHypothesis =>
      cases count with
      | zero => cases timers
      | succ count =>
          rw [List.map_cons, flight] at timers
          obtain ⟨first, later⟩ := List.cons.inj timers
          obtain ⟨acked, rfl⟩ : ∃ before, acked = before + 1 := ⟨acked - 1, by omega⟩
          have next : entry.seq + 1 = place base 1 := by
            rw [first]
            exact place_natCast base 1
          rw [tmAckLoop, List.drop_succ_cons]
          by_cases last : acked = 0
          · rw [if_pos]
            · rw [last, List.drop_zero]
            · rw [number, next, last]
              rfl
          · rw [if_neg]
            · apply inductionHypothesis later _ (by omega) (by omega)
              rw [number, place_of_add_one]
              rfl
            · rw [number, next]
              intro same
              have turn := place_inj base (by omega) (by omega) same
              omega

/-- An ack that lies behind the first timer and not ahead of what was sent is in the range
of `tm_ack_packet`. -/
theorem tmAckInRange_of_offset {sent : UInt16} (new : 0 < offset base ackSeq)
    (known : offset base ackSeq ≤ offset base sent + 1) : tmAckInRange base ackSeq sent = true := by
  have first := offset_emod base ackSeq
  have second := offset_emod base sent
  have upper := offset_upper base sent
  have upper' := offset_upper base ackSeq
  have one : (1 : UInt16).toNat = 1 := rfl
  have bound := base.toNat_lt
  have bound' := ackSeq.toNat_lt
  have bound'' := sent.toNat_lt
  simp only [tmAckInRange, gt_iff_lt, UInt16.lt_iff_toNat_lt, UInt16.toNat_add, one]
  split <;> simp <;> omega

/-- `tm_ack_packet` drops the timers of the packets below an ack in range, and no others. -/
theorem timersLeft_eq {snd : SendSide}
    (timers : snd.tmList.map TmEntry.seq = flight snd.ourDataSeqBase count)
    (range : ackInRange snd ackSeq) (new : 0 < offset snd.ourDataSeqBase ackSeq) :
    (tmAckPacket snd.tmList ackSeq snd.ourDataSent).2 =
      snd.tmList.drop (offset snd.ourDataSeqBase ackSeq).toNat := by
  have upper := offset_upper snd.ourDataSeqBase ackSeq
  have number : ackSeq = place snd.ourDataSeqBase (offset snd.ourDataSeqBase ackSeq).toNat := by
    rw [Int.toNat_of_nonneg (by omega), place_offset]
  unfold tmAckPacket
  cases list : snd.tmList with
  | nil => rw [List.drop_nil]
  | cons entry rest =>
      rw [list] at timers
      have first : entry.seq = snd.ourDataSeqBase := by
        cases count with
        | zero => cases timers
        | succ count => exact (List.cons.inj timers).1
      rw [ackInRange_iff] at range
      dsimp only
      rw [first, if_pos (tmAckInRange_of_offset new (by omega))]
      exact tmAckLoop_eq timers number (by omega) (by omega)

/-- Those are the timers that do not lie below the ack. -/
theorem timersLeft_filter {snd : SendSide}
    (timers : snd.tmList.map TmEntry.seq = flight snd.ourDataSeqBase count) (few : count ≤ 32767)
    (range : ackInRange snd ackSeq) (new : 0 < offset snd.ourDataSeqBase ackSeq) :
    timersLeft snd ackSeq =
      snd.tmList.filter fun entry => !(umpCmpInSndbase snd entry.seq ackSeq < 0) := by
  have left : timersLeft snd ackSeq = _ := timersLeft_eq timers range new
  rw [left, drop_eq_filter timers few]
  apply List.filter_congr
  intro entry _
  rw [umpCmpInSndbase_eq, Int.toNat_of_nonneg (by omega)]
  congr 2
  rw [eq_iff_iff]
  omega

end Flight

/-! ### The invariant -/

/-- A message that is being sent starts at position `start`, and the next packet of it to
send is the one at `reach`. -/
structure Working (seed : UInt16) (snd : SendSide) (start reach : Nat) : Prop where
  startAt : snd.ourDataStartSeq = place seed start
  position : (reach : Int) = start + snd.ourDataPos
  window : snd.ourWndPos ≤ 32767

/-- The numbers of a sender as positions: the latest message starts at `start`, those below
`acked` are acknowledged, those below `sent` were transmitted, and just those between `acked` and
`reach` have a timer, the numbers `since` among them. -/
structure Mirrors (seed : UInt16) (gone : Prop) (snd : SendSide) (traffic : List Action) (since : List UInt16)
    (start acked sent reach : Nat) : Prop where
  baseAt : snd.ourDataSeqBase = place seed acked
  behind : start ≤ acked
  ordered : acked ≤ reach ∧ reach ≤ sent
  near : sent ≤ start + 32767
  known : ∀ q, .sendto q ∈ traffic → isNumbered q → ∃ i, i < sent ∧ q.seqNum = place seed i
  sentAt : snd.ourDataSent = place seed (lastSent seed sent)
  repeated : snd.ackRepCount ≤ 1
  timers : snd.tmList.map TmEntry.seq = flight snd.ourDataSeqBase (reach - acked)
  since : ∀ number ∈ since, number ∈ snd.tmList.map TmEntry.seq
  working : snd.sndLocked = .locked → Working seed snd start reach
  marks : Marks seed gone snd traffic start acked sent reach

section Mirrors

variable {seed : UInt16} {gone gone' : Prop} {snd snd' : SendSide} {traffic : List Action}
  {since : List UInt16} {start acked sent reach : Nat}

theorem mirrors_new (seed : UInt16) (clock : Clock) (gone : Prop) :
    Mirrors seed gone (umpSockNewCore seed clock).snd [] [] 0 0 0 0 where
  baseAt := (place_zero seed).symm
  behind := Nat.le_refl 0
  ordered := ⟨Nat.le_refl 0, Nat.le_refl 0⟩
  near := Nat.zero_le _
  known := by simp
  sentAt := (place_offset seed 0).symm
  repeated := Int.zero_le_ofNat 1
  timers := rfl
  since := by simp
  working := by simp [umpSockNewCore]
  marks := marks_new seed clock gone

/-- More traffic that transmits no packet of a message. -/
theorem Mirrors.log {action : Action} (mirrors : Mirrors seed gone snd traffic since start acked sent reach)
    (quiet : Quiet action) : Mirrors seed gone snd (action :: traffic) since start acked sent reach :=
  { mirrors with
    known := by
      intro q member numbered
      rcases List.mem_cons.mp member with rfl | before
      · exact absurd (numbered.symm.trans quiet) (by decide)
      · exact mirrors.known q before numbered
    marks := mirrors.marks.log quiet }

theorem Mirrors.mono (mirrors : Mirrors seed gone snd traffic since start acked sent reach)
    (later : gone → gone') : Mirrors seed gone' snd traffic since start acked sent reach :=
  { mirrors with marks := mirrors.marks.mono later }

/-- Only these fields of a sender matter. -/
theorem Mirrors.congr (mirrors : Mirrors seed gone snd traffic since start acked sent reach)
    (sameBase : snd'.ourDataSeqBase = snd.ourDataSeqBase)
    (samePoint : snd'.ourBackPoint = snd.ourBackPoint)
    (sameStart : snd'.ourDataStartSeq = snd.ourDataStartSeq)
    (samePosition : snd'.ourDataPos = snd.ourDataPos)
    (sameSent : snd'.ourDataSent = snd.ourDataSent) (few : snd'.ackRepCount ≤ 1)
    (sameTimers : snd'.tmList = snd.tmList)
    (sameLock : snd'.sndLocked = snd.sndLocked)
    (window : snd'.sndLocked = .locked → snd'.ourWndPos ≤ 32767) :
    Mirrors seed gone snd' traffic since start acked sent reach where
  baseAt := sameBase.trans mirrors.baseAt
  behind := mirrors.behind
  ordered := mirrors.ordered
  near := mirrors.near
  known := mirrors.known
  sentAt := sameSent.trans mirrors.sentAt
  repeated := few
  timers := by
    rw [sameTimers, sameBase]
    exact mirrors.timers
  since := by
    rw [sameTimers]
    exact mirrors.since
  working := by
    intro locked
    have working := mirrors.working (sameLock.symm.trans locked)
    exact
      { startAt := sameStart.trans working.startAt
        position := by
          rw [samePosition]
          exact working.position
        window := window locked }
  marks := mirrors.marks.congr sameBase samePoint sameStart samePosition sameLock

theorem Mirrors.window_le (mirrors : Mirrors seed gone snd traffic since start acked sent reach)
    (locked : snd.sndLocked = .locked) : snd.ourWndPos ≤ 32767 := (mirrors.working locked).window

theorem Mirrors.acked_eq (mirrors : Mirrors seed gone snd traffic since start acked sent reach)
    (locked : snd.sndLocked = .locked) : snd.acked = acked - start := by
  have behind := mirrors.behind
  have ordered := mirrors.ordered
  have near := mirrors.near
  rw [SendSide.acked, (mirrors.working locked).startAt, mirrors.baseAt]
  exact offset_near seed (by omega) (by omega)

/-- A sender that moves back to the base has nothing in flight. -/
theorem Mirrors.rewound (mirrors : Mirrors seed gone snd traffic since start acked sent reach) :
    Mirrors seed gone
      { snd with ourBackPoint := snd.rewoundPoint, ourDataPos := snd.acked, tmList := [] }
      traffic [] start acked sent acked where
  baseAt := mirrors.baseAt
  behind := mirrors.behind
  ordered := ⟨Nat.le_refl _, mirrors.ordered.1.trans mirrors.ordered.2⟩
  near := mirrors.near
  known := mirrors.known
  sentAt := mirrors.sentAt
  repeated := mirrors.repeated
  timers := by
    rw [Nat.sub_self]
    rfl
  since := by simp
  working := by
    intro locked
    have behind := mirrors.behind
    have position := mirrors.acked_eq locked
    refine { mirrors.working locked with position := ?_ }
    show (acked : Int) = start + snd.acked
    omega
  marks := by
    have behind := mirrors.behind
    have ordered := mirrors.ordered
    have near := mirrors.near
    have moved := mirrors.marks.rewind mirrors.baseAt ordered (by omega) (by
      intro locked
      have working := mirrors.working locked
      rw [umpRelativeToSeqViaSndstartseq_eq, working.startAt, place_place, working.position])
    exact moved.congr rfl rfl rfl rfl rfl

/-- A message starts at a base that is its first number, while no timer runs. -/
theorem Mirrors.begin {packets : List UMPPacket}
    (mirrors : Mirrors seed gone snd traffic since start acked sent reach)
    (unlocked : snd.sndLocked = .unlocked) (going : ¬ gone)
    (atBase : snd.ourDataSeqBase = snd.ourDataStartSeq) (idle : snd.tmList = []) :
    Mirrors seed gone (startMessage { snd with sndParaLock := true, sndLocked := .locked } packets)
      (.numbered (preparePackets snd.ourDataStartSeq packets) :: traffic) since acked acked sent
      acked := by
  have none := congrArg List.length mirrors.timers
  rw [idle, flight_length] at none
  have behind := mirrors.behind
  have ordered := mirrors.ordered
  have near := mirrors.near
  have reached : reach = acked := Nat.le_antisymm (Nat.sub_eq_zero_iff_le.mp none.symm) ordered.1
  exact
    { baseAt := mirrors.baseAt
      behind := Nat.le_refl _
      ordered := by omega
      near := by omega
      known := by
        intro q member numbered
        rcases List.mem_cons.mp member with here | before
        · cases here
        · exact mirrors.known q before numbered
      sentAt := mirrors.sentAt
      repeated := mirrors.repeated
      timers := by
        rw [reached] at mirrors
        exact mirrors.timers
      since := mirrors.since
      working := fun _ =>
        ⟨atBase.symm.trans mirrors.baseAt, (Int.add_zero _).symm, umpRefreshSndWndPos_le _⟩
      marks := mirrors.marks.begin unlocked going mirrors.baseAt reached (by omega) rfl rfl atBase rfl }

/-- The packet at the next position. -/
theorem Working.next {synReced : Bool} {p : UMPPacket} (working : Working seed snd start reach)
    (shape : Shape synReced snd.message) (locked : snd.sndLocked = .locked)
    (found : packetAt snd snd.ourDataPos = some p) : InSequence (place seed reach) p := by
  obtain ⟨held, holds⟩ := shape.message locked
  have inside : 0 ≤ snd.ourDataPos := by
    by_contra outside
    simp [packetAt, outside] at found
  obtain ⟨i, here⟩ := Int.eq_ofNat_of_zero_le inside
  have position := working.position
  rw [here, holds.packetAt] at found
  have inSequence := holds.inMessage i p found
  rw [show snd.message.ourDataStartSeq = place seed start from working.startAt, place_place]
    at inSequence
  rw [position, here]
  exact inSequence

theorem Mirrors.transmit {synReced : Bool} {p : UMPPacket} {now : GTimeVal} {ackInfo : UMPAckInfo}
    (mirrors : Mirrors seed gone snd traffic since start acked sent reach)
    (shape : Shape synReced snd.message) (locked : snd.sndLocked = .locked)
    (inWindow : snd.ourDataPos < snd.ourWndPos) (found : packetAt snd snd.ourDataPos = some p) :
    Mirrors seed gone (afterTransmit snd (outgoingPacket ackInfo p) now)
      (.sendto (outgoingPacket ackInfo p) :: traffic)
      ((outgoingPacket ackInfo p).seqNum :: since) start acked (max sent (reach + 1))
      (reach + 1) := by
  have working := mirrors.working locked
  have inSequence := working.next shape locked found
  have ordered := mirrors.ordered
  have near := mirrors.near
  have window := working.window
  have position := working.position
  have behind := mirrors.behind
  have numbered := outgoing_isNumbered inSequence ackInfo
  have sequence : (outgoingPacket ackInfo p).seqNum = place seed reach := by
    rw [outgoingPacket_seqNum]
    exact inSequence.seqNum
  have further : reach + 1 ≤ start + 32767 := by omega
  rw [afterTransmit_eq]
  exact
    { baseAt := mirrors.baseAt
      behind := behind
      ordered := by omega
      near := by omega
      known := by
        intro q member numbered
        rcases List.mem_cons.mp member with here | before
        · refine ⟨reach, by omega, ?_⟩
          rw [Action.sendto.inj here, sequence]
        · obtain ⟨i, sent, number⟩ := mirrors.known q before numbered
          exact ⟨i, by omega, number⟩
      sentAt := by
        rw [sequence]
        exact sentBehind_place mirrors.baseAt mirrors.sentAt ordered (by omega) (by omega)
      repeated := mirrors.repeated
      timers := by
        have longer : reach + 1 - acked = (reach - acked) + 1 := by omega
        have last : place snd.ourDataSeqBase (reach - acked : Nat) = place seed reach := by
          rw [mirrors.baseAt, place_place]
          congr 1
          omega
        show (tmRegisterPacket _ _ _ _).map TmEntry.seq = _
        rw [longer, flight_add, last, tmRegisterPacket, List.map_append, mirrors.timers, sequence]
        rfl
      since := by
        intro number member
        show number ∈ (tmRegisterPacket _ _ _ _).map TmEntry.seq
        rw [tmRegisterPacket, List.map_append, List.mem_append]
        rcases List.mem_cons.mp member with rfl | before
        · exact .inr (List.mem_singleton_self _)
        · exact .inl (mirrors.since number before)
      working := by
        intro _
        refine ⟨working.startAt, ?_, window⟩
        show ((reach + 1 : Nat) : Int) = start + (snd.ourDataPos + 1)
        omega
      marks := by
        have marked := mirrors.marks.transmit locked ordered behind near further numbered sequence
        exact marked.congr rfl rfl rfl rfl rfl }

/-- A repeated ack starts a fast retransmit. -/
def retransmits (snd : SendSide) (ackSeq : UInt16) : Bool :=
  1 < (countRepeatedAck snd ackSeq).ackRepCount

/-- Repeated acks are counted, or the sender moves back to the base. -/
theorem Mirrors.recount (mirrors : Mirrors seed gone snd traffic since start acked sent reach)
    (ackSeq : UInt16) : ∃ reach', Mirrors seed gone (recounted snd ackSeq) traffic
      (if retransmits snd ackSeq then [] else since) start acked sent reach' := by
  have counts : Mirrors seed gone (countRepeatedAck snd ackSeq) traffic since start acked sent
      reach ∨ 1 < (countRepeatedAck snd ackSeq).ackRepCount := by
    unfold countRepeatedAck
    split
    · by_cases many : 1 < snd.ackRepCount + 1
      · exact .inr many
      · exact .inl (mirrors.congr rfl rfl rfl rfl rfl (Int.not_lt.mp many) rfl rfl mirrors.window_le)
    · exact .inl mirrors
  by_cases many : 1 < (countRepeatedAck snd ackSeq).ackRepCount
  · have rewinds : retransmits snd ackSeq = true := decide_eq_true many
    have rewound : recounted snd ackSeq = _ := fastRetransmit_raised _ many
    rw [if_pos rewinds, rewound]
    refine ⟨acked, ?_⟩
    have same : countRepeatedAck snd ackSeq =
        { snd with ackRepCount := (countRepeatedAck snd ackSeq).ackRepCount } := by
      unfold countRepeatedAck
      split <;> rfl
    rw [same]
    exact mirrors.rewound.congr rfl rfl rfl rfl rfl (Int.zero_le_ofNat 1) rfl rfl mirrors.window_le
  · have counted : recounted snd ackSeq = countRepeatedAck snd ackSeq := if_neg many
    have stays : ¬ retransmits snd ackSeq = true := fun rewinds => many (of_decide_eq_true rewinds)
    rw [if_neg stays, counted]
    exact ⟨reach, counts.resolve_right many⟩

theorem Mirrors.notify (mirrors : Mirrors seed gone snd traffic since start acked sent reach)
    (p : UMPPacket) (now : GTimeVal) :
    Mirrors seed gone (notified snd p now) traffic since start acked sent reach := by
  rcases notified_eq snd p now with ⟨same, -⟩ | ⟨-, time, changed⟩
  · rw [same]
    exact mirrors
  · rw [changed]
    exact mirrors.congr rfl rfl rfl rfl rfl mirrors.repeated rfl rfl fun _ => umpRefreshSndWndPos_le _

/-- A message that ends leaves the start of the next one at `first`. -/
theorem Mirrors.release {first : Int} {ok : Bool}
    (mirrors : Mirrors seed gone snd traffic since start acked sent reach)
    (locked : snd.sndLocked = .locked) (earlier : first ≤ acked) (turn : sent ≤ first + 65535)
    (startAt : (endSend snd ok).ourDataStartSeq = place seed first) :
    Mirrors seed gone (endSend snd ok) traffic since start acked sent reach where
  baseAt := mirrors.baseAt
  behind := mirrors.behind
  ordered := mirrors.ordered
  near := mirrors.near
  known := mirrors.known
  sentAt := mirrors.sentAt
  repeated := mirrors.repeated
  timers := mirrors.timers
  since := mirrors.since
  working := by
    intro again
    cases again
  marks := by
    have ordered := mirrors.ordered
    have near := mirrors.near
    exact mirrors.marks.release locked mirrors.behind (by omega) (mirrors.working locked).position
      earlier turn rfl rfl rfl startAt rfl

/-- The message is given up, if there is one. -/
theorem Mirrors.fail (mirrors : Mirrors seed gone snd traffic since start acked sent reach) :
    Mirrors seed gone (endedSend snd false) traffic since start acked sent reach := by
  unfold endedSend
  split
  · exact mirrors
  · rename_i locked
    have near := mirrors.near
    have behind := mirrors.behind
    have startAt : (endSend snd false).ourDataStartSeq = place seed (start : Int) :=
      (mirrors.working locked).startAt
    exact mirrors.release locked (by omega) (by omega) startAt

/-- The first timer fired and all were cleared. -/
theorem Mirrors.rewind (mirrors : Mirrors seed gone snd traffic since start acked sent reach) :
    Mirrors seed gone (rewindAfterTimeout { snd with tmList := [] }) traffic [] start acked sent
      acked := by
  rw [rewindAfterTimeout_raised]
  exact mirrors.rewound.congr rfl rfl rfl rfl rfl (Int.zero_le_ofNat 1) rfl rfl
    fun _ => umpRefreshSndWndPos_le _

theorem Mirrors.abandon (mirrors : Mirrors seed gone snd traffic since start acked sent reach)
    (isGone : gone) (sameBase : snd'.ourDataSeqBase = snd.ourDataSeqBase)
    (samePoint : snd'.ourBackPoint = snd.ourBackPoint)
    (sameSent : snd'.ourDataSent = snd.ourDataSent) (sameCount : snd'.ackRepCount = snd.ackRepCount)
    (none : snd'.tmList = []) (unlocked : snd'.sndLocked = .unlocked) :
    Mirrors seed gone snd' traffic [] start acked sent acked where
  baseAt := sameBase.trans mirrors.baseAt
  behind := mirrors.behind
  ordered := ⟨Nat.le_refl _, mirrors.ordered.1.trans mirrors.ordered.2⟩
  near := mirrors.near
  known := mirrors.known
  sentAt := sameSent.trans mirrors.sentAt
  repeated := by
    rw [sameCount]
    exact mirrors.repeated
  timers := by
    rw [none, Nat.sub_self]
    rfl
  since := by simp
  working := by
    intro again
    exact absurd (unlocked.symm.trans again) (by decide)
  marks := mirrors.marks.abandon isGone sameBase samePoint unlocked

/-- The first timer fired and the connection is given up. -/
theorem Mirrors.expire (mirrors : Mirrors seed gone snd traffic since start acked sent reach)
    (isGone : gone) :
    Mirrors seed gone (endedSend { snd with tmList := [] } false) traffic [] start acked sent
      acked := by
  unfold endedSend
  split
  · rename_i unlocked
    exact mirrors.abandon isGone rfl rfl rfl rfl rfl unlocked
  · exact mirrors.abandon isGone rfl rfl rfl rfl rfl rfl

/-- A new ack counts no repeated ones. -/
theorem recounted_new {ackSeq : UInt16} (few : snd.ackRepCount ≤ 1)
    (new : 0 < offset snd.ourDataSeqBase ackSeq) : recounted snd ackSeq = snd := by
  have other : ackSeq ≠ snd.ourDataSeqBase := by
    rintro rfl
    rw [offset_self] at new
    exact absurd new (by decide)
  rcases recounted_cases snd ackSeq with ⟨same, -⟩ | ⟨base, -⟩ | ⟨base | many, -⟩
  · exact same
  · exact absurd base other
  · exact absurd base other
  · omega

/-- What a new ack does before the timers are looked at. -/
theorem acknowledgedBy_flight (snd : SendSide) (p : UMPPacket) (now : GTimeVal) :
    (acknowledgedBy snd p now).tmList = (recounted snd p.ackNum).tmList ∧
      (acknowledgedBy snd p now).ourDataPos = (recounted snd p.ackNum).ourDataPos ∧
      (acknowledgedBy snd p now).ourBackPoint =
        raised p.ackNum (recounted snd p.ackNum).ourBackPoint p.ackNum ∧
      (acknowledgedBy snd p now).ackRepCount = 0 ∧
      ((acknowledgedBy snd p now).ourWndPos = (recounted snd p.ackNum).ourWndPos ∨
        (acknowledgedBy snd p now).ourWndPos ≤ 32767) := by
  unfold acknowledgedBy
  rw [advanceBase_raised]
  rcases notified_eq _ p now with ⟨same, -⟩ | ⟨-, time, changed⟩
  · rw [same]
    exact ⟨rfl, rfl, rfl, rfl, .inl rfl⟩
  · rw [changed]
    exact ⟨rfl, rfl, rfl, rfl, .inr (umpRefreshSndWndPos_le _)⟩

/-- The packets behind an ack are in flight, if any are. -/
theorem flight_behind (base : UInt16) (acked count : Nat) :
    (flight base count).drop acked = flight (place base acked) (count - acked) := by
  by_cases inside : acked ≤ count
  · have split := flight_add base acked (count - acked)
    rw [Nat.add_sub_cancel' inside] at split
    rw [split]
    exact List.drop_left' (flight_length _ _)
  · rw [Nat.sub_eq_zero_of_le (by omega)]
    apply List.drop_eq_nil_of_le
    rw [flight_length]
    omega

/-- A message ends when its last number lies before the base. -/
theorem Mirrors.finish {synReced : Bool}
    (mirrors : Mirrors seed gone snd traffic since start acked sent reach)
    (shape : Shape synReced snd.message) :
    Mirrors seed gone (endedByAck snd snd.ourDataSeqBase) traffic since start acked sent reach := by
  unfold endedByAck
  split
  · rename_i beyond
    rw [umpCmpInSndbase_eq, offset_self] at beyond
    unfold endedSend
    split
    · exact mirrors
    · rename_i locked
      obtain ⟨packets, holds⟩ := shape.message locked
      have near := mirrors.near
      have behind := mirrors.behind
      have lower := offset_lower snd.ourDataSeqBase snd.ourMsgLastSeq
      have last : snd.ourMsgLastSeq = place snd.ourDataStartSeq (packets.length - 1) := holds.last
      have count : snd.sndPacketsCount = packets.length := holds.count
      have startAt : (endSend snd true).ourDataStartSeq =
          place seed (acked + offset snd.ourDataSeqBase snd.ourMsgLastSeq + 1) := by
        calc
          (endSend snd true).ourDataStartSeq
              = place snd.ourDataStartSeq (snd.sndPacketsCount % 65536) := rfl
          _ = place snd.ourDataStartSeq (packets.length - 1 + 1) := by
              rw [place_eq_iff, count]
              omega
          _ = snd.ourMsgLastSeq + 1 := by rw [← place_add_one, last]
          _ = place seed (acked + offset snd.ourDataSeqBase snd.ourMsgLastSeq + 1) := by
              rw [← place_add_one, ← place_place, ← mirrors.baseAt, place_offset]
      exact mirrors.release locked (by omega) (by omega) startAt
  · exact mirrors

/-- The packet with a number lies below an ack. -/
def liesBelow (snd : SendSide) (ackSeq number : UInt16) : Bool :=
  umpCmpInSndbase snd number ackSeq < 0

/-- A new ack for a transmitted packet moves the base, and the next packet to send where that
lies behind the ack. -/
theorem Mirrors.acknowledge {synReced : Bool} {p : UMPPacket} {now time : GTimeVal}
    {fastRetran : Bool} {cwnd : UInt16} {rtoCpt : RTOComputer} {position : Nat}
    (mirrors : Mirrors seed gone snd traffic since start acked sent reach)
    (shape : Shape synReced snd.message) (range : ackInRange snd p.ackNum)
    (number : p.ackNum = place seed position) (new : acked < position)
    (transmitted : position ≤ sent) :
    Mirrors seed gone
      (endedByAck (settled (acknowledgedBy snd p now) p.ackNum fastRetran cwnd time rtoCpt) p.ackNum)
      traffic (since.filter fun number => !liesBelow snd p.ackNum number) start position sent
      (max reach position) := by
  have near := mirrors.near
  have behind := mirrors.behind
  have ordered := mirrors.ordered
  have distance : offset snd.ourDataSeqBase p.ackNum = position - acked := by
    rw [mirrors.baseAt, number]
    exact offset_near seed (by omega) (by omega)
  have same := recounted_new mirrors.repeated (by omega : 0 < offset snd.ourDataSeqBase p.ackNum)
  have message := acknowledgedBy_message snd p now
  obtain ⟨sameStart, base, sameSent⟩ := acknowledgedBy_numbers snd p now
  obtain ⟨sameTimers, samePosition, point, noneRepeated, window⟩ := acknowledgedBy_flight snd p now
  rw [same] at sameTimers samePosition point window
  have relative : (acknowledgedBy snd p now).acked = offset snd.ourDataStartSeq p.ackNum := by
    rw [SendSide.acked, sameStart, base]
  have left := timersLeft_eq mirrors.timers range (by omega)
  have kept : (tmAckPacket (acknowledgedBy snd p now).tmList p.ackNum
      (acknowledgedBy snd p now).ourDataSent).2 =
        (tmAckPacket snd.tmList p.ackNum snd.ourDataSent).2 := by
    rw [sameTimers, sameSent]
  have settles : Mirrors seed gone
      (settled (acknowledgedBy snd p now) p.ackNum fastRetran cwnd time rtoCpt) traffic
      (since.filter fun number => !liesBelow snd p.ackNum number) start position sent
      (max reach position) := by
    rw [settled_eq]
    exact
      { baseAt := base.trans number
        behind := by omega
        ordered := by omega
        near := near
        known := mirrors.known
        sentAt := sameSent.trans mirrors.sentAt
        repeated := noneRepeated.trans_le (by decide)
        timers := by
          show (tmAckPacket (acknowledgedBy snd p now).tmList p.ackNum
            (acknowledgedBy snd p now).ourDataSent).2.map TmEntry.seq = flight
              (acknowledgedBy snd p now).ourDataSeqBase _
          have count : (offset snd.ourDataSeqBase p.ackNum).toNat = position - acked := by omega
          have there : place snd.ourDataSeqBase (position - acked : Nat) = p.ackNum := by
            rw [mirrors.baseAt, place_place, number]
            congr 1
            omega
          have rest : reach - acked - (position - acked) = max reach position - position := by omega
          rw [kept, left, List.map_drop, mirrors.timers, count, flight_behind, there, rest, base]
        since := by
          intro number member
          obtain ⟨before, behind⟩ := List.mem_filter.mp member
          obtain ⟨entry, running, rfl⟩ := List.mem_map.mp (mirrors.since number before)
          show entry.seq ∈ (tmAckPacket (acknowledgedBy snd p now).tmList p.ackNum
            (acknowledgedBy snd p now).ourDataSent).2.map TmEntry.seq
          have filtered : (tmAckPacket snd.tmList p.ackNum snd.ourDataSent).2 = _ :=
            timersLeft_filter mirrors.timers (by omega) range (by omega)
          rw [kept, filtered]
          exact List.mem_map_of_mem (List.mem_filter.mpr ⟨running, behind⟩)
        working := by
          intro locked
          have working := mirrors.working ((congrArg MessagePart.sndLocked message).symm.trans locked)
          have reached := working.position
          have moved : offset snd.ourDataStartSeq p.ackNum = position - start := by
            rw [number, working.startAt]
            exact offset_near seed (by omega) (by omega)
          refine ⟨sameStart.trans working.startAt, ?_, ?_⟩
          · show ((max reach position : Nat) : Int) =
              start + max (acknowledgedBy snd p now).ourDataPos (acknowledgedBy snd p now).acked
            rw [samePosition, relative, moved]
            omega
          · show (acknowledgedBy snd p now).ourWndPos ≤ 32767
            rcases window with kept | small
            · rw [kept]
              exact working.window
            · exact small
        marks := by
          have marked := mirrors.marks.acknowledge mirrors.baseAt number new
          refine marked.congr base point sameStart ?_ (congrArg MessagePart.sndLocked message)
          show max (acknowledgedBy snd p now).ourDataPos (acknowledgedBy snd p now).acked =
            max snd.ourDataPos (offset snd.ourDataStartSeq p.ackNum)
          rw [samePosition, relative] }
  have settledBase : (settled (acknowledgedBy snd p now) p.ackNum fastRetran cwnd time
      rtoCpt).ourDataSeqBase = p.ackNum := by
    rw [settled_eq]
    exact base
  have settledShape : Shape synReced (settled (acknowledgedBy snd p now) p.ackNum fastRetran cwnd
      time rtoCpt).message := by
    rw [settled_message, message]
    exact shape
  have finished := settles.finish settledShape
  rw [settledBase] at finished
  exact finished

end Mirrors

/-! ### The property -/

/-- Between two handlers the timers are those of the packets from the base up to the next one to
send, `tm_ack_packet` takes just those below an ack, and the packets with the numbers `since` have
a timer. -/
structure MirrorsFlight (snd : SendSide) (since : List UInt16) : Prop where
  timers : snd.tmList.map TmEntry.seq = flight snd.ourDataSeqBase
    (umpRelativeToSeqViaSndstartseq snd snd.ourDataPos - snd.ourDataSeqBase).toNat
  acked : ∀ ackSeq, ackInRange snd ackSeq → 0 < ackDiff snd ackSeq →
    timersLeft snd ackSeq = snd.tmList.filter fun entry => !liesBelow snd ackSeq entry.seq
  timed : ∀ number ∈ since, number ∈ snd.tmList.map TmEntry.seq

section Mirrors

variable {seed : UInt16} {gone : Prop} {snd : SendSide} {traffic : List Action}
  {since : List UInt16} {start acked sent reach : Nat}

theorem Mirrors.mirrorsFlight (mirrors : Mirrors seed gone snd traffic since start acked sent reach)
    (locked : snd.sndLocked = .locked) : MirrorsFlight snd since := by
  have working := mirrors.working locked
  have ordered := mirrors.ordered
  have near := mirrors.near
  have behind := mirrors.behind
  have next : umpRelativeToSeqViaSndstartseq snd snd.ourDataPos = place seed reach := by
    rw [umpRelativeToSeqViaSndstartseq_eq, working.startAt, place_place, working.position]
  have distance : ((place seed reach - place seed acked).toNat : Int) = reach - acked :=
    toNat_place_sub seed (by omega) (by omega)
  have count : (umpRelativeToSeqViaSndstartseq snd snd.ourDataPos - snd.ourDataSeqBase).toNat =
      reach - acked := by
    rw [next, mirrors.baseAt]
    omega
  exact
    { timers := by
        rw [count]
        exact mirrors.timers
      acked := by
        intro ackSeq range new
        rw [ackDiff_eq] at new
        exact timersLeft_filter mirrors.timers (by omega) range new
      timed := mirrors.since }

end Mirrors

section Conditions

variable {Lists : Type} (u : UMPSocket Lists)

/-- A timeout or the third ack of the base makes the sender move back to it. -/
def rewinds : SockEvent → Bool
  | .dataTimeout => getNextTimeout u.core.snd.tmList u.core.now
  | .dataPacket p => decide (u.core.ctrl.state ≠ .connecting) && uPacketGetFlag p UP_DATA_ACK &&
      retransmits u.core.snd p.ackNum
  | _ => false

/-- A new ack acknowledges the packet with a number. -/
def acknowledges (number : UInt16) : SockEvent → Bool
  | .dataPacket p => decide (u.core.ctrl.state ≠ .connecting) && uPacketGetFlag p UP_DATA_ACK &&
      ackInRange u.core.snd p.ackNum && decide (0 < ackDiff u.core.snd p.ackNum) &&
      liesBelow u.core.snd p.ackNum number
  | _ => false

/-- The numbers `since` of which an event does not dispose. -/
def keptSince (event : SockEvent) (since : List UInt16) : List UInt16 :=
  if rewinds u event then [] else since.filter fun number => !acknowledges u number event

/-- The numbers of the packets of a message that an event transmits. -/
def numbersSent [ReceiveLists Lists] (event : SockEvent) : List UInt16 :=
  ((sentBy u event).filter isNumbered).map UMPPacket.seqNum

/-- The numbers of the packets sent since the last rewind and not yet acknowledged. -/
def unackedSince [ReceiveLists Lists] (u : UMPSocket Lists) (event : SockEvent)
    (since : List UInt16) : List UInt16 :=
  numbersSent u event ++ keptSince u event since

/-- The peer acknowledges only data that was transmitted. -/
def acksSent : SockEvent → Prop
  | .dataPacket p => uPacketGetFlag p UP_DATA_ACK → 0 < ackDiff u.core.snd p.ackNum →
      wasSent u.core.log p.ackNum
  | _ => True

/-- A message is started only when all before its first number is acknowledged and no timer
runs. -/
def startsClean : SockEvent → Prop
  | .handleSend => u.core.snd.sndLocked = .unlocked → u.core.snd.sndPackets ≠ none →
      1 ≤ u.core.snd.sndPacketsCount → u.core.ctrl.state = .established →
      u.core.ctrl.errorOccured = false →
        u.core.snd.ourDataSeqBase = u.core.snd.ourDataStartSeq ∧ u.core.snd.tmList = []
  | _ => True

/-- What keeps the timers those of the packets in flight. -/
def keepsTimers (event : SockEvent) : Prop := acksSent u event ∧ startsClean u event

instance (event : SockEvent) : Decidable (acksSent u event) :=
  match event with
  | .dataPacket _ => by unfold acksSent; infer_instance
  | .userCtrl .. | .userSend .. | .userReceive | .handleCtrl | .handleSend | .handleReceive |
    .bufferLoad .. | .ctrlPacket .. | .dataTimeout | .refreshRwnd | .refreshAck | .actReqWnd |
    .ctrlTimeout | .sendCtrlPacket | .heartbeat | .sendData | .sendReset => instDecidableTrue

instance (event : SockEvent) : Decidable (startsClean u event) :=
  match event with
  | .handleSend => by unfold startsClean; infer_instance
  | .userCtrl .. | .userSend .. | .userReceive | .handleCtrl | .handleReceive | .bufferLoad .. |
    .ctrlPacket .. | .dataPacket .. | .dataTimeout | .refreshRwnd | .refreshAck | .actReqWnd |
    .ctrlTimeout | .sendCtrlPacket | .heartbeat | .sendData | .sendReset => instDecidableTrue

instance (event : SockEvent) : Decidable (keepsTimers u event) := by
  unfold keepsTimers
  infer_instance

end Conditions

/-! ### Steps and runs -/

section Steps

variable {Lists : Type} [ReceiveLists Lists] {u : UMPSocket Lists} {event : SockEvent}
  {seed : UInt16} {gone : Prop} {since : List UInt16} {start acked sent reach : Nat}

omit [ReceiveLists Lists] in
theorem keptSince_all (stays : rewinds u event = false)
    (none : ∀ number, acknowledges u number event = false) : keptSince u event since = since := by
  rw [keptSince, stays, if_neg (by decide), List.filter_eq_self]
  intro number _
  rw [none number]
  rfl

omit [ReceiveLists Lists] in
/-- What is remembered behind an event that is no packet and no timeout. -/
theorem keptSince_other (noPacket : ∀ p, event ≠ .dataPacket p) (noTimeout : event ≠ .dataTimeout) :
    keptSince u event since = since := by
  cases event with
  | dataPacket p => exact absurd rfl (noPacket p)
  | dataTimeout => exact absurd rfl noTimeout
  | _ => exact keptSince_all rfl fun _ => rfl

omit [ReceiveLists Lists] in
theorem keptSince_rewound (back : rewinds u event = true) : keptSince u event since = [] :=
  if_pos back

/-- A step that transmits no packet of a message. -/
theorem numbersSent_quiet {added : List Action}
    (logged : traffic (sockStep u event).core.log = added ++ traffic u.core.log)
    (quiet : ∀ action ∈ added, Quiet action ∨ ∃ packets, action = .numbered packets) :
    numbersSent u event = [] := by
  rw [numbersSent, sentBy_eq logged, List.map_eq_nil_iff, List.filter_eq_nil_iff]
  intro q member
  obtain ⟨action, inside, found⟩ := List.mem_filterMap.mp member
  cases action with
  | sendto p =>
      obtain rfl : p = q := Option.some.inj found
      rcases quiet _ inside with plain | ⟨packets, same⟩
      · exact Bool.not_eq_true _ ▸ plain
      · cases same
  | _ => cases found

theorem numbersSent_transmit {p : UMPPacket} {number : UInt16}
    (logged : traffic (sockStep u event).core.log = .sendto p :: traffic u.core.log)
    (numbered : isNumbered p) (same : p.seqNum = number) : numbersSent u event = [number] := by
  have logged' : traffic (sockStep u event).core.log = [.sendto p] ++ traffic u.core.log := logged
  rw [numbersSent, sentBy_eq logged']
  show ([p].filter isNumbered).map UMPPacket.seqNum = [number]
  rw [List.filter_cons_of_pos numbered, List.filter_nil, List.map_singleton, same]

/-- A timeout that does not fire leaves the sender alone; one that fires clears the timers and
ends the connection or rewinds the sender. -/
theorem umpHandleDataTimeout_cases (s : SocketCore) :
    getNextTimeout s.snd.tmList s.now = false ∧ (umpHandleDataTimeout s).snd = s.snd ∧
        traffic (umpHandleDataTimeout s).log = traffic s.log ∨
      getNextTimeout s.snd.tmList s.now = true ∧
        ((umpHandleDataTimeout s).ctrl.errorOccured = true ∧
            (umpHandleDataTimeout s).snd = endedSend { s.snd with tmList := [] } false ∨
          (umpHandleDataTimeout s).snd = rewindAfterTimeout { s.snd with tmList := [] }) := by
  unfold umpHandleDataTimeout
  split
  · rename_i none
    rw [none]
    exact .inl ⟨rfl, rfl, rfl⟩
  · dsimp only
    split
    · rename_i fires
      right
      refine ⟨fires, ?_⟩
      split
      · left
        refine ⟨congrArg Handshake.errorOccured (umpConnectionErrorOccured_handshake _), ?_⟩
        rw [umpConnectionErrorOccured_snd, umpEndSend_snd]
        exact endedSend_twice _
      · exact .inr rfl
    · rename_i early
      exact .inl ⟨(Bool.not_eq_true _).mp early, rfl, rfl⟩

/-- More traffic that transmits no packet of a message. -/
theorem Mirrors.logAll {snd : SendSide} {before added : List Action}
    (mirrors : Mirrors seed gone snd before since start acked sent reach)
    (quiet : ∀ action ∈ added, Quiet action) :
    Mirrors seed gone snd (added ++ before) since start acked sent reach := by
  induction added with
  | nil => exact mirrors
  | cons action added inductionHypothesis =>
      rw [List.cons_append]
      apply Mirrors.log
      · exact inductionHypothesis fun action member => quiet action (List.mem_cons_of_mem _ member)
      · exact quiet action List.mem_cons_self

omit [ReceiveLists Lists] in
/-- What an ack does to the timers. -/
theorem ackStep_mirrors {synReced : Bool} {p : UMPPacket} {snd' : SendSide} {added : List Action}
    (mirrors : Mirrors seed gone u.core.snd (traffic u.core.log) since start acked sent reach)
    (shape : Shape synReced u.core.snd.message) (known : acksSent u (.dataPacket p))
    (heard : u.core.ctrl.state ≠ .connecting) (step : AckStep u.core.snd p snd' added) :
    (∀ action ∈ added, Quiet action) ∧
      ∃ acked' reach', Mirrors seed gone snd' (traffic u.core.log)
        (keptSince u (.dataPacket p) since) start acked' sent reach' := by
  have back (flag : uPacketGetFlag p UP_DATA_ACK) :
      rewinds u (.dataPacket p) = retransmits u.core.snd p.ackNum := by
    simp [rewinds, heard, flag]
  -- an ack that is not new acknowledges nothing
  have recounts (flag : uPacketGetFlag p UP_DATA_ACK)
      (old : ¬ (ackInRange u.core.snd p.ackNum = true ∧ 0 < ackDiff u.core.snd p.ackNum)) :
      ∃ reach', Mirrors seed gone (recounted u.core.snd p.ackNum) (traffic u.core.log)
        (keptSince u (.dataPacket p) since) start acked sent reach' := by
    obtain ⟨reach', counted⟩ := mirrors.recount p.ackNum
    refine ⟨reach', ?_⟩
    by_cases rewound : retransmits u.core.snd p.ackNum = true
    · rw [keptSince_rewound ((back flag).trans rewound)]
      rw [if_pos rewound] at counted
      exact counted
    · rw [keptSince_all ((back flag).trans (Bool.not_eq_true _ ▸ rewound))]
      · rw [if_neg rewound] at counted
        exact counted
      · intro number
        simp only [acknowledges, Bool.and_eq_false_iff, decide_eq_false_iff_not]
        by_cases range : ackInRange u.core.snd p.ackNum = true
        · exact .inl (.inr fun ahead => old ⟨range, ahead⟩)
        · exact .inl (.inl (.inr (Bool.not_eq_true _ ▸ range)))
  cases step with
  | noAck now flag =>
      refine ⟨by simp, acked, reach, ?_⟩
      rw [keptSince_all]
      · exact mirrors.notify p now
      · simp [rewinds, flag]
      · simp [acknowledges, flag]
  | outside flag range =>
      rw [ackInRange_recounted] at range
      obtain ⟨reach', counted⟩ := recounts flag (by simp [range])
      exact ⟨by simp, acked, reach', counted⟩
  | old now flag range same =>
      rw [ackDiff_recounted, ← ackDiff_eq] at same
      obtain ⟨reach', counted⟩ := recounts flag fun new => same new.2
      exact ⟨by simp, acked, reach', counted.notify p now⟩
  | new now time fastRetran cwnd rtoCpt flag range ahead grown =>
      rw [ackInRange_recounted] at range
      rw [ackDiff_recounted, ← ackDiff_eq] at ahead
      have behind := mirrors.behind
      have ordered := mirrors.ordered
      have near := mirrors.near
      obtain ⟨position, new, transmitted, number⟩ := exists_acknowledged mirrors.baseAt
        mirrors.sentAt (by omega) (by omega) mirrors.known (known flag ahead) range ahead
      refine ⟨?_, position, max reach position, ?_⟩
      · unfold endingByAck
        split
        · exact ending_quiet
        · simp
      · have stays : rewinds u (.dataPacket p) = false := by
          have different : p.ackNum ≠ u.core.snd.ourDataSeqBase := by
            intro same
            rw [ackDiff_eq, same, offset_self] at ahead
            exact absurd ahead (by decide)
          have few := mirrors.repeated
          rw [back flag, retransmits, countRepeatedAck, if_neg (fun both => different both.1)]
          exact decide_eq_false (by omega)
        have kept : keptSince u (.dataPacket p) since =
            since.filter fun number => !liesBelow u.core.snd p.ackNum number := by
          rw [keptSince, stays, if_neg (by decide)]
          simp [acknowledges, heard, flag, range, ahead]
        rw [kept]
        exact mirrors.acknowledge shape range number new transmitted

/-- One event of a socket. -/
theorem Mirrors.step
    (mirrors : Mirrors seed (u.core.ctrl.errorOccured = true) u.core.snd (traffic u.core.log) since
      start acked sent reach)
    (shaped : WellShaped u) (allowed : sockEnabled u event) (keeps : keepsTimers u event) :
    ∃ start' acked' sent' reach',
      Mirrors seed ((sockStep u event).core.ctrl.errorOccured = true) (sockStep u event).core.snd
        (traffic (sockStep u event).core.log) (unackedSince u event since) start' acked' sent'
        reach' := by
  obtain ⟨known, clean⟩ := keeps
  obtain ⟨added, step, logged⟩ := send_step u event
  have failed := sockStep_failed allowed
  -- a step that transmits no packet of a message
  have still {snd' : SendSide} (quiet : ∀ action ∈ added, Quiet action)
      (after : ∃ acked' reach', Mirrors seed ((sockStep u event).core.ctrl.errorOccured = true) snd'
        (traffic u.core.log) (keptSince u event since) start acked' sent reach') :
      ∃ start' acked' sent' reach',
        Mirrors seed ((sockStep u event).core.ctrl.errorOccured = true) snd'
          (traffic (sockStep u event).core.log) (unackedSince u event since) start' acked' sent'
          reach' := by
    have silent : ∀ action ∈ added, Quiet action ∨ ∃ packets, action = .numbered packets :=
      fun action member => .inl (quiet action member)
    rw [unackedSince, numbersSent_quiet logged silent, List.nil_append, logged]
    obtain ⟨acked', reach', after⟩ := after
    exact ⟨start, acked', sent, reach', after.logAll quiet⟩
  by_cases fires : event = .dataTimeout
  · subst fires
    have quiet : ∀ action ∈ added, Quiet action := by
      generalize (sockStep u .dataTimeout).core.snd = snd' at step
      cases step with
      | idle | rewind => simp
      | signal event p kind => cases kind
      | giveUp | expired => exact ending_quiet
    rcases umpHandleDataTimeout_cases u.core with ⟨early, same, -⟩ | ⟨fires, expired | rewound⟩
    · rw [show (sockStep u .dataTimeout).core.snd = u.core.snd from same]
      have stays : rewinds u .dataTimeout = false := early
      have none (number : UInt16) : acknowledges u number .dataTimeout = false := rfl
      refine still quiet ⟨acked, reach, ?_⟩
      rw [keptSince_all stays none]
      exact mirrors.mono failed
    · have back : rewinds u .dataTimeout = true := fires
      obtain ⟨isGone, ended⟩ := expired
      rw [show (sockStep u .dataTimeout).core.snd = _ from ended]
      refine still quiet ⟨acked, acked, ?_⟩
      rw [keptSince_rewound back]
      exact (mirrors.mono failed).expire isGone
    · have back : rewinds u .dataTimeout = true := fires
      rw [show (sockStep u .dataTimeout).core.snd = _ from rewound]
      refine still quiet ⟨acked, acked, ?_⟩
      rw [keptSince_rewound back]
      exact (mirrors.mono failed).rewind
  have other (noPacket : ∀ p, event ≠ .dataPacket p) :
      Mirrors seed ((sockStep u event).core.ctrl.errorOccured = true) u.core.snd
        (traffic u.core.log) (keptSince u event since) start acked sent reach := by
    rw [keptSince_other noPacket fires]
    exact mirrors.mono failed
  generalize (sockStep u event).core.snd = snd' at step ⊢
  generalize (sockStep u event).core.handshake = k at step
  cases step with
  | idle event unheard untaken =>
      refine still (by simp) ⟨acked, reach, ?_⟩
      cases event with
      | dataPacket p =>
          have connecting := unheard p rfl
          rw [keptSince_all]
          · exact mirrors.mono failed
          · simp [rewinds, connecting]
          · simp [acknowledges, connecting]
      | _ => exact other (by simp)
  | signal event p kind =>
      refine still ?_ ⟨acked, reach, other ?_⟩
      · intro action member
        rw [List.mem_singleton.mp member]
        exact kind.quiet shaped.sound.typed
      · rintro q rfl
        cases kind
  | probe asking =>
      refine still ?_ ⟨acked, reach, (other (by simp)).congr rfl rfl rfl rfl rfl mirrors.repeated rfl
        rfl mirrors.window_le⟩
      intro action member
      rw [List.mem_singleton.mp member]
      exact probe_quiet shaped.shape
  | post data =>
      exact still (by simp) ⟨acked, reach, (other (by simp)).congr rfl rfl rfl rfl rfl
        mirrors.repeated rfl rfl mirrors.window_le⟩
  | refuse packets unlocked posted =>
      refine still ?_ ⟨acked, reach, (other (by simp)).congr rfl rfl rfl rfl rfl mirrors.repeated rfl
        unlocked.symm ?_⟩
      · intro action member
        rw [List.mem_singleton.mp member]
        trivial
      · intro locked
        cases locked
  | start packets unlocked posted some established noError =>
      obtain ⟨atBase, idle⟩ := clean unlocked (by simp [posted]) some established noError
      have going : ¬ u.core.ctrl.errorOccured = true := by simp [noError]
      have none : numbersSent u .handleSend = [] := by
        apply numbersSent_quiet logged
        intro action member
        exact .inr ⟨_, List.mem_singleton.mp member⟩
      rw [unackedSince, none, List.nil_append, keptSince_other (by simp) (by simp), logged]
      exact ⟨_, _, _, _, (mirrors.begin unlocked going atBase idle).mono failed⟩
  | giveUp event noData parted untaken =>
      exact still ending_quiet ⟨acked, reach, (other noData).fail⟩
  | syn p taken =>
      exact still (by simp) ⟨acked, reach, (other (by simp)).congr rfl rfl rfl rfl rfl
        mirrors.repeated rfl rfl mirrors.window_le⟩
  | transmit p locked window found =>
      have inSequence := (mirrors.working locked).next shaped.shape locked found
      rw [unackedSince, numbersSent_transmit logged (outgoing_isNumbered inSequence _) rfl,
        keptSince_other (by simp) (by simp), logged]
      exact ⟨_, _, _, _, (mirrors.mono failed).transmit shaped.shape locked window found⟩
  | expired parted => exact absurd rfl fires
  | rewind => exact absurd rfl fires
  | ack p heard snd added ackStep =>
      obtain ⟨quiet, acked', reach', after⟩ := ackStep_mirrors (mirrors.mono failed) shaped.shape
        known heard ackStep
      exact still quiet ⟨acked', reach', after⟩

/-- In every run in which the peer acknowledges only what was transmitted and messages are started
clean, the numbers of the sender are in order. -/
theorem mirrors_of_run {clock : Clock} {events : List SockEvent}
    (run : (sockMachine Lists).RunWhere keepsTimers (umpSockNew Lists seed clock) events u) :
    WellShaped u ∧ ∃ start acked sent reach,
      Mirrors seed (u.core.ctrl.errorOccured = true) u.core.snd (traffic u.core.log)
        ((sockMachine Lists).noted unackedSince (umpSockNew Lists seed clock) events []) start acked
        sent reach := by
  let Holds (u : UMPSocket Lists) (since : List UInt16) : Prop := WellShaped u ∧
    ∃ start acked sent reach, Mirrors seed (u.core.ctrl.errorOccured = true) u.core.snd
      (traffic u.core.log) since start acked sent reach
  have first : Holds (umpSockNew Lists seed clock) [] :=
    ⟨wellShaped_new seed clock, 0, 0, 0, 0, mirrors_new seed clock _⟩
  apply run.noted_invariant first
  rintro u event since ⟨shaped, start, acked, sent, reach, mirrors⟩ allowed keeps
  exact ⟨shaped.step allowed, mirrors.step shaped allowed keeps⟩

/-- In every such run the timers of a pending send are those of the packets in flight. -/
theorem mirrorsFlight_of_run {clock : Clock} {events : List SockEvent}
    (run : (sockMachine Lists).RunWhere keepsTimers (umpSockNew Lists seed clock) events u)
    (locked : u.core.snd.sndLocked = .locked) :
    MirrorsFlight u.core.snd
      ((sockMachine Lists).noted unackedSince (umpSockNew Lists seed clock) events []) := by
  obtain ⟨-, start, acked, sent, reach, mirrors⟩ := mirrors_of_run run
  exact mirrors.mirrorsFlight locked

end Steps

/-- The theorem holds of a run in which a message is acknowledged and the next one is sent. -/
theorem mirrorsFlight_oneMessageRun :
    MirrorsFlight
      ((sockMachine PlainLists).after (umpSockNew PlainLists 100 ⟨fun _ => ⟨0, 0⟩, 0⟩)
        (oneMessageRun ++ [.sendData])).core.snd
      ((sockMachine PlainLists).noted unackedSince (umpSockNew PlainLists 100 ⟨fun _ => ⟨0, 0⟩, 0⟩)
        (oneMessageRun ++ [.sendData]) []) :=
  mirrorsFlight_of_run (Machine.runWhere_of_check (by decide +kernel)) (by decide +kernel)

/-- The long message is reported as sent with the first ack, and the message behind it starts
32769 numbers behind the base while no timer runs. -/
theorem mirrorsFlight_fails :
    ¬ ∀ (seq : UInt16) (clock : Clock) (events : List ThreadEvent) (t : ThreadState PlainLists),
      (threadMachine PlainLists).RunWhere honestIteration (.new (umpSockNew PlainLists seq clock))
          events t → t.socket.core.snd.sndLocked = .locked →
        MirrorsFlight t.socket.core.snd
          ((sockMachine PlainLists).noted unackedSince (umpSockNew PlainLists seq clock)
            t.events []) := by
  intro always
  obtain ⟨events, run⟩ := stallingLife_run
  have ends : (threadMachine PlainLists).RunWhere honestIteration
      (.new (umpSockNew PlainLists 100 ⟨fun _ => ⟨0, 0⟩, 0⟩)) (events ++ [.iterate])
      (threadStep ((threadMachine PlainLists).after postedThread stallingLife) .iterate) :=
    .go run trivial (by decide +kernel)
  have timers := (always 100 _ _ _ ends (by decide +kernel)).timers
  have none : (threadStep ((threadMachine PlainLists).after postedThread stallingLife)
      .iterate).socket.core.snd.tmList = [] := by decide +kernel
  rw [none] at timers
  exact flight_ne_nil (by decide +kernel) timers.symm

end UserMessageProtocol
