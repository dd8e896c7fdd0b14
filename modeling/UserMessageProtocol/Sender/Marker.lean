import UserMessageProtocol.Sender.Tracking

/-!
Contract: the marker `our_back_point` and the packets that were transmitted before it.

Owns: the numbers transmitted for the latest message (`messageNumbers`), the marker as a
position (`SendSide.mark`), the invariant that ties them (`Marks`) and the changes of a
sender that keep it.

Does not own: when a round trip time is taken.
-/

set_option autoImplicit false

namespace UserMessageProtocol

open Serial

/-! ### The numbers of a message -/

/-- The number of a packet of a message that is transmitted. -/
def Action.number : Action → Option UInt16
  | .sendto q => if isNumbered q then some q.seqNum else none
  | _ => none

/-- The numbers of the packets transmitted since the latest message was numbered, the latest
first. -/
def messageNumbers (before : List Action) : List UInt16 :=
  (sinceNumbered before).filterMap Action.number

section Numbers

variable {action : Action} {p : UMPPacket} (before : List Action)

theorem messageNumbers_quiet (quiet : Quiet action) :
    messageNumbers (action :: before) = messageNumbers before := by
  have plain : action.number = none := by
    cases action with
    | sendto q =>
        have unnumbered : isNumbered q = false := quiet
        simp [Action.number, unnumbered]
    | _ => rfl
  rw [messageNumbers, sinceNumbered_cons quiet, List.filterMap_cons_none plain, messageNumbers]

theorem messageNumbers_numbered (packets : List UMPPacket) :
    messageNumbers (.numbered packets :: before) = [] := rfl

theorem messageNumbers_sendto (numbered : isNumbered p) :
    messageNumbers (.sendto p :: before) = p.seqNum :: messageNumbers before := by
  have here : Action.number (.sendto p) = some p.seqNum := if_pos numbered
  rw [messageNumbers, sinceNumbered, List.filterMap_cons_some here, messageNumbers]
  · simp

end Numbers

/-! ### The marker -/

/-- A marker is raised to a number that lies behind it as seen from the base. -/
def raised (base backPoint seq : UInt16) : UInt16 :=
  if offset base backPoint < offset base seq then seq else backPoint

theorem offset_raised (base backPoint seq : UInt16) :
    offset base (raised base backPoint seq) = max (offset base backPoint) (offset base seq) := by
  unfold raised
  split <;> omega

section Marker

variable (snd : SendSide) (ackSeq seq : UInt16)

theorem umpRefreshBackPoint_raised : umpRefreshBackPoint snd seq =
    { snd with ourBackPoint := raised snd.ourDataSeqBase snd.ourBackPoint seq } := by
  unfold umpRefreshBackPoint raised
  rw [umpCmpInSndbase_eq]
  split
  · rw [if_pos (by omega)]
  · rw [if_neg (by omega)]

/-- The marker of a sender that moves back to the base. -/
def SendSide.rewoundPoint : UInt16 :=
  raised snd.ourDataSeqBase snd.ourBackPoint (umpRelativeToSeqViaSndstartseq snd snd.ourDataPos)

theorem rewindAfterTimeout_raised : rewindAfterTimeout snd =
    umpRefreshSndWndPos
      { snd with
        ourSsthresh := max (snd.ourCwnd / 2) 2
        ourCwnd := 1
        ourBackPoint := snd.rewoundPoint
        ourDataPos := snd.acked
        ackRepCount := 0
        fastRetran := false
        rtoCpt := rtoTimeoutOccur snd.rtoCpt } := by
  unfold rewindAfterTimeout
  dsimp only
  rw [umpRefreshBackPoint_raised, umpSeqToRelativeViaSndstartseq_eq]
  rfl

theorem fastRetransmit_raised (many : snd.ackRepCount > 1) : fastRetransmit snd =
    { snd with
      ourBackPoint := snd.rewoundPoint
      ourDataPos := snd.acked
      ourCwnd := UInt16.ofNat (max (snd.ourSsthresh.toNat + 3) 1)
      ackRepCount := 0
      fastRetran := true
      tmList := []
      rtoCpt := rtoTimeoutOccur snd.rtoCpt } := by
  unfold fastRetransmit
  rw [if_pos many]
  dsimp only
  rw [umpRefreshBackPoint_raised, umpSeqToRelativeViaSndstartseq_eq]
  rfl

theorem advanceBase_raised : advanceBase snd ackSeq =
    { snd with
      ourDataSeqBase := ackSeq
      ackRepCount := 0
      ourBackPoint := raised ackSeq snd.ourBackPoint ackSeq } :=
  umpRefreshBackPoint_raised _ _

/-- The position of the marker when that of the base is `acked`. -/
def SendSide.mark (acked : Nat) : Int := acked + offset snd.ourDataSeqBase snd.ourBackPoint

variable {snd ackSeq} {seed : UInt16} {acked position : Nat}

theorem SendSide.backPoint_eq (baseAt : snd.ourDataSeqBase = place seed acked) :
    snd.ourBackPoint = place seed (snd.mark acked) := by
  have here := place_offset snd.ourDataSeqBase snd.ourBackPoint
  conv_lhs => rw [← here]
  rw [SendSide.mark]
  conv_lhs => rw [baseAt]
  rw [place_place, ← baseAt]

/-- A marker that lies behind an ack does so as a position. -/
theorem SendSide.mark_lt (baseAt : snd.ourDataSeqBase = place seed acked)
    (number : ackSeq = place seed position) (new : acked < position)
    (behind : offset ackSeq snd.ourBackPoint < 0) : snd.mark acked < position := by
  by_contra ahead
  have upper := offset_upper snd.ourDataSeqBase snd.ourBackPoint
  have mark : snd.mark acked = acked + offset snd.ourDataSeqBase snd.ourBackPoint := rfl
  rw [SendSide.backPoint_eq baseAt, number, offset_near seed (by omega) (by omega)] at behind
  omega

/-- The marker does not fall back behind a new ack. -/
theorem SendSide.mark_le (baseAt : snd.ourDataSeqBase = place seed acked)
    (number : ackSeq = place seed position) (new : acked < position) :
    snd.mark acked ≤ position + offset ackSeq (raised ackSeq snd.ourBackPoint ackSeq) := by
  rw [offset_raised, offset_self]
  have upper := offset_upper snd.ourDataSeqBase snd.ourBackPoint
  have mark : snd.mark acked = acked + offset snd.ourDataSeqBase snd.ourBackPoint := rfl
  by_cases behind : snd.mark acked ≤ position
  · omega
  · have distance : offset ackSeq snd.ourBackPoint = snd.mark acked - position := by
      rw [SendSide.backPoint_eq baseAt, number]
      exact offset_near seed (by omega) (by omega)
    omega

end Marker

/-! ### The invariant -/

/-- Where the next packet of an idle sender lies, when `first` is the position of the next
message. -/
structure Resting (snd : SendSide) (acked sent reach : Nat) (first : Int) : Prop where
  behind : first ≤ acked
  near : sent ≤ first + 65535
  resent : first = acked → reach < sent → sent ≤ snd.mark acked
  clean : first = acked → reach ≤ acked + snd.ourDataPos ∧ snd.ourDataPos ≤ 32767

/-- What the marker says: from `start` on packets of the latest message were transmitted, those
in flight since it was numbered, and those from the marker on once. Where the next packet was
transmitted before the marker lies behind all that were, unless the connection is `gone`. -/
structure Marks (seed : UInt16) (gone : Prop) (snd : SendSide) (traffic : List Action)
    (start acked sent reach : Nat) : Prop where
  known : ∀ number ∈ messageNumbers traffic, ∃ i : Nat, start ≤ i ∧ i < sent ∧
    number = place seed i
  inFlight : ∀ i : Nat, acked ≤ i → i < reach → place seed i ∈ messageNumbers traffic
  once : ∀ i : Nat, acked ≤ i → i < sent → snd.mark acked ≤ i →
    (messageNumbers traffic).count (place seed i) = 1
  sending : snd.sndLocked = .locked → reach < sent → sent ≤ snd.mark acked
  resting : snd.sndLocked = .unlocked → ¬ gone → ∃ first : Int,
    snd.ourDataStartSeq = place seed first ∧ Resting snd acked sent reach first

section Marks

variable {seed : UInt16} {gone gone' : Prop} {snd snd' : SendSide} {traffic : List Action}
  {start acked sent reach : Nat}

theorem marks_new (seed : UInt16) (clock : Clock) (gone : Prop) :
    Marks seed gone (umpSockNewCore seed clock).snd [] 0 0 0 0 where
  known := by simp [messageNumbers, sinceNumbered]
  inFlight := by
    intro i _ below
    exact absurd below (Nat.not_lt_zero i)
  once := by
    intro i _ below
    exact absurd below (Nat.not_lt_zero i)
  sending := by simp
  resting := by
    intro _ _
    refine ⟨0, (place_zero seed).symm, ?_⟩
    constructor <;> simp [umpSockNewCore]

theorem Marks.mono (marks : Marks seed gone snd traffic start acked sent reach)
    (later : gone → gone') : Marks seed gone' snd traffic start acked sent reach :=
  { marks with resting := fun unlocked going => marks.resting unlocked fun isGone => going (later isGone) }

/-- Only these fields of a sender matter. -/
theorem Marks.congr (marks : Marks seed gone snd traffic start acked sent reach)
    (sameBase : snd'.ourDataSeqBase = snd.ourDataSeqBase)
    (samePoint : snd'.ourBackPoint = snd.ourBackPoint)
    (sameStart : snd'.ourDataStartSeq = snd.ourDataStartSeq)
    (samePosition : snd'.ourDataPos = snd.ourDataPos) (sameLock : snd'.sndLocked = snd.sndLocked) :
    Marks seed gone snd' traffic start acked sent reach := by
  have sameMark : snd'.mark acked = snd.mark acked := by
    rw [SendSide.mark, sameBase, samePoint, SendSide.mark]
  exact
    { marks with
      once := by
        rw [sameMark]
        exact marks.once
      sending := by
        rw [sameMark, sameLock]
        exact marks.sending
      resting := by
        rw [sameLock, sameStart]
        intro unlocked going
        obtain ⟨first, startAt, resting⟩ := marks.resting unlocked going
        refine ⟨first, startAt, resting.behind, resting.near, ?_, ?_⟩
        · rw [sameMark]
          exact resting.resent
        · rw [samePosition]
          exact resting.clean }

/-- More traffic that transmits no packet of a message. -/
theorem Marks.log {action : Action} (marks : Marks seed gone snd traffic start acked sent reach)
    (quiet : Quiet action) : Marks seed gone snd (action :: traffic) start acked sent reach := by
  have same := messageNumbers_quiet traffic quiet
  exact
    { marks with
      known := by
        rw [same]
        exact marks.known
      inFlight := by
        rw [same]
        exact marks.inFlight
      once := by
        rw [same]
        exact marks.once }

/-- A sender that moves back to the base raises the marker to where it was. -/
theorem Marks.rewind (marks : Marks seed gone snd traffic start acked sent reach)
    (baseAt : snd.ourDataSeqBase = place seed acked) (ordered : acked ≤ reach ∧ reach ≤ sent)
    (near : reach ≤ acked + 32767)
    (here : snd.sndLocked = .locked →
      umpRelativeToSeqViaSndstartseq snd snd.ourDataPos = place seed reach) :
    Marks seed gone { snd with ourBackPoint := snd.rewoundPoint, ourDataPos := snd.acked } traffic
      start acked sent acked := by
  have mark : snd.mark acked = acked + offset snd.ourDataSeqBase snd.ourBackPoint := rfl
  have moved : ({ snd with ourBackPoint := snd.rewoundPoint, ourDataPos := snd.acked } :
      SendSide).mark acked = max (snd.mark acked) (acked +
        offset snd.ourDataSeqBase (umpRelativeToSeqViaSndstartseq snd snd.ourDataPos)) := by
    show acked + offset snd.ourDataSeqBase snd.rewoundPoint = _
    rw [SendSide.rewoundPoint, offset_raised, mark]
    omega
  exact
    { known := marks.known
      inFlight := by
        intro i after below
        exact absurd below (by omega)
      once := by
        intro i after below marked
        rw [moved] at marked
        exact marks.once i after below (by omega)
      sending := by
        intro locked _
        have resent := marks.sending locked
        rw [moved, here locked, baseAt, offset_near seed (by omega) (by omega)]
        omega
      resting := by
        intro unlocked going
        obtain ⟨first, startAt, resting⟩ := marks.resting unlocked going
        refine ⟨first, startAt, resting.behind, resting.near, ?_, ?_⟩
        · intro clean _
          have resent := resting.resent clean
          obtain ⟨position, few⟩ := resting.clean clean
          have distance : offset snd.ourDataSeqBase
              (umpRelativeToSeqViaSndstartseq snd snd.ourDataPos) = snd.ourDataPos := by
            rw [umpRelativeToSeqViaSndstartseq_eq, startAt, clean, place_place, baseAt,
              offset_near seed (by omega) (by omega)]
            omega
          rw [moved, distance]
          omega
        · intro clean
          have zero : snd.acked = 0 := by
            rw [SendSide.acked, startAt, baseAt, clean, offset_self]
          show (acked : Int) ≤ acked + snd.acked ∧ snd.acked ≤ 32767
          omega }

/-- The packet at the next position is transmitted. -/
theorem Marks.transmit {p : UMPPacket} (marks : Marks seed gone snd traffic start acked sent reach)
    (locked : snd.sndLocked = .locked) (ordered : acked ≤ reach ∧ reach ≤ sent)
    (behind : start ≤ acked) (near : sent ≤ start + 32767) (further : reach + 1 ≤ start + 32767)
    (numbered : isNumbered p) (number : p.seqNum = place seed reach) :
    Marks seed gone { snd with ourDataPos := snd.ourDataPos + 1 } (.sendto p :: traffic) start acked
      (max sent (reach + 1)) (reach + 1) := by
  have resent := marks.sending locked
  have longer : messageNumbers (.sendto p :: traffic) = place seed reach :: messageNumbers traffic := by
    rw [messageNumbers_sendto traffic numbered, number]
  exact
    { known := by
        rw [longer]
        intro seq member
        rcases List.mem_cons.mp member with rfl | before
        · exact ⟨reach, by omega, by omega, rfl⟩
        · obtain ⟨i, inside, below, same⟩ := marks.known seq before
          exact ⟨i, inside, by omega, same⟩
      inFlight := by
        rw [longer]
        intro i after below
        by_cases last : i = reach
        · rw [last]
          exact List.mem_cons_self
        · exact List.mem_cons_of_mem _ (marks.inFlight i after (by omega))
      once := by
        rw [longer]
        intro i after below marked
        have marked' : snd.mark acked ≤ i := marked
        by_cases last : i = reach
        · subst last
          have none : (messageNumbers traffic).count (place seed i) = 0 := by
            apply List.count_eq_zero.mpr
            intro member
            obtain ⟨j, inside, below, same⟩ := marks.known _ member
            have turn := place_inj seed (by omega) (by omega) same
            omega
          rw [List.count_cons_self, none]
        · have other : place seed reach ≠ place seed i := by
            intro same
            have turn := place_inj seed (by omega) (by omega) same
            omega
          rw [List.count_cons_of_ne other]
          exact marks.once i after (by omega) marked'
      sending := by
        intro _ again
        show ((max sent (reach + 1) : Nat) : Int) ≤ snd.mark acked
        omega
      resting := by
        intro unlocked
        exact absurd (locked.symm.trans unlocked) (by decide) }

/-- A new ack for a transmitted packet raises the marker to the base at least. -/
theorem Marks.acknowledge {ackSeq : UInt16} {position : Nat}
    (marks : Marks seed gone snd traffic start acked sent reach)
    (baseAt : snd.ourDataSeqBase = place seed acked) (number : ackSeq = place seed position)
    (new : acked < position) :
    Marks seed gone
      { snd with
        ourDataSeqBase := ackSeq
        ourBackPoint := raised ackSeq snd.ourBackPoint ackSeq
        ourDataPos := max snd.ourDataPos (offset snd.ourDataStartSeq ackSeq) }
      traffic start position sent (max reach position) := by
  have higher := SendSide.mark_le baseAt number new
  exact
    { known := marks.known
      inFlight := by
        intro i after below
        exact marks.inFlight i (by omega) (by omega)
      once := by
        intro i after below marked
        have marked' : position + offset ackSeq (raised ackSeq snd.ourBackPoint ackSeq) ≤ i := marked
        exact marks.once i (by omega) below (by omega)
      sending := by
        intro locked again
        have resent := marks.sending locked
        show (sent : Int) ≤ position + offset ackSeq (raised ackSeq snd.ourBackPoint ackSeq)
        omega
      resting := by
        intro unlocked going
        obtain ⟨first, startAt, resting⟩ := marks.resting unlocked going
        have behind := resting.behind
        refine ⟨first, startAt, by omega, resting.near, ?_, ?_⟩
        · intro clean
          omega
        · intro clean
          omega }

/-- The numbers of a message that starts at the base. -/
theorem Marks.begin {packets : List UMPPacket}
    (marks : Marks seed gone snd traffic start acked sent reach)
    (unlocked : snd.sndLocked = .unlocked) (going : ¬ gone)
    (baseAt : snd.ourDataSeqBase = place seed acked) (idle : reach = acked) (behind : acked ≤ sent)
    (sameBase : snd'.ourDataSeqBase = snd.ourDataSeqBase)
    (samePoint : snd'.ourBackPoint = snd.ourBackPoint)
    (atBase : snd.ourDataSeqBase = snd.ourDataStartSeq) (locked : snd'.sndLocked = .locked) :
    Marks seed gone snd' (.numbered packets :: traffic) acked acked sent acked := by
  obtain ⟨first, startAt, resting⟩ := marks.resting unlocked going
  have sameMark : snd'.mark acked = snd.mark acked := by
    rw [SendSide.mark, sameBase, samePoint, SendSide.mark]
  have near := resting.near
  have earlier := resting.behind
  have here : first = acked := by
    apply place_inj seed (by omega) (by omega)
    rw [← startAt, ← atBase, baseAt]
  have resent := resting.resent here
  exact
    { known := by simp [messageNumbers_numbered]
      inFlight := by
        intro i after below
        exact absurd below (by omega)
      once := by
        intro i after below marked
        rw [sameMark] at marked
        omega
      sending := by
        intro _ again
        rw [sameMark]
        omega
      resting := by
        intro unlocked
        exact absurd (locked.symm.trans unlocked) (by decide) }

/-- A message that ends leaves the start of the next one at `first`. -/
theorem Marks.release {first : Int} (marks : Marks seed gone snd traffic start acked sent reach)
    (locked : snd.sndLocked = .locked) (behind : start ≤ acked) (near : reach ≤ start + 32767)
    (position : (reach : Int) = start + snd.ourDataPos) (earlier : first ≤ acked)
    (turn : sent ≤ first + 65535) (sameBase : snd'.ourDataSeqBase = snd.ourDataSeqBase)
    (samePoint : snd'.ourBackPoint = snd.ourBackPoint)
    (samePosition : snd'.ourDataPos = snd.ourDataPos)
    (startAt : snd'.ourDataStartSeq = place seed first) (unlocked : snd'.sndLocked = .unlocked) :
    Marks seed gone snd' traffic start acked sent reach := by
  have sameMark : snd'.mark acked = snd.mark acked := by
    rw [SendSide.mark, sameBase, samePoint, SendSide.mark]
  exact
    { marks with
      once := by
        rw [sameMark]
        exact marks.once
      sending := by
        intro again
        exact absurd (unlocked.symm.trans again) (by decide)
      resting := by
        intro _ _
        refine ⟨first, startAt, earlier, turn, ?_, ?_⟩
        · intro _
          rw [sameMark]
          exact marks.sending locked
        · intro _
          rw [samePosition]
          omega }

/-- A connection that is gone only keeps what it has. -/
theorem Marks.abandon (marks : Marks seed gone snd traffic start acked sent reach) (isGone : gone)
    (sameBase : snd'.ourDataSeqBase = snd.ourDataSeqBase)
    (samePoint : snd'.ourBackPoint = snd.ourBackPoint) (unlocked : snd'.sndLocked = .unlocked) :
    Marks seed gone snd' traffic start acked sent acked := by
  have sameMark : snd'.mark acked = snd.mark acked := by
    rw [SendSide.mark, sameBase, samePoint, SendSide.mark]
  exact
    { known := marks.known
      inFlight := by
        intro i after below
        exact absurd below (by omega)
      once := by
        rw [sameMark]
        exact marks.once
      sending := by
        intro again
        exact absurd (unlocked.symm.trans again) (by decide)
      resting := fun _ going => absurd isGone going }

end Marks

end UserMessageProtocol
