import UserMessageProtocol.Connection.Errors
import UserMessageProtocol.Connection.Pending
import UserMessageProtocol.Sender.Estimator
import UserMessageProtocol.Socket.Elapsed
import Mathlib.Data.Rat.Floor

/-!
Contract: how many timeouts a sender bears.

Owns: the timers that fire without a round trip time in between (`noteFirings`), what it is
to have failed for good (`GivenUp`), and the theorem that a sender bears only so many timers as
take its RTO to the limit and has then failed (`givesUpInTime_of_run`).

Does not own: the RTO (`Sender.Estimator`), or what a socket does behind the error
(`Connection.Errors`).
-/

set_option autoImplicit false

namespace UserMessageProtocol

/-! ### The RTO as an integer -/

/-- A computer that answers below the limit has an RTO below it, if that is within the cap. -/
theorem rto_lt_of_rtoGetRto_lt {cpt : RTOComputer} (nonneg : 0 ≤ cpt.rto.value)
    (capped : cpt.rto.value ≤ 90000) (below : rtoGetRto cpt < TIMEOUT_LIMIT) :
    cpt.rto.value < 15000 := by
  have floor : cpt.rto.value.num.tdiv cpt.rto.value.den = cpt.rto.value.floor := by
    rw [Rat.floor_def, Int.tdiv_eq_ediv_of_nonneg (Rat.num_nonneg.mpr nonneg)]
  have top : cpt.rto.value.floor ≤ 90000 := by
    have down : ((cpt.rto.value.floor : Int) : Rat) ≤ cpt.rto.value :=
      Rat.le_floor_iff.mp (Int.le_refl _)
    exact_mod_cast down.trans capped
  have bottom : 0 ≤ cpt.rto.value.floor := Rat.le_floor_iff.mpr (by simpa using nonneg)
  have exact' : rtoGetRto cpt = cpt.rto.value.floor := by
    unfold rtoGetRto truncate
    rw [floor, glong_eq (by omega) (by omega)]
  rw [exact'] at below
  by_contra above
  have reached : (15000 : Int) ≤ cpt.rto.value.floor :=
    Rat.le_floor_iff.mpr (by exact_mod_cast not_lt.mp above)
  have limit : TIMEOUT_LIMIT = 15000 := rfl
  omega

theorem sixteen_le_pathRto (samples : List Int) : 16 ≤ pathRto samples := by
  by_cases none : samples = []
  · rw [none]
    decide +kernel
  · rw [pathRto_sampled none]
    exact le_max_right _ _

/-- Behind a loss the RTO is within the cap. -/
theorem backedOff_capped (rto : Rat) {losses : Nat} (some : 1 ≤ losses) :
    backedOff rto losses ≤ 90000 := by
  unfold backedOff
  rw [if_neg (by omega)]
  exact min_le_right _ _

/-! ### Timers that fire -/

section Firings

variable {Lists : Type}

/-- A retransmission timer fires. -/
def fires (u : UMPSocket Lists) (event : SockEvent) : Bool :=
  event = .dataTimeout && getNextTimeout u.core.snd.tmList u.core.now

/-- Samples and losses, and how many timers have fired since the last sample. -/
def noteFirings (u : UMPSocket Lists) (event : SockEvent) (notes : RttNotes × Nat) :
    RttNotes × Nat :=
  (noteRtt u event notes.1,
    if (rttSample u event).isSome then 0 else notes.2 + (fires u event).toNat)

/-- The connection has failed, and no packet is in flight. -/
structure Silenced (u : UMPSocket Lists) : Prop where
  down : Down u.core
  unlocked : u.core.snd.sndLocked = .unlocked
  noTimer : u.core.snd.tmList = []

/-- The sender has failed for good: whatever comes, no packet of the user is transmitted any
more. -/
def GivenUp [ReceiveLists Lists] (u : UMPSocket Lists) : Prop :=
  ∀ later v, (sockMachine Lists).Run u later v →
    Silenced v ∧ userPackets v.core.log = userPackets u.core.log

/-- The sender bears no more timers in a row than it takes to double the RTO to the limit,
and one more or two; in any case no more than eleven. When the doubled RTO has reached the
limit, it has given up. -/
structure GivesUpInTime [ReceiveLists Lists] (u : UMPSocket Lists) (notes : RttNotes × Nat) :
    Prop where
  doubles : 3 ≤ notes.2 → pathRto notes.1.samples * 2 ^ (notes.2 - 2) < 15000
  few : notes.2 ≤ 11
  givenUp : 2 ≤ notes.2 → 15000 ≤ pathRto notes.1.samples * 2 ^ (notes.2 - 1) → GivenUp u

/-- As long as the sender goes on, each timer that fired has doubled the RTO. -/
structure Bearing (notes : RttNotes × Nat) : Prop where
  lost : notes.2 ≤ notes.1.losses
  doubled : 2 ≤ notes.2 → pathRto notes.1.samples * 2 ^ (notes.2 - 1) < 15000

variable [ReceiveLists Lists] {u : UMPSocket Lists} {event : SockEvent} {notes : RttNotes × Nat}

/-- A sender without timers sends nothing on a connection that failed. -/
theorem Silenced.step (silenced : Silenced u) (allowed : sockEnabled u event) :
    Silenced (sockStep u event) := by
  have down := silenced.down.step allowed
  have failed := silenced.down.failed
  obtain ⟨added, step, -⟩ := send_step u event
  have kept : (sockStep u event).core.snd.sndLocked = .unlocked ∧
      (sockStep u event).core.snd.tmList = [] := by
    have before := And.intro silenced.unlocked silenced.noTimer
    have ended : endedSend u.core.snd false = u.core.snd := by
      unfold endedSend
      rw [silenced.unlocked]
    generalize (sockStep u event).core.snd = snd at step ⊢
    cases step with
    | idle | signal | probe | post | syn => exact before
    | refuse => exact ⟨rfl, silenced.noTimer⟩
    | start packets unlocked posted some established noError =>
        exact absurd (noError.symm.trans failed) (by decide)
    | giveUp =>
        rw [ended]
        exact before
    | transmit p locked =>
        exact absurd (locked.symm.trans silenced.unlocked) (by decide)
    | expired =>
        have unlocked : ({ u.core.snd with tmList := [] } : SendSide).sndLocked = .unlocked :=
          silenced.unlocked
        unfold endedSend
        rw [unlocked]
        exact ⟨silenced.unlocked, rfl⟩
    | rewind =>
        obtain ⟨backPoint, rewound⟩ := rewindAfterTimeout_eq { u.core.snd with tmList := [] }
        rw [rewound]
        exact ⟨silenced.unlocked, rfl⟩
    | ack p => exact absurd (allowed.1.symm.trans failed) (by decide)
  exact ⟨down, kept.1, kept.2⟩

theorem Silenced.givenUp (silenced : Silenced u) (shaped : WellShaped u) : GivenUp u := by
  intro later v run
  let Holds (v : UMPSocket Lists) : Prop :=
    WellShaped v ∧ Silenced v ∧ userPackets v.core.log = userPackets u.core.log
  have first : Holds u := ⟨shaped, silenced, rfl⟩
  have all : Holds v := by
    apply run.invariant first
    intro v event holds allowed _
    obtain ⟨shaped, silenced, same⟩ := holds
    have closed : v.core.ctrl.state ≠ .established := by
      rw [silenced.down.state]
      decide
    have silent := silent_of_unlocked shaped silenced.unlocked closed event
    exact ⟨shaped.step allowed, silenced.step allowed, silent.trans same⟩
  exact all.2

omit [ReceiveLists Lists] in
/-- Nothing is noted of it any more. -/
theorem Silenced.quiet (silenced : Silenced u) (allowed : sockEnabled u event) :
    rttSample u event = none ∧ fires u event = false := by
  have noTimer : fires u event = false := by
    unfold fires
    rw [silenced.noTimer]
    exact Bool.and_false _
  refine ⟨?_, noTimer⟩
  cases event with
  | dataPacket p => exact absurd (allowed.1.symm.trans silenced.down.failed) (by decide)
  | _ => rfl

/-- A timer that fires makes the sender back off or give up. -/
theorem fires_cases (fired : fires u event = true) :
    rttSample u event = none ∧
      (backsOff u event = true ∧ rtoGetRto u.core.snd.rtoCpt < TIMEOUT_LIMIT ∨
        Silenced (sockStep u event)) := by
  unfold fires at fired
  rw [Bool.and_eq_true, decide_eq_true_eq] at fired
  obtain ⟨rfl, expires⟩ := fired
  refine ⟨rfl, ?_⟩
  by_cases early : rtoGetRto u.core.snd.rtoCpt < TIMEOUT_LIMIT
  · left
    refine ⟨?_, early⟩
    unfold backsOff
    rw [expires, decide_eq_true early]
    rfl
  · right
    have some : u.core.snd.tmList ≠ [] := by
      intro none
      rw [none] at expires
      cases expires
    have failing : umpHandleDataTimeout u.core = umpConnectionErrorOccured
        (umpEndSend { u.core.tick with snd := { u.core.snd with tmList := [] } } false) := by
      have late : rtoGetRto u.core.snd.rtoCpt ≥ TIMEOUT_LIMIT := Int.not_lt.mp early
      unfold umpHandleDataTimeout
      rw [if_neg some]
      dsimp only
      rw [if_pos (by exact expires), if_pos (by exact late)]
      rfl
    have snd : (umpHandleDataTimeout u.core).snd =
        endedSend { u.core.snd with tmList := [] } false := by
      rw [failing, umpConnectionErrorOccured_snd, umpEndSend_snd]
      exact endedSend_twice _
    refine ⟨?_, ?_, ?_⟩
    · show Down (umpHandleDataTimeout u.core)
      rw [failing]
      exact umpConnectionErrorOccured_down
    · show (umpHandleDataTimeout u.core).snd.sndLocked = .unlocked
      rw [snd]
      cases locked : u.core.snd.sndLocked <;> simp [endedSend, locked, endSend]
    · show (umpHandleDataTimeout u.core).snd.tmList = []
      rw [snd, endedSend_tmList]

/-- What holds of a sender: it bears its timeouts, or it has failed behind one more. -/
def Patient (u : UMPSocket Lists) (notes : RttNotes × Nat) : Prop :=
  Bearing notes ∨ Silenced u ∧
    (3 ≤ notes.2 → pathRto notes.1.samples * 2 ^ (notes.2 - 2) < 15000)

omit [ReceiveLists Lists] in
/-- A timer the sender bears doubles the RTO once more. -/
theorem Bearing.fired (estimating : Estimating u.core.snd.rtoCpt notes.1) (bearing : Bearing notes)
    (early : rtoGetRto u.core.snd.rtoCpt < TIMEOUT_LIMIT) :
    Bearing ({ notes.1 with losses := notes.1.losses + 1 }, notes.2 + 1) := by
  refine ⟨Nat.succ_le_succ bearing.lost, fun twice => ?_⟩
  have rto := estimating.rto
  have some : 1 ≤ notes.1.losses := le_trans (Nat.le_of_succ_le_succ twice) bearing.lost
  have path : 0 ≤ pathRto notes.1.samples := le_trans (by norm_num) (sixteen_le_pathRto _)
  have capped : u.core.snd.rtoCpt.rto.value ≤ 90000 := by
    rw [rto]
    exact backedOff_capped _ some
  have value : backedOff (pathRto notes.1.samples) notes.1.losses =
      min (pathRto notes.1.samples * 2 ^ notes.1.losses) 90000 := if_neg (by omega)
  have nonneg : 0 ≤ u.core.snd.rtoCpt.rto.value := by
    rw [rto, value]
    exact le_min (mul_nonneg path (by positivity)) (by norm_num)
  have below := rto_lt_of_rtoGetRto_lt nonneg capped early
  rw [rto, value] at below
  have doubled : pathRto notes.1.samples * 2 ^ notes.1.losses < 15000 := by
    rcases min_lt_iff.mp below with small | large
    · exact small
    · norm_num at large
  calc pathRto notes.1.samples * 2 ^ notes.2
      ≤ pathRto notes.1.samples * 2 ^ notes.1.losses :=
        mul_le_mul_of_nonneg_left (pow_le_pow_right₀ (by norm_num) bearing.lost) path
    _ < 15000 := doubled

/-- Every step keeps the sender patient. -/
theorem Patient.step (estimating : Estimating u.core.snd.rtoCpt notes.1) (patient : Patient u notes)
    (allowed : sockEnabled u event) : Patient (sockStep u event) (noteFirings u event notes) := by
  rcases patient with bearing | ⟨silenced, doubles⟩
  · cases sample : rttSample u event with
    | some rtt =>
        left
        refine ⟨?_, ?_⟩ <;> simp [noteFirings, noteRtt, sample]
    | none =>
        cases fired : fires u event with
        | false =>
            left
            have lost := bearing.lost
            have doubled := bearing.doubled
            refine ⟨?_, ?_⟩ <;> simp only [noteFirings, noteRtt, sample, fired] <;> simp
            · omega
            · exact doubled
        | true =>
            have noted : noteFirings u event notes = ({ notes.1 with
                losses := notes.1.losses + (backsOff u event).toNat }, notes.2 + 1) := by
              simp [noteFirings, noteRtt, sample, fired]
            rw [noted]
            rcases (fires_cases fired).2 with ⟨backs, early⟩ | silenced
            · left
              rw [backs]
              exact bearing.fired estimating early
            · exact .inr ⟨silenced, fun many => bearing.doubled (Nat.le_of_succ_le_succ many)⟩
  · obtain ⟨noSample, noTimer⟩ := silenced.quiet allowed
    refine .inr ⟨silenced.step allowed, ?_⟩
    simp only [noteFirings, noteRtt, noSample, noTimer]
    exact doubles

/-- A patient sender gives up in time. -/
theorem Patient.givesUp (patient : Patient u notes) (shaped : WellShaped u) :
    GivesUpInTime u notes := by
  have path := sixteen_le_pathRto notes.1.samples
  have doubles : 3 ≤ notes.2 → pathRto notes.1.samples * 2 ^ (notes.2 - 2) < 15000 := by
    intro many
    rcases patient with bearing | ⟨-, doubles⟩
    · calc pathRto notes.1.samples * 2 ^ (notes.2 - 2)
          ≤ pathRto notes.1.samples * 2 ^ (notes.2 - 1) :=
            mul_le_mul_of_nonneg_left (pow_le_pow_right₀ (by norm_num) (by omega)) (by linarith)
        _ < 15000 := bearing.doubled (by omega)
    · exact doubles many
  refine ⟨doubles, ?_, ?_⟩
  · by_contra more
    have tenfold : (2 : Rat) ^ 10 ≤ 2 ^ (notes.2 - 2) :=
      pow_le_pow_right₀ (by norm_num) (by omega)
    have large : (16 : Rat) * 2 ^ 10 ≤ pathRto notes.1.samples * 2 ^ (notes.2 - 2) :=
      mul_le_mul path tenfold (by positivity) (by linarith)
    have small := doubles (by omega)
    norm_num at large
    linarith
  · intro twice reached
    rcases patient with bearing | ⟨silenced, -⟩
    · exact absurd (bearing.doubled twice) (not_lt.mpr reached)
    · exact silenced.givenUp shaped

/-- In every run a sender whose timers fire without a round trip time in between bears only
so many of them as double the RTO of the path to the limit, and eleven at most; then it has
failed, and stays so. -/
theorem givesUpInTime_of_run {seq : UInt16} {clock : Clock} {events : List SockEvent}
    {noted : UMPSocket Lists × (RttNotes × Nat)}
    (run : ((sockMachine Lists).noting noteFirings).Run
      (umpSockNew Lists seq clock, (⟨[], 0⟩, 0)) events noted) :
    GivesUpInTime noted.1 noted.2 := by
  let Holds (noted : UMPSocket Lists × (RttNotes × Nat)) : Prop :=
    WellShaped noted.1 ∧ Estimating noted.1.core.snd.rtoCpt noted.2.1 ∧ Patient noted.1 noted.2
  have first : Holds (umpSockNew Lists seq clock, (⟨[], 0⟩, 0)) :=
    ⟨wellShaped_new seq clock, estimating_new, .inl ⟨Nat.le_refl 0, by simp⟩⟩
  have all : Holds noted := by
    apply run.invariant first
    intro noted event holds allowed _
    obtain ⟨shaped, estimating, patient⟩ := holds
    exact ⟨shaped.step allowed, estimating.step event, patient.step estimating allowed⟩
  exact all.2.2.givesUp all.1

end Firings

/-! ### A packet that is never acknowledged -/

/-- A clock whose readings are a minute apart. -/
def minutes : Clock := ⟨fun n => ⟨60 * n, 0⟩, 0⟩

/-- A message to a peer that has gone. -/
def unansweredSend : List SockEvent :=
  passiveOpen 7 100 ++ [.userSend [1], .handleSend, .sendData, .dataTimeout, .sendData,
    .dataTimeout, .sendData, .dataTimeout]

def unansweredSender : UMPSocket PlainLists × (RttNotes × Nat) :=
  ((sockMachine PlainLists).noting noteFirings).after
    (umpSockNew PlainLists 100 minutes, (⟨[], 0⟩, 0)) unansweredSend

/-- The timer fires three times, and the sender gives up. -/
theorem givesUpInTime_unansweredSender : unansweredSender.2 = (⟨[], 2⟩, 3) ∧
    GivesUpInTime unansweredSender.1 unansweredSender.2 ∧ GivenUp unansweredSender.1 := by
  have run : ((sockMachine PlainLists).noting noteFirings).Run
      (umpSockNew PlainLists 100 minutes, (⟨[], 0⟩, 0)) unansweredSend unansweredSender :=
    Machine.runWhere_of_check (by decide +kernel)
  have inTime := givesUpInTime_of_run run
  exact ⟨by decide +kernel, inTime, inTime.givenUp (by decide +kernel) (by decide +kernel)⟩

end UserMessageProtocol
