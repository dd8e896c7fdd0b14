import UserMessageProtocol.Receiver.Exact
import UserMessageProtocol.Sender.Message

/-!
Contract: a receiver along a stream of any length.

Owns: where a packet stands in a stream whose numbers wrap (`Stands`), how far a
receiver got in it (`Reception.Aligned`), and that taking a packet that was transmitted
keeps it aligned and passes over no end but the last one.

Does not own: which packets come (`Network.Flow`).
-/

set_option autoImplicit false

namespace UserMessageProtocol

open Serial

/-- A packet at position `i` of a stream whose first number is `seed`. -/
structure Stands (seed : UInt16) (stream : List Fragment) (i : Nat) (p : UMPPacket) : Prop where
  number : p.seqNum = place seed i
  found : stream[i]? = some (fragment p)

/-- From `start` on only the last fragment of a stream can end a message. -/
def OneMessage (start : Nat) (stream : List Fragment) : Prop :=
  ∀ (i : Nat) (f : Fragment), start ≤ i → i + 1 < stream.length → stream[i]? = some f →
    f.last = false

section Stands

variable {seed : UInt16} {stream : List Fragment} {i : Nat} {p : UMPPacket}

theorem Stands.inside (stands : Stands seed stream i p) : i < stream.length :=
  (List.getElem?_eq_some_iff.mp stands.found).1

/-- A stream that grows at its end keeps its packets. -/
theorem Stands.grow {stream' : List Fragment} (stands : Stands seed stream i p)
    (grows : stream <+: stream') : Stands seed stream' i p := by
  obtain ⟨more, rfl⟩ := grows
  exact ⟨stands.number, by rw [List.getElem?_append_left stands.inside]; exact stands.found⟩

theorem OneMessage.later {start start' : Nat} (one : OneMessage start stream)
    (behind : start ≤ start') : OneMessage start' stream :=
  fun i f here => one i f (Nat.le_trans behind here)

end Stands

/-- The packets got in order are the front of the stream, and those that wait lie behind the
next one among those that were sent. -/
structure Reception.Aligned (seed : UInt16) (stream : List Fragment) (sent : Nat) (r : Reception) :
    Prop where
  base : r.base = place seed r.got.length
  got : ∀ (i : Nat) (q : UMPPacket), r.got[i]? = some q → Stands seed stream i q
  waits : ∀ q ∈ r.waiting, ∃ i, r.got.length < i ∧ i < sent ∧ Stands seed stream i q

section Aligned

variable {seed : UInt16} {stream : List Fragment} {sent i : Nat} {r r' : Reception} {p : UMPPacket}

theorem Reception.Aligned.within (aligned : r.Aligned seed stream sent) :
    r.got.length ≤ stream.length := by
  by_cases none : r.got.length = 0
  · omega
  · have last := List.getElem?_eq_getElem (l := r.got) (i := r.got.length - 1) (by omega)
    have := (aligned.got _ _ last).inside
    omega

/-- Streams and what was sent of them only grow. -/
theorem Reception.Aligned.grow {stream' : List Fragment} {sent' : Nat}
    (aligned : r.Aligned seed stream sent) (grows : stream <+: stream') (more : sent ≤ sent') :
    r.Aligned seed stream' sent' where
  base := aligned.base
  got := fun i q found => (aligned.got i q found).grow grows
  waits := by
    intro q member
    obtain ⟨i, behind, inside, stands⟩ := aligned.waits q member
    exact ⟨i, behind, Nat.lt_of_lt_of_le inside more, stands.grow grows⟩

/-- How far a packet lies from the base. -/
theorem Reception.Aligned.offset_eq (aligned : r.Aligned seed stream sent)
    (number : p.seqNum = place seed i) (lower : r.got.length ≤ i + 32768)
    (upper : i ≤ r.got.length + 32767) : offset r.base p.seqNum = (i : Int) - r.got.length := by
  rw [aligned.base, number]
  exact offset_near seed (by omega) (by omega)

/-- The packets that follow the packet of the base stand behind it one by one. -/
theorem Reception.Aligned.run (aligned : r.Aligned seed stream sent)
    (near : sent ≤ r.got.length + 32767) (ascending : Ascending r.base (r.waiting.map (·.seqNum)))
    (here : Stands seed stream r.got.length p) (started : r.got.length < sent) {k : Nat}
    {q : UMPPacket} (early : k ≤ r.following p) (found : (p :: r.waiting)[k]? = some q) :
    Stands seed stream (r.got.length + k) q ∧ r.got.length + k < sent := by
  cases k with
  | zero =>
      rw [List.getElem?_cons_zero, Option.some.injEq] at found
      rw [← found]
      exact ⟨here, started⟩
  | succ k =>
      rw [List.getElem?_cons_succ] at found
      have bounded := GLists.consecutive_le p r.waiting
      have inside : k < r.waiting.length := Nat.lt_of_lt_of_le early bounded
      have inNumbers : k < (r.waiting.map (·.seqNum)).length := by
        rw [List.length_map]
        exact inside
      have early' : k < successors p.seqNum (r.waiting.map (·.seqNum)) := by
        rw [← PlainLists.consecutive_eq]
        exact early
      have isQ : r.waiting[k] = q := by
        rw [List.getElem?_eq_getElem inside] at found
        exact Option.some.inj found
      have carries := successors_getElem inNumbers early'
      have index := ascending.index_lt inNumbers
      have upper := offset_upper r.base (r.waiting.map (·.seqNum))[k]
      rw [List.getElem_map, isQ, here.number, place_place] at carries
      obtain ⟨i, behind, transmitted, stands⟩ := aligned.waits q (isQ ▸ List.getElem_mem inside)
      have same : i = r.got.length + (k + 1) := by
        have equal := place_inj seed (by omega) (by omega) (stands.number.symm.trans carries)
        omega
      rw [← same]
      exact ⟨stands, transmitted⟩

/-- The packet of the base passes over no end of a message but the last one. -/
theorem Reception.Aligned.oneEnd {start : Nat} (aligned : r.Aligned seed stream sent)
    (near : sent ≤ r.got.length + 32767) (ascending : Ascending r.base (r.waiting.map (·.seqNum)))
    (here : Stands seed stream r.got.length p) (started : r.got.length < sent)
    (one : OneMessage start stream) (behind : start ≤ r.got.length) : r.OneEnd p := by
  have bounded : r.following p ≤ r.waiting.length := GLists.consecutive_le p r.waiting
  intro q member
  obtain ⟨k, inside, found⟩ := List.getElem_of_mem member
  rw [List.getElem_dropLast] at found
  rw [List.length_dropLast, List.length_cons, List.length_take_of_le bounded] at inside
  have isQ : (p :: r.waiting)[k]? = some q := by
    have there : (p :: r.waiting.take (r.following p))[k]? = some q := by
      rw [← found]
      exact List.getElem?_eq_getElem _
    rwa [← List.take_succ_cons, List.getElem?_take_of_lt (by omega)] at there
  obtain ⟨next, isNext⟩ : ∃ q, (p :: r.waiting)[k + 1]? = some q :=
    ⟨_, List.getElem?_eq_getElem (by rw [List.length_cons]; omega)⟩
  have stands := (aligned.run near ascending here started (by omega) isQ).1
  have more := (aligned.run near ascending here started (by omega) isNext).1.inside
  exact one _ _ (by omega) (by omega) stands.found

/-- A packet that was transmitted and lies at or ahead of the base. -/
theorem Reception.Aligned.take (aligned : r.Aligned seed stream sent)
    (near : sent ≤ r.got.length + 32767) (ascending : Ascending r.base (r.waiting.map (·.seqNum)))
    (ascending' : Ascending r'.base (r'.waiting.map (·.seqNum))) (stands : Stands seed stream i p)
    (transmitted : i < sent) (lower : r.got.length ≤ i + 32768) (takes : r.Takes p r') :
    r'.Aligned seed stream sent ∧ r.got.length ≤ r'.got.length ∧
      (r'.got.length ≤ sent ∨ r'.got.length = r.got.length) := by
  have distance := aligned.offset_eq stands.number lower (by omega)
  cases takes with
  | again q waits same => exact ⟨aligned, Nat.le_refl _, .inr rfl⟩
  | ahead left right waits far =>
      rw [distance] at far
      refine ⟨⟨aligned.base, aligned.got, ?_⟩, Nat.le_refl _, .inr rfl⟩
      intro q member
      rcases List.mem_append.mp member with inLeft | member
      · exact aligned.waits q (by rw [waits]; exact List.mem_append_left _ inLeft)
      · rcases List.mem_cons.mp member with rfl | inRight
        · exact ⟨i, by dsimp only; omega, transmitted, stands⟩
        · exact aligned.waits q (by rw [waits]; exact List.mem_append_right _ inRight)
  | next here =>
      have atBase : i = r.got.length := by
        rw [here, offset_self] at distance
        omega
      subst atBase
      have bounded : r.following p ≤ r.waiting.length := GLists.consecutive_le p r.waiting
      have count : (r.fill p).got.length = r.got.length + (r.following p + 1) := by
        show (r.got ++ p :: r.waiting.take (r.following p)).length = _
        rw [List.length_append, List.length_cons, List.length_take_of_le bounded]
      have base : (r.fill p).base = place seed (r.got.length + (r.following p + 1) : Nat) := by
        show place r.base (r.following p + 1) = _
        rw [aligned.base, place_place]
        congr 1
      have inRun {k : Nat} {q : UMPPacket} (early : k ≤ r.following p)
          (found : (p :: r.waiting)[k]? = some q) :=
        aligned.run near ascending stands transmitted early found
      have inside : (r.fill p).got.length ≤ sent := by
        have last := List.getElem?_eq_getElem (l := p :: r.waiting) (i := r.following p)
          (by rw [List.length_cons]; omega)
        have := (inRun (Nat.le_refl _) last).2
        omega
      refine ⟨⟨by rw [count]; exact base, ?_, ?_⟩, by omega, .inl inside⟩
      · intro j q found
        have parts : (r.fill p).got = r.got ++ (p :: r.waiting).take (r.following p + 1) := rfl
        rw [parts] at found
        by_cases old : j < r.got.length
        · rw [List.getElem?_append_left old] at found
          exact aligned.got j q found
        · rw [List.getElem?_append_right (by omega), List.getElem?_take] at found
          split at found
          · rename_i early
            have new := (inRun (by omega) found).1
            rwa [Nat.add_sub_cancel' (by omega)] at new
          · cases found
      · intro q member
        obtain ⟨j, behind, before, there⟩ := aligned.waits q (List.mem_of_mem_drop member)
        have far := ascending'.ahead q.seqNum (List.mem_map_of_mem member)
        have place' : offset (r.fill p).base q.seqNum =
            (j : Int) - (r.got.length + (r.following p + 1) : Nat) := by
          rw [base, there.number]
          exact offset_near seed (by omega) (by omega)
        rw [place'] at far
        exact ⟨j, by omega, before, there⟩

end Aligned

end UserMessageProtocol
