import UserMessageProtocol.Foundation.Serial
import UserMessageProtocol.Socket.Sender

/-!
Contract: the circular comparisons of `ump_sock.c` as signed distances.

Owns: the closed form of `circleCompare` and of the functions built on it, the
order they put on sequence numbers, and the reading of sequence numbers as
positions behind `our_data_start_seq`.

Does not own: the arithmetic of serial numbers (`Foundation.Serial`).
-/

set_option autoImplicit false

namespace UserMessageProtocol

open Serial

/-- Comparison in the circle around `base` compares signed distances from it. -/
theorem circleCompare_eq (base x y : UInt16) :
    circleCompare base x y = offset base x - offset base y := by
  have boundBase := base.toNat_lt
  have boundX := x.toNat_lt
  have boundY := y.toNat_lt
  -- the number behind the circle point has the least distance
  have unfolded (z : UInt16) (boundZ : z.toNat < 65536) :
      (if z ≤ base + 32767 then (z.toNat : Int) + 65536 else z.toNat) =
        offset base z + (if base ≤ base + 32767 then (base.toNat : Int) + 65536 else base.toNat) := by
    have circle : (base + 32767).toNat = (base.toNat + 32767) % 65536 := by
      rw [UInt16.toNat_add]; rfl
    have lower := offset_lower base z
    have upper := offset_upper base z
    have turns := offset_emod base z
    simp only [UInt16.le_iff_toNat_le, circle]
    split <;> split <;> omega
  unfold circleCompare
  dsimp only
  rw [unfolded x boundX, unfolded y boundY]
  omega

section Comparisons

variable (snd : SendSide) (rcv : ReceiveSide) (x y : UInt16)

theorem umpCmpInSndbase_eq : umpCmpInSndbase snd x y =
    offset snd.ourDataSeqBase x - offset snd.ourDataSeqBase y := circleCompare_eq _ _ _

theorem umpCmpInRcvbase_eq : umpCmpInRcvbase rcv x y =
    offset rcv.theirDataSeqBase x - offset rcv.theirDataSeqBase y := circleCompare_eq _ _ _

theorem umpSeqToRelativeViaSndstartseq_eq :
    umpSeqToRelativeViaSndstartseq snd x = offset snd.ourDataStartSeq x := by
  rw [umpSeqToRelativeViaSndstartseq, circleCompare_eq, offset_self, Int.sub_zero]

theorem umpRelativeToSeqViaSndstartseq_eq (position : Int) :
    umpRelativeToSeqViaSndstartseq snd position = place snd.ourDataStartSeq position := rfl

/-- `guint l` is added in thirty-two bits, and the sum is cut off at sixteen. -/
theorem umpRelativeToSeqViaSndstartseq_guint (l : UInt32) :
    umpRelativeToSeqViaSndstartseq snd l.toNat = (snd.ourDataStartSeq.toUInt32 + l).toUInt16 := by
  apply UInt16.toNat_inj.mp
  have value := toNat_place snd.ourDataStartSeq l.toNat
  rw [umpRelativeToSeqViaSndstartseq_eq, UInt32.toNat_toUInt16, UInt32.toNat_add,
    UInt16.toNat_toUInt32]
  omega

theorem ackDiff_eq : ackDiff snd x = offset snd.ourDataSeqBase x := by
  rw [ackDiff, umpCmpInSndbase_eq, offset_self, Int.sub_zero]

/-- An ack is in range when it is not before the base and at most one behind the
highest number sent. -/
theorem ackInRange_iff : ackInRange snd x = true ↔
    0 ≤ offset snd.ourDataSeqBase x ∧
      offset snd.ourDataSeqBase x ≤ offset snd.ourDataSeqBase snd.ourDataSent + 1 := by
  rw [ackInRange, ackDiff_eq, umpCmpInSndbase_eq]
  simp
  omega

end Comparisons

/-- A position comes back as its residue nearest to zero. -/
theorem umpSeqToRelativeViaSndstartseq_place (snd : SendSide) (position : Int) :
    umpSeqToRelativeViaSndstartseq snd (umpRelativeToSeqViaSndstartseq snd position) =
      position.bmod 65536 := by
  have distance := offset_place_place snd.ourDataStartSeq 0 position
  rw [place_zero, Int.sub_zero] at distance
  rw [umpSeqToRelativeViaSndstartseq_eq, umpRelativeToSeqViaSndstartseq_eq, distance]

/-- Both comparisons are circular orders around their base, and a position of up to
32767 behind the start of the message is all that comes back from its number. -/
theorem circularArithmetic :
    (∀ snd : SendSide,
      CircularOrder fun base => umpCmpInSndbase { snd with ourDataSeqBase := base }) ∧
    (∀ rcv : ReceiveSide,
      CircularOrder fun base => umpCmpInRcvbase { rcv with theirDataSeqBase := base }) ∧
    (∀ (snd : SendSide) (l : UInt32),
      umpSeqToRelativeViaSndstartseq snd (umpRelativeToSeqViaSndstartseq snd l.toNat) =
        signed l.toUInt16) ∧
    ∀ (snd : SendSide) (l : UInt32),
      umpSeqToRelativeViaSndstartseq snd (umpRelativeToSeqViaSndstartseq snd l.toNat) = l.toNat ∧
        l.toNat ≤ 2147483647 ↔ l.toNat ≤ 32767 := by
  refine ⟨?_, ?_, ?_, ?_⟩
  · intro snd
    apply CircularOrder.of_distance
    intro base x y
    rw [umpCmpInSndbase_eq, signed_sub, signed_sub]
  · intro rcv
    apply CircularOrder.of_distance
    intro base x y
    rw [umpCmpInRcvbase_eq, signed_sub, signed_sub]
  · intro snd l
    rw [umpSeqToRelativeViaSndstartseq_place, signed_eq, UInt32.toNat_toUInt16, Int.natCast_emod]
    exact (Int.emod_bmod _ _).symm
  · intro snd l
    rw [umpSeqToRelativeViaSndstartseq_place, Int.bmod_def]
    omega

/-- The position of the base behind the start of the message. -/
def SendSide.acked (snd : SendSide) : Int := offset snd.ourDataStartSeq snd.ourDataSeqBase

theorem SendSide.base_eq (snd : SendSide) :
    snd.ourDataSeqBase = place snd.ourDataStartSeq snd.acked := (place_offset _ _).symm

/-- The size of the send window. -/
def SendSide.window (snd : SendSide) : UInt16 := min snd.theirWnd snd.ourCwnd

theorem SendSide.window_toNat (snd : SendSide) :
    snd.window.toNat = min snd.theirWnd.toNat snd.ourCwnd.toNat := by
  have least : snd.window = if snd.theirWnd ≤ snd.ourCwnd then snd.theirWnd else snd.ourCwnd := rfl
  rw [least]
  simp only [UInt16.le_iff_toNat_le]
  split <;> omega

/-- The window position is that of the window's end, cut off at the message's end. -/
theorem umpRefreshSndWndPos_ourWndPos (snd : SendSide) :
    (umpRefreshSndWndPos snd).ourWndPos =
      min snd.sndPacketsCount ((snd.acked + snd.window.toNat).bmod 65536) := by
  have windowEnd : snd.ourDataSeqBase + min snd.theirWnd snd.ourCwnd =
      place snd.ourDataStartSeq (snd.acked + snd.window.toNat) := by
    rw [← place_place, ← snd.base_eq, place_natCast, UInt16.ofNat_toNat]
    rfl
  have position := umpSeqToRelativeViaSndstartseq_place snd (snd.acked + snd.window.toNat)
  rw [umpRelativeToSeqViaSndstartseq_eq] at position
  simp only [umpRefreshSndWndPos, windowEnd, position]

end UserMessageProtocol
