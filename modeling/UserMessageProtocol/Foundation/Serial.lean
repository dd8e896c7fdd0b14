import Mathlib.Data.Int.Init
import Mathlib.Order.Defs.Unbundled

/-!
Contract: serial numbers of sixteen bits.

Owns: the signed distance `offset` between two serial numbers, the number
`place` a given distance behind another, the laws by which positions of an
unbounded sequence are recovered from the numbers that stand for them, and what
a comparison by signed distances is as an order.

Does not own: any use of the numbers.
-/

set_option autoImplicit false

namespace Serial

/-- A difference of serial numbers, read as a signed number of sixteen bits. -/
def signed (difference : UInt16) : Int := difference.toInt16.toInt

/-- The distance from `base` to `x`, read as a signed number of sixteen bits. -/
def offset (base x : UInt16) : Int := ((x.toNat : Int) - base.toNat).bmod 65536

/-- The number `distance` places behind `start`. -/
def place (start : UInt16) (distance : Int) : UInt16 := start + UInt16.ofInt distance

section Offset

variable (base x y : UInt16)

theorem offset_lower : -32768 ≤ offset base x := by
  unfold offset
  have := Int.le_bmod (x := (x.toNat : Int) - base.toNat) (m := 65536) (by decide)
  omega

theorem offset_upper : offset base x ≤ 32767 := by
  unfold offset
  have := Int.bmod_lt (x := (x.toNat : Int) - base.toNat) (m := 65536) (by decide)
  omega

@[simp] theorem offset_self : offset base base = 0 := by simp [offset]

/-- The distance agrees with the difference up to whole turns. -/
theorem offset_emod : offset base x % 65536 = ((x.toNat : Int) - base.toNat) % 65536 :=
  Int.bmod_emod

theorem offset_eq_iff : offset base x = offset base y ↔ x = y := by
  constructor
  · intro equal
    apply UInt16.toNat_inj.mp
    have boundX := x.toNat_lt
    have boundY := y.toNat_lt
    simp only [offset, Int.bmod_def] at equal
    omega
  · rintro rfl
    rfl

theorem offset_eq_zero_iff : offset base x = 0 ↔ x = base := by
  rw [← offset_self base, offset_eq_iff]

theorem signed_eq (difference : UInt16) :
    signed difference = (difference.toNat : Int).bmod 65536 :=
  BitVec.toInt_eq_toNat_bmod difference.toBitVec

theorem signed_sub : signed (x - base) = offset base x := by
  have boundX := x.toNat_lt
  have boundBase := base.toNat_lt
  rw [signed_eq, offset, UInt16.toNat_sub]
  simp only [Int.bmod_def]
  omega

end Offset

section Place

variable (start : UInt16)

theorem toNat_place (distance : Int) :
    ((place start distance).toNat : Int) = (start.toNat + distance) % 65536 := by
  have bound := start.toNat_lt
  simp only [place, UInt16.ofInt, UInt16.toNat_add, UInt16.toNat_ofNat']
  omega

@[simp] theorem place_zero : place start 0 = start := by
  apply UInt16.toNat_inj.mp
  have value := toNat_place start 0
  have bound := start.toNat_lt
  omega

theorem place_place (first second : Int) :
    place (place start first) second = place start (first + second) := by
  apply UInt16.toNat_inj.mp
  have inner := toNat_place start first
  have outer := toNat_place (place start first) second
  have direct := toNat_place start (first + second)
  omega

theorem place_add_one (distance : Int) : place start distance + 1 = place start (distance + 1) := by
  apply UInt16.toNat_inj.mp
  have here := toNat_place start distance
  have next := toNat_place start (distance + 1)
  rw [UInt16.toNat_add, UInt16.toNat_one]
  omega

theorem place_of_add_one (distance : Int) :
    place (start + 1) distance = place start (distance + 1) := by
  have first := place_add_one start 0
  rw [place_zero] at first
  rw [first, place_place, Int.add_comm, Int.zero_add]

/-- Two places hold one number exactly when they differ by whole turns. -/
theorem place_eq_iff (first second : Int) :
    place start first = place start second ↔ (first - second) % 65536 = 0 := by
  have left := toNat_place start first
  have right := toNat_place start second
  constructor
  · intro equal
    have := congrArg UInt16.toNat equal
    omega
  · intro turns
    apply UInt16.toNat_inj.mp
    omega

theorem place_inj {first second : Int} (near : -65536 < first - second)
    (near' : first - second < 65536) (equal : place start first = place start second) :
    first = second := by
  have := (place_eq_iff start first second).mp equal
  omega

theorem place_offset (x : UInt16) : place start (offset start x) = x := by
  apply UInt16.toNat_inj.mp
  have value := toNat_place start (offset start x)
  have turns := offset_emod start x
  have bound := x.toNat_lt
  omega

theorem offset_place_place (first second : Int) :
    offset (place start first) (place start second) = (second - first).bmod 65536 := by
  have left := toNat_place start first
  have right := toNat_place start second
  simp only [offset, Int.bmod_def]
  omega

/-- The distance of two places less than half a turn apart. -/
theorem offset_near {first second : Int} (lower : -32768 ≤ second - first)
    (upper : second - first ≤ 32767) :
    offset (place start first) (place start second) = second - first := by
  rw [offset_place_place, Int.bmod_def]
  omega

/-- The distance of two numbers that are less than half a turn apart as seen from
`start`. -/
theorem offset_between {x y : UInt16} (lower : -32768 ≤ offset start y - offset start x)
    (upper : offset start y - offset start x ≤ 32767) :
    offset x y = offset start y - offset start x := by
  have near := offset_near start lower upper
  rwa [place_offset, place_offset] at near

theorem offset_place {distance : Int} (lower : -32768 ≤ distance) (upper : distance ≤ 32767) :
    offset start (place start distance) = distance := by
  have near : offset (place start 0) (place start distance) = distance - 0 :=
    offset_near start (by omega) (by omega)
  simpa using near

/-- The unsigned distance between two places in order. -/
theorem toNat_place_sub {first second : Int} (ordered : first ≤ second)
    (near : second - first < 65536) :
    ((place start second - place start first).toNat : Int) = second - first := by
  have left := toNat_place start first
  have right := toNat_place start second
  rw [UInt16.toNat_sub]
  have bound := (place start first).toNat_lt
  omega

theorem place_natCast (count : Nat) : place start count = start + UInt16.ofNat count := by
  apply UInt16.toNat_inj.mp
  have value := toNat_place start count
  rw [UInt16.toNat_add, UInt16.toNat_ofNat']
  omega

/-- Places of one parity hold numbers of one parity, as seen from `start`. -/
theorem place_parity (count : Nat) : (place start count - start).toNat % 2 = count % 2 := by
  have value := toNat_place start count
  have bound := start.toNat_lt
  rw [UInt16.toNat_sub]
  omega

end Place

/-- The distance from a base that has moved on by `k` is less by `k`, as long as the
number is not left more than half a turn behind. -/
theorem offset_advance (base x : UInt16) (k : Nat) (ahead : (k : Int) - 32768 ≤ offset base x) :
    offset (base + UInt16.ofNat k) x = offset base x - k := by
  have upper := offset_upper base x
  have near : offset (place base k) (place base (offset base x)) = offset base x - k :=
    offset_near base (by omega) (by omega)
  rwa [place_offset, place_natCast] at near

/-- A comparison of serial numbers as seen from a base: it gives the difference of
their signed distances, it orders the numbers strictly and totally, and it keeps the
order of two numbers when the base moves on by at most what leaves both in sight. -/
structure CircularOrder (compare : UInt16 → UInt16 → UInt16 → Int) : Prop where
  distance : ∀ base x y, compare base x y = signed (x - base) - signed (y - base)
  total : ∀ base, IsStrictTotalOrder UInt16 fun x y => compare base x y < 0
  equal : ∀ base x y, compare base x y = 0 ↔ x = y
  advance : ∀ base x y (k : Nat), (k : Int) - 32768 ≤ signed (x - base) →
    (k : Int) - 32768 ≤ signed (y - base) →
    compare (base + UInt16.ofNat k) x y = compare base x y

/-- The signed distances alone make the order. -/
theorem CircularOrder.of_distance {compare : UInt16 → UInt16 → UInt16 → Int}
    (distance : ∀ base x y, compare base x y = signed (x - base) - signed (y - base)) :
    CircularOrder compare := by
  have equal (base x y : UInt16) : compare base x y = 0 ↔ x = y := by
    rw [distance, signed_sub, signed_sub, ← offset_eq_iff base, Int.sub_eq_zero]
  constructor
  case distance => exact distance
  case equal => exact equal
  case total =>
    intro base
    refine { trichotomous := ?_, irrefl := ?_, trans := ?_ }
    · intro x y before after
      apply (equal base x y).mp
      rw [distance] at before after ⊢
      omega
    · intro x
      rw [distance]
      omega
    · intro x y z
      rw [distance, distance, distance]
      omega
  case advance =>
    intro base x y k aheadX aheadY
    rw [signed_sub] at aheadX aheadY
    simp only [distance, signed_sub]
    rw [offset_advance base x k aheadX, offset_advance base y k aheadY]
    omega

end Serial
