import Mathlib.Logic.Basic

/-!
Contract: two parties and what holds between them.

Owns: the sides of a pair (`Side`), access to and change of one side, and the rule
by which a relation between each side and the other is kept when one side changes.

Does not own: what the parties are.
-/

set_option autoImplicit false

inductive Side where
  | left
  | right
deriving DecidableEq, Repr

namespace Side

def other : Side → Side
  | left => right
  | right => left

@[simp] theorem other_other (side : Side) : side.other.other = side := by
  cases side <;> rfl

@[simp] theorem other_ne (side : Side) : side.other ≠ side := by
  cases side <;> decide

theorem eq_or_other (side here : Side) : here = side ∨ here = side.other := by
  cases side <;> cases here <;> simp [other]

end Side

/-- Two of a kind. -/
structure Duo (α : Type) where
  left : α
  right : α

namespace Duo

variable {α : Type} (duo : Duo α) (side : Side)

def get : Side → α
  | .left => duo.left
  | .right => duo.right

def set (value : α) : Duo α :=
  match side with
  | .left => { duo with left := value }
  | .right => { duo with right := value }

variable (value : α)

@[simp] theorem get_set_self : (duo.set side value).get side = value := by
  cases side <;> rfl

@[simp] theorem get_set_other : (duo.set side value).get side.other = duo.get side.other := by
  cases side <;> rfl

/-- A relation between each party and the other one. -/
def Related (relation : Side → α → α → Prop) : Prop :=
  ∀ side, relation side (duo.get side) (duo.get side.other)

@[simp] theorem set_get : duo.set side (duo.get side) = duo := by
  cases side <;> rfl

variable {duo side value}

/-- When one party changes, the relation has to be kept from its view and from the
other's. -/
theorem Related.set {relation : Side → α → α → Prop}
    (own : relation side value (duo.get side.other))
    (others : relation side.other (duo.get side.other) value) :
    (duo.set side value).Related relation := by
  intro here
  rcases side.eq_or_other here with rfl | rfl
  · rw [get_set_self, get_set_other]
    exact own
  · rw [get_set_other, Side.other_other, get_set_self]
    exact others

end Duo
