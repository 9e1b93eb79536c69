import Mathlib.Order.Lattice
import Mathlib.Algebra.Notation.Defs

/-!
# Floats as they compare

A `float` is a number, of a linear order in which the infinities have their places, or it is
not-a-number, with which every comparison is false. How numbers are rounded, and which sums are not
numbers, is up to the addition that is assumed where these values are added.
-/

namespace AtlasPay

/-- The values of a `float`, with its numbers from some type. -/
inductive PyFloat (R : Type) where
  | nan
  | number (x : R)
  deriving DecidableEq, Repr

namespace PyFloat

variable {R : Type}

/-- `a <= b`. -/
protected def le [LE R] : PyFloat R → PyFloat R → Prop
  | number x, number y => x ≤ y
  | _, _ => False

/-- `a < b`. -/
protected def lt [LT R] : PyFloat R → PyFloat R → Prop
  | number x, number y => x < y
  | _, _ => False

instance [LE R] : LE (PyFloat R) := ⟨PyFloat.le⟩

instance [LT R] : LT (PyFloat R) := ⟨PyFloat.lt⟩

instance [LE R] [DecidableLE R] : DecidableLE (PyFloat R)
  | number x, number y => inferInstanceAs (Decidable (x ≤ y))
  | nan, _ => .isFalse id
  | number _, nan => .isFalse id

instance [Zero R] : Zero (PyFloat R) := ⟨number 0⟩

/-- Sums without rounding, where no sum of numbers is not-a-number. -/
instance [Add R] : Add (PyFloat R) where
  add
    | number x, number y => number (x + y)
    | _, _ => nan

/-- A comparison fails when the opposite one holds, or for not-a-number. -/
theorem not_le_iff [LinearOrder R] {a b : PyFloat R} : ¬a ≤ b ↔ b < a ∨ a = nan ∨ b = nan := by
  cases a with
  | nan => exact iff_of_true id (Or.inr (Or.inl rfl))
  | number x =>
    cases b with
    | nan => exact iff_of_true id (Or.inr (Or.inr rfl))
    | number y =>
      simp only [reduceCtorEq, or_false]
      exact (not_le : ¬x ≤ y ↔ y < x)

end PyFloat

end AtlasPay
