import Mathlib.Data.List.Perm.Basic
import Mathlib.Order.Basic
import Mathlib.Order.Lattice

/-!
# The members of a list with the largest value

`members f xs` keeps the members of a list at which a function is largest. There is one of them
exactly when one place in the list has a larger value than all other places, and the order of the
list only decides the order in which they are kept.
-/

namespace Argmax

open List

variable {α : Type*} (f : α → ℕ)

/-- The members at which `f` is largest. -/
def members (xs : List α) : List α := xs.filter fun x => f x = (xs.map f).foldl max 0

/-- A running maximum is bounded by what bounds all that it runs over. -/
theorem foldl_max_le_iff {values : List ℕ} {start bound : ℕ} :
    values.foldl max start ≤ bound ↔ start ≤ bound ∧ ∀ value ∈ values, value ≤ bound := by
  induction values generalizing start with
  | nil => simp
  | cons value values ih =>
    rw [foldl_cons, ih, Nat.max_le, forall_mem_cons, and_assoc]

/-- A member's value is at most the largest one. -/
theorem le_foldl_max {xs : List α} {x : α} (hx : x ∈ xs) : f x ≤ (xs.map f).foldl max 0 :=
  (foldl_max_le_iff.mp le_rfl).2 (f x) (mem_map_of_mem hx)

/-- A member with a value as large as all others has the largest one. -/
theorem eq_foldl_max {xs : List α} {x : α} (hx : x ∈ xs) (hall : ∀ y ∈ xs, f y ≤ f x) :
    f x = (xs.map f).foldl max 0 := by
  have hle : (xs.map f).foldl max 0 ≤ f x :=
    foldl_max_le_iff.mpr ⟨Nat.zero_le _, forall_mem_map.mpr hall⟩
  exact le_antisymm (le_foldl_max f hx) hle

/-- Permuted lists keep the same members. -/
theorem members_perm {xs ys : List α} (h : xs.Perm ys) : (members f xs).Perm (members f ys) := by
  have hmax : (xs.map f).foldl max 0 = (ys.map f).foldl max 0 := (h.map f).foldl_eq 0
  unfold members
  rw [hmax]
  exact h.filter _

/-- One member is kept exactly when it has a larger value than those at all other places. -/
theorem members_eq_singleton_iff {xs : List α} {a : α} : members f xs = [a] ↔
    ∃ before after, xs = before ++ a :: after ∧ ∀ b ∈ before ++ after, f b < f a := by
  constructor
  · intro h
    obtain ⟨before, after, rfl, hbefore, hmax, hafter⟩ := filter_eq_cons_iff.mp h
    refine ⟨before, after, rfl, fun b hb => ?_⟩
    rw [filter_eq_nil_iff] at hafter
    -- A member at another place is not kept, so its value is not the largest one.
    have hne : f b ≠ ((before ++ a :: after).map f).foldl max 0 := by
      rcases mem_append.mp hb with hb | hb
      · simpa using hbefore b hb
      · simpa using hafter b hb
    have hmem : b ∈ before ++ a :: after := by
      rcases mem_append.mp hb with hb | hb
      · exact mem_append_left _ hb
      · exact mem_append_right _ (mem_cons_of_mem _ hb)
    have hle := le_foldl_max f hmem
    have hmax : f a = ((before ++ a :: after).map f).foldl max 0 := by simpa using hmax
    omega
  · rintro ⟨before, after, rfl, hall⟩
    have hmax : f a = ((before ++ a :: after).map f).foldl max 0 := by
      refine eq_foldl_max f (mem_append_right _ mem_cons_self) fun y hy => ?_
      rcases mem_append.mp hy with hy | hy
      · exact (hall y (mem_append_left _ hy)).le
      · rcases mem_cons.mp hy with rfl | hy
        · exact le_rfl
        · exact (hall y (mem_append_right _ hy)).le
    -- The filter drops what stands before the member and after it.
    have hdrop : ∀ ys : List α, (∀ y ∈ ys, f y < f a) → (ys.filter fun x => f x = f a) = [] := by
      intro ys hys
      rw [filter_eq_nil_iff]
      intro y hy
      simpa using (hys y hy).ne
    unfold members
    rw [← hmax, filter_append, filter_cons_of_pos (by simp),
      hdrop before fun y hy => hall y (mem_append_left _ hy),
      hdrop after fun y hy => hall y (mem_append_right _ hy), nil_append]

end Argmax
