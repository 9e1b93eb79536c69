import Mathlib.Data.Set.Function

/-!
# Outer joins and references

The rows of a left outer join that are joined to none on the right are those for which a partner is
missing (`antiJoin`). Two such joins, one from each side, show that nothing is missing; they show
that the rows are linked one to one when, besides, no two rows on the right refer to the same row on
the left (`oneToOne_iff`).
-/

variable {α β κ : Type*}

/-- The rows on the left that are joined to none on the right. -/
def antiJoin (joins : α → β → Bool) (left : List α) (right : List β) : List α :=
  left.filter fun a => !right.any (joins a)

/-- None is left when each has a partner. -/
theorem antiJoin_eq_nil_iff {joins : α → β → Bool} {left : List α} {right : List β} :
    antiJoin joins left right = [] ↔ ∀ a ∈ left, ∃ b ∈ right, joins a b = true := by
  unfold antiJoin
  rw [List.filter_eq_nil_iff]
  refine forall₂_congr fun a _ => ?_
  rw [Bool.not_eq_true', Bool.not_eq_false, List.any_eq_true]

section References

variable (key : α → κ) (reference : β → Option κ) (matching : α → β → Prop) (left : Set α)
  (right : Set β)

/-- Each row on the left has exactly one reference, and each reference exactly one row, and the two
match. -/
structure OneToOne : Prop where
  referred : ∀ a ∈ left, ∃! b, b ∈ right ∧ reference b = some (key a)
  matching : ∀ a ∈ left, ∀ b ∈ right, reference b = some (key a) → matching a b
  refers : ∀ b ∈ right, ∀ k, reference b = some k → ∃! a, a ∈ left ∧ key a = k

variable {key reference matching left right}

/-- Where nothing is missing on either side, the rows are linked one to one exactly when no two rows
refer to the same one. -/
theorem oneToOne_iff (hkey : Set.InjOn key left)
    (hleft : ∀ a ∈ left, ∃ b ∈ right, reference b = some (key a) ∧ matching a b)
    (hright : ∀ b ∈ right, ∀ k, reference b = some k → ∃ a ∈ left, key a = k) :
    OneToOne key reference matching left right ↔
      ∀ b ∈ right, ∀ b' ∈ right, ∀ k, reference b = some k → reference b' = some k → b = b' := by
  constructor
  · intro h b hb b' hb' k hk hk'
    obtain ⟨a, ha, rfl⟩ := hright b hb k hk
    exact (h.referred a ha).unique ⟨hb, hk⟩ ⟨hb', hk'⟩
  · intro hdistinct
    -- The reference that matches is the only one.
    refine ⟨fun a ha => ?_, fun a ha b hb hk => ?_, fun b hb k hk => ?_⟩
    · obtain ⟨b, hb, hk, -⟩ := hleft a ha
      exact ⟨b, ⟨hb, hk⟩, fun b' h' => hdistinct b' h'.1 b hb _ h'.2 hk⟩
    · obtain ⟨b', hb', hk', hmatching⟩ := hleft a ha
      rwa [hdistinct b hb b' hb' _ hk hk']
    · obtain ⟨a, ha, hak⟩ := hright b hb k hk
      exact ⟨a, ⟨ha, hak⟩, fun a' h' => hkey h'.1 ha (h'.2.trans hak.symm)⟩

end References
