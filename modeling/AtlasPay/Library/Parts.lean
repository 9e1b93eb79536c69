import Mathlib.Data.List.Nodup
import Mathlib.Data.Nat.Notation

/-!
# Labelled parts laid end to end

A list can be given as parts that follow one another, each with a label. When no two parts have the
same label, every place of the list is in the part of exactly one label (`existsUnique_within`),
and the part is what the list has at its place (`StartsAt.take_drop`).
-/

namespace Parts

variable {ι α : Type*}

/-- The parts, one after the other. -/
def joined (parts : List (ι × List α)) : List α := (parts.map Prod.snd).flatten

/-- A part with this label starts at this place. -/
def StartsAt (parts : List (ι × List α)) (label : ι) (part : List α) (start : ℕ) : Prop :=
  ∃ before after, parts = before ++ (label, part) :: after ∧ (joined before).length = start

/-- This place is in a part with this label. -/
def Within (parts : List (ι × List α)) (label : ι) (place : ℕ) : Prop :=
  ∃ part start, StartsAt parts label part start ∧ start ≤ place ∧ place < start + part.length

variable {parts : List (ι × List α)} {label : ι} {part : List α} {start place : ℕ}

/-- Nothing is joined from no parts. -/
@[simp]
theorem joined_nil : joined ([] : List (ι × List α)) = [] := rfl

/-- The first part is followed by the others. -/
@[simp]
theorem joined_cons (head : ι × List α) : joined (head :: parts) = head.2 ++ joined parts := rfl

/-- Parts that follow other parts. -/
@[simp]
theorem joined_append (parts parts' : List (ι × List α)) :
    joined (parts ++ parts') = joined parts ++ joined parts' := by
  unfold joined
  rw [List.map_append, List.flatten_append]

/-- A part is what the joined list has at its place. -/
theorem StartsAt.take_drop (h : StartsAt parts label part start) :
    ((joined parts).drop start).take part.length = part := by
  obtain ⟨before, after, rfl, rfl⟩ := h
  rw [joined_append, List.drop_left, joined_cons, List.take_left]

/-- A part is one of the parts. -/
theorem StartsAt.mem (h : StartsAt parts label part start) : (label, part) ∈ parts := by
  obtain ⟨before, after, rfl, -⟩ := h
  exact List.mem_append_right _ List.mem_cons_self

/-- A part is the first one, or starts as much later as the first one is long. -/
theorem startsAt_cons {head : ι × List α} :
    StartsAt (head :: parts) label part start ↔
      head = (label, part) ∧ start = 0 ∨
        ∃ start', StartsAt parts label part start' ∧ start = head.2.length + start' := by
  constructor
  · rintro ⟨before, after, hparts, rfl⟩
    -- It is the first one exactly when nothing stands before it.
    cases before with
    | nil =>
      obtain ⟨rfl, -⟩ := List.cons.inj hparts
      exact Or.inl ⟨rfl, rfl⟩
    | cons first before =>
      obtain ⟨rfl, rfl⟩ := List.cons.inj hparts
      exact Or.inr ⟨_, ⟨before, after, rfl, rfl⟩, by rw [joined_cons, List.length_append]⟩
  · rintro (⟨rfl, rfl⟩ | ⟨start', ⟨before, after, rfl, rfl⟩, rfl⟩)
    · exact ⟨[], parts, rfl, rfl⟩
    · exact ⟨head :: before, after, rfl, by rw [joined_cons, List.length_append]⟩

/-- A place is in the first part, or as much later as that part is long. -/
theorem within_cons {head : ι × List α} :
    Within (head :: parts) label place ↔
      head.1 = label ∧ place < head.2.length ∨
        head.2.length ≤ place ∧ Within parts label (place - head.2.length) := by
  unfold Within
  simp only [startsAt_cons]
  constructor
  · rintro ⟨part, start, ⟨rfl, rfl⟩ | ⟨start', hstart, rfl⟩, hle, hlt⟩
    · rw [Nat.zero_add] at hlt
      exact Or.inl ⟨rfl, hlt⟩
    · exact Or.inr ⟨by omega, part, start', hstart, by omega, by omega⟩
  · rintro (⟨rfl, hlt⟩ | ⟨hle, part, start', hstart, hle', hlt⟩)
    · exact ⟨head.2, 0, Or.inl ⟨rfl, rfl⟩, Nat.zero_le _, by omega⟩
    · exact ⟨part, _, Or.inr ⟨start', hstart, rfl⟩, by omega, by omega⟩

/-- A place is only in parts that there are. -/
theorem Within.mem (h : Within parts label place) : label ∈ parts.map Prod.fst := by
  obtain ⟨part, start, hstart, -⟩ := h
  exact List.mem_map_of_mem (f := Prod.fst) hstart.mem

/-- Parts with different labels share out the places of the joined list: each place is in the part
of exactly one label. -/
theorem existsUnique_within (hnodup : (parts.map Prod.fst).Nodup)
    (hplace : place < (joined parts).length) : ∃! label, Within parts label place := by
  induction parts generalizing place with
  | nil => exact absurd hplace (Nat.not_lt_zero place)
  | cons head parts ih =>
    obtain ⟨hfresh, hrest⟩ := List.nodup_cons.mp hnodup
    rw [joined_cons, List.length_append] at hplace
    simp only [within_cons]
    by_cases hlt : place < head.2.length
    · -- The other parts start later.
      refine ⟨head.1, Or.inl ⟨rfl, hlt⟩, fun label hlabel => ?_⟩
      rcases hlabel with ⟨heq, -⟩ | ⟨hle, -⟩
      · exact heq.symm
      · omega
    · -- The place is counted from the end of the first part, among the other parts.
      have hrestPlace : place - head.2.length < (joined parts).length := by omega
      obtain ⟨label, hwithin, hunique⟩ := ih hrest hrestPlace
      refine ⟨label, Or.inr ⟨by omega, hwithin⟩, fun label' hlabel' => ?_⟩
      rcases hlabel' with ⟨-, hlt'⟩ | ⟨-, hwithin'⟩
      · exact absurd hlt' hlt
      · exact hunique label' hwithin'

end Parts
