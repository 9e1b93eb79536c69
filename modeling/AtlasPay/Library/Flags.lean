import Mathlib.Data.List.ReduceOption
import Mathlib.Data.List.Basic

/-!
# Named bits

Some bits of a word have names. What is reported of a word is the names of its set bits, in the
order of the bits. Where no two bits share a name, the report tells which of the named bits are set,
and nothing else.
-/

namespace Flags

variable {α : Type*}

/-- The names of the set bits that have one. -/
def reported (names : List (Option α)) (bits : List Bool) : List α :=
  (names.zip bits).filterMap fun (name, bit) => if bit then name else none

@[simp]
theorem reported_nil (bits : List Bool) : reported ([] : List (Option α)) bits = [] := rfl

/-- The first bit is reported when it is set and has a name. -/
@[simp]
theorem reported_cons (name : Option α) (names : List (Option α)) (bit : Bool) (bits : List Bool) :
    reported (name :: names) (bit :: bits) =
      (if bit then name else none).toList ++ reported names bits := by
  unfold reported
  rw [List.zip_cons_cons, List.filterMap_cons]
  cases bit <;> cases name <;> rfl

/-- Words are reported one after the other. -/
theorem reported_append {names names' : List (Option α)} {bits bits' : List Bool}
    (h : names.length = bits.length) :
    reported (names ++ names') (bits ++ bits') = reported names bits ++ reported names' bits' := by
  unfold reported
  rw [List.zip_append h, List.filterMap_append]

/-- Names are reported in the order of the bits. -/
theorem reported_sublist (names : List (Option α)) (bits : List Bool) :
    (reported names bits).Sublist names.reduceOption := by
  induction names generalizing bits with
  | nil => exact List.Sublist.slnil
  | cons name names ih =>
    cases bits with
    | nil => exact List.nil_sublist _
    | cons bit bits =>
      rw [reported_cons]
      cases name with
      | none => simpa using ih bits
      | some name =>
        rw [List.reduceOption_cons_of_some]
        cases bit with
        | false => exact (ih bits).cons name
        | true => exact (ih bits).cons_cons name

/-- A name is reported when it is that of a set bit. -/
theorem mem_reported_iff {names : List (Option α)} {bits : List Bool} {name : α} :
    name ∈ reported names bits ↔ ∃ i : ℕ, names[i]? = some (some name) ∧ bits[i]? = some true := by
  unfold reported
  rw [List.mem_filterMap]
  constructor
  · rintro ⟨⟨found, bit⟩, hmem, heq⟩
    obtain ⟨i, hi⟩ := List.mem_iff_getElem?.mp hmem
    obtain ⟨hname, hbit⟩ := List.getElem?_zip_eq_some.mp hi
    cases bit with
    | false => cases heq
    | true =>
      obtain rfl : found = some name := heq
      exact ⟨i, hname, hbit⟩
  · rintro ⟨i, hname, hbit⟩
    exact ⟨(some name, true), List.mem_of_getElem? (List.getElem?_zip_eq_some.mpr ⟨hname, hbit⟩),
      rfl⟩

/-- Where no two bits share a name, words are reported alike when they agree on the named bits. -/
theorem reported_eq_iff {names : List (Option α)} (hnodup : names.reduceOption.Nodup)
    {bits bits' : List Bool} (hbits : names.length = bits.length)
    (hbits' : names.length = bits'.length) :
    reported names bits = reported names bits' ↔
      ∀ (i : ℕ) (name : α), names[i]? = some (some name) → bits[i]? = bits'[i]? := by
  induction names generalizing bits bits' with
  | nil => simp
  | cons name names ih =>
    cases bits with
    | nil => simp at hbits
    | cons bit bits =>
    cases bits' with
    | nil => simp at hbits'
    | cons bit' bits' =>
      simp only [List.length_cons, Nat.add_right_cancel_iff] at hbits hbits'
      rw [reported_cons, reported_cons]
      -- The first bit on its own, then the others, whose places are one less.
      have hsplit : (∀ (i : ℕ) (found : α), (name :: names)[i]? = some (some found) →
          (bit :: bits)[i]? = (bit' :: bits')[i]?) ↔ (name ≠ none → bit = bit') ∧
          ∀ (i : ℕ) (found : α), names[i]? = some (some found) → bits[i]? = bits'[i]? := by
        constructor
        · intro h
          refine ⟨fun hne => ?_, fun i found hi => h (i + 1) found hi⟩
          obtain ⟨found, rfl⟩ := Option.ne_none_iff_exists'.mp hne
          exact Option.some.inj (h 0 found rfl)
        · rintro ⟨hfirst, hrest⟩ i found hi
          cases i with
          | zero =>
            have hname : name = some found := by simpa using hi
            simp [hfirst (by simp [hname])]
          | succ i => exact hrest i found hi
      rw [hsplit]
      cases name with
      | none =>
        rw [List.reduceOption_cons_of_none] at hnodup
        simpa using ih hnodup hbits hbits'
      | some name =>
        rw [List.reduceOption_cons_of_some, List.nodup_cons] at hnodup
        rw [← ih hnodup.2 hbits hbits']
        have habsent : ∀ bits, name ∉ reported names bits := fun bits hmem =>
          hnodup.1 ((reported_sublist names bits).subset hmem)
        cases bit <;> cases bit'
        · simp
        · simp only [Bool.false_eq_true, if_false, if_true, Option.toList, List.nil_append,
            List.singleton_append, ne_eq, reduceCtorEq, not_false_iff, forall_const, false_and,
            iff_false]
          intro h
          exact habsent bits (h ▸ List.mem_cons_self)
        · simp only [Bool.false_eq_true, if_false, if_true, Option.toList, List.nil_append,
            List.singleton_append, ne_eq, reduceCtorEq, not_false_iff, forall_const, false_and,
            iff_false]
          intro h
          exact habsent bits' (h ▸ List.mem_cons_self)
        · simp

end Flags
