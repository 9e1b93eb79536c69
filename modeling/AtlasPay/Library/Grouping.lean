import Mathlib.Algebra.BigOperators.Group.Finset.Basic
import Mathlib.Algebra.BigOperators.Group.Finset.Piecewise
import Mathlib.Algebra.GroupWithZero.Nat
import Mathlib.Algebra.Order.BigOperators.Group.Finset
import Mathlib.Data.List.Dedup
import Mathlib.Data.List.Sort

/-!
# Groups

The groups of a list are its sublists on which a key is constant, in some order of the keys. What is
counted in each group sums to what is counted in the list.
-/

variable {α κ : Type*} [DecidableEq κ]

/-- The keys of a list with the rows of each, in an order of the keys. -/
def groups (key : α → κ) (le : κ → κ → Bool) (rows : List α) : List (κ × List α) :=
  ((rows.map key).dedup.insertionSort fun a b => le a b).map fun k =>
    (k, rows.filter fun row => key row = k)

/-- What is counted is a sum over the rows. -/
theorem sum_map_ite (p : α → Bool) (rows : List α) :
    (rows.map fun row => if p row then 1 else 0).sum = rows.countP p := by
  induction rows with
  | nil => rfl
  | cons row rows ih => rw [List.map_cons, List.sum_cons, ih, List.countP_cons, Nat.add_comm]

/-- What meets one of two conditions is counted by each, if nothing meets both. -/
theorem countP_or {p q : α → Bool} {rows : List α} (h : ∀ row ∈ rows, p row → ¬q row) :
    rows.countP (fun row => p row || q row) = rows.countP p + rows.countP q := by
  induction rows with
  | nil => rfl
  | cons row rows ih =>
    obtain ⟨hrow, hrest⟩ := List.forall_mem_cons.mp h
    rw [List.countP_cons, List.countP_cons, List.countP_cons, ih hrest]
    cases hp : p row with
    | true =>
      have hq : q row = false := Bool.eq_false_of_not_eq_true (hrow hp)
      simp only [hq, Bool.or_false, if_true, Bool.false_eq_true, if_false]
      omega
    | false =>
      simp only [Bool.false_or, Bool.false_eq_true, if_false]
      omega

/-- Rows are counted by their keys, if these are among the given ones. -/
theorem sum_countP_filter (key : α → κ) (p : α → Bool) {rows : List α} {keys : Finset κ}
    (hkeys : ∀ row ∈ rows, key row ∈ keys) :
    ∑ k ∈ keys, (rows.filter fun row => key row = k).countP p = rows.countP p := by
  induction rows with
  | nil => simp
  | cons row rows ih =>
    obtain ⟨hkey, hrest⟩ := List.forall_mem_cons.mp hkeys
    have hcount : ∀ k, ((row :: rows).filter fun row => key row = k).countP p =
        (rows.filter fun row => key row = k).countP p +
          if key row = k then (if p row then 1 else 0) else 0 := by
      intro k
      by_cases hk : key row = k
      · rw [List.filter_cons, if_pos (decide_eq_true hk), List.countP_cons, if_pos hk]
      · rw [List.filter_cons, decide_eq_false hk, if_neg hk, Nat.add_zero,
          if_neg Bool.false_ne_true]
    rw [Finset.sum_congr rfl fun k _ => hcount k, Finset.sum_add_distrib, ih hrest,
      Finset.sum_ite_eq, if_pos hkey, List.countP_cons]

/-- What is counted under each key no more often than two other things together is so in all. -/
theorem countP_le_of_keys (key : α → κ) {p q r : α → Bool} {rows : List α}
    (h : ∀ k, (rows.filter fun row => key row = k).countP p ≤
      (rows.filter fun row => key row = k).countP q +
        (rows.filter fun row => key row = k).countP r) :
    rows.countP p ≤ rows.countP q + rows.countP r := by
  have hkeys : ∀ row ∈ rows, key row ∈ (rows.map key).toFinset := fun row hrow =>
    List.mem_toFinset.mpr (List.mem_map_of_mem hrow)
  rw [← sum_countP_filter key p hkeys, ← sum_countP_filter key q hkeys,
    ← sum_countP_filter key r hkeys, ← Finset.sum_add_distrib]
  exact Finset.sum_le_sum fun k _ => h k

/-- The counts in the groups sum to that of the list. -/
theorem sum_countP_groups (key : α → κ) (le : κ → κ → Bool) (p : α → Bool) (rows : List α) :
    ((groups key le rows).map fun group => group.2.countP p).sum = rows.countP p := by
  have hperm := List.perm_insertionSort (fun a b => le a b) (rows.map key).dedup
  have hkeys : ∀ row ∈ rows, key row ∈ (rows.map key).dedup.toFinset := fun row hrow =>
    List.mem_toFinset.mpr (List.mem_dedup.mpr (List.mem_map_of_mem hrow))
  calc ((groups key le rows).map fun group => group.2.countP p).sum
      = (((rows.map key).dedup.insertionSort fun a b => le a b).map fun k =>
          (rows.filter fun row => key row = k).countP p).sum := by rw [groups, List.map_map]; rfl
    _ = ((rows.map key).dedup.map fun k =>
          (rows.filter fun row => key row = k).countP p).sum := (hperm.map _).sum_eq
    _ = ∑ k ∈ (rows.map key).dedup.toFinset, (rows.filter fun row => key row = k).countP p :=
        (List.sum_toFinset _ (List.nodup_dedup _)).symm
    _ = rows.countP p := sum_countP_filter key p hkeys

/-- The groups have the rows of the list. -/
theorem sum_length_groups (key : α → κ) (le : κ → κ → Bool) (rows : List α) :
    ((groups key le rows).map fun group => group.2.length).sum = rows.length := by
  have hsum := sum_countP_groups key le (fun _ => true) rows
  simpa only [List.countP_true] using hsum

/-! ## The keys -/

/-- A group is that of a key, and has all of its rows. -/
theorem mem_groups_iff {key : α → κ} {le : κ → κ → Bool} {rows : List α} {group : κ × List α} :
    group ∈ groups key le rows ↔
      group.1 ∈ rows.map key ∧ group.2 = rows.filter fun row => key row = group.1 := by
  unfold groups
  constructor
  · intro h
    obtain ⟨k, hk, rfl⟩ := List.mem_map.mp h
    exact ⟨List.mem_dedup.mp ((List.mem_insertionSort _).mp hk), rfl⟩
  · rintro ⟨hkey, hrows⟩
    refine List.mem_map.mpr ⟨group.1, (List.mem_insertionSort _).mpr (List.mem_dedup.mpr hkey), ?_⟩
    rw [← hrows]

/-- A group is not empty. -/
theorem ne_nil_of_mem_groups {key : α → κ} {le : κ → κ → Bool} {rows : List α}
    {group : κ × List α} (h : group ∈ groups key le rows) : group.2 ≠ [] := by
  obtain ⟨hkey, hrows⟩ := mem_groups_iff.mp h
  obtain ⟨row, hrow, hk⟩ := List.mem_map.mp hkey
  have hmem : row ∈ group.2 := by
    rw [hrows]
    exact List.mem_filter.mpr ⟨hrow, decide_eq_true hk⟩
  exact List.ne_nil_of_mem hmem

/-- The keys of the groups are those of the rows, in their order. -/
theorem keys_groups (key : α → κ) (le : κ → κ → Bool) (rows : List α) :
    (groups key le rows).map Prod.fst =
      (rows.map key).dedup.insertionSort fun a b => le a b := by
  rw [groups, List.map_map]
  exact List.map_id _

/-- Each key has one group. -/
theorem nodup_keys_groups (key : α → κ) (le : κ → κ → Bool) (rows : List α) :
    ((groups key le rows).map Prod.fst).Nodup := by
  rw [keys_groups]
  exact (List.perm_insertionSort _ _).nodup_iff.mpr (List.nodup_dedup _)

/-- A list that is made from keys has the value of each. -/
theorem lookup_map_of_keys {β : Type*} (f : κ → β) (keys : List κ) (k : κ) :
    (keys.map fun k => (k, f k)).lookup k = if k ∈ keys then some (f k) else none := by
  induction keys with
  | nil => rfl
  | cons first keys ih =>
    rw [List.map_cons, List.lookup_cons, ih]
    by_cases h : k = first
    · subst h
      simp
    · rw [beq_eq_false_iff_ne.mpr h]
      simp [h]

/-- The count under a key is that of the rows with the key. -/
theorem lookup_groups (key : α → κ) (le : κ → κ → Bool) (rows : List α) (k : κ) :
    (((groups key le rows).map fun group => (group.1, group.2.length)).lookup k).getD 0 =
      rows.countP fun row => key row = k := by
  have hkeys := lookup_map_of_keys (fun k => (rows.filter fun row => key row = k).length)
    ((rows.map key).dedup.insertionSort fun a b => le a b) k
  rw [groups, List.map_map]
  refine (congrArg (·.getD 0) hkeys).trans ?_
  rw [List.countP_eq_length_filter]
  split_ifs with hmem
  · rfl
  · rw [List.mem_insertionSort, List.mem_dedup] at hmem
    have hnone : (rows.filter fun row => key row = k) = [] := by
      refine List.filter_eq_nil_iff.mpr fun row hrow hkey => hmem ?_
      rw [← of_decide_eq_true hkey]
      exact List.mem_map_of_mem hrow
    rw [hnone]
    rfl

/-! ## Some of the groups -/

/-- The counts in the groups of some keys sum to that of their rows. -/
theorem sum_countP_filter_groups (key : α → κ) (le : κ → κ → Bool) (select : κ → Bool)
    (p : α → Bool) (rows : List α) :
    (((groups key le rows).filter fun group => select group.1).map
        fun group => group.2.countP p).sum =
      rows.countP fun row => select (key row) && p row := by
  rw [← sum_countP_groups key le]
  have hkeys : ∀ group ∈ groups key le rows, ∀ row ∈ group.2, key row = group.1 := by
    intro group hgroup row hrow
    rw [(mem_groups_iff.mp hgroup).2] at hrow
    exact of_decide_eq_true (List.mem_filter.mp hrow).2
  generalize groups key le rows = all at hkeys ⊢
  induction all with
  | nil => rfl
  | cons group rest ih =>
    obtain ⟨hgroup, hrest⟩ := List.forall_mem_cons.mp hkeys
    have hcount : group.2.countP (fun row => select (key row) && p row) =
        if select group.1 then group.2.countP p else 0 := by
      have hsame : group.2.countP (fun row => select (key row) && p row) =
          group.2.countP fun row => select group.1 && p row :=
        List.countP_congr fun row hrow => by rw [hgroup row hrow]
      rw [hsame]
      cases select group.1 <;> simp
    rw [List.map_cons, List.sum_cons, hcount, ← ih hrest, List.filter_cons]
    split_ifs with hselect
    · rw [List.map_cons, List.sum_cons]
    · rw [Nat.zero_add]
