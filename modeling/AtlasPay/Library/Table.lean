import Mathlib.Algebra.BigOperators.Group.List.Basic
import Mathlib.Data.List.AList
import Mathlib.Data.List.Nodup
import Mathlib.Data.Set.Basic

/-!
# Tables with a primary key

A table is the list of its rows in the order in which they were inserted, no two of them with one
key. Rows are put, erased, modified and merged; `find?` reads a table back after each of these, and
what refers to rows is summed row by row or at once (`sum_references`). `Drift` is what may happen
to a table behind the back of a reader that has locked some of its keys, and `Grows` what happens
to rows that none removes. Last, what is found in an association list after a value was put or
erased.
-/

universe u v w

/-- Rows in the order in which they were inserted, no two with one key. -/
structure Table {κ : Type u} {ρ : Type v} (key : ρ → κ) where
  /-- The rows. -/
  rows : List ρ
  nodup : (rows.map key).Nodup

namespace Table

variable {κ : Type u} {ρ : Type v} {key : ρ → κ}

/-- A table is its rows. -/
theorem ext {t t' : Table key} (h : t.rows = t'.rows) : t = t' := by
  cases t
  cases t'
  cases h
  rfl

/-- No rows. -/
def empty : Table key := ⟨[], List.nodup_nil⟩

/-- Every row is rewritten, under the same key. -/
def modify (t : Table key) (f : ρ → ρ) (hf : ∀ row, key (f row) = key row) : Table key where
  rows := t.rows.map f
  nodup := by
    have hkey : key ∘ f = key := funext hf
    rw [List.map_map, hkey]
    exact t.nodup

/-- Rows with one key are one row. -/
theorem eq_of_key_eq {t : Table key} {row row' : ρ} (h : row ∈ t.rows) (h' : row' ∈ t.rows)
    (heq : key row = key row') : row = row' :=
  List.inj_on_of_nodup_map t.nodup h h' heq

@[simp]
theorem rows_empty : (empty : Table key).rows = [] := rfl

@[simp]
theorem rows_modify (t : Table key) (f : ρ → ρ) (hf : ∀ row, key (f row) = key row) :
    (t.modify f hf).rows = t.rows.map f := rfl

/-- The first row with a value in a column that is not the key. -/
def findBy {β : Type w} [DecidableEq β] (t : Table key) (column : ρ → β) (b : β) : Option ρ :=
  t.rows.find? fun row => column row = b

/-- Nothing is found by a value that no row has in the column. -/
theorem findBy_eq_none_iff {β : Type w} [DecidableEq β] {t : Table key} {column : ρ → β} {b : β} :
    t.findBy column b = none ↔ ∀ row ∈ t.rows, column row ≠ b := by
  unfold findBy
  simp

variable [DecidableEq κ]

/-- The row with a key. -/
def find? (t : Table key) (k : κ) : Option ρ := t.rows.find? fun row => key row = k

/-- The rows with other keys. -/
def erase (t : Table key) (k : κ) : Table key where
  rows := t.rows.filter fun row => key row ≠ k
  nodup := t.nodup.sublist (t.rows.filter_sublist.map key)

/-- A row is added, in the place of the row with its key if there is one. -/
def put (t : Table key) (row : ρ) : Table key where
  rows := (t.erase (key row)).rows ++ [row]
  nodup := by
    rw [List.map_append, List.map_singleton, ← List.concat_eq_append]
    refine (t.erase (key row)).nodup.concat fun hmem => ?_
    obtain ⟨row', hrow', hkey⟩ := List.mem_map.mp hmem
    have hne := (List.mem_filter.mp hrow').2
    simp [hkey] at hne

/-- A row is found under its key, and only there. -/
theorem find?_eq_some_iff {t : Table key} {k : κ} {row : ρ} :
    t.find? k = some row ↔ row ∈ t.rows ∧ key row = k := by
  constructor
  · intro h
    have hkey := List.find?_some h
    exact ⟨List.mem_of_find?_eq_some h, by simpa using hkey⟩
  · rintro ⟨hmem, rfl⟩
    cases hfind : t.find? (key row) with
    | none =>
      have hnone := List.find?_eq_none.mp hfind row hmem
      simp at hnone
    | some row' =>
      have hkey := List.find?_some hfind
      have heq : row' = row :=
        eq_of_key_eq (List.mem_of_find?_eq_some hfind) hmem (by simpa using hkey)
      rw [heq]

/-- Nothing is found under a key that no row has. -/
theorem find?_eq_none_iff {t : Table key} {k : κ} :
    t.find? k = none ↔ ∀ row ∈ t.rows, key row ≠ k := by
  unfold find?
  simp

@[simp]
theorem rows_erase (t : Table key) (k : κ) :
    (t.erase k).rows = t.rows.filter fun row => key row ≠ k := rfl

@[simp]
theorem rows_put (t : Table key) (row : ρ) :
    (t.put row).rows = (t.erase (key row)).rows ++ [row] := rfl

@[simp]
theorem find?_empty (k : κ) : (empty : Table key).find? k = none := rfl

/-- Erasing a key that no row has changes nothing. -/
theorem rows_erase_of_absent {t : Table key} {k : κ} (h : t.find? k = none) :
    (t.erase k).rows = t.rows := by
  refine List.filter_eq_self.mpr fun row hrow => ?_
  simpa using find?_eq_none_iff.mp h row hrow

/-- A row with a new key is added at the end. -/
theorem rows_put_of_absent {t : Table key} {row : ρ} (h : t.find? (key row) = none) :
    (t.put row).rows = t.rows ++ [row] := by
  rw [rows_put, rows_erase_of_absent h]

/-- A row is there after putting one when it is that one or was there. -/
theorem mem_rows_of_mem_put {t : Table key} {row row' : ρ} (h : row' ∈ (t.put row).rows) :
    row' = row ∨ row' ∈ t.rows := by
  rw [rows_put, List.mem_append, List.mem_singleton, rows_erase] at h
  exact h.symm.imp_right List.mem_of_mem_filter

/-- What is found after erasing. -/
@[simp]
theorem find?_erase (t : Table key) (k k' : κ) :
    (t.erase k').find? k = if k' = k then none else t.find? k := by
  unfold erase find?
  rw [List.find?_filter]
  split
  · next h =>
    refine List.find?_eq_none.mpr fun row _ => ?_
    simp [h]
  · next h =>
    refine congrArg (fun p => List.find? p t.rows) (funext fun row => ?_)
    by_cases hrow : key row = k
    · simp [hrow, Ne.symm h]
    · simp [hrow]

/-- What is found after putting a row. -/
@[simp]
theorem find?_put (t : Table key) (row : ρ) (k : κ) :
    (t.put row).find? k = if key row = k then some row else t.find? k := by
  have happend : (t.put row).find? k =
      ((t.erase (key row)).find? k).or (if key row = k then some row else none) := by
    unfold put find?
    rw [List.find?_append, List.find?_singleton]
    simp
  rw [happend, find?_erase]
  split <;> simp

/-- What is found after rewriting. -/
@[simp]
theorem find?_modify (t : Table key) (f : ρ → ρ) (hf : ∀ row, key (f row) = key row) (k : κ) :
    (t.modify f hf).find? k = (t.find? k).map f := by
  have hkey : (fun row => decide (key row = k)) ∘ f = fun row => decide (key row = k) := by
    funext row
    simp [hf]
  unfold find? modify
  rw [List.find?_map, hkey]

/-- A row is merged into the one with its key, or added if there is none. -/
def upsert (t : Table key) (row : ρ) (merge : ρ → ρ) (hmerge : ∀ row, key (merge row) = key row) :
    Table key :=
  if (t.find? (key row)).isSome then
    t.modify (fun row' => if key row' = key row then merge row' else row') fun row' => by
      split
      · exact hmerge row'
      · rfl
  else t.put row

/-- What is found after an upsert. -/
theorem find?_upsert (t : Table key) (row : ρ) (merge : ρ → ρ)
    (hmerge : ∀ row, key (merge row) = key row) (k : κ) :
    (t.upsert row merge hmerge).find? k =
      if key row = k then some (((t.find? k).map merge).getD row) else t.find? k := by
  unfold upsert
  cases hfound : t.find? (key row) with
  | none =>
    rw [if_neg (by simp), find?_put]
    split
    · next h => rw [← h, hfound]; rfl
    · rfl
  | some found =>
    rw [if_pos Option.isSome_some, find?_modify]
    by_cases hk : key row = k
    · subst hk
      rw [if_pos rfl, hfound, Option.map_some, if_pos (find?_eq_some_iff.mp hfound).2]
      rfl
    · rw [if_neg hk]
      cases hother : t.find? k with
      | none => rfl
      | some other =>
        have hne : key other ≠ key row := by
          rw [(find?_eq_some_iff.mp hother).2]
          exact Ne.symm hk
        rw [Option.map_some, if_neg hne]

/-- A row is there after an upsert when it has the key of the upserted one or was there. -/
theorem key_eq_or_mem_of_mem_upsert {t : Table key} {row row' : ρ} {merge : ρ → ρ}
    {hmerge : ∀ row, key (merge row) = key row} (h : row' ∈ (t.upsert row merge hmerge).rows) :
    key row' = key row ∨ row' ∈ t.rows := by
  have hfound := find?_eq_some_iff.mpr ⟨h, rfl⟩
  rw [find?_upsert] at hfound
  by_cases hkey : key row = key row'
  · exact .inl hkey.symm
  · rw [if_neg hkey] at hfound
    exact .inr (find?_eq_some_iff.mp hfound).1

/-- What is found by another column after a row with a new key is put. -/
theorem findBy_put {β : Type w} [DecidableEq β] {t : Table key} {row : ρ}
    (h : t.find? (key row) = none) (column : ρ → β) (b : β) :
    (t.put row).findBy column b =
      (t.findBy column b).or (if column row = b then some row else none) := by
  unfold findBy
  rw [rows_put_of_absent h, List.find?_append, List.find?_singleton]
  simp

/-- Putting a row with a new key and erasing it again leaves what was there. -/
theorem erase_put_of_absent {t : Table key} {row : ρ} (h : t.find? (key row) = none) :
    (t.put row).erase (key row) = t := by
  refine ext ?_
  have habsent := rows_erase_of_absent h
  rw [rows_erase] at habsent ⊢
  rw [rows_put_of_absent h, List.filter_append, habsent]
  simp

/-! ## Sums over what refers to rows -/

/-- A value that stands at one key only, summed over rows. -/
theorem sum_ite_key {M : Type*} [AddCommMonoid M] {rows : List ρ}
    (hnodup : (rows.map key).Nodup) (p : ρ → Bool) (k : κ) (a : M) :
    ((rows.filter p).map fun row => if k = key row then a else 0).sum =
      if (rows.find? fun row => key row = k).any p then a else 0 := by
  induction rows with
  | nil => simp
  | cons row rows ih =>
    rw [List.map_cons, List.nodup_cons] at hnodup
    have hrest := ih hnodup.2
    by_cases hkey : key row = k
    · -- No other row has the key.
      have hnone : (rows.find? fun row => key row = k) = none := by
        refine List.find?_eq_none.mpr fun other hother heq => hnodup.1 ?_
        rw [hkey, ← of_decide_eq_true heq]
        exact List.mem_map_of_mem hother
      rw [hnone] at hrest
      rw [List.find?_cons_of_pos (by simpa using hkey), List.filter_cons]
      cases hp : p row <;> simp_all
    · have hne : k ≠ key row := Ne.symm hkey
      rw [List.find?_cons_of_neg (by simpa using hkey), ← hrest, List.filter_cons]
      cases hp : p row <;> simp [hne]

/-- What refers to some rows, summed row by row, is what refers to any of them. -/
theorem sum_references {M : Type*} [AddCommMonoid M] {σ : Type w} (t : Table key) (p : ρ → Bool)
    (ref : σ → κ) (f : σ → M) (xs : List σ) :
    ((t.rows.filter p).map fun row =>
        ((xs.filter fun x => ref x = key row).map f).sum).sum =
      ((xs.filter fun x => (t.find? (ref x)).any p).map f).sum := by
  induction xs with
  | nil => simp
  | cons x xs ih =>
    have hrow : ∀ row, (((x :: xs).filter fun x => ref x = key row).map f).sum =
        (if ref x = key row then f x else 0) +
          ((xs.filter fun x => ref x = key row).map f).sum := by
      intro row
      by_cases h : ref x = key row <;> simp [h]
    -- What is added stands at the row that it refers to, if there is one.
    have hx := sum_ite_key t.nodup p (ref x) (f x)
    calc ((t.rows.filter p).map fun row =>
          (((x :: xs).filter fun x => ref x = key row).map f).sum).sum
        = ((t.rows.filter p).map fun row => (if ref x = key row then f x else 0) +
            ((xs.filter fun x => ref x = key row).map f).sum).sum := by simp only [hrow]
      _ = (if (t.find? (ref x)).any p then f x else 0) +
            ((xs.filter fun x => (t.find? (ref x)).any p).map f).sum := by
          rw [List.sum_map_add, ih, hx]
          rfl
      _ = (((x :: xs).filter fun x => (t.find? (ref x)).any p).map f).sum := by
          by_cases h : (t.find? (ref x)).any p = true <;> simp [h]

/-! ## Behind the back of a reader -/

/-- What may happen to a table while some keys are locked: what is found under these is the same,
and a row that was there is still there, as `keeps` allows. -/
structure Drift (held : Set κ) (keeps : ρ → ρ → Prop) (t t' : Table key) : Prop where
  same : ∀ k ∈ held, t'.find? k = t.find? k
  stays : ∀ k row, t.find? k = some row → ∃ row', t'.find? k = some row' ∧ keeps row row'

namespace Drift

variable {held : Set κ} {keeps : ρ → ρ → Prop} {t t' t'' : Table key}

/-- Nothing may happen. -/
theorem refl (hkeeps : ∀ row, keeps row row) (t : Table key) : Drift held keeps t t :=
  ⟨fun _ _ => rfl, fun _ row h => ⟨row, h, hkeeps row⟩⟩

/-- Drifts compose. -/
theorem trans (hkeeps : ∀ row row' row'', keeps row row' → keeps row' row'' → keeps row row'')
    (h : Drift held keeps t t') (h' : Drift held keeps t' t'') : Drift held keeps t t'' := by
  refine ⟨fun k hk => (h'.same k hk).trans (h.same k hk), fun k row hrow => ?_⟩
  obtain ⟨row', hrow', hkeep⟩ := h.stays k row hrow
  obtain ⟨row'', hrow'', hkeep'⟩ := h'.stays k row' hrow'
  exact ⟨row'', hrow'', hkeeps row row' row'' hkeep hkeep'⟩

/-- A drift shows through a row that is put on both sides. -/
theorem put (hkeeps : ∀ row, keeps row row) (h : Drift held keeps t t') (row : ρ) :
    Drift held keeps (t.put row) (t'.put row) := by
  refine ⟨fun k hk => ?_, fun k found hfound => ?_⟩
  · rw [find?_put, find?_put, h.same k hk]
  · rw [find?_put] at hfound ⊢
    split at hfound
    · next heq =>
      cases hfound
      exact ⟨row, if_pos heq, hkeeps row⟩
    · next hne =>
      rw [if_neg hne]
      exact h.stays k found hfound

/-- A drift shows through a row that is erased on both sides. -/
theorem erase (h : Drift held keeps t t') (k' : κ) :
    Drift held keeps (t.erase k') (t'.erase k') := by
  refine ⟨fun k hk => ?_, fun k found hfound => ?_⟩
  · rw [find?_erase, find?_erase, h.same k hk]
  · rw [find?_erase] at hfound ⊢
    split at hfound
    · cases hfound
    · next hne =>
      rw [if_neg hne]
      exact h.stays k found hfound

/-- A drift shows through rows that are rewritten on both sides. -/
theorem modify {f : ρ → ρ} {hf : ∀ row, key (f row) = key row}
    (hkeeps : ∀ row row', keeps row row' → keeps (f row) (f row')) (h : Drift held keeps t t') :
    Drift held keeps (t.modify f hf) (t'.modify f hf) := by
  refine ⟨fun k hk => ?_, fun k found hfound => ?_⟩
  · rw [find?_modify, find?_modify, h.same k hk]
  · rw [find?_modify] at hfound ⊢
    obtain ⟨row, hrow, rfl⟩ := Option.map_eq_some_iff.mp hfound
    obtain ⟨row', hrow', hkeep⟩ := h.stays k row hrow
    exact ⟨f row', by rw [hrow']; rfl, hkeeps row row' hkeep⟩

/-- A new row under a key that is not locked. -/
theorem of_put (hkeeps : ∀ row, keeps row row) {row : ρ} (habsent : t.find? (key row) = none)
    (hfree : key row ∉ held) : Drift held keeps t (t.put row) := by
  refine ⟨fun k hk => ?_, fun k found hfound => ?_⟩
  · rw [find?_put, if_neg fun heq : key row = k => hfree (heq ▸ hk)]
  · have hne : key row ≠ k := fun heq => by simp [← heq, habsent] at hfound
    exact ⟨found, by rw [find?_put, if_neg hne, hfound], hkeeps found⟩

/-- Rows that are rewritten as `keeps` allows, those of the locked keys not at all. -/
theorem of_modify {f : ρ → ρ} {hf : ∀ row, key (f row) = key row}
    (hkeeps : ∀ row, keeps row (f row)) (hfree : ∀ row, key row ∈ held → f row = row) :
    Drift held keeps t (t.modify f hf) := by
  refine ⟨fun k hk => ?_, fun k found hfound => ?_⟩
  · rw [find?_modify]
    cases hfind : t.find? k with
    | none => rfl
    | some row =>
      have hkey := (find?_eq_some_iff.mp hfind).2
      rw [Option.map_some, hfree row (hkey ▸ hk)]
  · exact ⟨f found, by rw [find?_modify, hfound]; rfl, hkeeps found⟩

end Drift

end Table

/-! ## Rows that stay -/

/-- Rows stay in their order, each as `keeps` allows, and others may come after them. -/
def Grows {ρ : Type v} (keeps : ρ → ρ → Prop) (rows rows' : List ρ) : Prop :=
  ∃ kept, List.Forall₂ keeps rows kept ∧ kept <+: rows'

namespace Grows

variable {ρ : Type v} {keeps : ρ → ρ → Prop} {rows rows' rows'' : List ρ}

/-- All rows stay as they are. -/
theorem refl (hkeeps : ∀ row, keeps row row) (rows : List ρ) : Grows keeps rows rows :=
  ⟨rows, List.forall₂_same.mpr fun row _ => hkeeps row, List.prefix_rfl⟩

/-- Rows that stay and then stay again. -/
theorem trans (hkeeps : ∀ row row' row'', keeps row row' → keeps row' row'' → keeps row row'')
    (h : Grows keeps rows rows') (h' : Grows keeps rows' rows'') : Grows keeps rows rows'' := by
  obtain ⟨kept, hkept, added, rfl⟩ := h
  obtain ⟨kept', hkept', hprefix⟩ := h'
  -- What was added before the second time is split off from what is kept then.
  have hsplit := List.forall₂_take_append kept' kept added hkept'.flip
  refine ⟨kept'.take kept.length, ?_, (List.take_prefix _ _).trans hprefix⟩
  have hall : List.Forall₂ keeps kept (kept'.take kept.length) := hsplit.flip
  clear hsplit hkept' hprefix
  generalize kept'.take kept.length = last at hall
  induction hkept generalizing last with
  | nil =>
    cases hall
    exact .nil
  | cons hrow _ ih =>
    cases hall with
    | cons hrow' hrest => exact .cons (hkeeps _ _ _ hrow hrow') (ih _ hrest)

/-- Rows come after those that stay as they are. -/
theorem append (hkeeps : ∀ row, keeps row row) (rows added : List ρ) :
    Grows keeps rows (rows ++ added) :=
  ⟨rows, List.forall₂_same.mpr fun row _ => hkeeps row, List.prefix_append rows added⟩

/-- Rows are rewritten as `keeps` allows. -/
theorem map {f : ρ → ρ} (h : ∀ row ∈ rows, keeps row (f row)) : Grows keeps rows (rows.map f) := by
  refine ⟨rows.map f, ?_, List.prefix_rfl⟩
  rw [List.forall₂_map_right_iff]
  exact List.forall₂_same.mpr h

/-- A row that was there is there still, as `keeps` allows. -/
theorem exists_mem (h : Grows keeps rows rows') {row : ρ} (hrow : row ∈ rows) :
    ∃ row' ∈ rows', keeps row row' := by
  obtain ⟨kept, hkept, hprefix⟩ := h
  obtain ⟨i, hi, rfl⟩ := List.getElem_of_mem hrow
  have hlength := hkept.length_eq
  have hrow' := hkept.get hi (hlength ▸ hi)
  exact ⟨kept[i], hprefix.subset (List.getElem_mem _), hrow'⟩

/-- Rows that may only stay as they are come first. -/
theorem prefix_of_eq (h : Grows Eq rows rows') : rows <+: rows' := by
  obtain ⟨kept, hkept, hprefix⟩ := h
  rw [List.forall₂_eq_eq_eq] at hkept
  rwa [hkept]

end Grows

namespace AList

variable {κ : Type u} {γ : Type v} [DecidableEq κ] {s : AList fun _ : κ => γ} {i j : κ} {a b : γ}

/-- What is found after a value was erased was there under another key. -/
theorem lookup_erase_eq_some :
    (s.erase i).lookup j = some b ↔ j ≠ i ∧ s.lookup j = some b := by
  by_cases heq : j = i
  · subst heq
    simp
  · rw [AList.lookup_erase_ne heq, and_iff_right heq]

/-- What is found after a value was put is the value, or was there under another key. -/
theorem lookup_insert_eq_some :
    (s.insert i a).lookup j = some b ↔ j = i ∧ a = b ∨ j ≠ i ∧ s.lookup j = some b := by
  by_cases heq : j = i
  · subst heq
    simp
  · rw [AList.lookup_insert_ne heq]
    simp [heq]

end AList
