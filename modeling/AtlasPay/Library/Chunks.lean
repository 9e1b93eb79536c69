import AtlasPay.Library.Lts
import Mathlib.Control.Basic
import Mathlib.Data.List.Forall2

/-!
# Steps in chunks

A step reads its items from a cursor that was opened when it started. It processes them in chunks,
each written in a transaction of its own; a chunk that is not full is the last. A write that is
refused, or an interruption, fails the step and rolls the chunk back. What a step has written is
what writing the items that it has read, one after the other, writes (`progress_of_run`), and a step
that completes has read them all (`written_of_run`). It does complete when no write is refused and
nothing interrupts it (`exists_run_completed`).
-/

universe u

variable {Item Result Store ρ : Type u}

/-- How far a step is. -/
inductive StepStatus where
  | started
  | completed
  | failed
  deriving DecidableEq, Repr

/-- A step that runs. -/
structure StepExecution (Item Store : Type u) where
  /-- The items that are not read yet. -/
  rest : List Item
  /-- What is committed. -/
  store : Store
  /-- How far the step is. -/
  status : StepStatus

/-- What happens next: a chunk is processed into some results and written, or the step is
interrupted. -/
inductive StepLabel (Result : Type u) where
  | chunk (results : List Result)
  | interrupted

/-- How items are processed and written. -/
structure ChunkStep (Item Result Store ρ : Type u) where
  /-- The size of a chunk. -/
  size : ℕ
  /-- What an item may be processed into. -/
  processes : Item → Result → Prop
  /-- One result is written. -/
  write : Result → Store → Except ρ Store

namespace ChunkStep

variable (C : ChunkStep Item Result Store ρ)

/-- Results are written one after the other. -/
def writeAll (results : List Result) (store : Store) : Except ρ Store :=
  results.foldlM (fun store result => C.write result store) store

/-- A step on a cursor and a store. -/
def execution (cursor : List Item) (store : Store) :
    Lts (StepExecution Item Store) (StepLabel Result) where
  init e := e = ⟨cursor, store, .started⟩
  step e label e' := e.status = .started ∧
    match label with
    | .chunk results => List.Forall₂ C.processes (e.rest.take C.size) results ∧
        match C.writeAll results e.store with
        | .ok store' =>
          e' = ⟨e.rest.drop C.size, store',
            if (e.rest.take C.size).length < C.size then .completed else .started⟩
        | .error _ => e' = { e with status := .failed }
    | .interrupted => e' = { e with status := .failed }

variable {C} {cursor : List Item} {store : Store}

/-- Results are written when the first is, and the others are after it. -/
theorem writeAll_cons_eq_ok {result : Result} {results : List Result} {store' : Store} :
    C.writeAll (result :: results) store = .ok store' ↔
      ∃ written, C.write result store = .ok written ∧ C.writeAll results written = .ok store' := by
  unfold writeAll
  rw [List.foldlM_cons]
  cases C.write result store with
  | error r => exact iff_of_false nofun fun ⟨_, h, _⟩ => nomatch h
  | ok written =>
    constructor
    · exact fun h => ⟨written, rfl, h⟩
    · rintro ⟨_, hwritten, h⟩
      cases hwritten
      exact h

/-- Results are written in two parts. -/
theorem writeAll_append (results more : List Result) (store : Store) :
    C.writeAll (results ++ more) store = (C.writeAll results store).bind (C.writeAll more) :=
  List.foldlM_append

/-- What a step has written, and that nothing is left when it has completed. -/
structure Progress (C : ChunkStep Item Result Store ρ) (cursor : List Item) (store : Store)
    (e : StepExecution Item Store) : Prop where
  written : ∃ read results, cursor = read ++ e.rest ∧ List.Forall₂ C.processes read results ∧
    C.writeAll results store = .ok e.store
  completed : e.status = .completed → e.rest = []

/-- A chunk, or an end, makes progress. -/
theorem Progress.step {e e' : StepExecution Item Store} {label : StepLabel Result}
    (h : Progress C cursor store e) (hstep : (C.execution cursor store).step e label e') :
    Progress C cursor store e' := by
  obtain ⟨⟨read, results, hcursor, hprocessed, hwritten⟩, -⟩ := h
  obtain ⟨-, hstep⟩ := hstep
  cases label with
  | interrupted =>
    cases hstep
    exact ⟨⟨read, results, hcursor, hprocessed, hwritten⟩, nofun⟩
  | chunk more =>
    obtain ⟨hmore, hstep⟩ := hstep
    cases hwrite : C.writeAll more e.store with
    | error r =>
      rw [hwrite] at hstep
      cases hstep
      exact ⟨⟨read, results, hcursor, hprocessed, hwritten⟩, nofun⟩
    | ok store' =>
      rw [hwrite] at hstep
      cases hstep
      refine ⟨⟨read ++ e.rest.take C.size, results ++ more, ?_, ?_, ?_⟩, fun hcompleted => ?_⟩
      · rw [List.append_assoc, List.take_append_drop, hcursor]
      · exact List.rel_append hprocessed hmore
      · rw [writeAll_append, hwritten]
        exact hwrite
      · -- A chunk that is not full leaves nothing.
        by_cases hlast : (e.rest.take C.size).length < C.size
        · rw [List.length_take] at hlast
          exact List.drop_eq_nil_of_le (by omega)
        · rw [if_neg hlast] at hcompleted
          cases hcompleted

/-- What a run of a step has written. -/
theorem progress_of_run {log : List (StepLabel Result)} {e : StepExecution Item Store}
    (h : (C.execution cursor store).Run log e) : Progress C cursor store e := by
  refine h.invariant ?_ fun _ _ _ => Progress.step
  rintro _ rfl
  exact ⟨⟨[], [], rfl, .nil, rfl⟩, nofun⟩

/-- A step that has completed has written what its whole cursor was processed into. -/
theorem written_of_run {log : List (StepLabel Result)} {e : StepExecution Item Store}
    (h : (C.execution cursor store).Run log e) (hcompleted : e.status = .completed) :
    ∃ results, List.Forall₂ C.processes cursor results ∧
      C.writeAll results store = .ok e.store := by
  obtain ⟨⟨read, results, hcursor, hprocessed, hwritten⟩, hrest⟩ := progress_of_run h
  rw [hrest hcompleted, List.append_nil] at hcursor
  exact ⟨results, hcursor ▸ hprocessed, hwritten⟩

/-- Each item is processed into one of the results. -/
theorem exists_result_of_mem {items : List Item} {results : List Result} {item : Item}
    (h : List.Forall₂ C.processes items results) (hitem : item ∈ items) :
    ∃ result ∈ results, C.processes item result := by
  induction h with
  | nil => exact absurd hitem List.not_mem_nil
  | cons hprocessed _ ih =>
    rcases List.mem_cons.mp hitem with rfl | hitem
    · exact ⟨_, List.mem_cons_self, hprocessed⟩
    · obtain ⟨result, hresult, hprocessed⟩ := ih hitem
      exact ⟨result, List.mem_cons_of_mem _ hresult, hprocessed⟩

/-- Writes that are never refused where an invariant holds, and keep it. -/
theorem exists_writeAll {Inv : Store → Prop} {results : List Result}
    (hwrite : ∀ result ∈ results, ∀ store, Inv store →
      ∃ store', C.write result store = .ok store' ∧ Inv store') (hstore : Inv store) :
    ∃ store', C.writeAll results store = .ok store' ∧ Inv store' := by
  induction results generalizing store with
  | nil => exact ⟨store, rfl, hstore⟩
  | cons result results ih =>
    obtain ⟨hfirst, hrest⟩ := List.forall_mem_cons.mp hwrite
    obtain ⟨store', hwritten, hstore'⟩ := hfirst store hstore
    obtain ⟨store'', hall, hstore''⟩ := ih hrest hstore'
    exact ⟨store'', writeAll_cons_eq_ok.mpr ⟨store', hwritten, hall⟩, hstore''⟩

/-- A step whose writes are never refused completes, unless it is interrupted. -/
theorem exists_run_completed (hsize : 0 < C.size) (Inv : Store → Prop) (process : Item → Result)
    (hprocess : ∀ item ∈ cursor, C.processes item (process item))
    (hwrite : ∀ item ∈ cursor, ∀ store, Inv store →
      ∃ store', C.write (process item) store = .ok store' ∧ Inv store') (hstore : Inv store) :
    ∃ log store', (C.execution cursor store).Run log ⟨[], store', .completed⟩ := by
  suffices h : ∀ n rest (store' : Store), rest.length = n → rest ⊆ cursor → Inv store' →
      ∃ log store'', (C.execution cursor store).Steps ⟨rest, store', .started⟩ log
        ⟨[], store'', .completed⟩ by
    obtain ⟨log, store', hsteps⟩ := h _ cursor store rfl (List.Subset.refl _) hstore
    exact ⟨log, store', _, rfl, hsteps⟩
  intro n
  induction n using Nat.strong_induction_on with
  -- The induction is on what is left to read.
  | _ n ih =>
    intro rest store' hlength hrest hstore'
    let results := (rest.take C.size).map process
    have hchunk : ∀ item ∈ rest.take C.size, item ∈ cursor := fun item hitem =>
      hrest (List.mem_of_mem_take hitem)
    have hresults : List.Forall₂ C.processes (rest.take C.size) results :=
      List.forall₂_map_right_iff.mpr (List.forall₂_same.mpr fun item hitem =>
        hprocess item (hchunk item hitem))
    obtain ⟨store'', hwritten, hstore''⟩ : ∃ store'', C.writeAll results store' = .ok store'' ∧
        Inv store'' := by
      refine exists_writeAll (fun result hresult => ?_) hstore'
      obtain ⟨item, hitem, rfl⟩ := List.mem_map.mp hresult
      exact hwrite item (hchunk item hitem)
    by_cases hlast : (rest.take C.size).length < C.size
    · -- A chunk that is not full is the last one.
      have hnil : rest.drop C.size = [] := by
        rw [List.length_take] at hlast
        exact List.drop_eq_nil_of_le (by omega)
      refine ⟨[.chunk results], store'', .cons ⟨rfl, hresults, ?_⟩ (.nil _)⟩
      rw [hwritten, if_pos hlast, hnil]
    · -- A full chunk leaves fewer items.
      have hfewer : (rest.drop C.size).length < n := by
        rw [List.length_take] at hlast
        rw [List.length_drop]
        omega
      obtain ⟨log, final, hsteps⟩ := ih _ hfewer (rest.drop C.size) store'' rfl
        (fun item hitem => hrest (List.mem_of_mem_drop hitem)) hstore''
      refine ⟨.chunk results :: log, final, .cons ⟨rfl, hresults, ?_⟩ hsteps⟩
      rw [hwritten, if_neg hlast]

end ChunkStep
