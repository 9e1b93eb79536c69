import AtlasPay.Authorization.ReconciliationBatch

/-!
# Runs of the reconciliation job

A run that completes leaves exactly one result for each item that was pending when it started, with
the right status, and every other result as it was. It marks no item as processed: nothing in the
service writes `processed_at` of an item. So what was pending is still pending, and the next run
reads it and writes it again; the queue is drained only if it was empty (`drained_iff`).
-/

namespace AtlasPay

namespace ReconciliationBatch

variable {tables tables' : ReconciliationTables}

/-! ## The beans -/

/-- An item that is read is a pending row. -/
theorem mem_reconciliationReader {item : ReconciliationItem} :
    item ∈ reconciliationReader tables ↔
      ∃ row ∈ tables.items.rows, isPending row = true ∧ rowMapper row = item := by
  unfold reconciliationReader
  rw [List.mem_map]
  simp only [List.mem_insertionSort, List.mem_filter, and_assoc]

/-- What is read depends on the items alone. -/
theorem reconciliationReader_congr (h : tables'.items = tables.items) :
    reconciliationReader tables' = reconciliationReader tables := by
  unfold reconciliationReader
  rw [h]

/-- No item is read twice. -/
theorem nodup_reconciliationReader (tables : ReconciliationTables) :
    ((reconciliationReader tables).map ReconciliationItem.itemId).Nodup := by
  unfold reconciliationReader
  rw [List.map_map]
  have hperm := (List.perm_insertionSort inOrder (tables.items.rows.filter isPending)).map
    (ReconciliationItem.itemId ∘ rowMapper)
  exact hperm.nodup_iff.mpr (tables.items.nodup.sublist (List.filter_sublist.map _))

/-- An item that is read is there. -/
theorem isSome_find?_of_mem {item : ReconciliationItem} (h : item ∈ reconciliationReader tables) :
    (tables.items.find? item.itemId).isSome := by
  obtain ⟨row, hrow, -, rfl⟩ := mem_reconciliationReader.mp h
  exact Option.isSome_iff_exists.mpr ⟨row, Table.find?_eq_some_iff.mpr ⟨hrow, rfl⟩⟩

/-- The status of an item is that of a match exactly when it was observed as expected. -/
theorem matchStatus_eq_iff (item : ReconciliationItem) :
    (matchStatus item).1 = "MATCHED" ↔ item.observedStatus = some item.expectedStatus := by
  unfold matchStatus
  split
  · next h => exact iff_of_true rfl h.symm
  · next h => exact iff_of_false (by decide) (Ne.symm h)

/-- What is found after a result is written. -/
theorem of_reconciliationWriter {result : ReconciliationResult}
    (h : reconciliationWriter result tables = .ok tables') :
    tables'.items = tables.items ∧ ∀ id, tables'.results.find? id =
      if result.itemId = id then
        some (((tables.results.find? id).map result.update).getD result.row)
      else tables.results.find? id := by
  unfold reconciliationWriter at h
  split at h
  · cases h
    exact ⟨rfl, Table.find?_upsert tables.results result.row result.update fun _ => rfl⟩
  · cases h

/-- A result whose item is there is written. -/
theorem exists_reconciliationWriter (result : ReconciliationResult)
    (h : (tables.items.find? result.itemId).isSome) :
    ∃ tables', reconciliationWriter result tables = .ok tables' ∧
      tables'.items = tables.items := by
  unfold reconciliationWriter
  rw [dif_pos h]
  exact ⟨_, rfl, rfl⟩

/-! ## Runs -/

/-- The row says what the result does. -/
structure Records (row : ReconciliationResultRow) (result : ReconciliationResult) : Prop where
  matchStatus : row.matchStatus = result.matchStatus
  deltaMinor : row.deltaMinor = result.deltaMinor
  processedAt : row.processedAt = result.processedAt

/-- What is found after some results of different items are written. -/
theorem of_writeAll {results : List ReconciliationResult}
    (hnodup : (results.map ReconciliationResult.itemId).Nodup)
    (h : reconciliationStep.writeAll results tables = .ok tables') :
    tables'.items = tables.items ∧
      (∀ id ∉ results.map ReconciliationResult.itemId,
        tables'.results.find? id = tables.results.find? id) ∧
      ∀ result ∈ results, ∃ row, tables'.results.find? result.itemId = some row ∧
        Records row result := by
  induction results generalizing tables with
  | nil =>
    cases h
    exact ⟨rfl, fun _ _ => rfl, fun _ hresult => absurd hresult List.not_mem_nil⟩
  | cons result results ih =>
    obtain ⟨hfresh, hnodup⟩ := List.nodup_cons.mp hnodup
    obtain ⟨written, hfirst, hrest⟩ := ChunkStep.writeAll_cons_eq_ok.mp h
    obtain ⟨hitems, hfound⟩ := of_reconciliationWriter hfirst
    obtain ⟨hitems', hothers, hrecorded⟩ := ih hnodup hrest
    refine ⟨hitems'.trans hitems, fun id hid => ?_, fun result' hresult' => ?_⟩
    · have hne : result.itemId ≠ id := fun heq => hid (heq ▸ List.mem_cons_self)
      rw [hothers id fun hmem => hid (List.mem_cons_of_mem _ hmem), hfound, if_neg hne]
    · rcases List.mem_cons.mp hresult' with rfl | hresult'
      · -- No later result is of the same item.
        rw [hothers _ hfresh, hfound, if_pos rfl]
        refine ⟨_, rfl, ?_⟩
        cases tables.results.find? result'.itemId with
        | none => exact ⟨rfl, rfl, rfl⟩
        | some row => exact ⟨rfl, rfl, rfl⟩
      · exact hrecorded result' hresult'

/-- The results of some items are of these items. -/
theorem map_itemId_of_forall₂ {items : List ReconciliationItem}
    {results : List ReconciliationResult}
    (h : List.Forall₂ reconciliationStep.processes items results) :
    results.map ReconciliationResult.itemId = items.map ReconciliationItem.itemId := by
  induction h with
  | nil => rfl
  | cons hprocessed _ ih =>
    obtain ⟨now, rfl⟩ := hprocessed
    rw [List.map_cons, List.map_cons, ih]
    rfl

variable {log : List (StepLabel ReconciliationResult)}
  {e : StepExecution ReconciliationItem ReconciliationTables}

/-- A run that completes leaves the items as they are, and a result of each item that was read,
besides those of other items. -/
theorem results_of_run (h : (reconciliationJob tables).Run log e)
    (hcompleted : e.status = .completed) :
    e.store.items = tables.items ∧
      (∀ id ∉ (reconciliationReader tables).map ReconciliationItem.itemId,
        e.store.results.find? id = tables.results.find? id) ∧
      ∀ item ∈ reconciliationReader tables, ∃ row now,
        e.store.results.find? item.itemId = some row ∧
          Records row (reconciliationProcessor item now) := by
  obtain ⟨results, hprocessed, hwritten⟩ := ChunkStep.written_of_run h hcompleted
  have hids := map_itemId_of_forall₂ hprocessed
  obtain ⟨hitems, hothers, hrecorded⟩ :=
    of_writeAll (hids ▸ nodup_reconciliationReader tables) hwritten
  refine ⟨hitems, fun id hid => hothers id (hids ▸ hid), fun item hitem => ?_⟩
  obtain ⟨result, hresult, now, rfl⟩ := ChunkStep.exists_result_of_mem hprocessed hitem
  obtain ⟨row, hrow, hrecords⟩ := hrecorded _ hresult
  exact ⟨row, now, hrow, hrecords⟩

/-- From any tables, a run completes unless something interrupts it: no write is refused. -/
theorem exists_run_completed (tables : ReconciliationTables) :
    ∃ log tables', (reconciliationJob tables).Run log ⟨[], tables', .completed⟩ := by
  refine ChunkStep.exists_run_completed (by decide) (fun store => store.items = tables.items)
    (fun item => reconciliationProcessor item 0) (fun item _ => ⟨0, rfl⟩) ?_ rfl
  intro item hitem store hstore
  obtain ⟨store', hwritten, hitems⟩ := exists_reconciliationWriter
    (reconciliationProcessor item 0) (hstore ▸ isSome_find?_of_mem hitem)
  exact ⟨store', hwritten, hitems.trans hstore⟩

/-! ## The queue -/

/-- The queue is drained: each item that was pending has exactly one result, of the right status,
and is not read any more; so the next run reads nothing, and changes no result. -/
structure Drained (before after : ReconciliationTables) : Prop where
  result : ∀ item ∈ before.items.rows, isPending item = true →
    ∃! row, row ∈ after.results.rows ∧ row.itemId = item.itemId
  matchStatus : ∀ item ∈ before.items.rows, isPending item = true →
    ∀ row ∈ after.results.rows, row.itemId = item.itemId →
      (row.matchStatus.1 = "MATCHED" ↔ item.observedStatus = some item.expectedStatus)
  unread : ∀ item ∈ before.items.rows, isPending item = true →
    item.itemId ∉ (reconciliationReader after).map ReconciliationItem.itemId
  nextReads : reconciliationReader after = []
  nextResults : ∀ log e, (reconciliationJob after).Run log e → e.status = .completed →
    e.store.results = after.results

/-- When nothing is pending, a run changes nothing. -/
theorem store_eq_of_run (h : (reconciliationJob tables).Run log e)
    (hcompleted : e.status = .completed) (hnone : reconciliationReader tables = []) :
    e.store = tables := by
  obtain ⟨results, hprocessed, hwritten⟩ := ChunkStep.written_of_run h hcompleted
  rw [hnone, List.forall₂_nil_left_iff] at hprocessed
  subst hprocessed
  cases hwritten
  rfl

/-- A run that completes leaves exactly one result of each item that was pending, of the right
status. -/
theorem existsUnique_result_of_run (h : (reconciliationJob tables).Run log e)
    (hcompleted : e.status = .completed) {item : ReconciliationItemRow}
    (hitem : item ∈ tables.items.rows) (hpending : isPending item = true) :
    (∃! row, row ∈ e.store.results.rows ∧ row.itemId = item.itemId) ∧
      ∀ row ∈ e.store.results.rows, row.itemId = item.itemId →
        (row.matchStatus.1 = "MATCHED" ↔ item.observedStatus = some item.expectedStatus) := by
  obtain ⟨-, -, hresults⟩ := results_of_run h hcompleted
  obtain ⟨row, now, hrow, hrecords⟩ :=
    hresults (rowMapper item) (mem_reconciliationReader.mpr ⟨item, hitem, hpending, rfl⟩)
  obtain ⟨hmem, hid⟩ := Table.find?_eq_some_iff.mp hrow
  have hunique : ∀ row' ∈ e.store.results.rows, row'.itemId = item.itemId → row' = row :=
    fun row' hmem' hid' => Table.eq_of_key_eq hmem' hmem (hid'.trans hid.symm)
  refine ⟨⟨row, ⟨hmem, hid⟩, fun row' h' => hunique row' h'.1 h'.2⟩, fun row' hmem' hid' => ?_⟩
  rw [hunique row' hmem' hid', hrecords.matchStatus]
  exact matchStatus_eq_iff (rowMapper item)

/-- An item that was pending is read again. -/
theorem mem_reconciliationReader_of_run (h : (reconciliationJob tables).Run log e)
    (hcompleted : e.status = .completed) {item : ReconciliationItemRow}
    (hitem : item ∈ tables.items.rows) (hpending : isPending item = true) :
    item.itemId ∈ (reconciliationReader e.store).map ReconciliationItem.itemId := by
  rw [reconciliationReader_congr (results_of_run h hcompleted).1]
  exact List.mem_map_of_mem (f := ReconciliationItem.itemId)
    (mem_reconciliationReader.mpr ⟨item, hitem, hpending, rfl⟩)

/-- A run that completes drains the queue if and only if no item was pending when it started. -/
theorem drained_iff (h : (reconciliationJob tables).Run log e)
    (hcompleted : e.status = .completed) :
    Drained tables e.store ↔ ∀ item ∈ tables.items.rows, item.processedAt ≠ none := by
  constructor
  · intro hdrained item hitem hnone
    have hpending : isPending item = true := Option.isNone_iff_eq_none.mpr hnone
    exact hdrained.unread item hitem hpending
      (mem_reconciliationReader_of_run h hcompleted hitem hpending)
  · intro hall
    have hnone : reconciliationReader e.store = [] := by
      rw [reconciliationReader_congr (results_of_run h hcompleted).1,
        List.eq_nil_iff_forall_not_mem]
      intro item hitem
      obtain ⟨row, hrow, hpending, -⟩ := mem_reconciliationReader.mp hitem
      exact hall row hrow (Option.isNone_iff_eq_none.mp hpending)
    refine ⟨fun item hitem hpending => ?_, fun item hitem hpending => ?_,
      fun item hitem _ => ?_, hnone, fun log e' h' hcompleted' => ?_⟩
    · exact (existsUnique_result_of_run h hcompleted hitem hpending).1
    · exact (existsUnique_result_of_run h hcompleted hitem hpending).2
    · rw [hnone]
      exact List.not_mem_nil
    · rw [store_eq_of_run h' hcompleted' hnone]

/-- A capture that was observed as expected, and the time at which it was processed, if it was. -/
def sampleItem (processedAt : Option Timestamp) : ReconciliationItemRow where
  itemId := 1
  paymentId := ⟨"pay_1", by decide⟩
  expectedStatus := ⟨"captured", by decide⟩
  observedStatus := some ⟨"captured", by decide⟩
  amountMinor := ⟨4300, by decide⟩
  createdAt := 0
  processedAt := processedAt

/-- The tables with this item alone. -/
def sampleTables (processedAt : Option Timestamp) : ReconciliationTables where
  items := ⟨[sampleItem processedAt], by simp⟩
  results := .empty
  references _ hrow := absurd hrow List.not_mem_nil

/-- Where the item was processed, the queue is drained. -/
theorem drained_sampleTables :
    ∃ log tables', (reconciliationJob (sampleTables (some 1))).Run log ⟨[], tables', .completed⟩ ∧
      Drained (sampleTables (some 1)) tables' := by
  obtain ⟨log, tables', hrun⟩ := exists_run_completed (sampleTables (some 1))
  refine ⟨log, tables', hrun, (drained_iff hrun rfl).mpr fun item hitem => ?_⟩
  rw [List.mem_singleton.mp hitem]
  exact Option.some_ne_none 1

/-- Where it is pending, a run completes and it still is. -/
theorem not_drained_sampleTables :
    ¬∀ tables log e, (reconciliationJob tables).Run log e → e.status = .completed →
      Drained tables e.store := by
  intro h
  obtain ⟨log, tables', hrun⟩ := exists_run_completed (sampleTables none)
  have hitem : sampleItem none ∈ (sampleTables none).items.rows := List.mem_singleton_self _
  exact (h _ log _ hrun rfl).unread _ hitem rfl
    (mem_reconciliationReader_of_run hrun rfl hitem rfl)

end ReconciliationBatch

end AtlasPay
