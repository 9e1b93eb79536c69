import AtlasPay.Payments.Publishing

/-!
# No event is lost

What holds in every run of the publishers, with whatever they crash at and however their leases
overlap: no row disappears, an event is published only after its callback returned, it stays as it
is from then on, it is acknowledged once, and no attempt goes uncounted. Each is kept by every step,
since a step moves a row in one of five ways (`RowMoves`).
-/

namespace AtlasPay

open Database

namespace Publishers

/-- The event that a step acknowledged. -/
def acknowledgedId : PublisherStep → Option String
  | .acknowledged _ eventId true => some eventId
  | _ => none

/-- The count that a batch returned. -/
def counted : PublisherStep → ℕ
  | .finished _ published => published
  | _ => 0

/-- Whether a step acknowledged an event, as a number. -/
def acked (step : PublisherStep) : ℕ := if (acknowledgedId step).isSome then 1 else 0

/-- The failures of an event that have been recorded since its last reset, after one more step. -/
def countFailure (eventId : String) (failures : ℤ) : PublisherStep → ℤ
  | .failed _ id true => if id = eventId then failures + 1 else failures
  | .reset id true => if id = eventId then 0 else failures
  | _ => failures

/-- The failures of an event that have been recorded since it was last reset. -/
def failuresSince (eventId : String) (log : List PublisherStep) : ℤ :=
  log.foldl (countFailure eventId) 0

/-- The events that a batch has published so far. -/
def published : Batch → ℕ
  | .idle => 0
  | .next _ published => published
  | .calling _ _ published => published
  | .recording _ _ _ published => published

/-- The rows of the events that are published. -/
def publishedRows (s : Publishers) : List OutboxEventRow :=
  s.database.outboxEvents.rows.filter fun row => row.publishedAt.isSome

/-- What the steps so far say of the rows and of the batches. -/
structure Recorded (log : List PublisherStep) (s : Publishers) : Prop where
  answered : ∀ worker event rest count, s.batches worker = .recording event none rest count →
    .answered worker event.id none ∈ log
  published : ∀ id row, s.database.outboxEvents.find? id = some row → row.publishedAt.isSome →
    ∃ worker, .answered worker id none ∈ log
  once : (log.filterMap acknowledgedId).Nodup
  acknowledged : ∀ id ∈ log.filterMap acknowledgedId, ∃ row,
    s.database.outboxEvents.find? id = some row ∧ row.publishedAt.isSome
  counts : ∀ worker, (log.map fun step =>
      if party step = some worker then counted step else 0).sum +
        Publishers.published (s.batches worker) ≤
    (log.map fun step => if party step = some worker then acked step else 0).sum
  attempts : ∀ id row, s.database.outboxEvents.find? id = some row →
    row.attempts = failuresSince id log + if row.publishedAt.isSome then 1 else 0

variable {hashtext : String → ℤ} {maxAttempts : ℤ} {s s' : Publishers} {step : PublisherStep}
  {log : List PublisherStep} {row row' : OutboxEventRow}

/-! ## What a step keeps of a row -/

/-- A published row stays as it is, and is not claimed. -/
theorem RowMoves.eq_of_published (h : RowMoves maxAttempts row step row')
    (hpublished : row.publishedAt.isSome) :
    row' = row ∧ ∀ worker eventIds, step = .claimed worker eventIds → row.id ∉ eventIds := by
  cases h with
  | claimed worker eventIds now leaseSeconds hmem hmay =>
    -- Neither a claim nor an update is of a published row.
    rw [(claimable_iff.mp hmay).1] at hpublished
    cases hpublished
  | acknowledged worker now hunpublished =>
    rw [hunpublished] at hpublished
    cases hpublished
  | failed worker error hunpublished =>
    rw [hunpublished] at hpublished
    cases hpublished
  | reset hunpublished =>
    rw [hunpublished] at hpublished
    cases hpublished
  | stays step huntouched =>
    refine ⟨rfl, ?_⟩
    rintro worker eventIds rfl
    exact of_decide_eq_false huntouched

/-- A row is published by an acknowledgement, or was published. -/
theorem RowMoves.published_iff (h : RowMoves maxAttempts row step row') :
    row'.publishedAt.isSome ↔ row.publishedAt.isSome ∨ acknowledgedId step = some row.id := by
  cases h with
  | claimed worker eventIds now leaseSeconds hmem hmay => simp [OutboxUpdate.apply, acknowledgedId]
  | acknowledged worker now hunpublished => simp [OutboxUpdate.apply, acknowledgedId]
  | failed worker error hunpublished => simp [OutboxUpdate.apply, acknowledgedId]
  | reset hunpublished => simp [OutboxUpdate.apply, acknowledgedId]
  | stays step huntouched =>
    refine ⟨.inl, fun h => h.elim id fun hacknowledged => ?_⟩
    unfold acknowledgedId at hacknowledged
    split at hacknowledged
    · cases hacknowledged
      simp [touches] at huntouched
    · cases hacknowledged

/-- An event that is acknowledged was not published. -/
theorem RowMoves.unpublished (h : RowMoves maxAttempts row step row')
    (hacknowledged : acknowledgedId step = some row.id) : row.publishedAt = none := by
  cases h with
  | claimed => cases hacknowledged
  | acknowledged worker now hunpublished => exact hunpublished
  | failed => cases hacknowledged
  | reset => cases hacknowledged
  | stays step huntouched =>
    unfold acknowledgedId at hacknowledged
    split at hacknowledged
    · cases hacknowledged
      simp [touches] at huntouched
    · cases hacknowledged

/-- The attempts of a row count its failures since it was last reset, and its publication. -/
theorem RowMoves.attempts (h : RowMoves maxAttempts row step row') {failures : ℤ}
    (hattempts : row.attempts = failures + if row.publishedAt.isSome then 1 else 0) :
    row'.attempts =
      countFailure row.id failures step + if row'.publishedAt.isSome then 1 else 0 := by
  cases h with
  | claimed worker eventIds now leaseSeconds hmem hmay => exact hattempts
  | acknowledged worker now hunpublished =>
    rw [hunpublished] at hattempts
    simpa [OutboxUpdate.apply, countFailure] using hattempts
  | failed worker error hunpublished =>
    rw [hunpublished] at hattempts
    simpa [OutboxUpdate.apply, countFailure, hunpublished] using hattempts
  | reset hunpublished => simp [OutboxUpdate.apply, countFailure, hunpublished]
  | stays step huntouched =>
    have hsame : countFailure row.id failures step = failures := by
      unfold countFailure
      split <;> simp_all [touches]
    rw [hsame]
    exact hattempts

/-! ## What a step keeps of the batches -/

/-- A callback that has returned did so in this step or before. -/
theorem Happens.recording (h : Happens maxAttempts s step s') {worker : ℕ} {event : OutboxEvent}
    {rest : List OutboxEvent} {count : ℕ}
    (hbatch : s'.batches worker = .recording event none rest count) :
    s.batches worker = .recording event none rest count ∨
      step = .answered worker event.id none := by
  by_cases hparty : party step = some worker
  swap
  · rw [h.batches_eq hparty] at hbatch
    exact .inl hbatch
  -- The worker's own batch is recording only after the callback has returned.
  cases h with
  | answered other event' raised rest' count' hcalling =>
    cases hparty
    rw [batches_set, Function.update_self] at hbatch
    cases hbatch
    exact .inr rfl
  | claimed =>
    cases hparty
    simp at hbatch
  | invoked =>
    cases hparty
    simp at hbatch
  | acknowledged =>
    cases hparty
    simp at hbatch
  | failed =>
    cases hparty
    simp at hbatch
  | finished =>
    cases hparty
    simp at hbatch
  | dropped =>
    cases hparty
    simp at hbatch
  | reset => cases hparty

/-- An event that is acknowledged has a row that was not published, and its callback has
returned. -/
theorem Happens.of_acknowledged (h : Happens maxAttempts s step s') {id : String}
    (hacknowledged : acknowledgedId step = some id) :
    (∃ row, s.database.outboxEvents.find? id = some row ∧ row.publishedAt = none) ∧
      ∃ worker event rest count, s.batches worker = .recording event none rest count ∧
        event.id = id := by
  cases h with
  | acknowledged worker event rest count now hbatch =>
    generalize hdone : s.database.isUnpublished event.id = done at hacknowledged
    cases done with
    | false => cases hacknowledged
    | true =>
      -- Nothing is marked.
      cases hacknowledged
      exact ⟨isUnpublished_eq_true.mp hdone, worker, event, rest, count, hbatch, rfl⟩
  | claimed => cases hacknowledged
  | invoked => cases hacknowledged
  | answered => cases hacknowledged
  | failed => cases hacknowledged
  | finished => cases hacknowledged
  | dropped => cases hacknowledged
  | reset => cases hacknowledged

/-- What a worker has counted and has in its batch grows by what it acknowledges, at most. -/
theorem Happens.counts (h : Happens maxAttempts s step s') (worker : ℕ) :
    (if party step = some worker then counted step else 0) +
        Publishers.published (s'.batches worker) ≤
      Publishers.published (s.batches worker) +
        if party step = some worker then acked step else 0 := by
  by_cases hparty : party step = some worker
  swap
  · rw [if_neg hparty, if_neg hparty, h.batches_eq hparty, Nat.zero_add, Nat.add_zero]
  cases h with
  | claimed other events now leaseSeconds hidle =>
    cases hparty
    simp [party, counted, published]
  | invoked other event rest count hbatch =>
    cases hparty
    simp [party, counted, published, hbatch]
  | answered other event raised rest count hbatch =>
    cases hparty
    simp [party, counted, published, hbatch]
  | acknowledged other event rest count now hbatch =>
    cases hparty
    -- `acknowledge` is counted when it returns true, which is when the row is marked.
    cases hdone : s.database.isUnpublished event.id <;>
      simp [party, counted, published, acked, acknowledgedId, hbatch]
  | failed other event error stored rest count hbatch =>
    cases hparty
    simp [party, counted, published, hbatch]
  | finished other count hbatch =>
    cases hparty
    simp [party, counted, published, hbatch]
  | dropped other =>
    cases hparty
    simp [party, counted, published]
  | reset => cases hparty

/-! ## Runs -/

/-- What is recorded stays so. -/
theorem Recorded.concat (h : Recorded log s) (hstep : Happens maxAttempts s step s') :
    Recorded (log ++ [step]) s' := by
  constructor
  case answered =>
    intro worker event rest count hbatch
    rcases hstep.recording hbatch with hbefore | rfl
    · exact List.mem_append_left _ (h.answered worker event rest count hbefore)
    · exact List.mem_append_right _ (List.mem_singleton_self _)
  case published =>
    intro id row' hrow' hpublished
    obtain ⟨row, hrow, hmoves⟩ := hstep.row_moved hrow'
    have hid := (Table.find?_eq_some_iff.mp hrow).2
    rcases hmoves.published_iff.mp hpublished with hbefore | hacknowledged
    · obtain ⟨worker, hanswered⟩ := h.published id row hrow hbefore
      exact ⟨worker, List.mem_append_left _ hanswered⟩
    -- It is published by this step: the worker had its callback return before.
    · obtain ⟨-, worker, event, rest, count, hbatch, heq⟩ := hstep.of_acknowledged hacknowledged
      rw [hid] at heq
      have hanswered := h.answered worker event rest count hbatch
      rw [heq] at hanswered
      exact ⟨worker, List.mem_append_left _ hanswered⟩
  case once =>
    rw [List.filterMap_append]
    cases hacknowledged : acknowledgedId step with
    | none => simpa [hacknowledged] using h.once
    | some id =>
      have hsingle : [step].filterMap acknowledgedId = [id] := by simp [hacknowledged]
      rw [hsingle, ← List.concat_eq_append, List.nodup_concat]
      refine ⟨fun hmem => ?_, h.once⟩
      -- It was published when it was acknowledged first.
      obtain ⟨row, hrow, hpublished⟩ := h.acknowledged id hmem
      obtain ⟨⟨row', hrow', hunpublished⟩, -⟩ := hstep.of_acknowledged hacknowledged
      cases hrow.symm.trans hrow'
      rw [hunpublished] at hpublished
      cases hpublished
  case acknowledged =>
    intro id hmem
    rw [List.filterMap_append, List.mem_append] at hmem
    rcases hmem with hmem | hmem
    · obtain ⟨row, hrow, hpublished⟩ := h.acknowledged id hmem
      obtain ⟨row', hrow', hmoves⟩ := hstep.row_moves hrow
      exact ⟨row', hrow', hmoves.published_iff.mpr (.inl hpublished)⟩
    · have hacknowledged : acknowledgedId step = some id := by
        simpa [List.filterMap_cons_none, List.mem_filterMap] using hmem
      obtain ⟨⟨row, hrow, -⟩, -⟩ := hstep.of_acknowledged hacknowledged
      obtain ⟨row', hrow', hmoves⟩ := hstep.row_moves hrow
      have hid := (Table.find?_eq_some_iff.mp hrow).2
      rw [← hid] at hacknowledged
      exact ⟨row', hrow', hmoves.published_iff.mpr (.inr hacknowledged)⟩
  case counts =>
    intro worker
    have hbefore := h.counts worker
    have hnow := hstep.counts worker
    simp only [List.map_append, List.map_singleton, List.sum_append, List.sum_singleton]
    omega
  case attempts =>
    intro id row' hrow'
    obtain ⟨row, hrow, hmoves⟩ := hstep.row_moved hrow'
    have hid := (Table.find?_eq_some_iff.mp hrow).2
    have hattempts := hmoves.attempts (h.attempts id row hrow)
    unfold failuresSince at hattempts ⊢
    rw [List.foldl_concat, hattempts, hid]

/-- Nothing is recorded of events that have just been inserted. -/
theorem recorded_initial (h : Initial s) : Recorded [] s := by
  have hrows : ∀ id row, s.database.outboxEvents.find? id = some row →
      row.publishedAt = none ∧ row.attempts = 0 := fun id row hrow =>
    have hrow := h.1 row (Table.find?_eq_some_iff.mp hrow).1
    ⟨hrow.1, hrow.2.1⟩
  constructor
  case answered =>
    intro worker event rest count hbatch
    rw [h.2 worker] at hbatch
    cases hbatch
  case published =>
    intro id row hrow hpublished
    rw [(hrows id row hrow).1] at hpublished
    cases hpublished
  case once => exact List.nodup_nil
  case acknowledged => simp
  case counts =>
    intro worker
    rw [h.2 worker]
    rfl
  case attempts =>
    intro id row hrow
    obtain ⟨hunpublished, hattempts⟩ := hrows id row hrow
    rw [hunpublished, hattempts]
    rfl

/-- In every run, the steps say what is recorded. -/
theorem recorded_of_run (h : (publishers hashtext maxAttempts).Run log s) : Recorded log s :=
  h.log_invariant (fun _ => recorded_initial)
    fun _ _ _ _ _ hrecorded hstep => hrecorded.concat (happens_of_step hstep)

/-- From a published row on, nothing happens to it, and no claim returns its event. -/
theorem eq_of_published (h : (publishers hashtext maxAttempts).Steps s log s') {id : String}
    (hrow : s.database.outboxEvents.find? id = some row) (hpublished : row.publishedAt.isSome) :
    s'.database.outboxEvents.find? id = some row ∧
      ∀ worker eventIds, .claimed worker eventIds ∈ log → id ∉ eventIds := by
  have hid := (Table.find?_eq_some_iff.mp hrow).2
  induction h with
  | nil s => exact ⟨hrow, by simp⟩
  | cons head tail ih =>
    obtain ⟨row', hrow', hmoves⟩ := (happens_of_step head).row_moves hrow
    obtain ⟨rfl, hunclaimed⟩ := hmoves.eq_of_published hpublished
    obtain ⟨hend, hrest⟩ := ih hrow'
    refine ⟨hend, fun worker eventIds hmem => ?_⟩
    rcases List.mem_cons.mp hmem with rfl | hmem
    · rw [← hid]
      exact hunclaimed worker eventIds rfl
    · exact hrest worker eventIds hmem

/-- The counts of the batches that have returned are those of published events, each counted
once. -/
theorem Recorded.counted_le (h : Recorded log s) :
    (log.map counted).sum ≤ (publishedRows s).length := by
  -- Worker by worker, what is counted was acknowledged.
  have hacked : (log.map counted).sum ≤ (log.map acked).sum := by
    refine Lts.sum_le_sum_of_parties party fun k => ?_
    cases k with
    | some worker => exact (Nat.le_add_right _ _).trans (h.counts worker)
    | none =>
      refine le_of_eq_of_le (List.sum_eq_zero fun n hn => ?_) (Nat.zero_le _)
      obtain ⟨step, -, rfl⟩ := List.mem_map.mp hn
      cases step <;> simp [party, counted]
  have hlength : (log.map acked).sum = (log.filterMap acknowledgedId).length := by
    clear hacked h
    induction log with
    | nil => rfl
    | cons step log ih =>
      rw [List.map_cons, List.sum_cons, ih]
      unfold acked
      cases hstep : acknowledgedId step with
      | none => simp [hstep]
      | some id =>
        rw [List.filterMap_cons_some hstep, List.length_cons, Option.isSome_some, if_pos rfl]
        omega
  -- And what was acknowledged, each event once, is published.
  have hsub : log.filterMap acknowledgedId ⊆ (publishedRows s).map OutboxEventRow.id := by
    intro id hmem
    obtain ⟨row, hrow, hpublished⟩ := h.acknowledged id hmem
    obtain ⟨hmem, hid⟩ := Table.find?_eq_some_iff.mp hrow
    exact List.mem_map.mpr ⟨row, List.mem_filter.mpr ⟨hmem, hpublished⟩, hid⟩
  have hle := (h.once.subperm hsub).length_le
  rw [List.length_map] at hle
  omega

/-- No row disappears, no event is published before its callback returned, none changes or is
claimed once it is published, none is acknowledged or counted twice, and no attempt goes
uncounted. -/
structure Lossless (hashtext : String → ℤ) (maxAttempts : ℤ) (s₀ : Publishers)
    (log : List PublisherStep) (s : Publishers) : Prop where
  ids : s.database.outboxEvents.rows.map OutboxEventRow.id =
    s₀.database.outboxEvents.rows.map OutboxEventRow.id
  answered : ∀ row ∈ s.database.outboxEvents.rows, row.publishedAt.isSome →
    ∃ worker, .answered worker row.id none ∈ log
  final : ∀ before after s₁, log = before ++ after →
    (publishers hashtext maxAttempts).Steps s₀ before s₁ →
    (publishers hashtext maxAttempts).Steps s₁ after s →
    ∀ row ∈ s₁.database.outboxEvents.rows, row.publishedAt.isSome →
      row ∈ s.database.outboxEvents.rows ∧
        ∀ worker eventIds, .claimed worker eventIds ∈ after → row.id ∉ eventIds
  once : (log.filterMap acknowledgedId).Nodup
  counted : (log.map counted).sum ≤ (publishedRows s).length
  attempts : ∀ row ∈ s.database.outboxEvents.rows,
    row.attempts = failuresSince row.id log + if row.publishedAt.isSome then 1 else 0

/-- A run loses nothing, whatever its steps are. -/
theorem lossless_of_run {s₀ : Publishers} (hinit : Initial s₀)
    (h : (publishers hashtext maxAttempts).Steps s₀ log s) :
    Lossless hashtext maxAttempts s₀ log s := by
  have hrun : (publishers hashtext maxAttempts).Run log s := ⟨s₀, hinit, h⟩
  have hrecorded := recorded_of_run hrun
  have hfound : ∀ {s : Publishers}, ∀ row ∈ s.database.outboxEvents.rows,
      s.database.outboxEvents.find? row.id = some row := fun row hrow =>
    Table.find?_eq_some_iff.mpr ⟨hrow, rfl⟩
  constructor
  case ids =>
    refine h.preserves (P := fun s => s.database.outboxEvents.rows.map OutboxEventRow.id =
      s₀.database.outboxEvents.rows.map OutboxEventRow.id) (fun _ _ _ hids hstep => ?_) rfl
    exact (happens_of_step hstep).ids.trans hids
  case answered =>
    exact fun row hrow => hrecorded.published row.id row (hfound row hrow)
  case final =>
    intro before after s₁ _ _ hafter row hrow hpublished
    obtain ⟨hend, hunclaimed⟩ := eq_of_published hafter (hfound row hrow) hpublished
    exact ⟨(Table.find?_eq_some_iff.mp hend).1, hunclaimed⟩
  case once => exact hrecorded.once
  case counted => exact hrecorded.counted_le
  case attempts => exact fun row hrow => hrecorded.attempts row.id row (hfound row hrow)

/-! ## Two events -/

/-- A batch of two events, of which one is published and the other fails; an operator resets it, and
another worker claims it. -/
def batchThenReset : List PublisherMove :=
  [.claim 0 50 60 0 [], .invoke 0, .answer 0 none, .record 0 1000000, .invoke 0,
   .answer 0 (some "timeout"), .record 0 2000000, .finish 0, .reset "evt_2",
   .claim 1 50 60 3000000 []]

/-- What can be seen of it. -/
def batchThenResetSteps : List PublisherStep :=
  [.claimed 0 ["evt_1", "evt_2"], .invoked 0 "evt_1", .answered 0 "evt_1" none,
   .acknowledged 0 "evt_1" true, .invoked 0 "evt_2", .answered 0 "evt_2" (some "timeout"),
   .failed 0 "evt_2" true, .finished 0 1, .reset "evt_2" true, .claimed 1 ["evt_2"]]

/-- These moves lose nothing. -/
theorem lossless_batchThenReset : ∃ s,
    Lts.play (advance (fun _ => 0) 5) (onNew ["evt_1", "evt_2"]) batchThenReset =
      some (s, batchThenResetSteps) ∧
    Lossless (fun _ => 0) 5 (onNew ["evt_1", "evt_2"]) batchThenResetSteps s := by
  have hsteps : (Lts.play (advance (fun _ => 0) 5) (onNew ["evt_1", "evt_2"]) batchThenReset).map
      Prod.snd = some batchThenResetSteps := by decide
  obtain ⟨⟨s, log⟩, hplayed, rfl⟩ := Option.map_eq_some_iff.mp hsteps
  have hinit : Initial (onNew ["evt_1", "evt_2"]) := ⟨by decide, fun _ => rfl⟩
  exact ⟨s, hplayed, lossless_of_run hinit (Lts.steps_of_play hplayed)⟩

end Publishers

end AtlasPay
