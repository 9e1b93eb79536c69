import AtlasPay.Library.Lts
import AtlasPay.Payments.Delivery

/-!
# The publishers

Workers that call `publish_batch`, with one callback or several, and an operator that resets events.
A worker claims a batch, and for each of its events invokes the callback outside of any transaction
and then acknowledges the event or records its failure. It may crash at any point. The operations on
the outbox touch only rows that they have locked, so each is one step here.

What a step does is said once (`Happens`), and what it does to one row (`RowMoves`).
-/

namespace AtlasPay

open Database

/-- Where a worker is in `publish_batch`: in no batch, before its next event, in the callback, or
after it, with what it raised. The count is that of the events that it has published. -/
inductive Batch where
  | idle
  | next (events : List OutboxEvent) (published : ℕ)
  | calling (event : OutboxEvent) (rest : List OutboxEvent) (published : ℕ)
  | recording (event : OutboxEvent) (raised : Option String) (rest : List OutboxEvent)
      (published : ℕ)

/-- The tables, and the workers. -/
structure Publishers where
  database : Database
  batches : ℕ → Batch

/-- What may happen next: a worker claims a batch, invokes the callback, gets its answer, records
it, returns, or crashes; or an operator resets an event. -/
inductive PublisherMove where
  | claim (worker : ℕ) (batchSize leaseSeconds : ℤ) (now : Timestamp) (skipped : List String)
  | invoke (worker : ℕ)
  | answer (worker : ℕ) (raised : Option String)
  | record (worker : ℕ) (now : Timestamp)
  | finish (worker : ℕ)
  | crash (worker : ℕ)
  | reset (eventId : String)

/-- What can be seen of a step. A batch is over when it is `finished`, with the count that it
returns, or `dropped`, where it has raised or crashed. -/
inductive PublisherStep where
  | claimed (worker : ℕ) (eventIds : List String)
  | invoked (worker : ℕ) (eventId : String)
  | answered (worker : ℕ) (eventId : String) (raised : Option String)
  | acknowledged (worker : ℕ) (eventId : String) (done : Bool)
  | failed (worker : ℕ) (eventId : String) (done : Bool)
  | finished (worker : ℕ) (published : ℕ)
  | dropped (worker : ℕ)
  | reset (eventId : String) (done : Bool)
  deriving DecidableEq

namespace Publishers

/-- The worker whose step it is. -/
def party : PublisherStep → Option ℕ
  | .claimed worker _ => some worker
  | .invoked worker _ => some worker
  | .answered worker _ _ => some worker
  | .acknowledged worker _ _ => some worker
  | .failed worker _ _ => some worker
  | .finished worker _ => some worker
  | .dropped worker => some worker
  | .reset _ _ => none

/-- A worker goes on. -/
def set (s : Publishers) (worker : ℕ) (batch : Batch) : Publishers :=
  { s with batches := Function.update s.batches worker batch }

@[simp]
theorem batches_set (s : Publishers) (worker : ℕ) (batch : Batch) :
    (s.set worker batch).batches = Function.update s.batches worker batch := rfl

/-- One move, where it is possible, and what can be seen of it. -/
def advance (hashtext : String → ℤ) (maxAttempts : ℤ) (s : Publishers) :
    PublisherMove → Option (Publishers × PublisherStep)
  | .claim worker batchSize leaseSeconds now skipped =>
    match s.batches worker with
    | .idle =>
      match (postgres hashtext).transact s.database
        (Outbox.claimBatch batchSize maxAttempts leaseSeconds now skipped) with
      | (.returned events, db) =>
        some (⟨db, Function.update s.batches worker (.next events 0)⟩,
          .claimed worker (events.map OutboxEvent.id))
      | _ => some (s.set worker .idle, .dropped worker)
    | _ => none
  | .invoke worker =>
    match s.batches worker with
    | .next (event :: rest) published =>
      some (s.set worker (.calling event rest published), .invoked worker event.id)
    | _ => none
  | .answer worker raised =>
    match s.batches worker with
    | .calling event rest published =>
      some (s.set worker (.recording event raised rest published),
        .answered worker event.id raised)
    | _ => none
  | .record worker now =>
    match s.batches worker with
    | .recording event none rest published =>
      match (postgres hashtext).transact s.database (Outbox.acknowledge event.id now) with
      | (.returned done, db) =>
        some (⟨db, Function.update s.batches worker
          (.next rest (if done then published + 1 else published))⟩,
          .acknowledged worker event.id done)
      | _ => some (s.set worker .idle, .dropped worker)
    | .recording event (some error) rest published =>
      match (postgres hashtext).transact s.database (Outbox.recordFailure event.id error) with
      | (.returned done, db) =>
        some (⟨db, Function.update s.batches worker (.next rest published)⟩,
          .failed worker event.id done)
      | _ => some (s.set worker .idle, .dropped worker)
    | _ => none
  | .finish worker =>
    match s.batches worker with
    | .next [] published => some (s.set worker .idle, .finished worker published)
    | _ => none
  | .crash worker => some (s.set worker .idle, .dropped worker)
  | .reset eventId =>
    match (postgres hashtext).transact s.database (Outbox.resetOutboxEvent eventId) with
    | (.returned done, db) => some (⟨db, s.batches⟩, .reset eventId done)
    | _ => some (s, .reset eventId false)

/-- The events have just been inserted, and no worker is in a batch. -/
def Initial (s : Publishers) : Prop :=
  (∀ row ∈ s.database.outboxEvents.rows, row.publishedAt = none ∧ row.attempts = 0 ∧
    row.lastError = none ∧ row.lockedAt = none) ∧
  ∀ worker, s.batches worker = .idle

/-- A new event with an id. -/
def inserted (id : String) : OutboxEventRow :=
  ⟨id, "payment", "pay_1", "payment.captured", [], 0, none, 0, none, none⟩

/-- Workers in no batch, over some new events. -/
def onNew (ids : List String) : Publishers :=
  ⟨{ migrated with
      outboxEvents := ids.foldl (fun events id => events.put (inserted id)) Table.empty },
    fun _ => .idle⟩

/-- The publishers, all with the same ceiling of attempts. -/
def publishers (hashtext : String → ℤ) (maxAttempts : ℤ) : Lts Publishers PublisherStep :=
  .ofMoves Initial (advance hashtext maxAttempts)

/-! ## One step -/

/-- What a step does. -/
inductive Happens (maxAttempts : ℤ) (s : Publishers) : PublisherStep → Publishers → Prop where
  | claimed (worker : ℕ) (events : List OutboxEvent) (now leaseSeconds : ℤ)
      (hidle : s.batches worker = .idle) (hattempts : 0 < maxAttempts)
      (hnodup : (events.map OutboxEvent.id).Nodup)
      (hmay : ∀ event ∈ events, ∃ row, s.database.outboxEvents.find? event.id = some row ∧
        claimable now maxAttempts leaseSeconds row = true) :
      Happens maxAttempts s (.claimed worker (events.map OutboxEvent.id))
        ⟨s.database.apply (.updateOutboxEvents (events.map OutboxEvent.id) (.claimed now)),
          Function.update s.batches worker (.next events 0)⟩
  | invoked (worker : ℕ) (event : OutboxEvent) (rest : List OutboxEvent) (published : ℕ)
      (hbatch : s.batches worker = .next (event :: rest) published) :
      Happens maxAttempts s (.invoked worker event.id)
        (s.set worker (.calling event rest published))
  | answered (worker : ℕ) (event : OutboxEvent) (raised : Option String)
      (rest : List OutboxEvent) (published : ℕ)
      (hbatch : s.batches worker = .calling event rest published) :
      Happens maxAttempts s (.answered worker event.id raised)
        (s.set worker (.recording event raised rest published))
  | acknowledged (worker : ℕ) (event : OutboxEvent) (rest : List OutboxEvent) (published : ℕ)
      (now : Timestamp) (hbatch : s.batches worker = .recording event none rest published) :
      Happens maxAttempts s
        (.acknowledged worker event.id (s.database.isUnpublished event.id))
        ⟨if s.database.isUnpublished event.id then
            s.database.apply (.updateOutboxEvents [event.id] (.acknowledged now))
          else s.database,
          Function.update s.batches worker (.next rest
            (if s.database.isUnpublished event.id then published + 1 else published))⟩
  | failed (worker : ℕ) (event : OutboxEvent) (error stored : String) (rest : List OutboxEvent)
      (published : ℕ) (hbatch : s.batches worker = .recording event (some error) rest published) :
      Happens maxAttempts s (.failed worker event.id (s.database.isUnpublished event.id))
        ⟨if s.database.isUnpublished event.id then
            s.database.apply (.updateOutboxEvents [event.id] (.failed stored))
          else s.database,
          Function.update s.batches worker (.next rest published)⟩
  | finished (worker : ℕ) (published : ℕ) (hbatch : s.batches worker = .next [] published) :
      Happens maxAttempts s (.finished worker published) (s.set worker .idle)
  | dropped (worker : ℕ) : Happens maxAttempts s (.dropped worker) (s.set worker .idle)
  | reset (eventId : String) (done : Bool)
      (hdone : done = true → s.database.isUnpublished eventId = true) :
      Happens maxAttempts s (.reset eventId done)
        ⟨if done then s.database.apply (.updateOutboxEvents [eventId] .reset) else s.database,
          s.batches⟩

variable {hashtext : String → ℤ} {maxAttempts : ℤ} {s s' : Publishers} {step : PublisherStep}

/-- Every step is one of these. -/
theorem happens_of_step (h : (publishers hashtext maxAttempts).step s step s') :
    Happens maxAttempts s step s' := by
  obtain ⟨move, hmove⟩ := h
  unfold advance at hmove
  cases move with
  | claim worker batchSize leaseSeconds now skipped =>
    simp only at hmove
    split at hmove
    · next hidle =>
      split at hmove
      · next events db hclaim =>
        cases hmove
        -- The claim has committed: what it may have leased is all that is known of its batch.
        obtain ⟨hattempts, -, hnodup, hmay, rfl⟩ := Outbox.transact_claimBatch hclaim
        refine .claimed worker events now leaseSeconds hidle hattempts hnodup fun event hevent => ?_
        obtain ⟨row, hrow, -, hclaimable⟩ := hmay event hevent
        exact ⟨row, hrow, hclaimable⟩
      · cases hmove
        -- The claim has raised, and the worker has no batch.
        exact .dropped worker
    · cases hmove
  | invoke worker =>
    simp only at hmove
    split at hmove
    · next event rest published hbatch =>
      cases hmove
      exact .invoked worker event rest published hbatch
    · cases hmove
  | answer worker raised =>
    simp only at hmove
    split at hmove
    · next event rest published hbatch =>
      cases hmove
      exact .answered worker event raised rest published hbatch
    · cases hmove
  | record worker now =>
    simp only at hmove
    split at hmove
    · next event rest published hbatch =>
      split at hmove
      · next done db hupdate =>
        cases hmove
        -- The handler returned: the update marks the event, unless it has been published.
        rcases Outbox.transact_updateUnpublishedEvent hupdate with ⟨⟨r, hr⟩, -⟩ | ⟨hdone, rfl⟩
        · cases hr
        · cases hdone
          exact .acknowledged worker event rest published now hbatch
      · cases hmove
        exact .dropped worker
    · next event error rest published hbatch =>
      split at hmove
      · next done db hupdate =>
        cases hmove
        -- The handler raised: the update counts the attempt, unless the event has been published.
        rcases Outbox.transact_updateUnpublishedEvent hupdate with ⟨⟨r, hr⟩, -⟩ | ⟨hdone, rfl⟩
        · cases hr
        · cases hdone
          exact .failed worker event error _ rest published hbatch
      · cases hmove
        exact .dropped worker
    · cases hmove
  | finish worker =>
    simp only at hmove
    split at hmove
    · next published hbatch =>
      cases hmove
      exact .finished worker published hbatch
    · cases hmove
  | crash worker =>
    cases hmove
    exact .dropped worker
  | reset eventId =>
    simp only at hmove
    split at hmove
    · next done db hreset =>
      cases hmove
      -- A reset that commits says whether it found the event unpublished.
      rcases Outbox.transact_resetOutboxEvent hreset with ⟨hnone, -⟩ | ⟨hdone, rfl⟩
      · exact absurd rfl (hnone done)
      · cases hdone
        exact .reset eventId _ id
    · cases hmove
      -- One that raises changes nothing.
      exact .reset eventId false (by simp)

/-- A step leaves the batches of the workers of whom it is no step. -/
theorem Happens.batches_eq (h : Happens maxAttempts s step s') {worker : ℕ}
    (hparty : party step ≠ some worker) : s'.batches worker = s.batches worker := by
  have hset : ∀ (other : ℕ) (batch : Batch), some other ≠ some worker →
      Function.update s.batches other batch worker = s.batches worker := by
    intro other batch hne
    have hne : worker ≠ other := fun heq => hne (congrArg some heq.symm)
    exact Function.update_of_ne hne batch s.batches
  cases h with
  | claimed other => exact hset other _ hparty
  | invoked other => exact hset other _ hparty
  | answered other => exact hset other _ hparty
  | acknowledged other => exact hset other _ hparty
  | failed other => exact hset other _ hparty
  | finished other => exact hset other _ hparty
  | dropped other => exact hset other _ hparty
  | reset => rfl

/-! ## One row -/

/-- A step changes the row of an event. -/
def touches (eventId : String) : PublisherStep → Bool
  | .claimed _ eventIds => eventId ∈ eventIds
  | .acknowledged _ id done => done && id = eventId
  | .failed _ id done => done && id = eventId
  | .reset id done => done && id = eventId
  | _ => false

/-- What a step does to a row. -/
inductive RowMoves (maxAttempts : ℤ) (row : OutboxEventRow) :
    PublisherStep → OutboxEventRow → Prop where
  | claimed (worker : ℕ) (eventIds : List String) (now leaseSeconds : ℤ)
      (hmem : row.id ∈ eventIds) (hmay : claimable now maxAttempts leaseSeconds row = true) :
      RowMoves maxAttempts row (.claimed worker eventIds) (OutboxUpdate.apply row (.claimed now))
  | acknowledged (worker : ℕ) (now : Timestamp) (hunpublished : row.publishedAt = none) :
      RowMoves maxAttempts row (.acknowledged worker row.id true)
        (OutboxUpdate.apply row (.acknowledged now))
  | failed (worker : ℕ) (error : String) (hunpublished : row.publishedAt = none) :
      RowMoves maxAttempts row (.failed worker row.id true)
        (OutboxUpdate.apply row (.failed error))
  | reset (hunpublished : row.publishedAt = none) :
      RowMoves maxAttempts row (.reset row.id true) (OutboxUpdate.apply row .reset)
  | stays (step : PublisherStep) (huntouched : touches row.id step = false) :
      RowMoves maxAttempts row step row

/-- An update of an event that is not published, on the row of an event: it is the row that is
updated, or another one, or nothing is done. -/
theorem find?_update_unpublished {db : Database} {id : String} {row : OutboxEventRow}
    (eventId : String) (update : OutboxUpdate) (done : Bool)
    (hrow : db.outboxEvents.find? id = some row)
    (hdone : done = true → db.isUnpublished eventId = true) :
    (done = true ∧ eventId = row.id ∧ row.publishedAt = none ∧
        (if done then db.apply (.updateOutboxEvents [eventId] update)
          else db).outboxEvents.find? id = some (update.apply row)) ∨
      ((done && decide (eventId = row.id)) = false ∧
        (if done then db.apply (.updateOutboxEvents [eventId] update)
          else db).outboxEvents.find? id = some row) := by
  have hid := (Table.find?_eq_some_iff.mp hrow).2
  cases done with
  | false => exact .inr ⟨rfl, hrow⟩
  | true =>
    rw [if_pos rfl, find?_updateOutboxEvents, hrow, Option.map_some]
    -- The update found an unpublished row under the id, which is this one or another.
    by_cases heq : eventId = row.id
    · subst heq
      obtain ⟨row', hrow', hunpublished⟩ := isUnpublished_eq_true.mp (hdone rfl)
      rw [hid] at hrow'
      cases hrow.symm.trans hrow'
      rw [updateEvent_of_mem (List.mem_singleton_self _)]
      exact .inl ⟨rfl, rfl, hunpublished, rfl⟩
    · rw [updateEvent_of_notMem (by rw [List.mem_singleton]; exact Ne.symm heq)]
      exact .inr ⟨by simpa using heq, rfl⟩

/-- A step moves every row. -/
theorem Happens.row_moves (h : Happens maxAttempts s step s') {id : String} {row : OutboxEventRow}
    (hrow : s.database.outboxEvents.find? id = some row) :
    ∃ row', s'.database.outboxEvents.find? id = some row' ∧ RowMoves maxAttempts row step row' := by
  have hid := (Table.find?_eq_some_iff.mp hrow).2
  cases h with
  | claimed worker events now leaseSeconds hidle hattempts hnodup hmay =>
    refine ⟨_, by rw [find?_updateOutboxEvents, hrow]; rfl, ?_⟩
    by_cases hmem : row.id ∈ events.map OutboxEvent.id
    · rw [updateEvent_of_mem hmem]
      -- The claim read this row.
      obtain ⟨event, hevent, heq⟩ := List.mem_map.mp hmem
      obtain ⟨row', hrow', hclaimable⟩ := hmay event hevent
      rw [heq, hid, hrow] at hrow'
      cases hrow'
      exact .claimed worker _ now leaseSeconds hmem hclaimable
    · rw [updateEvent_of_notMem hmem]
      exact .stays _ (decide_eq_false hmem)
  | invoked worker event rest published hbatch => exact ⟨row, hrow, .stays _ rfl⟩
  | answered worker event raised rest published hbatch => exact ⟨row, hrow, .stays _ rfl⟩
  | acknowledged worker event rest published now hbatch =>
    generalize hdone : s.database.isUnpublished event.id = done
    -- The row is the one of the event and unpublished, or it stays as it is.
    rcases find?_update_unpublished event.id (.acknowledged now) done hrow
      (fun htrue => hdone.trans htrue) with
      ⟨rfl, heq, hunpublished, hfound⟩ | ⟨huntouched, hfound⟩
    · rw [heq] at hfound ⊢
      exact ⟨_, hfound, .acknowledged worker now hunpublished⟩
    · exact ⟨row, hfound, .stays _ huntouched⟩
  | failed worker event error stored rest published hbatch =>
    generalize hdone : s.database.isUnpublished event.id = done
    rcases find?_update_unpublished event.id (.failed stored) done hrow
      (fun htrue => hdone.trans htrue) with
      ⟨rfl, heq, hunpublished, hfound⟩ | ⟨huntouched, hfound⟩
    · rw [heq] at hfound ⊢
      exact ⟨_, hfound, .failed worker stored hunpublished⟩
    · exact ⟨row, hfound, .stays _ huntouched⟩
  | finished worker published hbatch => exact ⟨row, hrow, .stays _ rfl⟩
  | dropped worker => exact ⟨row, hrow, .stays _ rfl⟩
  | reset eventId done hdone =>
    rcases find?_update_unpublished eventId .reset done hrow hdone with
      ⟨rfl, heq, hunpublished, hfound⟩ | ⟨huntouched, hfound⟩
    · rw [heq] at hfound ⊢
      exact ⟨_, hfound, .reset hunpublished⟩
    · exact ⟨row, hfound, .stays _ huntouched⟩

/-- A step keeps the ids of the rows. -/
theorem Happens.ids (h : Happens maxAttempts s step s') :
    s'.database.outboxEvents.rows.map OutboxEventRow.id =
      s.database.outboxEvents.rows.map OutboxEventRow.id := by
  -- An update of events changes no id.
  have hupdate : ∀ (db : Database) ids update,
      (db.apply (.updateOutboxEvents ids update)).outboxEvents.rows.map OutboxEventRow.id =
        db.outboxEvents.rows.map OutboxEventRow.id := by
    intro db ids update
    change (db.outboxEvents.rows.map (updateEvent ids update)).map OutboxEventRow.id = _
    rw [List.map_map]
    exact List.map_congr_left fun row _ => id_updateEvent ids update row
  cases h with
  | claimed worker events now => exact hupdate _ _ _
  | invoked => rfl
  | answered => rfl
  | acknowledged worker event rest published now hbatch =>
    dsimp only
    split
    · exact hupdate _ _ _
    · rfl
  | failed worker event error stored rest published hbatch =>
    dsimp only
    split
    · exact hupdate _ _ _
    · rfl
  | finished => rfl
  | dropped => rfl
  | reset eventId done hdone =>
    dsimp only
    split
    · exact hupdate _ _ _
    · rfl

/-- Every row after a step is one that the step has moved. -/
theorem Happens.row_moved (h : Happens maxAttempts s step s') {id : String} {row' : OutboxEventRow}
    (hrow : s'.database.outboxEvents.find? id = some row') :
    ∃ row, s.database.outboxEvents.find? id = some row ∧ RowMoves maxAttempts row step row' := by
  cases hfound : s.database.outboxEvents.find? id with
  | some row =>
    obtain ⟨row'', hrow'', hmoves⟩ := h.row_moves hfound
    cases hrow.symm.trans hrow''
    exact ⟨row, rfl, hmoves⟩
  | none =>
    obtain ⟨hmem, hid⟩ := Table.find?_eq_some_iff.mp hrow
    have hids : id ∈ s.database.outboxEvents.rows.map OutboxEventRow.id := by
      rw [← h.ids, ← hid]
      exact List.mem_map_of_mem hmem
    obtain ⟨row, hrow, heq⟩ := List.mem_map.mp hids
    exact absurd heq (Table.find?_eq_none_iff.mp hfound row hrow)

/-- A step keeps the id of a row. -/
theorem RowMoves.id_eq {row row' : OutboxEventRow} (h : RowMoves maxAttempts row step row') :
    row'.id = row.id := by
  cases h <;> rfl

end Publishers

end AtlasPay
