import AtlasPay.Payments.Writes

/-!
# What the outbox does to its events

Each operation of `PostgresOutbox` and `PostgresReplayController`, as a transaction: how it ends and
what it leaves. A claim returns events that may be claimed and locks them; the other operations
update one event, unless it is published. The proofs about workers read these lemmas, not the
programs.
-/

namespace AtlasPay

open Database

variable {hashtext : String → ℤ} {db db' : Database}

namespace Database

/-- What is found after an update of some events. -/
@[simp]
theorem find?_updateOutboxEvents (ids : List String) (update : OutboxUpdate) (db : Database)
    (id : String) :
    (db.apply (.updateOutboxEvents ids update)).outboxEvents.find? id =
      (db.outboxEvents.find? id).map (updateEvent ids update) :=
  Table.find?_modify _ _ (id_updateEvent ids update) _

/-- An update of no events changes nothing. -/
theorem updateOutboxEvents_nil (update : OutboxUpdate) (db : Database) :
    db.apply (.updateOutboxEvents [] update) = db := by
  have hsame : updateEvent [] update = id := by
    funext row
    exact if_neg List.not_mem_nil
  have hrows : db.outboxEvents.modify (updateEvent [] update) (id_updateEvent [] update) =
      db.outboxEvents := by
    refine Table.ext ?_
    simp only [Table.modify, hsame, List.map_id]
  rw [apply, hrows]

/-- An event that is not updated stays as it is. -/
theorem updateEvent_of_notMem {ids : List String} {update : OutboxUpdate} {row : OutboxEventRow}
    (h : row.id ∉ ids) : updateEvent ids update row = row := if_neg h

/-- An event that is updated. -/
theorem updateEvent_of_mem {ids : List String} {update : OutboxUpdate} {row : OutboxEventRow}
    (h : row.id ∈ ids) : updateEvent ids update row = update.apply row := if_pos h

/-- The events that are selected are different, and each may be claimed. -/
theorem selectClaimableEvents_spec (db : Database) (now maxAttempts leaseSeconds batchSize : ℤ)
    (skipped : List String) :
    ((db.selectClaimableEvents now maxAttempts leaseSeconds batchSize skipped).map
        OutboxEventRow.id).Nodup ∧
      ∀ row ∈ db.selectClaimableEvents now maxAttempts leaseSeconds batchSize skipped,
        db.outboxEvents.find? row.id = some row ∧
          claimable now maxAttempts leaseSeconds row = true := by
  unfold selectClaimableEvents
  dsimp only
  constructor
  · refine List.Nodup.sublist ((List.take_sublist _ _).map _) ?_
    refine ((List.perm_insertionSort _ _).map _).nodup_iff.mpr ?_
    exact db.outboxEvents.nodup.sublist (List.filter_sublist.map _)
  · intro row hrow
    have hfound := (List.mem_insertionSort _).mp (List.mem_of_mem_take hrow)
    obtain ⟨hmem, hclaimable⟩ := List.mem_filter.mp hfound
    rw [Bool.and_eq_true] at hclaimable
    exact ⟨Table.find?_eq_some_iff.mpr ⟨hmem, rfl⟩, hclaimable.1⟩

/-- An event may be claimed when it is not published, has attempts left, and its lease, if there is
one, has expired. -/
theorem claimable_iff {now maxAttempts leaseSeconds : ℤ} {row : OutboxEventRow} :
    claimable now maxAttempts leaseSeconds row = true ↔
      row.publishedAt = none ∧ row.attempts < maxAttempts ∧
        ∀ lockedAt, row.lockedAt = some lockedAt → lockedAt < now - leaseSeconds * 1000000 := by
  unfold claimable
  cases row.lockedAt <;> simp [and_assoc]

/-- An event is unpublished when its row is there and says so. -/
theorem isUnpublished_eq_true {id : String} :
    db.isUnpublished id = true ↔
      ∃ row, db.outboxEvents.find? id = some row ∧ row.publishedAt = none := by
  unfold isUnpublished
  rw [Option.any_eq_true]
  simp only [Option.isNone_iff_eq_none]

end Database

namespace Outbox

variable {id : String} {update : OutboxUpdate}

/-- A claim that commits returns different events that may be claimed, and locks them. -/
theorem transact_claimBatch {batchSize maxAttempts leaseSeconds : ℤ} {now : Timestamp}
    {skipped : List String} {events : List OutboxEvent}
    (h : (postgres hashtext).transact db
      (claimBatch batchSize maxAttempts leaseSeconds now skipped) = (.returned events, db')) :
    0 < maxAttempts ∧ 0 < leaseSeconds ∧ (events.map OutboxEvent.id).Nodup ∧
      (∀ event ∈ events, ∃ row, db.outboxEvents.find? event.id = some row ∧
        rowToEvent row = event ∧ claimable now maxAttempts leaseSeconds row = true) ∧
      db' = db.apply (.updateOutboxEvents (events.map OutboxEvent.id) (.claimed now)) := by
  obtain ⟨changes, held, hreturns, -, rfl⟩ := Engine.transact_eq_returned.mp h
  obtain ⟨hattempts, hlease, rfl, hchanges⟩ := claimBatch_returns hreturns
  obtain ⟨hnodup, hclaimable⟩ :=
    db.selectClaimableEvents_spec now maxAttempts leaseSeconds batchSize skipped
  refine ⟨hattempts, hlease, ?_, fun event hevent => ?_, ?_⟩
  · rw [List.map_map]
    exact hnodup
  · obtain ⟨row, hrow, rfl⟩ := List.mem_map.mp hevent
    obtain ⟨hfound, hmay⟩ := hclaimable row hrow
    exact ⟨row, hfound, rfl, hmay⟩
  · rcases hchanges with ⟨hnone, rfl⟩ | rfl
    · -- Nothing to claim: no event is locked.
      rw [hnone]
      exact (updateOutboxEvents_nil _ db).symm
    · rfl

/-- An update of an event is refused, or done unless the event is published. -/
theorem transact_updateUnpublishedEvent {outcome : Outcome DbError ServiceError Bool}
    (h : (postgres hashtext).transact db
      (.call (.updateUnpublishedEvent id update) fun updated => .done updated) = (outcome, db')) :
    (∃ r, outcome = .refused r) ∧ db' = db ∨
      outcome = .returned (db.isUnpublished id) ∧
        db' = if db.isUnpublished id then db.apply (.updateOutboxEvents [id] update) else db := by
  cases hrun : db.updateUnpublishedEvent id update with
  | error r =>
    have hrefused : (postgres hashtext).run (.updateUnpublishedEvent id update) db = .error r :=
      hrun
    cases (Engine.transact_call_of_error hrefused).symm.trans h
    exact .inl ⟨⟨r, rfl⟩, rfl⟩
  | ok result =>
    obtain ⟨updated, changes⟩ := result
    have hanswered : (updated = db.isUnpublished id) ∧
        changes = if db.isUnpublished id then [.updateOutboxEvents [id] update] else [] := by
      unfold updateUnpublishedEvent at hrun
      simp only [bind_eq_ok] at hrun
      obtain ⟨-, -, -, -, hrun⟩ := hrun
      split_ifs at hrun ⊢ with hun
      · obtain ⟨rfl, rfl⟩ := pure_pair_eq_ok.mp hrun
        exact ⟨hun.symm, rfl⟩
      · obtain ⟨rfl, rfl⟩ := pure_pair_eq_ok.mp hrun
        exact ⟨(Bool.not_eq_true _ ▸ hun).symm, rfl⟩
    obtain ⟨rfl, rfl⟩ := hanswered
    -- No constraint is deferred, so what the update did is committed.
    have hexec : Returns hashtext db
        (.call (.updateUnpublishedEvent id update) fun updated => .done updated)
        (db.isUnpublished id)
        (if db.isUnpublished id then [.updateOutboxEvents [id] update] else [])
        ((Statement.updateUnpublishedEvent id update).locks hashtext db) :=
      returns_call.mpr ⟨_, _, [], [], hrun, Engine.executes_done.mpr ⟨rfl, rfl, rfl⟩,
        (List.append_nil _).symm, (List.append_nil _).symm⟩
    have hsettle : ((postgres hashtext).settle db
        (if db.isUnpublished id then [.updateOutboxEvents [id] update] else [])).isOk := by
      split <;> rfl
    have hcommits := Engine.transact_of_executes hexec hsettle
    cases hcommits.symm.trans h
    refine .inr ⟨rfl, ?_⟩
    split <;> rfl

/-- A reset raises for a blank id, and is an update otherwise. -/
theorem transact_resetOutboxEvent {outcome : Outcome DbError ServiceError Bool}
    (h : (postgres hashtext).transact db (resetOutboxEvent id) = (outcome, db')) :
    (∀ updated, outcome ≠ .returned updated) ∧ db' = db ∨
      outcome = .returned (db.isUnpublished id) ∧
        db' = if db.isUnpublished id then db.apply (.updateOutboxEvents [id] .reset) else db := by
  unfold resetOutboxEvent at h
  split_ifs at h
  · rcases transact_updateUnpublishedEvent h with ⟨⟨r, rfl⟩, rfl⟩ | hdone
    · exact .inl ⟨by simp, rfl⟩
    · exact .inr hdone
  · cases h
    exact .inl ⟨by simp, rfl⟩

end Outbox

end AtlasPay
