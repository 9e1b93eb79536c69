import AtlasPay.Payments.Delivery

/-!
# The leases of the outbox

Workers that claim events, acknowledge them and record failures, in any order and with any delays.
Each operation is a transaction that touches only rows that it has locked, so they come one after
the other here; which rows `SKIP LOCKED` skips is left open.

A claim writes the time of its lease into the row, and a recorded failure takes it out again,
whoever records it. So a lease is exclusive as long as a failure that is recorded while another
worker holds the event is not followed by a claim within its lease (`Released`). Nothing else is
asked of the times of the calls: a claim may come after one that is later, since it finds either no
lease or one that has expired by its own time.
-/

namespace AtlasPay

open Database

/-- An operation on the outbox. -/
inductive OutboxOperation where
  | claimBatch (batchSize maxAttempts : ℤ) (skipped : List String)
  | acknowledge (eventId : String) (publishedAt : Timestamp)
  | recordFailure (eventId error : String)

/-- What an operation returns. -/
inductive OutboxResult where
  | events (claimed : List OutboxEvent)
  | updated (done : Bool)
  deriving DecidableEq

/-- An operation of a worker, at a time. -/
structure LeaseCall where
  worker : ℕ
  now : Timestamp
  operation : OutboxOperation

namespace LeaseCall

/-- The transaction of an operation. -/
def body (leaseSeconds : ℤ) (call : LeaseCall) : Service OutboxResult :=
  match call.operation with
  | .claimBatch batchSize maxAttempts skipped =>
    (Outbox.claimBatch batchSize maxAttempts leaseSeconds call.now skipped).bind fun events =>
      .done (.events events)
  | .acknowledge eventId publishedAt =>
    (Outbox.acknowledge eventId publishedAt).bind fun done => .done (.updated done)
  | .recordFailure eventId error =>
    (Outbox.recordFailure eventId error).bind fun done => .done (.updated done)

/-- An operation with how it ended. -/
abbrev Ended := LeaseCall × Outcome DbError ServiceError OutboxResult

/-- The operations of any number of workers, on any tables. -/
def leases (hashtext : String → ℤ) (leaseSeconds : ℤ) : Lts Database Ended :=
  (postgres hashtext).serial (fun _ => True) (body leaseSeconds)

/-- The events that a claim returned. -/
def claimed (ended : Ended) : List String :=
  match ended.2 with
  | .returned (.events events) => events.map OutboxEvent.id
  | _ => []

/-- The event that was acknowledged, or whose failure was recorded. -/
def finished (ended : Ended) : Option String :=
  match ended.1.operation, ended.2 with
  | .acknowledge eventId _, .returned (.updated true) => some eventId
  | .recordFailure eventId _, .returned (.updated true) => some eventId
  | _, _ => none

/-- The event whose failure was recorded. -/
def failed (ended : Ended) : Option String :=
  match ended.1.operation, ended.2 with
  | .recordFailure eventId _, .returned (.updated true) => some eventId
  | _, _ => none

/-- The operation is a claim. -/
def isClaim (call : LeaseCall) : Bool :=
  match call.operation with
  | .claimBatch .. => true
  | _ => false

/-- The worker claimed the event at the time, and has not finished it since. -/
def Holds (log : List Ended) (worker : ℕ) (eventId : String) (time : Timestamp) : Prop :=
  ∃ before claim after, log = before ++ claim :: after ∧ claim.1.worker = worker ∧
    claim.1.now = time ∧ eventId ∈ claimed claim ∧
    ∀ later ∈ after, later.1.worker = worker → finished later ≠ some eventId

/-- No event is claimed by one worker up to the end of the lease that another one holds. -/
def Exclusive (leaseSeconds : ℤ) (log : List Ended) : Prop :=
  ∀ before ended after, log = before ++ ended :: after → ∀ worker eventId time,
    Holds before worker eventId time → worker ≠ ended.1.worker →
    ended.1.now ≤ time + leaseSeconds * 1000000 → eventId ∉ claimed ended

/-- When one worker records a failure of an event that another one holds, the claims that follow are
past the end of that lease. -/
def Released (leaseSeconds : ℤ) (log : List Ended) : Prop :=
  ∀ before ended after, log = before ++ ended :: after → ∀ worker eventId time,
    Holds before worker eventId time → worker ≠ ended.1.worker → failed ended = some eventId →
    ∀ later ∈ after, later.1.isClaim → time + leaseSeconds * 1000000 < later.1.now

/-- Time does not go back. Leases do not need this, and the run below that breaks one has it. -/
def InOrder (log : List Ended) : Prop := log.Pairwise fun ended later => ended.1.now ≤ later.1.now

/-- What protects an event that is held since a time: a lease from that time or later, or that it is
published. -/
def Protected (db : Database) (eventId : String) (time : Timestamp) : Prop :=
  ∃ row, db.outboxEvents.find? eventId = some row ∧
    (row.publishedAt.isSome ∨ ∃ lockedAt, row.lockedAt = some lockedAt ∧ time ≤ lockedAt)

variable {hashtext : String → ℤ} {leaseSeconds : ℤ} {db db' : Database} {log : List Ended}
  {ended : Ended} {eventId : String} {time : Timestamp} {worker : ℕ}

/-! ## One operation -/

/-- What an operation does to the tables: a claim locks the events that it returns, for a positive
time; an acknowledgement or a failure that is recorded updates its event; and an operation that is
raised or refused, or finds its event published, does nothing. -/
theorem step_cases (h : (leases hashtext leaseSeconds).step db ended db') :
    (∃ events maxAttempts, ended.2 = .returned (.events events) ∧ ended.1.isClaim ∧
      0 < leaseSeconds ∧ failed ended = none ∧
      (∀ event ∈ events, ∃ row, db.outboxEvents.find? event.id = some row ∧
        claimable ended.1.now maxAttempts leaseSeconds row = true) ∧
      db' = db.apply (.updateOutboxEvents (events.map OutboxEvent.id) (.claimed ended.1.now))) ∨
    (∃ id update, claimed ended = [] ∧ finished ended = some id ∧
      (failed ended = none ∧ (∃ publishedAt, update = OutboxUpdate.acknowledged publishedAt) ∨
        failed ended = some id) ∧
      db' = db.apply (.updateOutboxEvents [id] update)) ∨
    (claimed ended = [] ∧ failed ended = none ∧ db' = db) := by
  obtain ⟨⟨worker, now, operation⟩, outcome⟩ := ended
  have htransact : (postgres hashtext).transact db (body leaseSeconds ⟨worker, now, operation⟩) =
    (outcome, db') := h
  cases operation with
  | claimBatch batchSize maxAttempts skipped =>
    obtain ⟨result, hclaim, rfl⟩ := Engine.transact_of_bind_done htransact
    cases result with
    | returned events =>
      -- The rows that a claim returns are those that it has locked.
      obtain ⟨-, hlease, -, hmay, hafter⟩ := Outbox.transact_claimBatch hclaim
      refine .inl ⟨events, maxAttempts, rfl, rfl, hlease, rfl, fun event hevent => ?_, hafter⟩
      obtain ⟨row, hrow, -, hrow'⟩ := hmay event hevent
      exact ⟨row, hrow, hrow'⟩
    | raised | refused =>
      -- One that does not return has committed nothing.
      rcases Engine.transact_cases hclaim with ⟨rfl, -⟩ | ⟨a, -, -, hreturned, -⟩
      · exact .inr (.inr ⟨rfl, rfl, rfl⟩)
      · cases hreturned
  | acknowledge id publishedAt =>
    obtain ⟨result, hupdate, rfl⟩ := Engine.transact_of_bind_done htransact
    rcases Outbox.transact_updateUnpublishedEvent hupdate with ⟨⟨r, rfl⟩, rfl⟩ | ⟨rfl, rfl⟩
    · exact .inr (.inr ⟨rfl, rfl, rfl⟩)
    · -- The answer is whether the event was unpublished, and so whether it is updated.
      cases db.isUnpublished id with
      | false => exact .inr (.inr ⟨rfl, rfl, rfl⟩)
      | true => exact .inr (.inl ⟨id, _, rfl, rfl, .inl ⟨rfl, publishedAt, rfl⟩, rfl⟩)
  | recordFailure id error =>
    obtain ⟨result, hupdate, rfl⟩ := Engine.transact_of_bind_done htransact
    rcases Outbox.transact_updateUnpublishedEvent hupdate with ⟨⟨r, rfl⟩, rfl⟩ | ⟨rfl, rfl⟩
    · exact .inr (.inr ⟨rfl, rfl, rfl⟩)
    · cases db.isUnpublished id with
      | false => exact .inr (.inr ⟨rfl, rfl, rfl⟩)
      | true => exact .inr (.inl ⟨id, _, rfl, rfl, .inr rfl, rfl⟩)

/-- A claim protects its events from its time on. -/
theorem protected_of_claimed (h : (leases hashtext leaseSeconds).step db ended db')
    (hclaimed : eventId ∈ claimed ended) : Protected db' eventId ended.1.now := by
  rcases step_cases h with ⟨events, maxAttempts, houtcome, -, -, -, hmay, rfl⟩ |
    ⟨id, update, hnone, -⟩ | ⟨hnone, -⟩
  · unfold claimed at hclaimed
    rw [houtcome] at hclaimed
    obtain ⟨event, hevent, rfl⟩ := List.mem_map.mp hclaimed
    obtain ⟨row, hrow, -⟩ := hmay event hevent
    have hid := (Table.find?_eq_some_iff.mp hrow).2
    refine ⟨_, by rw [find?_updateOutboxEvents, hrow]; rfl, .inr ⟨ended.1.now, ?_, le_rfl⟩⟩
    rw [updateEvent_of_mem (by rwa [hid])]
    rfl
  · rw [hnone] at hclaimed
    cases hclaimed
  · rw [hnone] at hclaimed
    cases hclaimed

/-- An event stays protected, but for a failure that is recorded: when it is claimed, its lease from
that time or later has expired, so that the claim is later still. -/
theorem Protected.step (hprotected : Protected db eventId time)
    (h : (leases hashtext leaseSeconds).step db ended db') (hfailed : failed ended ≠ some eventId) :
    Protected db' eventId time := by
  obtain ⟨row, hrow, hcases⟩ := hprotected
  have hid := (Table.find?_eq_some_iff.mp hrow).2
  rcases step_cases h with ⟨events, maxAttempts, -, -, hlease, -, hmay, rfl⟩ |
    ⟨id, update, -, -, hupdate, rfl⟩ | ⟨-, -, rfl⟩
  · refine ⟨_, by rw [find?_updateOutboxEvents, hrow]; rfl, ?_⟩
    by_cases hmem : row.id ∈ events.map OutboxEvent.id
    · rw [updateEvent_of_mem hmem]
      -- The claim found its lease expired, so its own time is later.
      refine hcases.imp id fun ⟨lockedAt, hlocked, hle⟩ => ⟨ended.1.now, rfl, ?_⟩
      obtain ⟨event, hevent, heq⟩ := List.mem_map.mp hmem
      obtain ⟨row', hrow', hclaimable⟩ := hmay event hevent
      rw [heq, hid] at hrow'
      cases hrow.symm.trans hrow'
      have hexpired := (claimable_iff.mp hclaimable).2.2 lockedAt hlocked
      have hpast : ended.1.now - leaseSeconds * 1000000 < ended.1.now :=
        sub_lt_self _ (mul_pos hlease (by norm_num))
      exact (hle.trans_lt (hexpired.trans hpast)).le
    · rw [updateEvent_of_notMem hmem]
      exact hcases
  · refine ⟨_, by rw [find?_updateOutboxEvents, hrow]; rfl, ?_⟩
    -- An update of the event itself publishes it, since no failure of it is recorded.
    by_cases heq : id = eventId
    · subst heq
      rcases hupdate with ⟨-, publishedAt, rfl⟩ | hother
      · rw [updateEvent_of_mem (by rw [hid]; exact List.mem_singleton_self _)]
        exact .inl rfl
      · exact absurd hother hfailed
    · rw [updateEvent_of_notMem (by rw [hid, List.mem_singleton]; exact Ne.symm heq)]
      exact hcases
  · exact ⟨row, hrow, hcases⟩

/-- An event that is protected is claimed only when the lease from its time has expired. -/
theorem Protected.not_claimed (hprotected : Protected db eventId time)
    (h : (leases hashtext leaseSeconds).step db ended db')
    (hnow : ended.1.now ≤ time + leaseSeconds * 1000000) : eventId ∉ claimed ended := by
  intro hclaimed
  obtain ⟨row, hrow, hcases⟩ := hprotected
  rcases step_cases h with ⟨events, maxAttempts, houtcome, -, -, -, hmay, -⟩ |
    ⟨id, update, hnone, -⟩ | ⟨hnone, -⟩
  · unfold claimed at hclaimed
    rw [houtcome] at hclaimed
    obtain ⟨event, hevent, rfl⟩ := List.mem_map.mp hclaimed
    obtain ⟨row', hrow', hclaimable⟩ := hmay event hevent
    cases hrow.symm.trans hrow'
    obtain ⟨hunpublished, -, hexpired⟩ := claimable_iff.mp hclaimable
    rcases hcases with hpublished | ⟨lockedAt, hlocked, hle⟩
    · rw [hunpublished] at hpublished
      cases hpublished
    -- A claim would need the lease to have expired, but it lasts up to the end.
    · have hlt := hexpired lockedAt hlocked
      have hend : ended.1.now - leaseSeconds * 1000000 ≤ time := sub_le_iff_le_add.mpr hnow
      exact absurd (hlt.trans_le hend) (not_lt.mpr hle)
  · rw [hnone] at hclaimed
    cases hclaimed
  · rw [hnone] at hclaimed
    cases hclaimed

/-! ## Runs -/

/-- A worker holds an event after one more operation when it claimed the event there, or held it and
did not finish it. -/
theorem holds_concat (h : Holds (log ++ [ended]) worker eventId time) :
    (ended.1.worker = worker ∧ ended.1.now = time ∧ eventId ∈ claimed ended) ∨
      Holds log worker eventId time ∧
        (ended.1.worker = worker → finished ended ≠ some eventId) := by
  obtain ⟨before, claim, after, hlog, hworker, hnow, hclaimed, hunfinished⟩ := h
  rcases List.eq_nil_or_concat after with rfl | ⟨rest, last, rfl⟩
  · obtain ⟨-, hlast⟩ := List.append_inj' hlog rfl
    cases hlast
    exact .inl ⟨hworker, hnow, hclaimed⟩
  · rw [List.concat_eq_append, ← List.cons_append, ← List.append_assoc] at hlog
    obtain ⟨rfl, hlast⟩ := List.append_inj' hlog rfl
    cases hlast
    rw [List.concat_eq_append] at hunfinished
    exact .inr ⟨⟨before, claim, rest, rfl, hworker, hnow, hclaimed,
      fun later hlater => hunfinished later (List.mem_append_left _ hlater)⟩,
      hunfinished ended (List.mem_append_right _ (List.mem_singleton_self _))⟩

/-- Only a claim claims. -/
theorem isClaim_of_mem_claimed (h : (leases hashtext leaseSeconds).step db ended db')
    (hclaimed : eventId ∈ claimed ended) : ended.1.isClaim := by
  rcases step_cases h with ⟨-, -, -, hclaim, -⟩ | ⟨-, -, hnone, -⟩ | ⟨hnone, -⟩
  · exact hclaim
  · rw [hnone] at hclaimed
    cases hclaimed
  · rw [hnone] at hclaimed
    cases hclaimed

/-- What a worker finishes with a failure, it finishes. -/
theorem finished_of_failed (h : failed ended = some eventId) : finished ended = some eventId := by
  unfold failed at h
  unfold finished
  split at h
  · next heq heq' => rw [heq, heq']; exact h
  · cases h

/-- In every run, an event that a worker holds is protected, or another worker has recorded a
failure of it in the meantime. -/
theorem protected_of_run (h : (leases hashtext leaseSeconds).Run log db)
    (hholds : Holds log worker eventId time) : Protected db eventId time ∨
      ∃ before failure after, log = before ++ failure :: after ∧ Holds before worker eventId time ∧
        worker ≠ failure.1.worker ∧ failed failure = some eventId := by
  induction log using List.reverseRecOn generalizing db worker time with
  | nil =>
    obtain ⟨before, claim, after, hlog, -⟩ := hholds
    simp at hlog
  | append_singleton log ended ih =>
    obtain ⟨db₀, hrun, hstep⟩ := Lts.run_concat_iff.mp h
    rcases holds_concat hholds with ⟨-, rfl, hclaimed⟩ | ⟨hheld, hunfinished⟩
    · exact .inl (protected_of_claimed hstep hclaimed)
    · rcases ih hrun hheld with hprotected | ⟨before, failure, after, rfl, hbefore⟩
      · -- A failure would be its own, which finishes the event, or one of another worker.
        by_cases hfailed : failed ended = some eventId
        · refine .inr ⟨log, ended, [], rfl, hheld, fun hworker => ?_, hfailed⟩
          exact hunfinished hworker.symm (finished_of_failed hfailed)
        · exact .inl (hprotected.step hstep hfailed)
      · exact .inr ⟨before, failure, after ++ [ended], by simp, hbefore⟩

/-- Where failures are released, leases are exclusive. -/
theorem exclusive_of_run (h : (leases hashtext leaseSeconds).Run log db)
    (hreleased : Released leaseSeconds log) : Exclusive leaseSeconds log := by
  rintro before ended after rfl worker eventId time hholds - hnow hclaimed
  obtain ⟨db₁, db₂, hrun, hstep, -⟩ := Lts.run_split h
  rcases protected_of_run hrun hholds with
    hprotected | ⟨earlier, failure, later, rfl, hheld, hother, hfailed⟩
  · exact hprotected.not_claimed hstep hnow hclaimed
  · -- The claim follows a failure that another worker has recorded, so it is past the lease.
    have hpast := hreleased earlier failure (later ++ ended :: after) (by simp) worker eventId time
      hheld hother hfailed ended (by simp) (isClaim_of_mem_claimed hstep hclaimed)
    exact absurd hnow (not_le.mpr hpast)

/-! ## One event -/

/-- A new event. -/
def inserted : OutboxEventRow :=
  ⟨"evt_1", "payment", "pay_1", "payment.captured", [], 0, none, 0, none, none⟩

/-- An outbox with one event. -/
def single : Database := { migrated with outboxEvents := Table.empty.put inserted }

/-- A claim, in seconds. -/
def claimAt (worker : ℕ) (seconds : ℤ) : LeaseCall :=
  ⟨worker, seconds * 1000000, .claimBatch 50 5 []⟩

/-- A failure that is recorded, in seconds. -/
def failAt (worker : ℕ) (seconds : ℤ) : LeaseCall :=
  ⟨worker, seconds * 1000000, .recordFailure "evt_1" "timeout"⟩

/-- The event as a claim returns it. -/
def delivered (attempts : ℤ) : Outcome DbError ServiceError OutboxResult :=
  .returned (.events [⟨"evt_1", "payment", "pay_1", "payment.captured", [], attempts⟩])

/-- A worker that records its failure lets another one claim the event. -/
theorem exclusive_retry :
    Exclusive 60 [(claimAt 1 0, delivered 0), (failAt 1 10, .returned (.updated true)),
      (claimAt 2 20, delivered 1)] := by
  have hlog : ((postgres fun _ => 0).transactAll (body 60) single
      [claimAt 1 0, failAt 1 10, claimAt 2 20]).1 =
      [(claimAt 1 0, delivered 0), (failAt 1 10, .returned (.updated true)),
        (claimAt 2 20, delivered 1)] := rfl
  have hrun := Engine.run_transactAll (E := postgres fun _ => 0) (c := single) (fun _ => True)
    (body 60) trivial [claimAt 1 0, failAt 1 10, claimAt 2 20]
  rw [hlog] at hrun
  refine exclusive_of_run hrun fun before ended after hsplit worker eventId time hholds hother
    hfailed => ?_
  obtain ⟨before', claim, after', hbefore, hworker, -⟩ := hholds
  have hclaim : claim ∈ before := by simp [hbefore]
  -- The only failure is the second operation, of the worker that holds the event.
  rcases before with _ | ⟨first, _ | ⟨second, rest⟩⟩
  · cases hclaim
  · simp only [List.cons_append, List.nil_append, List.cons.injEq] at hsplit
    obtain ⟨rfl, rfl, -⟩ := hsplit
    rw [List.mem_singleton] at hclaim
    subst hclaim
    exact absurd hworker.symm hother
  · rcases rest with _ | ⟨third, rest⟩
    · simp only [List.cons_append, List.nil_append, List.cons.injEq] at hsplit
      obtain ⟨-, -, rfl, -⟩ := hsplit
      cases hfailed
    · have hlength := congrArg List.length hsplit
      simp only [List.length_append, List.length_cons, List.length_nil] at hlength
      omega

/-- A worker whose lease has been taken over records its failure: the event is claimed a third time,
by a worker that does not hold it, two seconds into the lease of the second one. -/
theorem not_exclusive_takenOver : ∃ log db, (leases (fun _ => 0) 60).Run log db ∧ InOrder log ∧
    ¬Exclusive 60 log := by
  have hlog : ((postgres fun _ => 0).transactAll (body 60) single
      [claimAt 1 0, claimAt 2 61, failAt 1 62, claimAt 3 63]).1 =
      [(claimAt 1 0, delivered 0), (claimAt 2 61, delivered 0),
        (failAt 1 62, .returned (.updated true)), (claimAt 3 63, delivered 1)] := rfl
  have hrun := Engine.run_transactAll (E := postgres fun _ => 0) (c := single) (fun _ => True)
    (body 60) trivial [claimAt 1 0, claimAt 2 61, failAt 1 62, claimAt 3 63]
  rw [hlog] at hrun
  refine ⟨_, _, hrun, by simp [InOrder, claimAt, failAt], fun hexclusive => ?_⟩
  have hholds : Holds [(claimAt 1 0, delivered 0), (claimAt 2 61, delivered 0),
      (failAt 1 62, .returned (.updated true))] 2 "evt_1" (61 * 1000000) :=
    ⟨[(claimAt 1 0, delivered 0)], (claimAt 2 61, delivered 0),
      [(failAt 1 62, .returned (.updated true))], rfl, rfl, rfl, List.mem_singleton_self _,
      by simp [failAt]⟩
  exact hexclusive _ (claimAt 3 63, delivered 1) [] rfl 2 "evt_1" _ hholds (by decide) (by decide)
    (List.mem_singleton_self _)

end LeaseCall

end AtlasPay
