import AtlasPay.Library.Grouping
import AtlasPay.Payments.Consuming
import AtlasPay.Payments.Lossless
import AtlasPay.Payments.Permanence

/-!
# From an operation to its effects

The outbox as a whole: calls on payments and on the ledger, of which the operations insert events;
publishers that hand events over to a broker; and consumers that are given what the broker has, as
often as it likes and in any order. The calls are transactions one after the other, as their
sessions are (`LedgerCall.serial_of_sessions`).

Every event tells of one operation, and every effect is that of an event (`Delivers`): operations
that failed, or that were replayed, have none. Where nothing is left to publish and to consume, each
consumer has gone through each operation once.
-/

namespace AtlasPay

open Database

/-! ## The parts together -/

/-- What an event says. Its attempts differ from one claim to the next. -/
structure Message where
  id : String
  aggregateType : String
  aggregateId : String
  eventType : String
  payload : JsonObject
  deriving DecidableEq

/-- What an event says. -/
def OutboxEvent.message (event : OutboxEvent) : Message :=
  ⟨event.id, event.aggregateType, event.aggregateId, event.eventType, event.payload⟩

/-- What the event of a row says. -/
def OutboxEventRow.message (row : OutboxEventRow) : Message := (Outbox.rowToEvent row).message

/-- The transaction of a call, with the result of an operation. -/
def LedgerCall.reports (sha256 : String → Digest) : LedgerCall → Service (Option OperationResult)
  | .lifecycle (.execute call) =>
    (PaymentOperations.execute sha256 call).bind fun result => .done (some result)
  | call => (call.body sha256).bind fun _ => .done none

/-- The tables and the publishers, what was handed over to the broker, and the consumers. -/
structure Pipeline where
  publishers : Publishers
  broker : List OutboxEvent
  consumers : Consumers

/-- What may happen next: a call, a move of a publisher, or a move of a consumer. -/
inductive PipelineMove where
  | serve (call : LedgerCall)
  | publish (move : PublisherMove)
  | consume (move : ConsumerMove)

/-- What can be seen of a step. -/
inductive PipelineStep where
  | served (call : LedgerCall) (outcome : Outcome DbError ServiceError (Option OperationResult))
  | published (step : PublisherStep)
  | consumed (step : ConsumerStep)

namespace Pipeline

/-- The event that a publisher hands over when it invokes its callback. -/
def handedOver (s : Publishers) : PublisherStep → List OutboxEvent
  | .invoked worker _ =>
    match s.batches worker with
    | .next (event :: _) _ => [event]
    | _ => []
  | _ => []

/-- A consumer is called with an event that the broker has. -/
def delivers (broker : List OutboxEvent) : ConsumerMove → Bool
  | .consume _ _ eventId => broker.any fun event => event.id = eventId
  | _ => true

/-- One move, where it is possible, and what can be seen of it. -/
def advance (hashtext : String → ℤ) (sha256 : String → Digest) (maxAttempts : ℤ) (s : Pipeline) :
    PipelineMove → Option (Pipeline × PipelineStep)
  | .serve call =>
    let ended := (postgres hashtext).transact s.publishers.database (call.reports sha256)
    some (⟨⟨ended.2, s.publishers.batches⟩, s.broker, s.consumers⟩, .served call ended.1)
  | .publish move =>
    match s.publishers.advance hashtext maxAttempts move with
    | some (publishers, step) =>
      some (⟨publishers, s.broker ++ handedOver s.publishers step, s.consumers⟩, .published step)
    | none => none
  | .consume move =>
    if delivers s.broker move then
      match s.consumers.advance move with
      | some (consumers, step) => some (⟨s.publishers, s.broker, consumers⟩, .consumed step)
      | none => none
    else none

/-- The pipeline, on the migrated database. -/
def pipeline (hashtext : String → ℤ) (sha256 : String → Digest) (maxAttempts : ℤ) :
    Lts Pipeline PipelineStep :=
  .ofMoves (fun s => s = ⟨⟨migrated, fun _ => .idle⟩, [], ⟨.empty, ∅⟩⟩)
    (advance hashtext sha256 maxAttempts)

/-! ## What can be told of a run -/

/-- The operation that a step has executed, with its result. -/
def executed : PipelineStep → Option (OperationCall × OperationResult)
  | .served (.lifecycle (.execute call)) (.returned (some result)) =>
    if result.replayed then none else some (call, result)
  | _ => none

/-- The step of a consumer. -/
def consumption : PipelineStep → Option ConsumerStep
  | .consumed step => some step
  | _ => none

/-- The steps of the consumers. -/
def consuming (log : List PipelineStep) : List ConsumerStep := log.filterMap consumption

/-- A consumer has gone through an event. -/
def completes (key : String × String) : ConsumerStep → Bool
  | .finished _ finished => finished = key
  | _ => false

/-- How often a consumer has gone through an event. -/
def completions (key : String × String) (log : List ConsumerStep) : ℕ :=
  log.countP (completes key)

/-- A handler of a consumer has its effect. -/
def affects (name : String) : PipelineStep → Bool
  | .consumed (.handled _ key applied) => applied && key.1 = name
  | _ => false

/-- A consumer gives up a call after its handler has had its effect. -/
def loses (name : String) : PipelineStep → Bool
  | .consumed (.aborted _ key applied) => applied && key.1 = name
  | _ => false

/-- What the event of an operation says. -/
structure Tells (db : Database) (operation : OperationCall × OperationResult) (message : Message) :
    Prop where
  id : message.id = operation.1.eventId
  aggregateType : message.aggregateType = "payment"
  aggregateId : message.aggregateId = operation.1.paymentId
  eventType : message.eventType = "payment." ++ operation.2.toStatus.value
  payload : ∃ payment, db.payments.find? operation.1.paymentId = some payment ∧
    message.payload =
      PaymentOperations.eventPayload operation.1 operation.2.fromStatus payment.amount
        (upper payment.currency)

/-- What can be relied on from an operation to its effects. -/
structure Delivers (log : List PipelineStep) (s : Pipeline) : Prop where
  /-- There is one event for each operation, in the order in which these were executed. -/
  events : List.Forall₂ (Tells s.publishers.database) (log.filterMap executed)
    (s.publishers.database.outboxEvents.rows.map OutboxEventRow.message)
  /-- What the broker has says what the rows say. -/
  broker : ∀ event ∈ s.broker,
    event.message ∈ s.publishers.database.outboxEvents.rows.map OutboxEventRow.message
  /-- An event that is marked as published was handed over, and its callback has returned. -/
  published : ∀ row ∈ s.publishers.database.outboxEvents.rows, row.publishedAt.isSome →
    (∃ event ∈ s.broker, event.id = row.id) ∧
      ∃ worker, .published (.answered worker row.id none) ∈ log
  /-- An effect is that of an event that was handed over. -/
  effects : ∀ key, 0 < Consumers.effects key (consuming log) → ∃ event ∈ s.broker, event.id = key.2
  /-- A consumer has as many effects as operations were executed, but for those that are lost. -/
  bounded : ∀ name, (log.countP fun step => affects name step) ≤
    (log.filterMap executed).length + log.countP fun step => loses name step
  /-- A consumer goes through an event once, at most. -/
  once : ∀ key, completions key (consuming log) ≤ 1
  /-- Where nothing is left to publish, and a consumer has consumed what the broker has, it has gone
  through each operation once. -/
  atRest : ∀ name,
    (∀ row ∈ s.publishers.database.outboxEvents.rows, row.publishedAt.isSome) →
    (∀ event ∈ s.broker, (s.consumers.consumedEvents.find? (name, event.id)).isSome) →
      ∀ operation ∈ log.filterMap executed,
        completions (name, operation.1.eventId) (consuming log) = 1

end Pipeline

/-! ## The publishers -/

/-- The events of a batch that are not done. -/
def Batch.events : Batch → List OutboxEvent
  | .idle => []
  | .next events _ => events
  | .calling event rest _ => event :: rest
  | .recording event _ rest _ => event :: rest

/-- The event of a batch for which the callback was invoked. -/
def Batch.current : Batch → Option OutboxEvent
  | .calling event _ _ => some event
  | .recording event _ _ _ => some event
  | _ => none

namespace Publishers

variable {hashtext : String → ℤ} {maxAttempts : ℤ} {s s' : Publishers} {step : PublisherStep}

/-- What an event says is not updated. -/
theorem message_updateEvent (ids : List String) (update : OutboxUpdate) (row : OutboxEventRow) :
    (updateEvent ids update row).message = row.message := by
  unfold updateEvent
  split
  case isTrue => cases update <;> rfl
  case isFalse => rfl

/-- A step keeps what the rows say. -/
theorem Happens.messages (h : Happens maxAttempts s step s') :
    s'.database.outboxEvents.rows.map OutboxEventRow.message =
      s.database.outboxEvents.rows.map OutboxEventRow.message := by
  have hupdate : ∀ (db : Database) ids update,
      (db.apply (.updateOutboxEvents ids update)).outboxEvents.rows.map OutboxEventRow.message =
        db.outboxEvents.rows.map OutboxEventRow.message := by
    intro db ids update
    show (db.outboxEvents.rows.map (updateEvent ids update)).map OutboxEventRow.message = _
    rw [List.map_map]
    exact List.map_congr_left fun row _ => message_updateEvent ids update row
  cases h with
  | claimed => exact hupdate _ _ _
  | acknowledged | failed | reset =>
    dsimp only
    split
    · exact hupdate _ _ _
    · rfl
  | invoked | answered | finished | dropped => rfl

/-- A step keeps the payments. -/
theorem Happens.payments (h : Happens maxAttempts s step s') :
    s'.database.payments = s.database.payments := by
  cases h with
  | claimed => rfl
  | acknowledged | failed | reset =>
    dsimp only
    split
    · rfl
    · rfl
  | invoked | answered | finished | dropped => rfl

/-- What is claimed is read from the rows. -/
theorem rows_of_claimed {worker : ℕ} {ids : List String}
    (h : (publishers hashtext maxAttempts).step s (.claimed worker ids) s') :
    ∀ event ∈ (s'.batches worker).events, ∃ row ∈ s.database.outboxEvents.rows,
      event.message = row.message := by
  obtain ⟨move, hmove⟩ := h
  unfold advance at hmove
  cases move with
  | claim other batchSize leaseSeconds now skipped =>
    simp only at hmove
    split at hmove
    · split at hmove
      · next events db hclaim =>
        cases hmove
        -- The events of the batch are those that the claim returned.
        obtain ⟨-, -, -, hmay, -⟩ := Outbox.transact_claimBatch hclaim
        intro event hevent
        dsimp only at hevent
        rw [Function.update_self] at hevent
        obtain ⟨row, hrow, rfl, -⟩ := hmay event hevent
        exact ⟨row, (Table.find?_eq_some_iff.mp hrow).1, rfl⟩
      · cases hmove
    · cases hmove
  | invoke | answer | finish | reset =>
    simp only at hmove
    split at hmove <;> cases hmove
  | record =>
    simp only at hmove
    split at hmove
    · split at hmove <;> cases hmove
    · split at hmove <;> cases hmove
    · cases hmove
  | crash => cases hmove

/-- What a worker holds after a step it held before, or it has just read it. -/
theorem messages_of_step (h : (publishers hashtext maxAttempts).step s step s') {worker : ℕ}
    {event : OutboxEvent} (hevent : event ∈ (s'.batches worker).events) :
    event ∈ (s.batches worker).events ∨
      ∃ row ∈ s.database.outboxEvents.rows, event.message = row.message := by
  have hhappens := happens_of_step h
  by_cases hparty : party step = some worker
  swap
  · rw [hhappens.batches_eq hparty] at hevent
    exact .inl hevent
  cases hhappens with
  | claimed =>
    cases hparty
    -- Only a claim brings in new events.
    exact .inr (rows_of_claimed h event hevent)
  | invoked other first rest published hbatch | answered other first raised rest published hbatch =>
    cases hparty
    rw [batches_set, Function.update_self] at hevent
    rw [hbatch]
    exact .inl hevent
  | acknowledged other first rest published now hbatch
    | failed other first error stored rest published hbatch =>
    cases hparty
    dsimp only at hevent
    rw [Function.update_self] at hevent
    rw [hbatch]
    exact .inl (List.mem_cons_of_mem _ hevent)
  | finished | dropped =>
    cases hparty
    rw [batches_set, Function.update_self] at hevent
    cases hevent
  | reset => cases hparty

/-- An event whose callback is running was handed over, in this step or before. -/
theorem current_of_happens (h : Happens maxAttempts s step s') {worker : ℕ} {event : OutboxEvent}
    (hcurrent : (s'.batches worker).current = some event) :
    (s.batches worker).current = some event ∨ event ∈ Pipeline.handedOver s step := by
  by_cases hparty : party step = some worker
  swap
  · rw [h.batches_eq hparty] at hcurrent
    exact .inl hcurrent
  cases h with
  | invoked other first rest published hbatch =>
    cases hparty
    rw [batches_set, Function.update_self] at hcurrent
    cases hcurrent
    -- The callback that starts here gets the first event of the batch.
    refine .inr ?_
    unfold Pipeline.handedOver
    simp only [hbatch]
    exact List.mem_cons_self
  | answered other first raised rest published hbatch =>
    cases hparty
    rw [batches_set, Function.update_self] at hcurrent
    rw [hbatch]
    exact .inl hcurrent
  | claimed | acknowledged | failed =>
    cases hparty
    -- After these no callback runs.
    dsimp only at hcurrent
    rw [Function.update_self] at hcurrent
    cases hcurrent
  | finished | dropped =>
    cases hparty
    rw [batches_set, Function.update_self] at hcurrent
    cases hcurrent
  | reset => cases hparty

/-- What is handed over is held by a worker. -/
theorem held_of_handedOver {event : OutboxEvent} (hevent : event ∈ Pipeline.handedOver s step) :
    ∃ worker, event ∈ (s.batches worker).events := by
  unfold Pipeline.handedOver at hevent
  split at hevent
  · next worker eventId =>
    split at hevent
    · next first rest published hbatch =>
      refine ⟨worker, ?_⟩
      rw [hbatch, List.mem_singleton.mp hevent]
      exact List.mem_cons_self
    · cases hevent
  · cases hevent

end Publishers

/-! ## The calls -/

namespace Pipeline

variable {hashtext : String → ℤ} {sha256 : String → Digest} {maxAttempts : ℤ} {db db' : Database}
  {changes : List Change} {held : List Lock}

/-- A call changes what it does in the services. -/
theorem returns_of_reports {call : LedgerCall} {report : Option OperationResult}
    (h : Returns hashtext db (call.reports sha256) report changes held) :
    Returns hashtext db (call.toServiceCall.body sha256) ⟨⟩ changes held := by
  cases call with
  | post =>
    obtain ⟨u, h, -⟩ := Engine.executes_bind_done.mp h
    exact h
  | lifecycle call =>
    cases call with
    | execute call =>
      obtain ⟨result, h, -⟩ := Engine.executes_bind_done.mp h
      exact Engine.executes_forget.mpr ⟨result, h⟩
    | createPayment | createAccount | authorize =>
      obtain ⟨u, h, -⟩ := Engine.executes_bind_done.mp h
      exact h

/-- A call that is no operation inserts no event. -/
theorem events_of_other {call : LedgerCall}
    (hcall : ∀ operation, call ≠ .lifecycle (.execute operation))
    (h : Returns hashtext db (call.toServiceCall.body sha256) ⟨⟩ changes held) :
    (after changes db).outboxEvents = db.outboxEvents := by
  cases call with
  | post ref currency postings transactionId drawn now =>
    obtain ⟨result, h⟩ := Engine.executes_forget.mp h
    obtain ⟨journal, entries, -, -, rfl, -⟩ := Ledger.post_returns h
    rw [after_cons, after_insertLedgerEntries]
    rfl
  | lifecycle call =>
    cases call with
    | execute operation => exact absurd rfl (hcall operation)
    | createPayment request key id now =>
      obtain ⟨result, h⟩ := Engine.executes_forget.mp h
      cases PaymentRepository.creates_of_returns h <;> rfl
    | createAccount account =>
      obtain ⟨result, h⟩ := Engine.executes_forget.mp h
      obtain ⟨row, -, -, rfl, -⟩ := Ledger.createAccount_returns h
      rfl
    | authorize id =>
      obtain ⟨-, rfl, -⟩ := PaymentOperations.authorize_returns h
      rfl

/-- A new event is not published. -/
theorem unpublished_of_outboxEventRow {id aggregateType aggregateId eventType : String}
    {payload : JsonObject} {now : Timestamp} {row : OutboxEventRow}
    (h : outboxEventRow id aggregateType aggregateId eventType payload now = .ok row) :
    row.publishedAt = none := by
  unfold outboxEventRow at h
  simp only [bind_eq_ok, text_eq_ok, pure_eq_ok] at h
  obtain ⟨-, -, -, -, -, -, -, -, rfl⟩ := h
  rfl

/-- What an event says of its payment stays true. -/
theorem Tells.later {operation : OperationCall × OperationResult} {message : Message}
    (h : Tells db operation message) (hlater : Extends db db') : Tells db' operation message := by
  obtain ⟨payment, hpayment, hpayload⟩ := h.payload
  obtain ⟨hmem, hid⟩ := Table.find?_eq_some_iff.mp hpayment
  obtain ⟨payment', hmem', hcontinues⟩ := hlater.payments.exists_mem hmem
  refine { h with payload := ⟨payment', ?_, ?_⟩ }
  · exact Table.find?_eq_some_iff.mpr ⟨hmem', hcontinues.id.trans hid⟩
  · rw [hpayload, hcontinues.amount, hcontinues.currency]

/-- An operation that is executed inserts the event that tells of it, and one that is replayed
inserts none. -/
theorem event_of_executes {call : OperationCall} {result : OperationResult}
    (h : PaymentOperations.Executes hashtext sha256 db call result changes held) :
    result.replayed = true ∧ changes = [] ∨
      result.replayed = false ∧ ∃ row, row.publishedAt = none ∧
        (after changes db).outboxEvents.rows = db.outboxEvents.rows ++ [row] ∧
        Tells (after changes db) (call, result) row.message := by
  have hlater : Extends db (after changes db) := h.extends
  cases h with
  | replayed existing hexisting hsame hresult =>
    unfold PaymentOperations.resultFromRow at hresult
    split at hresult
    · cases hresult
      exact .inl ⟨rfl, rfl⟩
    · cases hresult
  | recorded payment journal debit credit event hdistinct hpayment hstatus hjournal hjournalNew
      hdebit hcredit hnew hevent heventNew =>
    -- The payload is written from the payment as it was, of which only the status has changed.
    obtain ⟨hid, htype, haggregate, hkind, hpayload⟩ := outboxEventRow_eq_ok hevent
    have habsent : db.outboxEvents.find? event.id = none := by rwa [hid]
    exact .inr ⟨rfl, event, unpublished_of_outboxEventRow hevent, Table.rows_put_of_absent habsent,
      Tells.later ⟨hid, htype, haggregate, hkind, payment, hpayment, hpayload⟩ hlater⟩

/-- A call that ends leaves later tables, and inserts the event of the operation that it has
executed, or none. -/
theorem event_of_transact {call : LedgerCall}
    {outcome : Outcome DbError ServiceError (Option OperationResult)}
    (h : (postgres hashtext).transact db (call.reports sha256) = (outcome, db')) :
    Extends db db' ∧
      (executed (.served call outcome) = none ∧ db'.outboxEvents = db.outboxEvents ∨
        ∃ operation row, executed (.served call outcome) = some operation ∧
          row.publishedAt = none ∧ db'.outboxEvents.rows = db.outboxEvents.rows ++ [row] ∧
          Tells db' operation row.message) := by
  rcases Engine.transact_cases h with ⟨rfl, hended⟩ | ⟨report, changes, held, rfl, hexec, -, rfl⟩
  · refine ⟨.refl _, .inl ⟨?_, rfl⟩⟩
    unfold executed
    split
    · next heq =>
      cases heq
      exact absurd rfl (hended _)
    · rfl
  have hreturns := returns_of_reports hexec
  refine ⟨ServiceCall.extends_after hreturns, ?_⟩
  -- Only the execution of an operation inserts an event.
  by_cases hcall : ∀ operation, call ≠ .lifecycle (.execute operation)
  · refine .inl ⟨?_, events_of_other hcall hreturns⟩
    unfold executed
    split
    · next heq =>
      cases heq
      exact absurd rfl (hcall _)
    · rfl
  push Not at hcall
  obtain ⟨operation, rfl⟩ := hcall
  obtain ⟨result, hexecutes, rfl⟩ := Engine.executes_bind_done.mp hexec
  -- A replay returns what was executed, and inserts none.
  rcases event_of_executes (PaymentOperations.executes_of_returns hexecutes) with
    ⟨hreplayed, rfl⟩ | ⟨hnew, row, hunpublished, hrows, htells⟩
  · exact .inl ⟨if_pos hreplayed, rfl⟩
  · refine .inr ⟨(operation, result), row, if_neg ?_, hunpublished, hrows, htells⟩
    rw [hnew]
    exact Bool.false_ne_true

end Pipeline

/-! ## The consumers -/

namespace Consumers

variable {key : String × String} {log : List ConsumerStep} {s s' : Consumers}

/-- A consumer has gone through an event when it is consumed, and then once. -/
theorem completions_of_run (h : consumers.Run log s) (key : String × String) :
    Pipeline.completions key log = if (s.consumedEvents.find? key).isSome then 1 else 0 := by
  refine h.log_invariant (P := fun log s => Pipeline.completions key log =
    if (s.consumedEvents.find? key).isSome then 1 else 0) ?_ fun log s step s' hrun ih hstep => ?_
  · rintro s ⟨hempty, -⟩
    rw [hempty]
    rfl
  have hconcat : Pipeline.completions key (log ++ [step]) =
      Pipeline.completions key log + if Pipeline.completes key step then 1 else 0 := by
    unfold Pipeline.completions
    rw [List.countP_append, List.countP_singleton]
  rw [hconcat, ih]
  cases happens_of_step hstep with
  | finished worker row applied hconsuming =>
    rw [Table.find?_put]
    by_cases hkey : row.key = key
    · -- The row is not there before, as somebody has it open.
      have hnew : ¬(s.consumedEvents.find? key).isSome := fun hthere =>
        (applied_of_run hrun key).committed hthere worker _ hconsuming hkey
      have hcompletes : Pipeline.completes key (.finished worker row.key) = true :=
        decide_eq_true hkey
      rw [if_neg hnew, if_pos hkey, if_pos hcompletes]
      rfl
    · have hother : ¬Pipeline.completes key (.finished worker row.key) = true := fun hcompletes =>
        hkey (of_decide_eq_true hcompletes)
      rw [if_neg hkey, if_neg hother, Nat.add_zero]
  | rejected | duplicate | claimed | handled | aborted => rfl

/-- What is open after a step was open before, or it was just claimed. -/
theorem active_of_happens {step : ConsumerStep} (h : Happens s step s') {worker : ℕ}
    {claim : Consuming} (hclaim : s'.active.lookup worker = some claim) :
    (∃ before, s.active.lookup worker = some before ∧ before.row = claim.row) ∨
      step = .claimed worker claim.row.key := by
  cases h with
  | rejected | duplicate => exact .inl ⟨claim, hclaim, rfl⟩
  | claimed other row hidle =>
    rcases AList.lookup_insert_eq_some.mp hclaim with ⟨rfl, rfl⟩ | ⟨-, hbefore⟩
    · exact .inr rfl
    · exact .inl ⟨claim, hbefore, rfl⟩
  | handled other row applied hconsuming =>
    rcases AList.lookup_insert_eq_some.mp hclaim with ⟨rfl, rfl⟩ | ⟨-, hbefore⟩
    · exact .inl ⟨_, hconsuming, rfl⟩
    · exact .inl ⟨claim, hbefore, rfl⟩
  | finished | aborted => exact .inl ⟨claim, (AList.lookup_erase_eq_some.mp hclaim).2, rfl⟩

end Consumers

/-! ## One step of the pipeline -/

namespace Pipeline

variable {hashtext : String → ℤ} {sha256 : String → Digest} {maxAttempts : ℤ} {s s' : Pipeline}
  {step : PipelineStep} {log : List PipelineStep}

/-- What a step of the pipeline is. -/
inductive Happens (hashtext : String → ℤ) (sha256 : String → Digest) (maxAttempts : ℤ)
    (s : Pipeline) : PipelineStep → Pipeline → Prop where
  | served (call : LedgerCall) (outcome : Outcome DbError ServiceError (Option OperationResult))
      (db : Database)
      (hended : (postgres hashtext).transact s.publishers.database (call.reports sha256) =
        (outcome, db)) :
      Happens hashtext sha256 maxAttempts s (.served call outcome)
        ⟨⟨db, s.publishers.batches⟩, s.broker, s.consumers⟩
  | published (step : PublisherStep) (publishers : Publishers)
      (hstep : (Publishers.publishers hashtext maxAttempts).step s.publishers step publishers) :
      Happens hashtext sha256 maxAttempts s (.published step)
        ⟨publishers, s.broker ++ handedOver s.publishers step, s.consumers⟩
  | consumed (step : ConsumerStep) (consumers : Consumers)
      (hstep : Consumers.consumers.step s.consumers step consumers)
      (hdelivered : ∀ worker key, step = .claimed worker key →
        ∃ event ∈ s.broker, event.id = key.2) :
      Happens hashtext sha256 maxAttempts s (.consumed step) ⟨s.publishers, s.broker, consumers⟩

/-- A consumer claims an event that the broker has. -/
theorem delivered_of_advance {move : ConsumerMove} {consumers : Consumers} {worker : ℕ}
    {key : String × String} (hdelivers : delivers s.broker move = true)
    (h : s.consumers.advance move = some (consumers, .claimed worker key)) :
    ∃ event ∈ s.broker, event.id = key.2 := by
  unfold Consumers.advance at h
  cases move with
  | consume other name eventId =>
    obtain ⟨event, hmem, hid⟩ := List.any_eq_true.mp hdelivers
    simp only at h
    split at h
    · cases h
    · split at h
      · cases h
      · next row hrow =>
        split at h
        · cases h
        · split at h
          · cases h
          · cases h
            unfold Consumers.consumedEventRow at hrow
            split_ifs at hrow
            cases hrow
            -- The key has the id that was delivered.
            exact ⟨event, hmem, of_decide_eq_true hid⟩
  | handle | finish | abort =>
    simp only at h
    split at h <;> cases h

/-- Every step is one of these. -/
theorem happens_of_step (h : (pipeline hashtext sha256 maxAttempts).step s step s') :
    Happens hashtext sha256 maxAttempts s step s' := by
  obtain ⟨move, hmove⟩ := h
  unfold advance at hmove
  cases move with
  | serve call =>
    cases hmove
    exact .served call _ _ rfl
  | publish move =>
    simp only at hmove
    split at hmove
    · next publishers publisherStep hadvance =>
      cases hmove
      exact .published publisherStep publishers ⟨move, hadvance⟩
    · cases hmove
  | consume move =>
    simp only at hmove
    split at hmove
    · next hdelivers =>
      split at hmove
      · next consumers consumerStep hadvance =>
        cases hmove
        refine .consumed consumerStep consumers ⟨move, hadvance⟩ fun worker key hclaimed => ?_
        rw [hclaimed] at hadvance
        exact delivered_of_advance hdelivers hadvance
      · cases hmove
    · cases hmove

/-- The events on their way: where each was read, handed over, answered, and given to a consumer. -/
structure Flows (log : List PipelineStep) (s : Pipeline) : Prop where
  events : List.Forall₂ (Tells s.publishers.database) (log.filterMap executed)
    (s.publishers.database.outboxEvents.rows.map OutboxEventRow.message)
  held : ∀ worker, ∀ event ∈ (s.publishers.batches worker).events,
    event.message ∈ s.publishers.database.outboxEvents.rows.map OutboxEventRow.message
  broker : ∀ event ∈ s.broker,
    event.message ∈ s.publishers.database.outboxEvents.rows.map OutboxEventRow.message
  current : ∀ worker event, (s.publishers.batches worker).current = some event → event ∈ s.broker
  answered : ∀ worker event rest count,
    s.publishers.batches worker = .recording event none rest count →
      .published (.answered worker event.id none) ∈ log
  published : ∀ row ∈ s.publishers.database.outboxEvents.rows, row.publishedAt.isSome →
    (∃ event ∈ s.broker, event.id = row.id) ∧
      ∃ worker, .published (.answered worker row.id none) ∈ log
  active : ∀ worker claim, s.consumers.active.lookup worker = some claim →
    ∃ event ∈ s.broker, event.id = claim.row.eventId
  handled : ∀ worker key applied, .consumed (.handled worker key applied) ∈ log →
    ∃ event ∈ s.broker, event.id = key.2

namespace Flows

/-- A call adds the event of the operation that it has executed. -/
theorem served (h : Flows log s) {call : LedgerCall}
    {outcome : Outcome DbError ServiceError (Option OperationResult)} {db : Database}
    (hended : (postgres hashtext).transact s.publishers.database (call.reports sha256) =
      (outcome, db)) :
    Flows (log ++ [.served call outcome])
      ⟨⟨db, s.publishers.batches⟩, s.broker, s.consumers⟩ := by
  obtain ⟨hlater, hevent⟩ := event_of_transact hended
  -- The rows that were there are there still.
  have hrows : ∃ added, db.outboxEvents.rows = s.publishers.database.outboxEvents.rows ++ added ∧
      ∀ row ∈ added, row.publishedAt = none := by
    rcases hevent with ⟨-, hsame⟩ | ⟨operation, row, -, hunpublished, hrows, -⟩
    · exact ⟨[], by rw [hsame, List.append_nil], by simp⟩
    · exact ⟨[row], hrows, List.forall_mem_singleton.mpr hunpublished⟩
  have hmessages : ∀ message,
      message ∈ s.publishers.database.outboxEvents.rows.map OutboxEventRow.message →
        message ∈ db.outboxEvents.rows.map OutboxEventRow.message := by
    obtain ⟨added, hrows, -⟩ := hrows
    intro message hmessage
    rw [hrows, List.map_append]
    exact List.mem_append_left _ hmessage
  constructor
  case events =>
    have hbefore : List.Forall₂ (Tells db) (log.filterMap executed)
        (s.publishers.database.outboxEvents.rows.map OutboxEventRow.message) :=
      h.events.imp fun _ _ htells => htells.later hlater
    rw [List.filterMap_append]
    rcases hevent with ⟨hnone, hsame⟩ | ⟨operation, row, hsome, -, hrows, htells⟩
    · rw [List.filterMap_cons_none hnone, List.filterMap_nil, List.append_nil]
      show List.Forall₂ _ _ (db.outboxEvents.rows.map _)
      rwa [hsame]
    · rw [List.filterMap_cons_some hsome, List.filterMap_nil]
      -- The one event that is new tells of the operation that is new.
      show List.Forall₂ _ _ (db.outboxEvents.rows.map _)
      rw [hrows, List.map_append]
      exact List.rel_append hbefore (.cons htells .nil)
  case held => exact fun worker event hevent => hmessages _ (h.held worker event hevent)
  case broker => exact fun event hevent => hmessages _ (h.broker event hevent)
  case current => exact h.current
  case answered =>
    exact fun worker event rest count hbatch =>
      List.mem_append_left _ (h.answered worker event rest count hbatch)
  case published =>
    intro row hrow hpublished
    obtain ⟨added, hrows, hadded⟩ := hrows
    have hrow : row ∈ db.outboxEvents.rows := hrow
    rw [hrows] at hrow
    rcases List.mem_append.mp hrow with hold | hnew
    · obtain ⟨hbroker, worker, hanswered⟩ := h.published row hold hpublished
      exact ⟨hbroker, worker, List.mem_append_left _ hanswered⟩
    · -- A new event is not published.
      rw [hadded row hnew] at hpublished
      cases hpublished
  case active => exact h.active
  case handled =>
    intro worker key applied hmem
    rcases List.mem_append.mp hmem with hold | hnew
    · exact h.handled worker key applied hold
    · cases List.mem_singleton.mp hnew

/-- A publisher hands over what it has read, and marks what was answered. -/
theorem published_step (h : Flows log s) {step : PublisherStep} {publishers : Publishers}
    (hstep : (Publishers.publishers hashtext maxAttempts).step s.publishers step publishers) :
    Flows (log ++ [.published step])
      ⟨publishers, s.broker ++ handedOver s.publishers step, s.consumers⟩ := by
  have hhappens := Publishers.happens_of_step hstep
  have hmessages := hhappens.messages
  constructor
  case events =>
    rw [List.filterMap_append, List.filterMap_cons_none rfl, List.filterMap_nil, List.append_nil]
    show List.Forall₂ _ _ (publishers.database.outboxEvents.rows.map _)
    -- A publisher changes no message, and the payments not at all.
    rw [hmessages]
    refine h.events.imp fun operation message htells => { htells with payload := ?_ }
    rw [hhappens.payments]
    exact htells.payload
  case held =>
    intro worker event hevent
    show _ ∈ publishers.database.outboxEvents.rows.map _
    rw [hmessages]
    -- What a worker holds it held before, or it has just read it from a row.
    rcases Publishers.messages_of_step hstep hevent with hbefore | ⟨row, hrow, hread⟩
    · exact h.held worker event hbefore
    · rw [hread]
      exact List.mem_map_of_mem hrow
  case broker =>
    intro event hevent
    show _ ∈ publishers.database.outboxEvents.rows.map _
    rw [hmessages]
    rcases List.mem_append.mp hevent with hold | hnew
    · exact h.broker event hold
    · obtain ⟨worker, hheld⟩ := Publishers.held_of_handedOver hnew
      exact h.held worker event hheld
  case current =>
    intro worker event hcurrent
    rcases Publishers.current_of_happens hhappens hcurrent with hbefore | hnew
    · exact List.mem_append_left _ (h.current worker event hbefore)
    · exact List.mem_append_right _ hnew
  case answered =>
    intro worker event rest count hbatch
    rcases hhappens.recording hbatch with hbefore | rfl
    · exact List.mem_append_left _ (h.answered worker event rest count hbefore)
    · exact List.mem_append_right _ List.mem_cons_self
  case published =>
    intro row' hrow' hpublished
    have hfound : publishers.database.outboxEvents.find? row'.id = some row' :=
      Table.find?_eq_some_iff.mpr ⟨hrow', rfl⟩
    obtain ⟨row, hrow, hmoves⟩ := hhappens.row_moved hfound
    obtain ⟨hmem, hid⟩ := Table.find?_eq_some_iff.mp hrow
    -- A row that is published was so before, or this step has marked it.
    rcases hmoves.published_iff.mp hpublished with hbefore | hacknowledged
    · obtain ⟨⟨event, hevent, hsame⟩, worker, hanswered⟩ := h.published row hmem hbefore
      rw [hid] at hsame hanswered
      exact ⟨⟨event, List.mem_append_left _ hevent, hsame⟩, worker,
        List.mem_append_left _ hanswered⟩
    · obtain ⟨-, worker, event, rest, count, hbatch, hsame⟩ :=
        hhappens.of_acknowledged hacknowledged
      -- It was marked by a worker whose handler had returned, so the event is at the broker.
      have hanswered := h.answered worker event rest count hbatch
      have hcurrent : event ∈ s.broker := h.current worker event (by rw [hbatch]; rfl)
      rw [hid] at hsame
      rw [hsame] at hanswered
      exact ⟨⟨event, List.mem_append_left _ hcurrent, hsame⟩, worker,
        List.mem_append_left _ hanswered⟩
  case active =>
    intro worker claim hclaim
    obtain ⟨event, hevent, hid⟩ := h.active worker claim hclaim
    exact ⟨event, List.mem_append_left _ hevent, hid⟩
  case handled =>
    intro worker key applied hmem
    rcases List.mem_append.mp hmem with hold | hnew
    · obtain ⟨event, hevent, hid⟩ := h.handled worker key applied hold
      exact ⟨event, List.mem_append_left _ hevent, hid⟩
    · cases List.mem_singleton.mp hnew

/-- A consumer claims an event that the broker has, and handles what it has claimed. -/
theorem consumed_step (h : Flows log s) {step : ConsumerStep} {consumers : Consumers}
    (hstep : Consumers.consumers.step s.consumers step consumers)
    (hdelivered : ∀ worker key, step = .claimed worker key →
      ∃ event ∈ s.broker, event.id = key.2) :
    Flows (log ++ [.consumed step]) ⟨s.publishers, s.broker, consumers⟩ := by
  have hhappens := Consumers.happens_of_step hstep
  constructor
  case events =>
    rw [List.filterMap_append, List.filterMap_cons_none rfl, List.filterMap_nil, List.append_nil]
    exact h.events
  case held => exact h.held
  case broker => exact h.broker
  case current => exact h.current
  case answered =>
    exact fun worker event rest count hbatch =>
      List.mem_append_left _ (h.answered worker event rest count hbatch)
  case published =>
    intro row hrow hpublished
    obtain ⟨hbroker, worker, hanswered⟩ := h.published row hrow hpublished
    exact ⟨hbroker, worker, List.mem_append_left _ hanswered⟩
  case active =>
    intro worker claim hclaim
    rcases Consumers.active_of_happens hhappens hclaim with ⟨before, hbefore, hrow⟩ | hclaimed
    · rw [← hrow]
      exact h.active worker before hbefore
    · -- A claim is of what was delivered to the worker.
      exact hdelivered worker _ hclaimed
  case handled =>
    intro worker key applied hmem
    rcases List.mem_append.mp hmem with hold | hnew
    · exact h.handled worker key applied hold
    · cases List.mem_singleton.mp hnew
      cases hhappens with
      | handled worker row applied hconsuming => exact h.active worker _ hconsuming

end Flows

/-- In every run, the events are on their way as said. -/
theorem flows_of_run (h : (pipeline hashtext sha256 maxAttempts).Run log s) : Flows log s := by
  refine h.log_invariant (P := Flows) ?_ fun log s step s' _ ih hstep => ?_
  · rintro s rfl
    constructor
    case events => exact .nil
    case held => exact fun _ _ hevent => nomatch hevent
    case broker => exact fun _ hevent => nomatch hevent
    case current => exact fun _ _ hcurrent => nomatch hcurrent
    case answered => exact fun _ _ _ _ hbatch => nomatch hbatch
    case published => exact fun _ hrow => nomatch hrow
    case active => exact fun _ _ hclaim => nomatch hclaim
    case handled => exact fun _ _ _ hmem => nomatch hmem
  · cases happens_of_step hstep with
    | served call outcome db hended => exact ih.served hended
    | published step publishers hpublished => exact ih.published_step hpublished
    | consumed step consumers hconsumed hdelivered => exact ih.consumed_step hconsumed hdelivered

/-- The consumers of the pipeline are consumers. -/
theorem consuming_of_run (h : (pipeline hashtext sha256 maxAttempts).Run log s) :
    Consumers.consumers.Run (consuming log) s.consumers := by
  refine h.log_invariant (P := fun log s => Consumers.consumers.Run (consuming log) s.consumers) ?_
    fun log s step s' _ ih hstep => ?_
  · rintro s rfl
    exact ⟨_, ⟨rfl, rfl⟩, .nil _⟩
  · unfold consuming at ih ⊢
    rw [List.filterMap_append]
    cases happens_of_step hstep with
    | consumed step consumers hconsumed =>
      exact Lts.run_concat_iff.mpr ⟨s.consumers, ih, hconsumed⟩
    | served | published =>
      rw [List.filterMap_cons_none rfl, List.filterMap_nil, List.append_nil]
      exact ih

/-! ## What is counted -/

/-- The event of which a step is: one that a consumer handles or loses, or one that is inserted. -/
def about : PipelineStep → String
  | .consumed (.handled _ key _) => key.2
  | .consumed (.aborted _ key _) => key.2
  | step => (executed step).elim "" fun operation => operation.1.eventId

/-- What is counted of the steps that are about an event, where only steps of consumers count. -/
theorem countP_consuming {p : PipelineStep → Bool} {q : ConsumerStep → Bool} {id : String}
    (hother : ∀ step, consumption step = none → p step = false)
    (hsame : ∀ step, (p (.consumed step) = true ∧ about (.consumed step) = id) ↔ q step = true)
    (log : List PipelineStep) :
    (log.filter fun step => about step = id).countP p = (consuming log).countP q := by
  unfold consuming
  rw [List.countP_filter, List.countP_filterMap]
  refine List.countP_congr fun step _ => ?_
  rw [Bool.and_eq_true, decide_eq_true_eq]
  cases step with
  | served call outcome =>
    have hnone := hother (.served call outcome) rfl
    simp [hnone, consumption]
  | published step =>
    have hnone := hother (.published step) rfl
    simp [hnone, consumption]
  | consumed step => exact hsame step

/-- The effects of a consumer that are of an event. -/
theorem countP_affects (name id : String) (log : List PipelineStep) :
    (log.filter fun step => about step = id).countP (affects name) =
      Consumers.effects (name, id) (consuming log) := by
  refine countP_consuming (fun step hnone => ?_) (fun step => ?_) log
  · cases step with
    | served | published => rfl
    | consumed step => cases hnone
  · cases step with
    | handled worker key applied =>
      simp only [affects, about, Consumers.isEffect, Bool.and_eq_true, decide_eq_true_eq,
        Prod.ext_iff, and_assoc]
    | rejected | duplicate | claimed | finished | aborted => simp [affects, Consumers.isEffect]

/-- The losses of a consumer that are of an event. -/
theorem countP_loses (name id : String) (log : List PipelineStep) :
    (log.filter fun step => about step = id).countP (loses name) =
      Consumers.losses (name, id) (consuming log) := by
  refine countP_consuming (fun step hnone => ?_) (fun step => ?_) log
  · cases step with
    | served | published => rfl
    | consumed step => cases hnone
  · cases step with
    | aborted worker key applied =>
      simp only [loses, about, Consumers.isLoss, Bool.and_eq_true, decide_eq_true_eq,
        Prod.ext_iff, and_assoc]
    | rejected | duplicate | claimed | finished | handled => simp [loses, Consumers.isLoss]

/-! ## Runs -/

/-- The event of an operation that was executed has a row, and the other way round. -/
theorem Flows.mem_executed_iff (h : Flows log s) (id : String) :
    (∃ operation ∈ log.filterMap executed, operation.1.eventId = id) ↔
      ∃ row ∈ s.publishers.database.outboxEvents.rows, row.id = id := by
  have hids : (log.filterMap executed).map (fun operation => operation.1.eventId) =
      s.publishers.database.outboxEvents.rows.map OutboxEventRow.id := by
    have hall := h.events
    rw [List.forall₂_map_right_iff] at hall
    refine List.forall₂_eq_eq_eq ▸ ?_
    rw [List.forall₂_map_left_iff, List.forall₂_map_right_iff]
    exact hall.imp fun operation row htells => htells.id.symm
  have hmem : id ∈ (log.filterMap executed).map (fun operation => operation.1.eventId) ↔
      id ∈ s.publishers.database.outboxEvents.rows.map OutboxEventRow.id := by rw [hids]
  simpa only [List.mem_map] using hmem

/-- What the broker has is read from a row. -/
theorem Flows.row_of_broker (h : Flows log s) {event : OutboxEvent} (hevent : event ∈ s.broker) :
    ∃ row ∈ s.publishers.database.outboxEvents.rows, row.message = event.message :=
  List.mem_map.mp (h.broker event hevent)

/-- An effect is that of an event that the broker has. -/
theorem Flows.broker_of_effects (h : Flows log s) {key : String × String}
    (heffects : 0 < Consumers.effects key (consuming log)) :
    ∃ event ∈ s.broker, event.id = key.2 := by
  obtain ⟨step, hstep, heffect⟩ := List.countP_pos_iff.mp heffects
  obtain ⟨step', hmem, hconsumed⟩ := List.mem_filterMap.mp hstep
  unfold Consumers.isEffect at heffect
  split at heffect
  · next worker handled applied =>
    rw [Bool.and_eq_true, decide_eq_true_eq] at heffect
    obtain ⟨-, rfl⟩ := heffect
    unfold consumption at hconsumed
    split at hconsumed
    · cases hconsumed
      exact h.handled worker handled applied hmem
    · cases hconsumed
  · cases heffect

/-- The steps that are about an event that was inserted. -/
theorem countP_executed (log : List PipelineStep) {id : String}
    (h : ∃ operation ∈ log.filterMap executed, operation.1.eventId = id) :
    1 ≤ (log.filter fun step => about step = id).countP fun step => (executed step).isSome := by
  obtain ⟨operation, hmem, hid⟩ := h
  obtain ⟨step, hstep, hexecuted⟩ := List.mem_filterMap.mp hmem
  refine List.countP_pos_iff.mpr ⟨step, List.mem_filter.mpr ⟨hstep, ?_⟩, ?_⟩
  · have habout : about step = operation.1.eventId := by
      unfold about
      split
      · cases hexecuted
      · cases hexecuted
      · rw [hexecuted]
        rfl
    exact decide_eq_true (habout.trans hid)
  · rw [hexecuted]
    rfl

/-- In every run of calls, publishers and consumers, whatever fails and however often the broker
delivers: each event tells of one operation, a consumer has an effect of events only, no more often
than operations were executed and effects were lost, and goes through each event at most once, and
where nothing is left to publish and to consume, exactly once. -/
theorem delivers_of_run (h : (pipeline hashtext sha256 maxAttempts).Run log s) :
    Delivers log s := by
  have hflows := flows_of_run h
  have hconsumers := consuming_of_run h
  have honce : ∀ key, completions key (consuming log) ≤ 1 := by
    intro key
    rw [Consumers.completions_of_run hconsumers key]
    split
    · exact le_rfl
    · exact Nat.zero_le 1
  refine ⟨hflows.events, hflows.broker, hflows.published,
    fun key heffects => hflows.broker_of_effects heffects, fun name => ?_, honce,
    fun name hpublished hconsumed operation hoperation => ?_⟩
  · rw [List.length_filterMap_eq_countP]
    refine countP_le_of_keys about fun id => ?_
    rw [countP_affects, countP_loses]
    have hle := Consumers.effects_le_of_run hconsumers (name, id)
    by_cases heffects : 0 < Consumers.effects (name, id) (consuming log)
    · -- An event of which there is an effect was inserted.
      obtain ⟨event, hevent, hid⟩ := hflows.broker_of_effects heffects
      obtain ⟨row, hrow, hsame⟩ := hflows.row_of_broker hevent
      have hinserted := countP_executed log ((hflows.mem_executed_iff id).mpr
        ⟨row, hrow, (congrArg Message.id hsame).trans hid⟩)
      omega
    · omega
  · obtain ⟨row, hrow, hid⟩ := (hflows.mem_executed_iff operation.1.eventId).mp
      ⟨operation, hoperation, rfl⟩
    obtain ⟨⟨event, hevent, hsame⟩, -⟩ := hflows.published row hrow (hpublished row hrow)
    have hthere := hconsumed event hevent
    rw [hsame, hid] at hthere
    rw [Consumers.completions_of_run hconsumers, if_pos hthere]

/-! ## A capture on its way -/

/-- A capture, called again with its key, published, and consumed twice. -/
def captureOnItsWay : List PipelineMove :=
  [.serve (.lifecycle (.createPayment sampleOrder none "pay_1" 0)),
   .serve (.lifecycle (.authorize "pay_1")),
   .serve (.lifecycle (.createAccount ⟨"acct_cash", "Cash", "MAD"⟩)),
   .serve (.lifecycle (.createAccount ⟨"acct_merchant", "Merchant", "MAD"⟩)),
   .serve (.lifecycle (.execute ⟨"pay_1", .capture, "acct_cash", "acct_merchant", "capture-1",
     "op_1", "jrn_1", "evt_1", 1⟩)),
   .serve (.lifecycle (.execute ⟨"pay_1", .capture, "acct_cash", "acct_merchant", "capture-1",
     "op_2", "jrn_2", "evt_2", 2⟩)),
   .publish (.claim 0 50 60 3 []), .publish (.invoke 0), .publish (.answer 0 none),
   .publish (.record 0 4), .publish (.finish 0),
   .consume (.consume 0 "receipts" "evt_1"), .consume (.handle 0 true), .consume (.finish 0),
   .consume (.consume 1 "receipts" "evt_1")]

/-- The capture is one operation and one event, and the consumer goes through it once. -/
theorem delivers_captureOnItsWay : ∃ s log, Delivers log s ∧
    (log.filterMap executed).map (fun operation => operation.1.eventId) = ["evt_1"] ∧
    s.broker.map OutboxEvent.id = ["evt_1"] ∧
    consuming log = [.claimed 0 ("receipts", "evt_1"), .handled 0 ("receipts", "evt_1") true,
      .finished 0 ("receipts", "evt_1"), .duplicate 1 ("receipts", "evt_1")] := by
  obtain ⟨⟨s, log⟩, hplay, hshown⟩ := Option.map_eq_some_iff.mp (show
    (Lts.play (advance LifecycleCall.hashes LifecycleCall.digests 5)
      ⟨⟨migrated, fun _ => .idle⟩, [], ⟨.empty, ∅⟩⟩ captureOnItsWay).map (fun result =>
        ((result.2.filterMap executed).map (fun operation => operation.1.eventId),
          result.1.broker.map OutboxEvent.id, consuming result.2)) =
      some (["evt_1"], ["evt_1"], [.claimed 0 ("receipts", "evt_1"),
        .handled 0 ("receipts", "evt_1") true, .finished 0 ("receipts", "evt_1"),
        .duplicate 1 ("receipts", "evt_1")]) from by decide +kernel)
  simp only [Prod.mk.injEq] at hshown
  obtain ⟨hexecuted, hbroker, hconsuming⟩ := hshown
  exact ⟨s, log, delivers_of_run ⟨_, rfl, Lts.steps_of_play hplay⟩, hexecuted, hbroker, hconsuming⟩

end Pipeline

end AtlasPay
