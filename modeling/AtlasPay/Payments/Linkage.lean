import AtlasPay.Database.Documents
import AtlasPay.Library.Joins
import AtlasPay.Payments.Inspection

/-!
# Operations and their events, in any tables

`PostgresReconciler.inspect` on tables that other programs may have written too, whose payloads are
any documents. Its two queries on the outbox look for rows that are missing, one from each side. In
a clean report each operation has an event of its payment, and each event an operation; they are
linked one to one exactly when, besides, no two events carry the same operation id, which no query
asks (`linkage_of_clean`).
-/

namespace AtlasPay

/-- A row of `outbox_events`, with any document. -/
structure StoredEventRow where
  id : String
  aggregateType : String
  aggregateId : String
  eventType : String
  payload : Jsonb
  createdAt : Timestamp
  publishedAt : Option Timestamp
  attempts : ℤ
  lastError : Option String
  lockedAt : Option Timestamp

/-- The tables that `inspect` reads, and the accounts to which entries refer. -/
structure InspectedTables where
  payments : Table PaymentRow.id
  ledgerAccounts : Table LedgerAccountRow.id
  ledgerTransactions : Table LedgerTransactionRow.id
  ledgerEntries : List LedgerEntryRow
  paymentOperations : Table PaymentOperationRow.id
  outboxEvents : Table StoredEventRow.id

/-- A row that the services have written. -/
def OutboxEventRow.stored (row : OutboxEventRow) : StoredEventRow where
  id := row.id
  aggregateType := row.aggregateType
  aggregateId := row.aggregateId
  eventType := row.eventType
  payload := .ofObject row.payload
  createdAt := row.createdAt
  publishedAt := row.publishedAt
  attempts := row.attempts
  lastError := row.lastError
  lockedAt := row.lockedAt

/-- The tables that the services have written. -/
def Database.inspected (db : Database) : InspectedTables where
  payments := db.payments
  ledgerAccounts := db.ledgerAccounts
  ledgerTransactions := db.ledgerTransactions
  ledgerEntries := db.ledgerEntries
  paymentOperations := db.paymentOperations
  outboxEvents := ⟨db.outboxEvents.rows.map OutboxEventRow.stored, by
    rw [List.map_map]
    exact db.outboxEvents.nodup⟩

namespace InspectedTables

/-- The same tables without events. -/
def withoutEvents (tables : InspectedTables) : Database where
  payments := tables.payments
  idempotencyKeys := .empty
  ledgerAccounts := tables.ledgerAccounts
  ledgerTransactions := tables.ledgerTransactions
  ledgerEntries := tables.ledgerEntries
  paymentOperations := tables.paymentOperations
  outboxEvents := .empty

/-- `payload->>'operation_id'`. -/
def operationId? (event : StoredEventRow) : Option String := event.payload.text? "operation_id"

/-- `payload ? 'operation_id'`. -/
def carriesOperation (event : StoredEventRow) : Bool := event.payload.has "operation_id"

/-- The event is of a payment. -/
def isPayment (event : StoredEventRow) : Bool := event.aggregateType = "payment"

/-- Operations without an event of their payment. -/
def withoutOutbox (tables : InspectedTables) : List ReconciliationDiscrepancy :=
  (antiJoin (fun row event => isPayment event && event.aggregateId = row.paymentId &&
      operationId? event = some row.id)
    tables.paymentOperations.rows tables.outboxEvents.rows).map
    fun row => ⟨.operationWithoutOutbox, row.id, "transactional outbox event is missing"⟩

/-- Events whose operation is missing. -/
def withoutOperation (tables : InspectedTables) : List ReconciliationDiscrepancy :=
  ((antiJoin (fun event row => operationId? event = some row.id)
      tables.outboxEvents.rows tables.paymentOperations.rows).filter
    fun event => isPayment event && carriesOperation event).map
    fun event => ⟨.outboxWithoutOperation, event.id,
      "operation " ++ (operationId? event).getD "None" ++ " is missing"⟩

/-- `inspect`. -/
def inspect (tables : InspectedTables) : ReconciliationReport where
  discrepancies :=
    (Reconciler.withoutPayment tables.withoutEvents ++
      Reconciler.withoutJournal tables.withoutEvents ++ tables.withoutOutbox ++
      tables.withoutOperation ++ Reconciler.statusMismatches tables.withoutEvents ++
      tables.ledgerTransactions.rows.flatMap
        (Reconciler.journalDiscrepancies tables.withoutEvents)
      ).insertionSort Reconciler.inOrder

/-! ## The tables of the services -/

/-- The operation of an event of the services. -/
theorem operationId?_stored (event : OutboxEventRow) :
    operationId? event.stored = Reconciler.operationId? event :=
  Jsonb.text?_ofObject event.payload "operation_id"

/-- An event of the services carries an operation exactly when it has the text of one. -/
theorem carriesOperation_stored (event : OutboxEventRow) :
    carriesOperation event.stored = (Reconciler.operationId? event).isSome :=
  Jsonb.has_ofObject event.payload "operation_id"

/-- The operations without an event are the same. -/
theorem withoutOutbox_inspected (db : Database) :
    db.inspected.withoutOutbox = Reconciler.withoutOutbox db := by
  unfold withoutOutbox Reconciler.withoutOutbox antiJoin
  refine congrArg _ (List.filter_congr fun row _ => ?_)
  have hany : (db.inspected.outboxEvents.rows.any fun event =>
      isPayment event && event.aggregateId = row.paymentId && operationId? event = some row.id) =
      db.outboxEvents.rows.any fun event => Reconciler.announces event row := by
    refine List.any_map.trans (congrArg _ (funext fun event => ?_))
    rw [Function.comp_apply, operationId?_stored]
    rfl
  rw [hany]
  cases db.outboxEvents.rows.any fun event => Reconciler.announces event row <;> rfl

/-- An id of which no operation is found is that of none. -/
theorem isNone_find?_eq (db : Database) (id : String) :
    (db.paymentOperations.find? id).isNone =
      !db.paymentOperations.rows.any fun row => decide (some id = some row.id) := by
  rw [Bool.eq_iff_iff, Option.isNone_iff_eq_none, Bool.not_eq_true', List.any_eq_false]
  refine List.find?_eq_none.trans (forall₂_congr fun row _ => not_congr ?_)
  rw [decide_eq_true_iff, decide_eq_true_iff, Option.some_inj, eq_comm]

/-- The events without an operation are the same. -/
theorem withoutOperation_inspected (db : Database) :
    db.inspected.withoutOperation = Reconciler.withoutOperation db := by
  have hevents : db.inspected.outboxEvents.rows =
      db.outboxEvents.rows.map OutboxEventRow.stored := rfl
  have hoperations : db.inspected.paymentOperations = db.paymentOperations := rfl
  unfold withoutOperation Reconciler.withoutOperation antiJoin
  rw [hevents, hoperations, List.filter_filter, ← List.filterMap_eq_map, List.filterMap_filter,
    List.filterMap_map]
  refine List.filterMap_congr fun event _ => ?_
  simp only [Function.comp_apply, operationId?_stored, carriesOperation_stored]
  cases Reconciler.operationId? event with
  | none => simp
  | some operationId =>
    have hpayment : isPayment event.stored = decide (event.aggregateType = "payment") := rfl
    have hid : event.stored.id = event.id := rfl
    simp only [isNone_find?_eq, hpayment, hid, Option.isSome_some, Bool.and_true,
      Bool.and_eq_true, decide_eq_true_eq, Option.getD_some]

/-- On tables of the services, the report is that of `Reconciler.inspect`. -/
theorem inspect_inspected (db : Database) : db.inspected.inspect = Reconciler.inspect db := by
  unfold inspect Reconciler.inspect
  rw [withoutOutbox_inspected, withoutOperation_inspected]
  rfl

/-! ## Clean reports -/

/-- The constraints of the tables other than their primary keys: the unique columns and the
references. -/
structure Constrained (tables : InspectedTables) : Prop where
  idempotencyKeys :
    (tables.paymentOperations.rows.map PaymentOperationRow.idempotencyKey).Nodup
  journals : (tables.paymentOperations.rows.map PaymentOperationRow.journalTransactionId).Nodup
  operationPayments : ∀ row ∈ tables.paymentOperations.rows,
    (tables.payments.find? row.paymentId).isSome
  operationJournals : ∀ row ∈ tables.paymentOperations.rows,
    (tables.ledgerTransactions.find? row.journalTransactionId).isSome
  entryJournals : ∀ entry ∈ tables.ledgerEntries, ∃ journal ∈ tables.ledgerTransactions.rows,
    journal.id = entry.transactionId ∧ journal.currency = entry.currency
  entryAccounts : ∀ entry ∈ tables.ledgerEntries, ∃ account ∈ tables.ledgerAccounts.rows,
    account.id = entry.accountId ∧ account.currency = entry.currency

/-- Operations and events are linked one to one: each operation has exactly one event of a payment
that carries its id, and it is an event of its payment; and each event of a payment that carries an
operation belongs to exactly one, of that payment. -/
structure LinkedOneToOne (tables : InspectedTables) : Prop where
  operations : ∀ row ∈ tables.paymentOperations.rows,
    ∃! event, event ∈ tables.outboxEvents.rows ∧ isPayment event = true ∧
      operationId? event = some row.id
  aggregates : ∀ row ∈ tables.paymentOperations.rows, ∀ event ∈ tables.outboxEvents.rows,
    isPayment event = true → operationId? event = some row.id → event.aggregateId = row.paymentId
  events : ∀ event ∈ tables.outboxEvents.rows, isPayment event = true →
    carriesOperation event = true →
      ∃! row, row ∈ tables.paymentOperations.rows ∧ operationId? event = some row.id ∧
        row.paymentId = event.aggregateId

variable {tables : InspectedTables}

/-- In a clean report, neither query on the outbox finds anything. -/
theorem eq_nil_of_clean (h : tables.inspect.clean = true) :
    tables.withoutOutbox = [] ∧ tables.withoutOperation = [] := by
  unfold ReconciliationReport.clean inspect at h
  simp only [List.isEmpty_iff, Reconciler.insertionSort_eq_nil_iff, List.append_eq_nil_iff] at h
  obtain ⟨⟨⟨⟨_, houtbox⟩, hoperation⟩, _⟩, _⟩ := h
  exact ⟨houtbox, hoperation⟩

/-- No operation is reported when each has an event of its payment. -/
theorem withoutOutbox_eq_nil_iff : tables.withoutOutbox = [] ↔
    ∀ row ∈ tables.paymentOperations.rows, ∃ event ∈ tables.outboxEvents.rows,
      isPayment event = true ∧ event.aggregateId = row.paymentId ∧
        operationId? event = some row.id := by
  unfold withoutOutbox
  rw [List.map_eq_nil_iff, antiJoin_eq_nil_iff]
  simp only [Bool.and_eq_true, decide_eq_true_eq, and_assoc]

/-- No event is reported when each that carries an operation has it. -/
theorem withoutOperation_eq_nil_iff : tables.withoutOperation = [] ↔
    ∀ event ∈ tables.outboxEvents.rows, isPayment event = true → carriesOperation event = true →
      ∃ row ∈ tables.paymentOperations.rows, operationId? event = some row.id := by
  unfold withoutOperation antiJoin
  rw [List.map_eq_nil_iff, List.filter_filter, List.filter_eq_nil_iff]
  refine forall₂_congr fun event _ => ?_
  rw [Bool.and_eq_true, Bool.and_eq_true, Bool.not_eq_true', not_and, Bool.not_eq_false,
    List.any_eq_true, and_imp]
  simp only [decide_eq_true_eq]

/-- Operations are told apart by their ids. -/
theorem injOn_id (tables : InspectedTables) :
    Set.InjOn PaymentOperationRow.id {row | row ∈ tables.paymentOperations.rows} :=
  fun _ hrow _ hrow' => Table.eq_of_key_eq hrow hrow'

/-- One to one, as the library has it, and nothing missing. -/
theorem linkedOneToOne_iff
    (hmissing : ∀ event ∈ tables.outboxEvents.rows, isPayment event = true →
      carriesOperation event = true →
        ∃ row ∈ tables.paymentOperations.rows, operationId? event = some row.id) :
    tables.LinkedOneToOne ↔
      OneToOne PaymentOperationRow.id operationId?
        (fun row event => event.aggregateId = row.paymentId)
        {row | row ∈ tables.paymentOperations.rows}
        {event | event ∈ tables.outboxEvents.rows ∧ isPayment event = true} := by
  constructor
  · intro h
    refine ⟨fun row hrow => ?_, fun row hrow event hevent => ?_, fun event hevent id hid => ?_⟩
    · simpa only [Set.mem_ofPred_eq, and_assoc] using h.operations row hrow
    · exact h.aggregates row hrow event hevent.1 hevent.2
    · obtain ⟨row, ⟨hrow, hrowId, -⟩, -⟩ :=
        h.events event hevent.1 hevent.2 (Jsonb.has_of_text? hid)
      have hrowId : row.id = id := Option.some_inj.mp (hrowId.symm.trans hid)
      exact ⟨row, ⟨hrow, hrowId⟩, fun row' h' =>
        tables.injOn_id h'.1 hrow (h'.2.trans hrowId.symm)⟩
  · intro h
    refine ⟨fun row hrow => ?_, fun row hrow event hevent hpayment => ?_,
      fun event hevent hpayment hcarries => ?_⟩
    · simpa only [Set.mem_ofPred_eq, and_assoc] using h.referred row hrow
    · exact h.matching row hrow event ⟨hevent, hpayment⟩
    · -- The operation of an event is there, and no other has its id.
      obtain ⟨row, hrow, hid⟩ := hmissing event hevent hpayment hcarries
      have haggregate := h.matching row hrow event ⟨hevent, hpayment⟩ hid
      refine ⟨row, ⟨hrow, hid, haggregate.symm⟩, fun row' h' => ?_⟩
      exact tables.injOn_id h'.1 hrow (Option.some_inj.mp (h'.2.1.symm.trans hid))

/-- What a clean report says of operations and events: every operation has an event of its payment,
and every event of a payment that carries an operation carries the id of exactly one. They are
linked one to one exactly when no two of these events carry the same. -/
theorem linkage_of_clean (h : tables.inspect.clean = true) :
    (∀ row ∈ tables.paymentOperations.rows, ∃ event ∈ tables.outboxEvents.rows,
      isPayment event = true ∧ event.aggregateId = row.paymentId ∧
        operationId? event = some row.id) ∧
    (∀ event ∈ tables.outboxEvents.rows, isPayment event = true → carriesOperation event = true →
      ∃! row, row ∈ tables.paymentOperations.rows ∧ operationId? event = some row.id) ∧
    (tables.LinkedOneToOne ↔ Set.InjOn operationId?
      {event | event ∈ tables.outboxEvents.rows ∧ isPayment event = true ∧
        carriesOperation event = true}) := by
  obtain ⟨houtbox, hoperation⟩ := eq_nil_of_clean h
  rw [withoutOutbox_eq_nil_iff] at houtbox
  rw [withoutOperation_eq_nil_iff] at hoperation
  refine ⟨houtbox, fun event hevent hpayment hcarries => ?_, ?_⟩
  · obtain ⟨row, hrow, hid⟩ := hoperation event hevent hpayment hcarries
    exact ⟨row, ⟨hrow, hid⟩, fun row' h' =>
      tables.injOn_id h'.1 hrow (Option.some_inj.mp (h'.2.symm.trans hid))⟩
  rw [linkedOneToOne_iff hoperation, oneToOne_iff tables.injOn_id]
  case hleft =>
    intro row hrow
    obtain ⟨event, hevent, hpayment, haggregate, hid⟩ := houtbox row hrow
    exact ⟨event, ⟨hevent, hpayment⟩, hid, haggregate⟩
  case hright =>
    rintro event ⟨hevent, hpayment⟩ id hid
    obtain ⟨row, hrow, hrowId⟩ := hoperation event hevent hpayment (Jsonb.has_of_text? hid)
    exact ⟨row, hrow, Option.some_inj.mp (hrowId.symm.trans hid)⟩
  constructor
  · rintro hdistinct event ⟨hevent, hpayment, hcarries⟩ event' ⟨hevent', hpayment', -⟩ heq
    -- An event that carries an operation carries the id of one, since none is missing.
    obtain ⟨row, -, hid⟩ := hoperation event hevent hpayment hcarries
    exact hdistinct event ⟨hevent, hpayment⟩ event' ⟨hevent', hpayment'⟩ row.id hid
      (heq.symm.trans hid)
  · rintro hinj event ⟨hevent, hpayment⟩ event' ⟨hevent', hpayment'⟩ id hid hid'
    exact hinj ⟨hevent, hpayment, Jsonb.has_of_text? hid⟩
      ⟨hevent', hpayment', Jsonb.has_of_text? hid'⟩ (hid.trans hid'.symm)

/-- The tables that a capture leaves. -/
def captured : InspectedTables :=
  (Reconciler.leaves (Reconciler.setUp ++ [Reconciler.capture])).2.inspected

/-- The report on a capture is clean, and its one event is linked to its operation. -/
theorem linkedOneToOne_captured : captured.inspect.clean = true ∧ captured.LinkedOneToOne := by
  have hclean : captured.inspect.clean = true := by decide
  have hone : captured.outboxEvents.rows.length = 1 := by decide
  obtain ⟨announced, hannounced⟩ := List.length_eq_one_iff.mp hone
  refine ⟨hclean, (linkage_of_clean hclean).2.2.mpr ?_⟩
  rw [hannounced]
  rintro event ⟨hevent, -⟩ event' ⟨hevent', -⟩ -
  rw [List.mem_singleton.mp hevent, List.mem_singleton.mp hevent']

/-- An event of another payment that carries the same operation. -/
def again : StoredEventRow where
  id := "evt_2"
  aggregateType := "payment"
  aggregateId := "pay_2"
  eventType := "payment.captured"
  payload := .ofObject [("operation_id", .str "op_1")]
  createdAt := 1
  publishedAt := none
  attempts := 0
  lastError := none
  lockedAt := none

/-- The tables that a capture leaves, with the other event. -/
def crossed : InspectedTables := { captured with outboxEvents := captured.outboxEvents.put again }

/-- Under all constraints of the tables, the report is clean although events of two payments carry
one operation. -/
theorem clean_crossed :
    crossed.Constrained ∧ crossed.inspect.clean = true ∧ ¬crossed.LinkedOneToOne := by
  refine ⟨⟨by decide, by decide, by decide, by decide, by decide, by decide⟩, by decide, ?_⟩
  intro h
  have hoperation : ∃ row ∈ crossed.paymentOperations.rows,
      row.id = "op_1" ∧ row.paymentId = "pay_1" := by decide
  obtain ⟨row, hrow, hid, hpayment⟩ := hoperation
  have hagain : again ∈ crossed.outboxEvents.rows :=
    List.mem_append_right _ (List.mem_singleton_self again)
  have haggregate : "pay_2" = row.paymentId :=
    h.aggregates row hrow again hagain rfl (by rw [hid]; rfl)
  rw [hpayment] at haggregate
  exact absurd haggregate (by decide)

end InspectedTables

end AtlasPay
