import AtlasPay.Database.Schema

/-!
# `PostgresReconciler.inspect`

`app/reconciliation.py`. Each query of the source is a filter over its tables. The queries order
their rows by id, in the collation of the database; the report is sorted again at the end, which
alone decides its order.
-/

namespace AtlasPay

/-- `DiscrepancyKind`. -/
inductive DiscrepancyKind where
  | operationWithoutPayment
  | operationWithoutJournal
  | operationWithoutOutbox
  | outboxWithoutOperation
  | paymentStatusMismatch
  | journalEntryCountInvalid
  | journalUnbalanced
  deriving DecidableEq, Repr

/-- The value of the member. -/
def DiscrepancyKind.value : DiscrepancyKind → String
  | operationWithoutPayment => "operation_without_payment"
  | operationWithoutJournal => "operation_without_journal"
  | operationWithoutOutbox => "operation_without_outbox"
  | outboxWithoutOperation => "outbox_without_operation"
  | paymentStatusMismatch => "payment_status_mismatch"
  | journalEntryCountInvalid => "journal_entry_count_invalid"
  | journalUnbalanced => "journal_unbalanced"

/-- `ReconciliationDiscrepancy`. -/
structure ReconciliationDiscrepancy where
  kind : DiscrepancyKind
  entityId : String
  detail : String
  deriving DecidableEq, Repr

/-- `ReconciliationReport`. -/
structure ReconciliationReport where
  discrepancies : List ReconciliationDiscrepancy
  deriving DecidableEq, Repr

/-- `clean`. -/
def ReconciliationReport.clean (report : ReconciliationReport) : Bool :=
  report.discrepancies.isEmpty

namespace Reconciler

/-- `payload->>'operation_id'`. -/
def operationId? (event : OutboxEventRow) : Option String :=
  Json.text? event.payload "operation_id"

/-- Operations whose payment is missing. -/
def withoutPayment (db : Database) : List ReconciliationDiscrepancy :=
  (db.paymentOperations.rows.filter fun row => (db.payments.find? row.paymentId).isNone).map
    fun row => ⟨.operationWithoutPayment, row.id, "payment " ++ row.paymentId ++ " is missing"⟩

/-- Operations whose journal is missing. -/
def withoutJournal (db : Database) : List ReconciliationDiscrepancy :=
  (db.paymentOperations.rows.filter fun row =>
    (db.ledgerTransactions.find? row.journalTransactionId).isNone).map
    fun row => ⟨.operationWithoutJournal, row.id,
      "journal " ++ row.journalTransactionId ++ " is missing"⟩

/-- The event announces the operation of its payment. -/
def announces (event : OutboxEventRow) (row : PaymentOperationRow) : Bool :=
  event.aggregateType = "payment" && event.aggregateId = row.paymentId &&
    operationId? event = some row.id

/-- Operations without an event. -/
def withoutOutbox (db : Database) : List ReconciliationDiscrepancy :=
  (db.paymentOperations.rows.filter fun row =>
    ¬db.outboxEvents.rows.any fun event => announces event row).map
    fun row => ⟨.operationWithoutOutbox, row.id, "transactional outbox event is missing"⟩

/-- Events whose operation is missing. -/
def withoutOperation (db : Database) : List ReconciliationDiscrepancy :=
  db.outboxEvents.rows.filterMap fun event =>
    match operationId? event with
    | some operationId =>
      if event.aggregateType = "payment" ∧ (db.paymentOperations.find? operationId).isNone then
        some ⟨.outboxWithoutOperation, event.id, "operation " ++ operationId ++ " is missing"⟩
      else none
    | none => none

/-- Operations whose target is not the status of their payment. -/
def statusMismatches (db : Database) : List ReconciliationDiscrepancy :=
  db.paymentOperations.rows.filterMap fun row =>
    match db.payments.find? row.paymentId with
    | some payment =>
      if payment.status ≠ row.toStatus then
        some ⟨.paymentStatusMismatch, row.id,
          "payment status " ++ payment.status ++ " != operation target " ++ row.toStatus⟩
      else none
    | none => none

/-- What is wrong with the entries of a journal. -/
def journalDiscrepancies (db : Database) (journal : LedgerTransactionRow) :
    List ReconciliationDiscrepancy :=
  let entries := db.entriesOf journal.id
  let debits := Database.total "debit" entries
  let credits := Database.total "credit" entries
  (if entries.length < 2 then
    [⟨.journalEntryCountInvalid, journal.id, s!"journal has {entries.length} entries"⟩]
  else []) ++
  if debits ≠ credits then
    [⟨.journalUnbalanced, journal.id, s!"debits={debits}, credits={credits}"⟩]
  else []

/-- The order of the report: by the value of the kind, then the entity, then the detail. -/
def inOrder (a b : ReconciliationDiscrepancy) : Prop :=
  a.kind.value < b.kind.value ∨
    a.kind.value = b.kind.value ∧ (a.entityId < b.entityId ∨
      a.entityId = b.entityId ∧ a.detail ≤ b.detail)

instance : DecidableRel inOrder := fun _ _ => inferInstanceAs (Decidable (_ ∨ _))

/-- `inspect`. -/
def inspect (db : Database) : ReconciliationReport where
  discrepancies :=
    (withoutPayment db ++ withoutJournal db ++ withoutOutbox db ++ withoutOperation db ++
      statusMismatches db ++ db.ledgerTransactions.rows.flatMap (journalDiscrepancies db)
      ).insertionSort inOrder

end Reconciler

end AtlasPay
