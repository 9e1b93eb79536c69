import AtlasPay.Library.Table
import AtlasPay.Payments.Models

/-!
# The tables

The tables of migrations 001 to 004. A row carries what its column types and its checks guarantee,
so that no other row can be built; primary keys are the keys of `Table`. The other constraints, the
unique columns, the references and the triggers, are checked where the rows are inserted.
-/

namespace AtlasPay

/-- A row of `payments`. -/
structure PaymentRow where
  id : String
  amount : ℤ
  currency : String
  merchantReference : String
  status : String
  createdAt : Timestamp
  amount_bigint : amount < 2 ^ 63
  amount_check : 0 < amount
  currency_char : currency.length = 3
  merchantReference_varchar : merchantReference.length ≤ 128
  deriving DecidableEq

/-- A row of `idempotency_keys`. -/
structure IdempotencyKeyRow where
  key : String
  requestFingerprint : Digest
  paymentId : String
  deriving DecidableEq

/-- A row of `ledger_accounts`. -/
structure LedgerAccountRow where
  id : String
  name : String
  currency : String
  currency_char : currency.length = 3
  deriving DecidableEq

/-- A row of `ledger_transactions`. -/
structure LedgerTransactionRow where
  id : String
  reference : String
  currency : String
  currency_char : currency.length = 3
  deriving DecidableEq

/-- A row of `ledger_entries`. -/
structure LedgerEntryRow where
  transactionId : String
  accountId : String
  side : String
  amount : ℤ
  currency : String
  createdAt : Timestamp
  side_check : side = "debit" ∨ side = "credit"
  amount_bigint : amount < 2 ^ 63
  amount_check : 0 < amount
  currency_char : currency.length = 3
  deriving DecidableEq

/-- A row of `payment_operations`. -/
structure PaymentOperationRow where
  id : String
  idempotencyKey : String
  requestFingerprint : Digest
  paymentId : String
  operation : String
  fromStatus : String
  toStatus : String
  journalTransactionId : String
  operation_check : operation = "capture" ∨ operation = "refund" ∨ operation = "reversal"
  deriving DecidableEq

/-- A row of `outbox_events`. -/
structure OutboxEventRow where
  id : String
  aggregateType : String
  aggregateId : String
  eventType : String
  payload : JsonObject
  createdAt : Timestamp
  publishedAt : Option Timestamp
  attempts : ℤ
  lastError : Option String
  lockedAt : Option Timestamp
  deriving DecidableEq

/-- The tables, with their rows in the order in which they were inserted. -/
structure Database where
  payments : Table PaymentRow.id
  idempotencyKeys : Table IdempotencyKeyRow.key
  ledgerAccounts : Table LedgerAccountRow.id
  ledgerTransactions : Table LedgerTransactionRow.id
  ledgerEntries : List LedgerEntryRow
  paymentOperations : Table PaymentOperationRow.id
  outboxEvents : Table OutboxEventRow.id

namespace Database

/-- The database after its migrations. -/
def migrated : Database :=
  ⟨.empty, .empty, .empty, .empty, [], .empty, .empty⟩

/-- An update of an outbox row, other than of its key and its content. -/
inductive OutboxUpdate where
  | claimed (now : Timestamp)
  | acknowledged (now : Timestamp)
  | failed (error : String)
  | reset
  deriving DecidableEq

/-- The assignments of an update. -/
def OutboxUpdate.apply (row : OutboxEventRow) : OutboxUpdate → OutboxEventRow
  | claimed now => { row with lockedAt := some now }
  | acknowledged now =>
    { row with publishedAt := some now, attempts := row.attempts + 1, lastError := none,
               lockedAt := none }
  | failed error =>
    { row with attempts := row.attempts + 1, lastError := some error, lockedAt := none }
  | reset => { row with attempts := 0, lastError := none }

/-- A change to the tables. -/
inductive Change where
  | insertPayment (row : PaymentRow)
  | deletePayment (id : String)
  | setPaymentStatus (id status : String)
  | insertIdempotencyKey (row : IdempotencyKeyRow)
  | insertLedgerAccount (row : LedgerAccountRow)
  | insertLedgerTransaction (row : LedgerTransactionRow)
  | insertLedgerEntry (row : LedgerEntryRow)
  | insertPaymentOperation (row : PaymentOperationRow)
  | insertOutboxEvent (row : OutboxEventRow)
  | updateOutboxEvents (ids : List String) (update : OutboxUpdate)
  deriving DecidableEq

/-- The row of a payment whose status is set. -/
def setStatus (id status : String) (row : PaymentRow) : PaymentRow :=
  if row.id = id then { row with status := status } else row

/-- The row of an outbox event that is updated. -/
def updateEvent (ids : List String) (update : OutboxUpdate) (row : OutboxEventRow) :
    OutboxEventRow :=
  if row.id ∈ ids then update.apply row else row

@[simp]
theorem id_setStatus (id status : String) (row : PaymentRow) :
    (setStatus id status row).id = row.id := by
  unfold setStatus
  split <;> rfl

@[simp]
theorem amount_setStatus (id status : String) (row : PaymentRow) :
    (setStatus id status row).amount = row.amount := by
  unfold setStatus
  split <;> rfl

@[simp]
theorem currency_setStatus (id status : String) (row : PaymentRow) :
    (setStatus id status row).currency = row.currency := by
  unfold setStatus
  split <;> rfl

@[simp]
theorem id_updateEvent (ids : List String) (update : OutboxUpdate) (row : OutboxEventRow) :
    (updateEvent ids update row).id = row.id := by
  unfold updateEvent
  split
  · cases update <;> rfl
  · rfl

/-- What a change does to the tables. -/
def apply (change : Change) (db : Database) : Database :=
  match change with
  | .insertPayment row => { db with payments := db.payments.put row }
  | .deletePayment id => { db with payments := db.payments.erase id }
  | .setPaymentStatus id status =>
    { db with payments := db.payments.modify (setStatus id status) (id_setStatus id status) }
  | .insertIdempotencyKey row => { db with idempotencyKeys := db.idempotencyKeys.put row }
  | .insertLedgerAccount row => { db with ledgerAccounts := db.ledgerAccounts.put row }
  | .insertLedgerTransaction row => { db with ledgerTransactions := db.ledgerTransactions.put row }
  | .insertLedgerEntry row => { db with ledgerEntries := db.ledgerEntries ++ [row] }
  | .insertPaymentOperation row => { db with paymentOperations := db.paymentOperations.put row }
  | .insertOutboxEvent row => { db with outboxEvents := db.outboxEvents.put row }
  | .updateOutboxEvents ids update =>
    { db with outboxEvents :=
        db.outboxEvents.modify (updateEvent ids update) (id_updateEvent ids update) }

/-- The entries of a journal. -/
def entriesOf (db : Database) (journalId : String) : List LedgerEntryRow :=
  db.ledgerEntries.filter fun entry => entry.transactionId = journalId

/-- The sum of the amounts on one side. -/
def total (side : String) (entries : List LedgerEntryRow) : ℤ :=
  ((entries.filter fun entry => entry.side = side).map LedgerEntryRow.amount).sum

end Database

end AtlasPay
