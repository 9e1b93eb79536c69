import AtlasPay.Database.Schema
import AtlasPay.Library.Transactions

/-!
# The statements

The SQL statements of the payment services, each on what its transaction sees, and the triggers of
migration 002. A refused statement says which kind of constraint refused it, in the order in which
PostgreSQL checks: the values against the column types, the checks, the unique keys, the references,
and the balance of new journals at commit.

`NOW()`, the hash of the advisory locks, and which rows `SKIP LOCKED` skips are parameters.
-/

namespace AtlasPay

/-! ## Values and columns -/

/-- PostgreSQL stores no NUL. -/
def Storable (s : String) : Prop := Char.ofNat 0 ∉ s.toList

instance : DecidablePred Storable := fun s => inferInstanceAs (Decidable (Char.ofNat 0 ∉ s.toList))

/-- A text parameter. -/
def text (s : String) : Except DbError Unit := if ¬Storable s then throw .data else pure ()

/-- A value for a `BIGINT` column. -/
def bigint (n : ℤ) : Except DbError { m : ℤ // m < 2 ^ 63 } :=
  if h : -2 ^ 63 ≤ n ∧ n < 2 ^ 63 then pure ⟨n, h.2⟩ else throw .data

/-- A value for a `CHAR(n)` column: padded with spaces, and no longer but for spaces. -/
def bpchar (n : ℕ) (s : String) : Except DbError { padded : String // padded.length = n } :=
  if (s.toList.drop n).all (· = ' ') then
    pure ⟨String.ofList ((s.toList ++ List.replicate n ' ').take n), by simp⟩
  else throw .data

/-- A value for a `VARCHAR(n)` column: no longer but for spaces. -/
def varchar (n : ℕ) (s : String) : Except DbError { kept : String // kept.length ≤ n } :=
  if (s.toList.drop n).all (· = ' ') then
    pure ⟨String.ofList (s.toList.take n), by simp⟩
  else throw .data

namespace Database

/-! ## Payments and idempotency keys -/

/-- The row of a payment, where its values fit. -/
def paymentRow (payment : Payment) : Except DbError PaymentRow := do
  text payment.id
  text payment.currency
  text payment.merchantReference
  let amount ← bigint payment.amount
  let currency ← bpchar 3 payment.currency
  let merchantReference ← varchar 128 payment.merchantReference
  if h : 0 < amount.1 then
    pure
      { id := payment.id, amount := amount.1, currency := currency.1,
        merchantReference := merchantReference.1, status := payment.status.value,
        createdAt := payment.createdAt, amount_bigint := amount.2, amount_check := h,
        currency_char := currency.2, merchantReference_varchar := merchantReference.2 }
  else throw .check

/-- `INSERT INTO payments`. -/
def insertPayment (db : Database) (payment : Payment) : Except DbError (Unit × List Change) := do
  let row ← paymentRow payment
  if db.payments.find? row.id ≠ none then throw .unique
  else pure ((), [.insertPayment row])

/-- `SELECT ... FROM payments WHERE id = ...`, with or without `FOR UPDATE`. -/
def selectPayment (db : Database) (id : String) :
    Except DbError (Option PaymentRow × List Change) := do
  text id
  pure (db.payments.find? id, [])

/-- A payment is referenced by a key or by an operation. -/
def Referenced (db : Database) (id : String) : Prop :=
  (∃ row ∈ db.idempotencyKeys.rows, row.paymentId = id) ∨
    ∃ row ∈ db.paymentOperations.rows, row.paymentId = id

instance (db : Database) (id : String) : Decidable (db.Referenced id) :=
  inferInstanceAs (Decidable (_ ∨ _))

/-- `DELETE FROM payments WHERE id = ...`. -/
def deletePayment (db : Database) (id : String) : Except DbError (Unit × List Change) := do
  text id
  match db.payments.find? id with
  | none => pure ((), [])
  | some _ => if db.Referenced id then throw .foreignKey else pure ((), [.deletePayment id])

/-- `UPDATE payments SET status = ... WHERE id = ...`. -/
def updatePaymentStatus (db : Database) (id : String) (status : PaymentStatus) :
    Except DbError (Unit × List Change) := do
  text id
  match db.payments.find? id with
  | none => pure ((), [])
  | some _ => pure ((), [.setPaymentStatus id status.value])

/-- The payment is pending. -/
def isPending (db : Database) (id : String) : Bool :=
  (db.payments.find? id).any fun row => row.status = PaymentStatus.pending.value

/-- `UPDATE payments SET status = 'authorized' WHERE id = ... AND status = 'pending'`, with whether
a row was updated. -/
def authorizePayment (db : Database) (id : String) : Except DbError (Bool × List Change) := do
  text id
  if db.isPending id then pure (true, [.setPaymentStatus id PaymentStatus.authorized.value])
  else pure (false, [])

/-- `INSERT INTO idempotency_keys ... ON CONFLICT (key) DO NOTHING RETURNING payment_id`. -/
def claimIdempotencyKey (db : Database) (key : String) (requestFingerprint : Digest)
    (paymentId : String) : Except DbError (Option String × List Change) := do
  text key
  text paymentId
  match db.idempotencyKeys.find? key with
  | some _ => pure (none, [])
  | none =>
    match db.payments.find? paymentId with
    | none => throw .foreignKey
    | some _ =>
      pure (some paymentId, [.insertIdempotencyKey ⟨key, requestFingerprint, paymentId⟩])

/-- `SELECT request_fingerprint, payment_id FROM idempotency_keys WHERE key = ...`. -/
def selectIdempotencyKey (db : Database) (key : String) :
    Except DbError (Option IdempotencyKeyRow × List Change) := do
  text key
  pure (db.idempotencyKeys.find? key, [])

/-! ## The ledger -/

/-- The row of an account, where its values fit. -/
def ledgerAccountRow (id name currency : String) : Except DbError LedgerAccountRow := do
  text id
  text name
  text currency
  let currency ← bpchar 3 currency
  pure ⟨id, name, currency.1, currency.2⟩

/-- `INSERT INTO ledger_accounts`. -/
def insertLedgerAccount (db : Database) (id name currency : String) :
    Except DbError (Unit × List Change) := do
  let row ← ledgerAccountRow id name currency
  if db.ledgerAccounts.find? row.id ≠ none then throw .unique
  else pure ((), [.insertLedgerAccount row])

/-- The row of a journal, where its values fit. -/
def ledgerTransactionRow (id reference currency : String) :
    Except DbError LedgerTransactionRow := do
  text id
  text reference
  text currency
  let currency ← bpchar 3 currency
  pure ⟨id, reference, currency.1, currency.2⟩

/-- `INSERT INTO ledger_transactions`. -/
def insertLedgerTransaction (db : Database) (id reference currency : String) :
    Except DbError (Unit × List Change) := do
  let row ← ledgerTransactionRow id reference currency
  if db.ledgerTransactions.find? row.id ≠ none then throw .unique
  else pure ((), [.insertLedgerTransaction row])

/-- The row of an entry, where its values fit and pass the checks. -/
def ledgerEntryRow (transactionId accountId side : String) (amount : ℤ) (currency : String)
    (now : Timestamp) : Except DbError LedgerEntryRow := do
  text transactionId
  text accountId
  text side
  text currency
  let amount ← bigint amount
  let currency ← bpchar 3 currency
  if h : (side = "debit" ∨ side = "credit") ∧ 0 < amount.1 then
    pure
      { transactionId := transactionId, accountId := accountId, side := side, amount := amount.1,
        currency := currency.1, createdAt := now, side_check := h.1, amount_bigint := amount.2,
        amount_check := h.2, currency_char := currency.2 }
  else throw .check

/-- `INSERT INTO ledger_entries`. -/
def insertLedgerEntry (db : Database) (transactionId accountId side : String) (amount : ℤ)
    (currency : String) (now : Timestamp) : Except DbError (Unit × List Change) := do
  let row ← ledgerEntryRow transactionId accountId side amount currency now
  if ((db.ledgerTransactions.find? transactionId).any fun journal =>
        journal.currency = row.currency) ∧
      (db.ledgerAccounts.find? accountId).any fun account => account.currency = row.currency then
    pure ((), [.insertLedgerEntry row])
  else throw .foreignKey

/-- `UPDATE` or `DELETE` on `ledger_entries`: `reject_ledger_entry_mutation` for each row. -/
def mutateLedgerEntries (db : Database) (p : LedgerEntryRow → Bool) :
    Except DbError (Unit × List Change) :=
  if db.ledgerEntries.any p then throw (.raiseException "ledger entries are append-only")
  else pure ((), [])

/-- `UPDATE` or `DELETE` on `ledger_transactions`: `reject_ledger_transaction_mutation` for each
row. -/
def mutateLedgerTransactions (db : Database) (p : LedgerTransactionRow → Bool) :
    Except DbError (Unit × List Change) :=
  if db.ledgerTransactions.rows.any p then
    throw (.raiseException "posted ledger transactions are immutable")
  else pure ((), [])

/-- `assert_ledger_transaction_balanced`. -/
def assertLedgerTransactionBalanced (db : Database) (id : String) : Except DbError Unit := do
  let entries := db.entriesOf id
  let debits ← bigint (total "debit" entries)
  let credits ← bigint (total "credit" entries)
  if entries.length < 2 ∨ debits.1 = 0 ∨ credits.1 = 0 then
    throw (.raiseException
      s!"ledger transaction {id} requires at least one debit and one credit")
  else if debits.1 ≠ credits.1 then
    throw (.raiseException
      s!"ledger transaction {id} is unbalanced: debits {debits.1}, credits {credits.1}")
  else pure ()

/-! ## Operations and the outbox -/

/-- `SELECT ... FROM payment_operations WHERE idempotency_key = ...`. -/
def selectOperation (db : Database) (idempotencyKey : String) :
    Except DbError (Option PaymentOperationRow × List Change) := do
  text idempotencyKey
  pure (db.paymentOperations.findBy PaymentOperationRow.idempotencyKey idempotencyKey, [])

/-- An operation with the id, the idempotency key or the journal is there. -/
def operationExists (db : Database) (row : PaymentOperationRow) : Bool :=
  (db.paymentOperations.find? row.id).isSome ||
    (db.paymentOperations.findBy PaymentOperationRow.idempotencyKey row.idempotencyKey).isSome ||
    (db.paymentOperations.findBy PaymentOperationRow.journalTransactionId
      row.journalTransactionId).isSome

/-- The texts of an operation can be stored. -/
def operationTexts (row : PaymentOperationRow) : Except DbError Unit := do
  text row.id
  text row.idempotencyKey
  text row.paymentId
  text row.fromStatus
  text row.toStatus
  text row.journalTransactionId

/-- `INSERT INTO payment_operations`. -/
def insertPaymentOperation (db : Database) (row : PaymentOperationRow) :
    Except DbError (Unit × List Change) := do
  operationTexts row
  if db.operationExists row then throw .unique
  else if db.payments.find? row.paymentId = none ∨
      db.ledgerTransactions.find? row.journalTransactionId = none then throw .foreignKey
  else pure ((), [.insertPaymentOperation row])

/-- The row of a new event, where its values fit. -/
def outboxEventRow (id aggregateType aggregateId eventType : String) (payload : JsonObject)
    (now : Timestamp) : Except DbError OutboxEventRow := do
  text id
  text aggregateType
  text aggregateId
  text eventType
  pure
    { id := id, aggregateType := aggregateType, aggregateId := aggregateId,
      eventType := eventType, payload := payload, createdAt := now, publishedAt := none,
      attempts := 0, lastError := none, lockedAt := none }

/-- `INSERT INTO outbox_events (id, aggregate_type, aggregate_id, event_type, payload)`. -/
def insertOutboxEvent (db : Database) (id aggregateType aggregateId eventType : String)
    (payload : JsonObject) (now : Timestamp) : Except DbError (Unit × List Change) := do
  let row ← outboxEventRow id aggregateType aggregateId eventType payload now
  if db.outboxEvents.find? row.id ≠ none then throw .unique
  else pure ((), [.insertOutboxEvent row])

/-- The events that `claim_batch` may claim. -/
def claimable (now maxAttempts leaseSeconds : ℤ) (row : OutboxEventRow) : Bool :=
  row.publishedAt.isNone && decide (row.attempts < maxAttempts) &&
    row.lockedAt.all fun lockedAt => decide (lockedAt < now - leaseSeconds * 1000000)

/-- `SELECT ... FROM outbox_events WHERE ... ORDER BY created_at FOR UPDATE SKIP LOCKED LIMIT ...`,
but for the rows that are skipped. -/
def selectClaimableEvents (db : Database) (now maxAttempts leaseSeconds batchSize : ℤ)
    (skipped : List String) : List OutboxEventRow :=
  let found := db.outboxEvents.rows.filter fun row =>
    claimable now maxAttempts leaseSeconds row && decide (row.id ∉ skipped)
  (found.insertionSort fun row row' => row.createdAt ≤ row'.createdAt).take batchSize.toNat

/-- The event is there and not published. -/
def isUnpublished (db : Database) (id : String) : Bool :=
  (db.outboxEvents.find? id).any fun row => row.publishedAt.isNone

/-- `UPDATE outbox_events SET ... WHERE id = ... AND published_at IS NULL RETURNING id`, with
whether a row was updated. -/
def updateUnpublishedEvent (db : Database) (id : String) (update : OutboxUpdate) :
    Except DbError (Bool × List Change) := do
  text id
  (match update with
    | .failed error => text error
    | _ => pure ())
  if db.isUnpublished id then pure (true, [.updateOutboxEvents [id] update])
  else pure (false, [])

end Database

/-! ## The engine -/

/-- The statements that the services and the writers of the ledger perform. -/
inductive Statement where
  | advisoryXactLock (key : String)
  | selectOperation (idempotencyKey : String)
  | selectPaymentForUpdate (id : String)
  | selectPayment (id : String)
  | selectIdempotencyKey (key : String)
  | insertPayment (payment : Payment)
  | claimIdempotencyKey (key : String) (requestFingerprint : Digest) (paymentId : String)
  | deletePayment (id : String)
  | updatePaymentStatus (id : String) (status : PaymentStatus)
  | authorizePayment (id : String)
  | insertLedgerAccount (id name currency : String)
  | insertLedgerTransaction (id reference currency : String)
  | insertLedgerEntry (transactionId accountId side : String) (amount : ℤ) (currency : String)
      (now : Timestamp)
  | mutateLedgerTransactions (p : LedgerTransactionRow → Bool)
  | mutateLedgerEntries (p : LedgerEntryRow → Bool)
  | insertPaymentOperation (row : PaymentOperationRow)
  | insertOutboxEvent (id aggregateType aggregateId eventType : String) (payload : JsonObject)
      (now : Timestamp)
  | selectClaimableEvents (now maxAttempts leaseSeconds batchSize : ℤ) (skipped : List String)
  | lockEvents (ids : List String) (now : Timestamp)
  | updateUnpublishedEvent (id : String) (update : Database.OutboxUpdate)

namespace Statement

/-- What a statement is answered with. -/
@[reducible]
def Answer : Statement → Type
  | selectOperation _ => Option PaymentOperationRow
  | selectPaymentForUpdate _ => Option PaymentRow
  | selectPayment _ => Option PaymentRow
  | selectIdempotencyKey _ => Option IdempotencyKeyRow
  | claimIdempotencyKey _ _ _ => Option String
  | authorizePayment _ => Bool
  | selectClaimableEvents _ _ _ _ _ => List OutboxEventRow
  | updateUnpublishedEvent _ _ => Bool
  | _ => Unit

/-- A statement on what its transaction sees. -/
def run : (s : Statement) → Database → Except DbError (s.Answer × List Database.Change)
  | advisoryXactLock key, _ => do
    text key
    pure ((), [])
  | selectOperation idempotencyKey, db => db.selectOperation idempotencyKey
  | selectPaymentForUpdate id, db => db.selectPayment id
  | selectPayment id, db => db.selectPayment id
  | selectIdempotencyKey key, db => db.selectIdempotencyKey key
  | insertPayment payment, db => db.insertPayment payment
  | claimIdempotencyKey key requestFingerprint paymentId, db =>
    db.claimIdempotencyKey key requestFingerprint paymentId
  | deletePayment id, db => db.deletePayment id
  | updatePaymentStatus id status, db => db.updatePaymentStatus id status
  | authorizePayment id, db => db.authorizePayment id
  | insertLedgerAccount id name currency, db => db.insertLedgerAccount id name currency
  | insertLedgerTransaction id reference currency, db =>
    db.insertLedgerTransaction id reference currency
  | insertLedgerEntry transactionId accountId side amount currency now, db =>
    db.insertLedgerEntry transactionId accountId side amount currency now
  | mutateLedgerTransactions p, db => db.mutateLedgerTransactions p
  | mutateLedgerEntries p, db => db.mutateLedgerEntries p
  | insertPaymentOperation row, db => db.insertPaymentOperation row
  | insertOutboxEvent id aggregateType aggregateId eventType payload now, db =>
    db.insertOutboxEvent id aggregateType aggregateId eventType payload now
  | selectClaimableEvents now maxAttempts leaseSeconds batchSize skipped, db =>
    pure (db.selectClaimableEvents now maxAttempts leaseSeconds batchSize skipped, [])
  | lockEvents ids now, _ => pure ((), [.updateOutboxEvents ids (.claimed now)])
  | updateUnpublishedEvent id update, db => db.updateUnpublishedEvent id update

end Statement

/-- A program of a service: the statements of its transaction. -/
abbrev Service (α : Type) := Program Statement.Answer ServiceError α

/-- What a call returns or raises when its transaction has ended. -/
def ended {α : Type} : Outcome DbError ServiceError α → Except ServiceError α
  | .returned a => .ok a
  | .raised e => .error e
  | .refused r => .error (.database r)

/-- What a transaction locks: the number of an advisory lock, a row, or the place of a row in a
unique index. -/
inductive Lock where
  | advisory (number : ℤ)
  | payment (id : String)
  | idempotencyKey (key : String)
  | ledgerAccount (id : String)
  | ledgerTransaction (id : String)
  | operation (id : String)
  | operationKey (idempotencyKey : String)
  | operationJournal (journalTransactionId : String)
  | outboxEvent (id : String)
  deriving DecidableEq

/-- The locks that a statement waits for and keeps: an insert, those of its unique keys, where they
are not taken; an update, a delete and `FOR UPDATE`, those of the rows that they find. The key-share
locks of references would only make more statements wait, and are left out. -/
def Statement.locks (hashtext : String → ℤ) (db : Database) : Statement → List Lock
  | advisoryXactLock key => [.advisory (hashtext key)]
  | insertPayment payment =>
    if (db.payments.find? payment.id).isSome then [] else [.payment payment.id]
  | selectPaymentForUpdate id | deletePayment id | updatePaymentStatus id _ =>
    if (db.payments.find? id).isSome then [.payment id] else []
  | authorizePayment id => if db.isPending id then [.payment id] else []
  | claimIdempotencyKey key _ _ =>
    if (db.idempotencyKeys.find? key).isSome then [] else [.idempotencyKey key]
  | insertLedgerAccount id _ _ =>
    if (db.ledgerAccounts.find? id).isSome then [] else [.ledgerAccount id]
  | insertLedgerTransaction id _ _ =>
    if (db.ledgerTransactions.find? id).isSome then [] else [.ledgerTransaction id]
  | insertPaymentOperation row =>
    if db.operationExists row then []
    else [.operation row.id, .operationKey row.idempotencyKey,
      .operationJournal row.journalTransactionId]
  | insertOutboxEvent id _ _ _ _ _ =>
    if (db.outboxEvents.find? id).isSome then [] else [.outboxEvent id]
  | selectClaimableEvents now maxAttempts leaseSeconds batchSize skipped =>
    (db.selectClaimableEvents now maxAttempts leaseSeconds batchSize skipped).map fun row =>
      .outboxEvent row.id
  | lockEvents ids _ => ids.map .outboxEvent
  | updateUnpublishedEvent id _ => if db.isUnpublished id then [.outboxEvent id] else []
  | _ => []

namespace Database

/-- The journals that some changes insert. -/
def newLedgerTransactions (changes : List Change) : List LedgerTransactionRow :=
  changes.filterMap fun
    | .insertLedgerTransaction row => some row
    | _ => none

/-- The tables after some changes. -/
def after (changes : List Change) (db : Database) : Database :=
  changes.foldl (fun db change => db.apply change) db

/-- `ledger_transaction_balanced`, for each journal that is new at commit. -/
def settle (db : Database) (changes : List Change) : Except DbError Unit :=
  forM (newLedgerTransactions changes) fun row =>
    (after changes db).assertLedgerTransactionBalanced row.id

end Database

/-- PostgreSQL, on these tables. -/
def postgres (hashtext : String → ℤ) :
    Engine Statement.Answer Database Database.Change Lock DbError where
  run s db := s.run db
  apply change db := Database.apply change db
  settle db changes := (Database.settle db changes).map fun _ => ⟨⟩
  needs s db := s.locks hashtext db
  takes s db := s.locks hashtext db
  takes_subset _ _ := List.Subset.refl _

end AtlasPay
