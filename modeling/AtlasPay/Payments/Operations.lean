import AtlasPay.Database.Statements

/-!
# `PostgresPaymentOperations.execute`

`app/payment_operations.py`, as a program of statements. What a call draws, the ids of the
operation, the journal and the event, and the time, are among its arguments.
-/

namespace AtlasPay

/-- `OperationResult`. -/
structure OperationResult where
  operationId : String
  paymentId : String
  operation : PaymentOperation
  fromStatus : PaymentStatus
  toStatus : PaymentStatus
  journalTransactionId : String
  replayed : Bool
  deriving DecidableEq, Repr

/-- The arguments of `execute`, and what it draws. -/
structure OperationCall where
  paymentId : String
  operation : PaymentOperation
  sourceAccountId : String
  destinationAccountId : String
  idempotencyKey : String
  operationId : String
  journalId : String
  eventId : String
  now : Timestamp
  deriving DecidableEq, Repr

namespace PaymentOperations

/-- `_fingerprint`. -/
def fingerprint (sha256 : String → Digest) (call : OperationCall) : Digest :=
  sha256 <| Json.dumps [
    ("destination_account_id", .str call.destinationAccountId),
    ("operation", .str call.operation.value),
    ("payment_id", .str call.paymentId),
    ("source_account_id", .str call.sourceAccountId)]

/-- `_result_from_row`. -/
def resultFromRow (row : PaymentOperationRow) (replayed : Bool) :
    Except ServiceError OperationResult :=
  match PaymentOperation.ofValue? row.operation, PaymentStatus.ofValue? row.fromStatus,
      PaymentStatus.ofValue? row.toStatus with
  | some operation, some fromStatus, some toStatus =>
    pure ⟨row.id, row.paymentId, operation, fromStatus, toStatus, row.journalTransactionId,
      replayed⟩
  | _, _, _ => throw (.valueError "not a member of the enumeration")

/-- The row that `execute` inserts into `payment_operations`. -/
def operationRow (call : OperationCall) (fingerprint : Digest) (current : PaymentStatus) :
    PaymentOperationRow where
  id := call.operationId
  idempotencyKey := call.idempotencyKey
  requestFingerprint := fingerprint
  paymentId := call.paymentId
  operation := call.operation.value
  fromStatus := current.value
  toStatus := call.operation.transition.2.value
  journalTransactionId := call.journalId
  operation_check := by
    cases call.operation <;> simp [PaymentOperation.value]

/-- The payload of the event. -/
def eventPayload (call : OperationCall) (current : PaymentStatus) (amount : ℤ)
    (currency : String) : JsonObject := [
  ("amount", .int amount),
  ("currency", .str currency),
  ("from_status", .str current.value),
  ("journal_transaction_id", .str call.journalId),
  ("operation", .str call.operation.value),
  ("operation_id", .str call.operationId),
  ("payment_id", .str call.paymentId),
  ("to_status", .str call.operation.transition.2.value)]

/-- The reference of the journal. -/
def reference (call : OperationCall) : String :=
  "payment:" ++ call.paymentId ++ ":" ++ call.operation.value ++ ":" ++ call.operationId

/-- The writes of `execute`: the journal with its two entries, the status of the payment, the
operation and the event. -/
def record (call : OperationCall) (fingerprint : Digest) (current : PaymentStatus) (amount : ℤ)
    (currency : String) : Service OperationResult :=
  .call (.insertLedgerTransaction call.journalId (reference call) currency) fun _ =>
  .call (.insertLedgerEntry call.journalId call.sourceAccountId "debit" amount currency
    call.now) fun _ =>
  .call (.insertLedgerEntry call.journalId call.destinationAccountId "credit" amount currency
    call.now) fun _ =>
  .call (.updatePaymentStatus call.paymentId call.operation.transition.2) fun _ =>
  .call (.insertPaymentOperation (operationRow call fingerprint current)) fun _ =>
  .call (.insertOutboxEvent call.eventId "payment" call.paymentId
    ("payment." ++ call.operation.transition.2.value) (eventPayload call current amount currency)
    call.now) fun _ =>
  .done ⟨call.operationId, call.paymentId, call.operation, current, call.operation.transition.2,
    call.journalId, false⟩

/-- An operation with the idempotency key is there: it is replayed, unless it was another one. -/
def replay (fingerprint : Digest) (existing : PaymentOperationRow) : Service OperationResult :=
  if existing.requestFingerprint ≠ fingerprint then
    .fail (.operationIdempotencyConflict
      "Operation idempotency key was already used with a different request")
  else
    match resultFromRow existing true with
    | .ok result => .done result
    | .error e => .fail e

/-- The payment is locked: the operation is recorded, if it is one for the payment's status. -/
def apply (call : OperationCall) (fingerprint : Digest) :
    Option PaymentRow → Service OperationResult
  | none => .fail (.paymentOperation ("Payment " ++ call.paymentId ++ " does not exist"))
  | some payment =>
    match PaymentStatus.ofValue? payment.status with
    | none => .fail (.valueError "not a member of the enumeration")
    | some current =>
      if current ≠ call.operation.transition.1 then
        .fail (.invalidPaymentTransition
          ("Cannot " ++ call.operation.value ++ " payment in " ++ current.value ++
            " state; expected " ++ call.operation.transition.1.value))
      else record call fingerprint current payment.amount (upper payment.currency)

/-- `execute`. -/
def execute (sha256 : String → Digest) (call : OperationCall) : Service OperationResult :=
  let fingerprint := fingerprint sha256 call
  if ¬isNotBlank call.idempotencyKey then
    .fail (.paymentOperation "Operation idempotency key must not be empty")
  else if call.sourceAccountId = call.destinationAccountId then
    .fail (.paymentOperation "Ledger source and destination accounts must differ")
  else
    .call (.advisoryXactLock call.idempotencyKey) fun _ =>
    .call (.selectOperation call.idempotencyKey) fun
      | some existing => replay fingerprint existing
      | none => .call (.selectPaymentForUpdate call.paymentId) fun payment =>
        apply call fingerprint payment

/-- The step outside that moves a payment from pending to authorized. Where the payment is not
pending, nothing is updated, and the step says so at once. -/
def authorize (id : String) : Service Unit :=
  .call (.authorizePayment id) fun updated =>
    if updated then .done ()
    else .fail (.valueError ("Payment " ++ id ++ " is not pending"))

end PaymentOperations

end AtlasPay
