import AtlasPay.Database.Statements

/-!
# `PostgresPaymentRepository.create_payment`

`app/repository.py`, as a program of statements. What the call draws, the payment's id and the time,
and the digest function are arguments.
-/

namespace AtlasPay

namespace PaymentRepository

/-- `_row_to_payment`, for a row. -/
def rowToPayment (row : PaymentRow) : Except ServiceError Payment :=
  match PaymentStatus.ofValue? row.status with
  | some status => pure ⟨row.id, row.amount, row.currency, row.merchantReference, status,
      row.createdAt⟩
  | none => throw (.valueError "Input should be a payment status")

/-- The conflict of a key that was used with a different request. -/
def conflictError : ServiceError :=
  .idempotencyConflict "Idempotency key was already used with a different request"

/-- The stored request of a key against the request of the call, and the payment that the key points
to: what they leave in `conflict` and `result`. -/
def readClaimed (fingerprint : Digest) :
    Option IdempotencyKeyRow → Service (Bool × Option Payment)
  | none => .fail (.runtimeError "Idempotency claim disappeared during transaction")
  | some existing =>
    if existing.requestFingerprint ≠ fingerprint then .done (true, none)
    else
      .call (.selectPayment existing.paymentId) fun
        | none => .fail (.runtimeError "Idempotency record references a missing payment")
        | some row =>
          match rowToPayment row with
          | .ok result => .done (false, some result)
          | .error e => .fail e

/-- The transaction of `create_payment` with a key: what it leaves in `conflict` and `result`. -/
def createPaymentTransaction (payment : Payment) (fingerprint : Digest) (idempotencyKey : String) :
    Service (Bool × Option Payment) :=
  .call (.insertPayment payment) fun _ =>
  .call (.claimIdempotencyKey idempotencyKey fingerprint payment.id) fun
    | some _ => .done (false, some payment)
    | none =>
      .call (.deletePayment payment.id) fun _ =>
      .call (.selectIdempotencyKey idempotencyKey) fun existing => readClaimed fingerprint existing

/-- What is raised or returned once the transaction has committed. -/
def conclude (left : Bool × Option Payment) : Except ServiceError Payment :=
  if left.1 then throw conflictError
  else
    match left.2 with
    | some result => pure result
    | none => throw (.runtimeError "Payment creation completed without a result")

/-- `create_payment`. The inner result is what it raises or returns after its transaction. -/
def createPayment (sha256 : String → Digest) (request : CreatePaymentRequest)
    (idempotencyKey : Option String) (id : String) (now : Timestamp) :
    Service (Except ServiceError Payment) :=
  let payment := Payment.new request id now
  match idempotencyKey with
  | none | some "" => .call (.insertPayment payment) fun _ => .done (.ok payment)
  | some key =>
    (createPaymentTransaction payment (requestFingerprint sha256 request) key).bind fun left =>
      .done (conclude left)

end PaymentRepository

end AtlasPay
