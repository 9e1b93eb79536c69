import AtlasPay.Python.Json
import AtlasPay.Python.Unicode

/-!
# Payments, requests and operations

The models of `app/models.py`, the operations of `app/payment_operations.py` with their transitions,
and the exceptions that the services raise.
-/

namespace AtlasPay

/-- Microseconds since the epoch. -/
abbrev Timestamp := ℤ

/-- The text of a SHA-256 digest, as `hexdigest` returns it. -/
abbrev Digest := { hex : String // hex.length = 64 }

/-- `PaymentStatus`. -/
inductive PaymentStatus where
  | pending
  | authorized
  | captured
  | refunded
  | reversed
  | failed
  | cancelled
  deriving DecidableEq, Repr

namespace PaymentStatus

/-- The value of the member. -/
def value : PaymentStatus → String
  | pending => "pending"
  | authorized => "authorized"
  | captured => "captured"
  | refunded => "refunded"
  | reversed => "reversed"
  | failed => "failed"
  | cancelled => "cancelled"

/-- `PaymentStatus(text)`, where it is a member. -/
def ofValue? (text : String) : Option PaymentStatus :=
  [pending, authorized, captured, refunded, reversed, failed, cancelled].find? fun status =>
    status.value = text

@[simp]
theorem ofValue?_value (status : PaymentStatus) : ofValue? status.value = some status := by
  cases status <;> rfl

/-- The member that a text names has it as its value. -/
theorem value_of_ofValue? {text : String} {status : PaymentStatus}
    (h : ofValue? text = some status) : status.value = text := by
  have hvalue := List.find?_some h
  simpa using hvalue

/-- Members are told apart by their values. -/
theorem value_injective : Function.Injective value := by
  intro status status' h
  have hback := congrArg ofValue? h
  simpa using hback

end PaymentStatus

/-- `PaymentOperation`. -/
inductive PaymentOperation where
  | capture
  | refund
  | reversal
  deriving DecidableEq, Repr

namespace PaymentOperation

/-- The value of the member. -/
def value : PaymentOperation → String
  | capture => "capture"
  | refund => "refund"
  | reversal => "reversal"

/-- `PaymentOperation(text)`, where it is a member. -/
def ofValue? (text : String) : Option PaymentOperation :=
  [capture, refund, reversal].find? fun operation => operation.value = text

@[simp]
theorem ofValue?_value (operation : PaymentOperation) :
    ofValue? operation.value = some operation := by
  cases operation <;> rfl

/-- Members are told apart by their values. -/
theorem value_injective : Function.Injective value := by
  intro operation operation' h
  have hback := congrArg ofValue? h
  simpa using hback

/-- `_TRANSITIONS`: the status that an operation needs, and the one that it leaves. -/
def transition : PaymentOperation → PaymentStatus × PaymentStatus
  | capture => (.authorized, .captured)
  | refund => (.captured, .refunded)
  | reversal => (.authorized, .reversed)

end PaymentOperation

/-- `CreatePaymentRequest`, as its validation leaves it. -/
structure CreatePaymentRequest where
  amount : ℤ
  currency : String
  merchantReference : String
  amount_gt : 0 < amount
  currency_normalized : ∃ given : String, given.length = 3 ∧ currency = upper given
  merchantReference_min : 1 ≤ merchantReference.length
  merchantReference_max : merchantReference.length ≤ 128

instance : DecidableEq CreatePaymentRequest := fun request request' =>
  decidable_of_iff (request.amount = request'.amount ∧ request.currency = request'.currency ∧
    request.merchantReference = request'.merchantReference) (by
      cases request
      cases request'
      simp)

/-- `CreatePaymentRequest(...)`: the fields are validated, then the currency is normalized. -/
def CreatePaymentRequest.validate (amount : ℤ) (currency merchantReference : String) :
    Option CreatePaymentRequest :=
  if h : 0 < amount ∧ currency.length = 3 ∧ 1 ≤ merchantReference.length ∧
      merchantReference.length ≤ 128 then
    some ⟨amount, upper currency, merchantReference, h.1, ⟨currency, h.2.1, rfl⟩, h.2.2.1,
      h.2.2.2⟩
  else none

/-- `request_fingerprint`. -/
def requestFingerprint (sha256 : String → Digest) (request : CreatePaymentRequest) : Digest :=
  sha256 <| Json.dumps [
    ("amount", .int request.amount),
    ("currency", .str request.currency),
    ("merchant_reference", .str request.merchantReference)]

/-- `Payment`. -/
structure Payment where
  id : String
  amount : ℤ
  currency : String
  merchantReference : String
  status : PaymentStatus
  createdAt : Timestamp
  deriving DecidableEq, Repr

/-- `Payment(**request.model_dump())`, with the id and the time that it draws. -/
def Payment.new (request : CreatePaymentRequest) (id : String) (now : Timestamp) : Payment where
  id := id
  amount := request.amount
  currency := request.currency
  merchantReference := request.merchantReference
  status := .pending
  createdAt := now

/-- The refusals of the database: of a value that a column cannot hold, the kinds of
`IntegrityError` that the schema gives rise to, and the exceptions of its triggers. -/
inductive DbError where
  | data
  | notNull
  | unique
  | check
  | foreignKey
  | raiseException (message : String)
  deriving DecidableEq, Repr

/-- The exceptions that the services raise, with their texts: `database` is a refusal that they let
through, and `ledgerInvariantFrom` an `IntegrityError` that the ledger translates. -/
inductive ServiceError where
  | database (e : DbError)
  | idempotencyConflict (message : String)
  | runtimeError (message : String)
  | paymentOperation (message : String)
  | operationIdempotencyConflict (message : String)
  | invalidPaymentTransition (message : String)
  | ledgerInvariant (message : String)
  | ledgerInvariantFrom (cause : DbError)
  | valueError (message : String)
  deriving DecidableEq, Repr

end AtlasPay
