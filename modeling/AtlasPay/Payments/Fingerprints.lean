import AtlasPay.Payments.Operations
import AtlasPay.Python.Escapes

/-!
# What a fingerprint is taken of

`request_fingerprint` and `_fingerprint` hash a payload. Two requests, and two sets of arguments of
an operation, have the same payload only when they are the same (`payloads_injective`). So a key
that is used again conflicts because of what is asked, and not of how it is written.
-/

namespace AtlasPay

/-- The payload of `request_fingerprint`. -/
def CreatePaymentRequest.payload (request : CreatePaymentRequest) : String :=
  Json.dumps [
    ("amount", .int request.amount),
    ("currency", .str request.currency),
    ("merchant_reference", .str request.merchantReference)]

/-- The arguments of `_fingerprint`, with the operation as its value. -/
structure FingerprintArguments where
  paymentId : String
  operation : String
  sourceAccountId : String
  destinationAccountId : String
  deriving DecidableEq, Repr

/-- The payload of `_fingerprint`. -/
def FingerprintArguments.payload (arguments : FingerprintArguments) : String :=
  Json.dumps [
    ("destination_account_id", .str arguments.destinationAccountId),
    ("operation", .str arguments.operation),
    ("payment_id", .str arguments.paymentId),
    ("source_account_id", .str arguments.sourceAccountId)]

/-- What `execute` takes the fingerprint of. -/
def OperationCall.fingerprintArguments (call : OperationCall) : FingerprintArguments :=
  ⟨call.paymentId, call.operation.value, call.sourceAccountId, call.destinationAccountId⟩

/-- Requests are told apart by their payloads. -/
theorem CreatePaymentRequest.payload_injective : Function.Injective payload := by
  intro request request' h
  have hmembers := Json.dumps_injective h
  simp only [List.cons.injEq, Prod.mk.injEq, JsonValue.int.injEq, JsonValue.str.injEq, true_and,
    and_true] at hmembers
  obtain ⟨hamount, hcurrency, hreference⟩ := hmembers
  cases request
  cases request'
  subst hamount hcurrency hreference
  rfl

/-- The arguments of operations are told apart by their payloads. -/
theorem FingerprintArguments.payload_injective : Function.Injective payload := by
  intro arguments arguments' h
  have hmembers := Json.dumps_injective h
  simp only [List.cons.injEq, Prod.mk.injEq, JsonValue.str.injEq, true_and, and_true] at hmembers
  obtain ⟨hdestination, hoperation, hpayment, hsource⟩ := hmembers
  cases arguments
  cases arguments'
  subst hdestination hoperation hpayment hsource
  rfl

/-- Calls that agree in what the fingerprint is taken of have one operation on one payment between
the same accounts. -/
theorem OperationCall.fingerprintArguments_eq_iff {call call' : OperationCall} :
    call.fingerprintArguments = call'.fingerprintArguments ↔
      call.paymentId = call'.paymentId ∧ call.operation = call'.operation ∧
        call.sourceAccountId = call'.sourceAccountId ∧
        call.destinationAccountId = call'.destinationAccountId := by
  unfold fingerprintArguments
  rw [FingerprintArguments.mk.injEq, PaymentOperation.value_injective.eq_iff]

/-- A fingerprint is the digest of its payload, and inputs that differ in a field have different
payloads: requests, arguments of any texts, and calls. -/
theorem payloads_injective (sha256 : String → Digest) :
    (∀ request, requestFingerprint sha256 request = sha256 request.payload) ∧
      (∀ request request' : CreatePaymentRequest,
        request ≠ request' → request.payload ≠ request'.payload) ∧
      (∀ call, PaymentOperations.fingerprint sha256 call =
        sha256 call.fingerprintArguments.payload) ∧
      (∀ arguments arguments' : FingerprintArguments,
        arguments ≠ arguments' → arguments.payload ≠ arguments'.payload) ∧
      ∀ call call' : OperationCall,
        ¬(call.paymentId = call'.paymentId ∧ call.operation = call'.operation ∧
          call.sourceAccountId = call'.sourceAccountId ∧
          call.destinationAccountId = call'.destinationAccountId) →
            call.fingerprintArguments.payload ≠ call'.fingerprintArguments.payload := by
  refine ⟨fun _ => rfl, fun _ _ => CreatePaymentRequest.payload_injective.ne, fun _ => rfl,
    fun _ _ => FingerprintArguments.payload_injective.ne, fun call call' hdiffer hpayload => ?_⟩
  exact hdiffer (OperationCall.fingerprintArguments_eq_iff.mp
    (FingerprintArguments.payload_injective hpayload))

end AtlasPay
