import AtlasPay.Codec.Iso8583
import AtlasPay.Network.Canonical

/-!
# Correlation of ISO 8583 messages

The model of the correlation functions of `app/iso8583_adapter.py`: the key of a message is the pair
of its DE11 and DE37, and a response correlates with a request when its MTI is the one expected and
the keys are equal.
-/

namespace AtlasPay

/-- `_required_text`. -/
def requiredText (fields : Fields) (number : ℕ) : Py String :=
  match fields.lookup number with
  | none => throw (.iso8583MappingError s!"Required DE{number} is missing")
  | some (.bytes _) =>
    throw (.iso8583MappingError s!"DE{number} must be text for canonical mapping")
  | some (.text s) => pure s

/-- `correlation_key`. -/
def correlationKey (message : ISO8583Message) : Py NetworkCorrelation := do
  let stan ← requiredText message.fields 11
  let rrn ← requiredText message.fields 37
  NetworkCorrelation.new stan rrn

/-- `_RESPONSE_MTI.get`. -/
def responseMti (mti : String) : Option String :=
  if mti = "0200" then some "0210"
  else if mti = "0400" then some "0410"
  else if mti = "0800" then some "0810"
  else none

/-- The exceptions that `correlates_response` catches: mapping errors and value errors, of which
codec, routing and TLV errors are kinds. -/
def PyError.isValueError : PyError → Bool
  | .valueError _ | .iso8583CodecError _ | .iso8583MappingError _ | .iso20022MappingError _
  | .networkRoutingError _ | .emvTlvError _ | .unicodeEncodeError | .unicodeDecodeError => true
  | .typeError _ | .indexError | .assertionError | .external _ => false

/-- `correlates_response`. -/
def correlatesResponse (request response : ISO8583Message) : Py Bool :=
  match responseMti request.mti with
  | none => pure false
  | some expectedMti =>
    if response.mti ≠ expectedMti then pure false
    else
      match do
        let requestKey ← correlationKey request
        let responseKey ← correlationKey response
        pure (decide (requestKey = responseKey)) with
      | .ok equal => pure equal
      | .error e => if e.isValueError then pure false else throw e

/-- `_required_text` raises nothing but mapping errors. -/
theorem requiredText_isValueError {fields : Fields} {number : ℕ} {e : PyError}
    (h : requiredText fields number = .error e) : e.isValueError = true := by
  unfold requiredText at h
  split at h <;> cases h <;> rfl

/-- `correlation_key` raises nothing but mapping errors and value errors. -/
theorem correlationKey_isValueError {message : ISO8583Message} {e : PyError}
    (h : correlationKey message = .error e) : e.isValueError = true := by
  unfold correlationKey at h
  cases hstan : requiredText message.fields 11 with
  | error e' =>
    rw [hstan] at h
    cases h
    exact requiredText_isValueError hstan
  | ok stan =>
    cases hrrn : requiredText message.fields 37 with
    | error e' =>
      rw [hstan, hrrn] at h
      cases h
      exact requiredText_isValueError hrrn
    | ok rrn =>
      rw [hstan, hrrn] at h
      change NetworkCorrelation.new stan rrn = .error e at h
      unfold NetworkCorrelation.new at h
      split at h
      · split at h <;> cases h
        rfl
      · cases h
        rfl

/-- `correlates_response` returns. -/
theorem correlatesResponse_isOk (request response : ISO8583Message) :
    ∃ b, correlatesResponse request response = .ok b := by
  unfold correlatesResponse
  split
  · exact ⟨false, rfl⟩
  · split
    · exact ⟨false, rfl⟩
    · split
      · exact ⟨_, rfl⟩
      · next e he =>
        have hvalue : e.isValueError = true := by
          cases hreq : correlationKey request with
          | error e' =>
            rw [hreq] at he
            cases he
            exact correlationKey_isValueError hreq
          | ok requestKey =>
            cases hres : correlationKey response with
            | error e' =>
              rw [hreq, hres] at he
              cases he
              exact correlationKey_isValueError hres
            | ok responseKey =>
              rw [hreq, hres] at he
              cases he
        exact ⟨false, by rw [if_pos hvalue]; rfl⟩

/-- A response that correlates has the key of the request. -/
theorem correlationKey_of_correlatesResponse {request response : ISO8583Message}
    (h : correlatesResponse request response = .ok true) :
    ∃ key, correlationKey request = .ok key ∧ correlationKey response = .ok key := by
  unfold correlatesResponse at h
  split at h
  · cases h
  · split at h
    · cases h
    · split at h
      · next equal hequal =>
        simp only [bind_eq_ok, pure_eq_ok] at hequal h
        obtain ⟨requestKey, hreq, responseKey, hres, heq⟩ := hequal
        rw [h, decide_eq_true_eq] at heq
        exact ⟨requestKey, hreq, heq ▸ hres⟩
      · split at h
        · simp at h
        · simp at h

/-- A message with a STAN and an RRN. -/
def correlatedMessage (mti stan rrn : String) : ISO8583Message :=
  ⟨mti, ((∅ : Fields).insert 37 (.text rrn)).insert 11 (.text stan)⟩

/-- A correlation, with the trace references of the tests. -/
def sampleCorrelation : NetworkCorrelation :=
  ⟨"123456", "ABC123456789", by decide, by decide⟩

/-- Another correlation. -/
def otherCorrelation : NetworkCorrelation :=
  ⟨"123457", "ABC123456789", by decide, by decide⟩

/-- A correlation for a reversal. -/
def sampleReversal : NetworkCorrelation :=
  ⟨"654321", "210987654321", by decide, by decide⟩

/-- A request with the first correlation. -/
def sampleRequest : ISO8583Message := correlatedMessage "0200" "123456" "ABC123456789"

/-- Its response. -/
def sampleResponse : ISO8583Message := correlatedMessage "0210" "123456" "ABC123456789"

/-- A request with the other correlation. -/
def otherRequest : ISO8583Message := correlatedMessage "0200" "123457" "ABC123456789"

/-- Its response. -/
def otherResponse : ISO8583Message := correlatedMessage "0210" "123457" "ABC123456789"

end AtlasPay
