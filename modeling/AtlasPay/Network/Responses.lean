import AtlasPay.Network.CoordinatorRuns
import AtlasPay.Network.Mapping

/-!
# Responses that an issuer may send

`handle_response` takes the key of a response before it correlates the response with the request. Of
the messages that the default codec decodes, those with DE11 and DE37 have a key, and for these the
coordinator does what it has to do with a bad response, which is nothing (`tolerates_iff`). A
response without one of the two raises, although `correlates_response` takes it for one that does
not correlate.
-/

namespace AtlasPay

/-- What a response for a request has: the MTI that the request expects, and its DE11 and DE37. -/
def Correlates (request response : ISO8583Message) : Prop :=
  responseMti request.mti = some response.mti ∧
    response.fields.lookup 11 = request.fields.lookup 11 ∧
    response.fields.lookup 37 = request.fields.lookup 37

/-! ## The key of a decoded message -/

/-- A message has the key that its DE11 and DE37 spell. -/
theorem correlationKey_eq_ok {message : ISO8583Message} {key : NetworkCorrelation} :
    correlationKey message = .ok key ↔
      message.fields.lookup 11 = some (.text key.stan) ∧
        message.fields.lookup 37 = some (.text key.rrn) := by
  unfold correlationKey
  simp only [bind_eq_ok, requiredText_eq_ok, NetworkCorrelation.new_eq_ok]
  constructor
  · rintro ⟨stan, hstan, rrn, hrrn, rfl, rfl⟩
    exact ⟨hstan, hrrn⟩
  · rintro ⟨hstan, hrrn⟩
    exact ⟨_, hstan, _, hrrn, rfl, rfl⟩

/-- A decoded value is text but under the specification of a binary element. -/
theorem isText_of_decode {payload : Bytes} {message : ISO8583Message}
    (h : defaultCodec.decode payload = .ok message) {number : ℕ} (hmem : number ∈ message.fields)
    {spec : FieldSpec} (hspec : defaultCodec.fieldSpecs number = some spec)
    (htype : spec.dataType ≠ .binary) : ∃ s, message.fields.lookup number = some (.text s) := by
  obtain ⟨value, hvalue⟩ := Option.isSome_iff_exists.mp (AList.lookup_isSome.mpr hmem)
  have hadmits := admits_of_decode h hvalue hspec
  cases value with
  | text s => exact ⟨s, hvalue⟩
  | bytes raw => exact absurd hadmits.1 htype

/-- A decoded message has a key when it has DE11 and DE37. -/
theorem correlationKey_of_decode {payload : Bytes} {message : ISO8583Message}
    (h : defaultCodec.decode payload = .ok message) (hstan : 11 ∈ message.fields)
    (hrrn : 37 ∈ message.fields) : ∃ key, correlationKey message = .ok key := by
  obtain ⟨stan, hstanText⟩ := isText_of_decode h hstan rfl (by decide)
  obtain ⟨rrn, hrrnText⟩ := isText_of_decode h hrrn rfl (by decide)
  obtain ⟨key, hkey⟩ := correlation_of_decode h hstanText hrrnText
  obtain ⟨hstanKey, hrrnKey⟩ := NetworkCorrelation.new_eq_ok.mp hkey
  refine ⟨key, correlationKey_eq_ok.mpr ⟨?_, ?_⟩⟩
  · rw [hstanText, hstanKey]
  · rw [hrrnText, hrrnKey]

/-- A key names the DE11 and the DE37 of its message. -/
theorem mem_fields_of_correlationKey {message : ISO8583Message} {key : NetworkCorrelation}
    (h : correlationKey message = .ok key) : 11 ∈ message.fields ∧ 37 ∈ message.fields := by
  obtain ⟨hstan, hrrn⟩ := correlationKey_eq_ok.mp h
  exact ⟨AList.lookup_isSome.mp (by simp [hstan]), AList.lookup_isSome.mp (by simp [hrrn])⟩

/-- Between messages that have keys, `correlates_response` decides whether they correlate. -/
theorem correlatesResponse_iff {request response : ISO8583Message}
    {requestKey responseKey : NetworkCorrelation}
    (hrequest : correlationKey request = .ok requestKey)
    (hresponse : correlationKey response = .ok responseKey) :
    correlatesResponse request response = .ok true ↔ Correlates request response := by
  obtain ⟨hrequestStan, hrequestRrn⟩ := correlationKey_eq_ok.mp hrequest
  obtain ⟨hresponseStan, hresponseRrn⟩ := correlationKey_eq_ok.mp hresponse
  have hkeys : requestKey = responseKey ↔
      response.fields.lookup 11 = request.fields.lookup 11 ∧
        response.fields.lookup 37 = request.fields.lookup 37 := by
    rw [hrequestStan, hrequestRrn, hresponseStan, hresponseRrn]
    cases requestKey
    cases responseKey
    simp [eq_comm]
  unfold correlatesResponse Correlates
  rw [← hkeys]
  split
  · next hnone => simp [hnone]
  · next expected hsome =>
    rw [hsome]
    split
    · next hne => simp [Ne.symm hne]
    · next heq =>
      rw [not_not] at heq
      rw [hrequest, hresponse]
      simp [heq, bind, Except.bind, pure, Except.pure]

namespace NetworkTransactionCoordinator

variable {T : Type} [LE T] [DecidableLE T] {self : NetworkTransactionCoordinator T}

/-- What the coordinator has to do with any response: it returns a disposition, and it does nothing
with a response that does not correlate. -/
def Tolerates (self : NetworkTransactionCoordinator T) (request response : ISO8583Message)
    (now : T) : Prop :=
  (∃ disposition, (self.handleResponse request response now).1 = .ok disposition) ∧
    (¬Correlates request response →
      self.handleResponse request response now = (.ok .mismatched, self))

/-- A request that a run has registered has the key that it was registered with. -/
theorem correlationKey_of_registered [Zero T] [Add T] {log : List (Event T)}
    (h : (lts T).Run log self) {request : ISO8583Message} {registeredAt timeout : T}
    {key : NetworkCorrelation}
    (hregistered : .register request registeredAt timeout (.ok key) ∈ log) :
    correlationKey request = .ok key := by
  obtain ⟨before, after, rfl⟩ := List.append_of_mem hregistered
  obtain ⟨s₁, s₂, -, hstep, -⟩ := Lts.run_split h
  cases register_spec hstep with
  | registered hkey _ _ _ _ => exact hkey

/-- In every run, for each request that was registered and each response that the default codec
decodes: the coordinator does what it has to do exactly when the response has DE11 and DE37. -/
theorem tolerates_iff [Zero T] [Add T] {log : List (Event T)} (h : (lts T).Run log self)
    {request response : ISO8583Message} {registeredAt timeout : T} {key : NetworkCorrelation}
    (hregistered : .register request registeredAt timeout (.ok key) ∈ log) {payload : Bytes}
    (hdecode : defaultCodec.decode payload = .ok response) (now : T) :
    self.Tolerates request response now ↔ 11 ∈ response.fields ∧ 37 ∈ response.fields := by
  have hrequest := correlationKey_of_registered h hregistered
  constructor
  · rintro ⟨⟨disposition, hreturns⟩, -⟩
    cases hresponse : correlationKey response with
    | ok responseKey => exact mem_fields_of_correlationKey hresponse
    | error e =>
      simp only [handleResponse, hresponse] at hreturns
      exact absurd hreturns throw_ne_ok
  · rintro ⟨hstan, hrrn⟩
    obtain ⟨responseKey, hresponse⟩ := correlationKey_of_decode hdecode hstan hrrn
    have hiff := correlatesResponse_iff hrequest hresponse
    rcases hhandle : self.handleResponse request response now with ⟨outcome, self'⟩
    have hspec := handleResponse_spec hhandle
    unfold Tolerates
    rw [hhandle]
    -- The ends of a correlated response return; the other one changes nothing.
    cases hspec with
    | raised he =>
      rw [hresponse] at he
      cases he
    | uncorrelated _ _ => exact ⟨⟨_, rfl⟩, fun _ => rfl⟩
    | duplicate _ hcorrelates _ | unknown _ hcorrelates _ _ _ | late _ hcorrelates _ _
    | timedOut _ hcorrelates _ _ _ _ | accepted _ hcorrelates _ _ _ _ =>
      exact ⟨⟨_, rfl⟩, fun hnot => absurd (hiff.mp hcorrelates) hnot⟩

/-- The response of another transaction is mismatched. -/
theorem tolerates_other : ∃ payload decoded, defaultCodec.decode payload = .ok decoded ∧
    pendingOne.handleResponse sampleRequest decoded 1 = (.ok .mismatched, pendingOne) := by
  obtain ⟨payload, hencode⟩ : ∃ payload, defaultCodec.encode otherResponse = .ok payload := ⟨_, rfl⟩
  obtain ⟨elements, hdecode, hsorted, hperm⟩ := ISO8583Codec.decode_of_encode hencode
  obtain ⟨-, hlookup⟩ := ISO8583Codec.same_insertAll hsorted hperm
  have hstan : (ISO8583Codec.insertAll elements ∅).lookup 11 = some (.text "123457") := hlookup 11
  have hrrn : (ISO8583Codec.insertAll elements ∅).lookup 37 = some (.text "ABC123456789") :=
    hlookup 37
  have htolerates := (tolerates_iff run_pendingOne (List.mem_singleton_self _) hdecode 1).mpr
    ⟨AList.lookup_isSome.mp (by simp [hstan]), AList.lookup_isSome.mp (by simp [hrrn])⟩
  refine ⟨payload, _, hdecode, htolerates.2 ?_⟩
  rintro ⟨-, heq, -⟩
  rw [hstan] at heq
  exact absurd heq (by decide)

/-- A response without DE37 raises. -/
theorem not_tolerates_partial :
    ∃ (log : List (Event ℤ)) (self : NetworkTransactionCoordinator ℤ) (payload : Bytes)
      (response : ISO8583Message), (lts ℤ).Run log self ∧
      .register sampleRequest 0 5 (.ok sampleCorrelation) ∈ log ∧
      defaultCodec.decode payload = .ok response ∧ ¬self.Tolerates sampleRequest response 1 := by
  refine ⟨_, pendingOne,
    [48, 50, 49, 48, 0, 32, 0, 0, 0, 0, 0, 0, 49, 50, 51, 52, 53, 54],
    ⟨"0210", (∅ : Fields).insert 11 (.text "123456")⟩, run_pendingOne, List.mem_singleton_self _,
    rfl, ?_⟩
  rintro ⟨⟨disposition, hreturns⟩, -⟩
  exact absurd hreturns throw_ne_ok

end NetworkTransactionCoordinator

end AtlasPay
