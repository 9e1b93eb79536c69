import AtlasPay.Network.Mapping

/-!
# The ISO 20022 projection

The model of `app/iso20022.py`. The projection of a canonical authorization has a message id instead
of a STAN, and no ICC data, and it reports what it leaves out. `iso20022_losses` says that it leaves
out nothing else.
-/

namespace AtlasPay

/-- `MappingLossCode`. -/
inductive MappingLossCode where
  | iccDataNotProjected
  | stanIsNetworkSpecific
  deriving DecidableEq, Repr

/-- `MappingLoss`. -/
structure MappingLoss where
  /-- What is left out. -/
  code : MappingLossCode
  /-- Why it is. -/
  detail : String

/-- `ISO20022CardAuthorization`, with the checks of `__post_init__` as fields. -/
structure ISO20022CardAuthorization where
  /-- The message. -/
  messageId : String
  /-- The transaction. -/
  transactionId : String
  /-- The amount in minor units. -/
  amountMinor : ℤ
  /-- The alphabetic currency code. -/
  currency : String
  /-- The merchant. -/
  merchantId : String
  /-- The terminal. -/
  terminalId : String
  /-- The card number. -/
  pan : String
  /-- The message must not be empty. -/
  messageId_notBlank : isNotBlank messageId = true
  /-- The transaction must not be empty. -/
  transactionId_notBlank : isNotBlank transactionId = true
  /-- The merchant must not be empty. -/
  merchantId_notBlank : isNotBlank merchantId = true
  /-- The terminal must not be empty. -/
  terminalId_notBlank : isNotBlank terminalId = true
  /-- The amount must be a positive integer. -/
  amountMinor_pos : 0 < amountMinor
  /-- The currency must be a three-letter ASCII code. -/
  currency_valid : currency.length = 3 ∧ isAsciiAlpha currency = true
  /-- The currency must be upper-case. -/
  currency_upper : upper currency = currency
  /-- The card number must contain 12 to 19 ASCII digits. -/
  pan_valid : 12 ≤ pan.length ∧ pan.length ≤ 19 ∧ isAsciiDecimal pan = true

/-- The constructor of `ISO20022CardAuthorization`. -/
def ISO20022CardAuthorization.new (messageId transactionId : String) (amountMinor : ℤ)
    (currency merchantId terminalId pan : String) : Py ISO20022CardAuthorization :=
  if hmessage : isNotBlank messageId = true then
    if htransaction : isNotBlank transactionId = true then
      if hmerchant : isNotBlank merchantId = true then
        if hterminal : isNotBlank terminalId = true then
          if hamount : 0 < amountMinor then
            if hcurrency : currency.length = 3 ∧ isAsciiAlpha currency = true then
              if hupper : upper currency = currency then
                if hpan : 12 ≤ pan.length ∧ pan.length ≤ 19 ∧ isAsciiDecimal pan = true then
                  pure ⟨messageId, transactionId, amountMinor, currency, merchantId, terminalId,
                    pan, hmessage, htransaction, hmerchant, hterminal, hamount, hcurrency, hupper,
                    hpan⟩
                else throw (.valueError "pan must contain 12 to 19 ASCII digits")
              else throw (.valueError "currency must be uppercase")
            else throw (.valueError "currency must be a three-letter ASCII code")
          else throw (.valueError "amount_minor must be a positive integer")
        else throw (.valueError "terminal_id must not be empty")
      else throw (.valueError "merchant_id must not be empty")
    else throw (.valueError "transaction_id must not be empty")
  else throw (.valueError "message_id must not be empty")

/-- `ISO20022Projection`. -/
structure ISO20022Projection where
  /-- What is projected. -/
  authorization : ISO20022CardAuthorization
  /-- What is not. -/
  losses : List MappingLoss

/-- The loss of the STAN. -/
def stanLoss : MappingLoss :=
  ⟨.stanIsNetworkSpecific, "STAN is retained in AtlasPay canonical correlation but is not " ++
    "projected into the schema-neutral ISO 20022 authorization subset."⟩

/-- The loss of the ICC data. -/
def iccLoss : MappingLoss :=
  ⟨.iccDataNotProjected, "ISO 8583 DE55/EMV bytes are not copied into the supported ISO 20022 " ++
    "projection; a concrete card-message adapter must map supported EMV elements explicitly."⟩

/-- The losses that the projection of a request reports. -/
def lossesOf (request : AuthorizationRequest) : List MappingLoss :=
  [stanLoss] ++ if request.instrument.iccData ≠ none then [iccLoss] else []

/-- `authorization_to_iso20022`. -/
def authorizationToIso20022 (request : AuthorizationRequest) (messageId : String) :
    Py ISO20022Projection := do
  let authorization ← ISO20022CardAuthorization.new messageId request.correlation.rrn
    request.amountMinor request.currency request.merchantId request.terminalId
    request.instrument.pan
  pure ⟨authorization, lossesOf request⟩

/-- The request that `authorization_from_iso20022` builds once it has the correlation. -/
def requestOfIso20022 (message : ISO20022CardAuthorization) (correlation : NetworkCorrelation) :
    Py AuthorizationRequest := do
  let instrument ← CardPaymentInstrument.new message.pan none
  AuthorizationRequest.new message.amountMinor message.currency message.merchantId
    message.terminalId instrument correlation

/-- `authorization_from_iso20022`. -/
def authorizationFromIso20022 (message : ISO20022CardAuthorization) (stan : String) :
    Py AuthorizationRequest :=
  match NetworkCorrelation.new stan message.transactionId with
  | .error (.valueError _) =>
    throw (.iso20022MappingError ("ISO 20022 transaction_id must fit AtlasPay's current " ++
      "12-character RRN correlation profile and stan must be six digits"))
  | .error e => throw e
  | .ok correlation =>
    match requestOfIso20022 message correlation with
    | .error (.valueError text) => throw (.iso20022MappingError text)
    | .error e => throw e
    | .ok request => pure request

/-! ## What the mappings return -/

/-- Text that is not blank is not empty. -/
theorem ne_empty_of_isNotBlank {s : String} (h : isNotBlank s = true) : s ≠ "" := by
  rintro rfl
  cases h

/-- The constructor returns the message of its arguments. -/
theorem ISO20022CardAuthorization.new_eq_ok {messageId transactionId : String} {amountMinor : ℤ}
    {currency merchantId terminalId pan : String} {message : ISO20022CardAuthorization} :
    ISO20022CardAuthorization.new messageId transactionId amountMinor currency merchantId
        terminalId pan = .ok message ↔
      message.messageId = messageId ∧ message.transactionId = transactionId ∧
        message.amountMinor = amountMinor ∧ message.currency = currency ∧
        message.merchantId = merchantId ∧ message.terminalId = terminalId ∧ message.pan = pan := by
  unfold ISO20022CardAuthorization.new
  constructor
  · intro h
    repeat' split at h
    case isTrue.isTrue.isTrue.isTrue.isTrue.isTrue.isTrue.isTrue =>
      cases h
      exact ⟨rfl, rfl, rfl, rfl, rfl, rfl, rfl⟩
    all_goals simp at h
  · rintro ⟨rfl, rfl, rfl, rfl, rfl, rfl, rfl⟩
    rw [dif_pos message.messageId_notBlank, dif_pos message.transactionId_notBlank,
      dif_pos message.merchantId_notBlank, dif_pos message.terminalId_notBlank,
      dif_pos message.amountMinor_pos, dif_pos message.currency_valid,
      dif_pos message.currency_upper, dif_pos message.pan_valid]
    rfl

/-- A projection has the values of the request under the message id, and the request's losses. -/
theorem authorizationToIso20022_eq_ok {request : AuthorizationRequest} {messageId : String}
    {projection : ISO20022Projection} :
    authorizationToIso20022 request messageId = .ok projection ↔
      (projection.authorization.messageId = messageId ∧
        projection.authorization.transactionId = request.correlation.rrn ∧
        projection.authorization.amountMinor = request.amountMinor ∧
        projection.authorization.currency = request.currency ∧
        projection.authorization.merchantId = request.merchantId ∧
        projection.authorization.terminalId = request.terminalId ∧
        projection.authorization.pan = request.instrument.pan) ∧
      projection.losses = lossesOf request := by
  obtain ⟨authorization, losses⟩ := projection
  unfold authorizationToIso20022
  simp only [bind_eq_ok, ISO20022CardAuthorization.new_eq_ok, pure_eq_ok,
    ISO20022Projection.mk.injEq]
  constructor
  · rintro ⟨_, hvalues, rfl, rfl⟩
    exact ⟨hvalues, rfl⟩
  · rintro ⟨hvalues, rfl⟩
    exact ⟨authorization, hvalues, rfl, rfl⟩

/-- The canonical request of a message, with a correlation. -/
def ISO20022CardAuthorization.request (message : ISO20022CardAuthorization)
    (correlation : NetworkCorrelation) : AuthorizationRequest :=
  ⟨message.amountMinor, message.currency, message.merchantId, message.terminalId,
    ⟨message.pan, none, message.pan_valid, (Option.some_ne_none []).symm⟩, correlation,
    message.amountMinor_pos, message.currency_valid, message.currency_upper,
    ne_empty_of_isNotBlank message.merchantId_notBlank,
    ne_empty_of_isNotBlank message.terminalId_notBlank⟩

/-- What a message is valid for is enough for its canonical request. -/
theorem requestOfIso20022_eq (message : ISO20022CardAuthorization)
    (correlation : NetworkCorrelation) :
    requestOfIso20022 message correlation = .ok (message.request correlation) :=
  bind_eq_ok.mpr ⟨_, CardPaymentInstrument.new_eq_ok.mpr ⟨rfl, rfl⟩,
    AuthorizationRequest.new_eq_ok.mpr ⟨rfl, rfl, rfl, rfl, rfl, rfl⟩⟩

/-- A STAN and an RRN that the canonical model accepts. -/
def NetworkCorrelation.Valid (stan rrn : String) : Prop :=
  (stan.length = 6 ∧ isAsciiDecimal stan = true) ∧ rrn.length = 12 ∧ isAsciiPrintable rrn = true

/-- The constructor raises a value error when it does not return. -/
theorem NetworkCorrelation.new_cases (stan rrn : String) :
    (NetworkCorrelation.Valid stan rrn ∧ ∃ correlation,
        NetworkCorrelation.new stan rrn = .ok correlation) ∨
      (¬NetworkCorrelation.Valid stan rrn ∧ ∃ text,
        NetworkCorrelation.new stan rrn = .error (.valueError text)) := by
  unfold NetworkCorrelation.new NetworkCorrelation.Valid
  by_cases hstan : stan.length = 6 ∧ isAsciiDecimal stan = true
  · by_cases hrrn : rrn.length = 12 ∧ isAsciiPrintable rrn = true
    · rw [dif_pos hstan, dif_pos hrrn]
      exact .inl ⟨⟨hstan, hrrn⟩, _, rfl⟩
    · rw [dif_pos hstan, dif_neg hrrn]
      exact .inr ⟨fun hvalid => hrrn hvalid.2, _, rfl⟩
  · rw [dif_neg hstan]
    exact .inr ⟨fun hvalid => hstan hvalid.1, _, rfl⟩

/-- A message is mapped when its transaction id and the STAN are a correlation, and otherwise a
mapping error is raised. -/
theorem authorizationFromIso20022_cases (message : ISO20022CardAuthorization) (stan : String) :
    (NetworkCorrelation.Valid stan message.transactionId ∧ ∃ correlation,
        correlation.stan = stan ∧ correlation.rrn = message.transactionId ∧
        authorizationFromIso20022 message stan = .ok (message.request correlation)) ∨
      (¬NetworkCorrelation.Valid stan message.transactionId ∧ ∃ text,
        authorizationFromIso20022 message stan = .error (.iso20022MappingError text)) := by
  unfold authorizationFromIso20022
  rcases NetworkCorrelation.new_cases stan message.transactionId with
    ⟨hvalid, correlation, hnew⟩ | ⟨hinvalid, text, hnew⟩
  · obtain ⟨hstan, hrrn⟩ := NetworkCorrelation.new_eq_ok.mp hnew
    rw [hnew]
    dsimp only
    rw [requestOfIso20022_eq]
    exact .inl ⟨hvalid, correlation, hstan, hrrn, rfl⟩
  · rw [hnew]
    exact .inr ⟨hinvalid, _, rfl⟩

/-- A message is mapped to the request with its values and no ICC data. -/
theorem authorizationFromIso20022_eq_ok {message : ISO20022CardAuthorization} {stan : String}
    {request : AuthorizationRequest} :
    authorizationFromIso20022 message stan = .ok request ↔
      request.amountMinor = message.amountMinor ∧ request.currency = message.currency ∧
        request.merchantId = message.merchantId ∧ request.terminalId = message.terminalId ∧
        request.instrument.pan = message.pan ∧ request.instrument.iccData = none ∧
        request.correlation.stan = stan ∧ request.correlation.rrn = message.transactionId := by
  constructor
  · intro h
    rcases authorizationFromIso20022_cases message stan with
      ⟨-, correlation, hstan, hrrn, hreturns⟩ | ⟨-, text, hraises⟩
    · cases hreturns.symm.trans h
      exact ⟨rfl, rfl, rfl, rfl, rfl, rfl, hstan, hrrn⟩
    · cases hraises.symm.trans h
  · rintro ⟨hamount, hcurrency, hmerchant, hterminal, hpan, hicc, hstan, hrrn⟩
    obtain ⟨amountMinor, currency, merchantId, terminalId, instrument, correlation⟩ := request
    obtain ⟨pan, iccData⟩ := instrument
    subst hamount hcurrency hmerchant hterminal hpan hicc hstan
    have hnew : NetworkCorrelation.new correlation.stan message.transactionId = .ok correlation :=
      NetworkCorrelation.new_eq_ok.mpr ⟨rfl, hrrn⟩
    unfold authorizationFromIso20022
    rw [hnew]
    dsimp only
    rw [requestOfIso20022_eq]
    rfl

/-! ## What the projection loses -/

/-- A request with its ICC data removed. -/
def AuthorizationRequest.withoutIccData (request : AuthorizationRequest) : AuthorizationRequest :=
  { request with
    instrument := ⟨request.instrument.pan, none, request.instrument.pan_valid,
      (Option.some_ne_none []).symm⟩ }

/-- The codes of the losses that a projection reports. -/
def ISO20022Projection.lossCodes (projection : ISO20022Projection) : List MappingLossCode :=
  projection.losses.map MappingLoss.code

/-- The loss of the ICC data is reported exactly when there is ICC data. -/
theorem iccDataNotProjected_mem_iff {request : AuthorizationRequest} :
    .iccDataNotProjected ∈ (lossesOf request).map MappingLoss.code ↔
      request.instrument.iccData ≠ none := by
  unfold lossesOf
  split
  · next h => simp [stanLoss, iccLoss, h]
  · next h => simp [stanLoss, h]

/-- A request is its own projection exactly when it has no ICC data. -/
theorem withoutIccData_eq_iff {request : AuthorizationRequest} :
    request.withoutIccData = request ↔ request.instrument.iccData = none := by
  constructor
  · intro h
    rw [← h]
    rfl
  · intro h
    obtain ⟨amountMinor, currency, merchantId, terminalId, ⟨pan, iccData⟩, correlation⟩ := request
    subst h
    rfl

/-- A projection is read back, under the STAN of the request, as the request without its ICC
data. -/
theorem authorizationFromIso20022_of_projection {request : AuthorizationRequest}
    {messageId : String} {projection : ISO20022Projection}
    (h : authorizationToIso20022 request messageId = .ok projection) :
    authorizationFromIso20022 projection.authorization request.correlation.stan =
      .ok request.withoutIccData := by
  obtain ⟨⟨-, htransaction, hamount, hcurrency, hmerchant, hterminal, hpan⟩, -⟩ :=
    authorizationToIso20022_eq_ok.mp h
  exact authorizationFromIso20022_eq_ok.mpr ⟨hamount.symm, hcurrency.symm, hmerchant.symm,
    hterminal.symm, hpan.symm, rfl, rfl, htransaction.symm⟩

/-- The projection loses what it reports: it is read back without the ICC data, whose loss it
reports when there is some. A message is mapped unless its transaction id or the STAN do not fit,
which raises a mapping error, and the request that it is mapped to projects back to it. -/
theorem iso20022_losses :
    (∀ request messageId projection, authorizationToIso20022 request messageId = .ok projection →
      authorizationFromIso20022 projection.authorization request.correlation.stan =
        .ok request.withoutIccData ∧
      (authorizationFromIso20022 projection.authorization request.correlation.stan =
          .ok request ↔ .iccDataNotProjected ∉ projection.lossCodes)) ∧
    ∀ message stan,
      ((∃ request, authorizationFromIso20022 message stan = .ok request) ∨
        ∃ text, authorizationFromIso20022 message stan = .error (.iso20022MappingError text)) ∧
      ((∃ text, authorizationFromIso20022 message stan = .error (.iso20022MappingError text)) ↔
        ¬(message.transactionId.length = 12 ∧ isAsciiPrintable message.transactionId = true) ∨
          ¬(stan.length = 6 ∧ isAsciiDecimal stan = true)) ∧
      ∀ request, authorizationFromIso20022 message stan = .ok request → ∃ projection,
        authorizationToIso20022 request message.messageId = .ok projection ∧
        projection.authorization = message ∧ .iccDataNotProjected ∉ projection.lossCodes := by
  refine ⟨fun request messageId projection h => ?_, fun message stan => ⟨?_, ?_, ?_⟩⟩
  · have hback := authorizationFromIso20022_of_projection h
    refine ⟨hback, ?_⟩
    -- What is read back is the request exactly when it had no ICC data.
    rw [hback, Except.ok.injEq, withoutIccData_eq_iff, ISO20022Projection.lossCodes,
      (authorizationToIso20022_eq_ok.mp h).2, iccDataNotProjected_mem_iff, not_not]
  · rcases authorizationFromIso20022_cases message stan with
      ⟨-, correlation, -, -, hreturns⟩ | ⟨-, hraises⟩
    · exact .inl ⟨_, hreturns⟩
    · exact .inr hraises
  · rw [← not_and_or, and_comm, ← NetworkCorrelation.Valid]
    rcases authorizationFromIso20022_cases message stan with
      ⟨hvalid, correlation, -, -, hreturns⟩ | ⟨hinvalid, hraises⟩
    · simp [hreturns, hvalid]
    · simp [hraises, hinvalid]
  · intro request h
    obtain ⟨hamount, hcurrency, hmerchant, hterminal, hpan, hicc, -, hrrn⟩ :=
      authorizationFromIso20022_eq_ok.mp h
    refine ⟨⟨message, lossesOf request⟩, authorizationToIso20022_eq_ok.mpr ⟨⟨rfl, hrrn.symm,
      hamount.symm, hcurrency.symm, hmerchant.symm, hterminal.symm, hpan.symm⟩, rfl⟩, rfl, ?_⟩
    rw [ISO20022Projection.lossCodes, iccDataNotProjected_mem_iff, not_not]
    exact hicc

/-- The authorization is projected with its ICC data left out, and what is read back is projected
without a loss of ICC data. -/
theorem iso20022_losses_sample : ∃ projection,
    authorizationToIso20022 (sampleAuthorization (some [159, 2, 1, 41]) (by decide)) "msg-002" =
      .ok projection ∧
    authorizationFromIso20022 projection.authorization "123456" =
      .ok (sampleAuthorization none (by decide)) ∧
    ∃ projection', authorizationToIso20022 (sampleAuthorization none (by decide)) "msg-002" =
        .ok projection' ∧ .iccDataNotProjected ∉ projection'.lossCodes := by
  obtain ⟨projection, hprojection⟩ : ∃ projection,
      authorizationToIso20022 (sampleAuthorization (some [159, 2, 1, 41]) (by decide)) "msg-002" =
        .ok projection := ⟨_, rfl⟩
  have hback := (iso20022_losses.1 _ _ _ hprojection).1
  obtain ⟨projection', hagain, -, hlosses⟩ :=
    (iso20022_losses.2 projection.authorization "123456").2.2 _ hback
  have hid : projection.authorization.messageId = "msg-002" :=
    (authorizationToIso20022_eq_ok.mp hprojection).1.1
  rw [hid] at hagain
  exact ⟨projection, hprojection, hback, projection', hagain, hlosses⟩

/-- Across the two standards, the loss of ICC data is reported exactly for the messages with
DE55. -/
theorem iccDataNotProjected_iff_de55 {message : ISO8583Message} {request : AuthorizationRequest}
    {messageId : String} {projection : ISO20022Projection}
    (hfrom : authorizationFromIso8583 message = .ok request)
    (hto : authorizationToIso20022 request messageId = .ok projection) :
    .iccDataNotProjected ∈ projection.lossCodes ↔ (message.fields.lookup 55).isSome := by
  have hicc := (authorizationFromIso8583_eq_ok.mp hfrom).iccData
  rw [ISO20022Projection.lossCodes, (authorizationToIso20022_eq_ok.mp hto).2,
    iccDataNotProjected_mem_iff, hicc, Option.isSome_map, Option.isSome_iff_ne_none]

end AtlasPay
