import AtlasPay.Network.Emission
import AtlasPay.Network.Iso20022

/-!
# What the mappings raise

Each mapping has an error of its own for what it cannot map. The canonical model and the ISO 20022
message check their arguments too, and raise plain value errors. For `authorization_from_iso8583`
the two differ on a card number that is shorter than the canonical model allows
(`mapsOrRefuses_iff`), and for `authorization_to_iso20022` on blank identifiers
(`projectsOrRefuses_iff`).
-/

namespace AtlasPay

/-! ## From ISO 8583 -/

/-- The error is that of a mapping from ISO 8583. -/
def PyError.IsMappingError (e : PyError) : Prop := ∃ text, e = .iso8583MappingError text

/-- The message is mapped, or refused as a mapping error. -/
def MapsOrRefuses (message : ISO8583Message) : Prop :=
  (∃ request, authorizationFromIso8583 message = .ok request) ∨
    ∃ text, authorizationFromIso8583 message = .error (.iso8583MappingError text)

/-- The message passes the checks that are made before the card is built from this number. -/
structure ReachesCard (message : ISO8583Message) (pan : String) : Prop where
  mti : message.mti = "0200"
  processingCode : message.fields.lookup 3 = some (.text "000000")
  amount : ∃ amountText amountMinor, message.fields.lookup 4 = some (.text amountText) ∧
    intOfText amountText = .ok amountMinor ∧ 0 < amountMinor
  currency : ∃ numeric currency, message.fields.lookup 49 = some (.text numeric) ∧
    numericToAlphaCurrency.lookup numeric = some currency
  merchantId : ∃ merchantId, message.fields.lookup 42 = some (.text merchantId)
  terminalId : ∃ terminalId, message.fields.lookup 41 = some (.text terminalId)
  pan : message.fields.lookup 2 = some (.text pan)

/-- `_required_text` raises mapping errors. -/
theorem isMappingError_of_requiredText {fields : Fields} {number : ℕ} {e : PyError}
    (h : requiredText fields number = .error e) : e.IsMappingError := by
  unfold requiredText at h
  split at h <;> cases h <;> exact ⟨_, rfl⟩

/-- A currency that is not in the table raises a mapping error. -/
theorem isMappingError_of_alphaCurrency {numeric : String} {e : PyError}
    (h : alphaCurrency numeric = .error e) : e.IsMappingError := by
  unfold alphaCurrency at h
  split at h <;> cases h
  exact ⟨_, rfl⟩

/-- ICC data that is text raises a mapping error. -/
theorem isMappingError_of_iccValue {fields : Fields} {e : PyError}
    (h : iccValue fields = .error e) : e.IsMappingError := by
  unfold iccValue at h
  split at h <;> cases h
  exact ⟨_, rfl⟩

/-- A card is refused for its number or for empty ICC data. -/
theorem CardPaymentInstrument.new_eq_error {pan : String} {iccData : Option Bytes} {e : PyError}
    (h : CardPaymentInstrument.new pan iccData = .error e) :
    ¬(12 ≤ pan.length ∧ pan.length ≤ 19 ∧ isAsciiDecimal pan = true) ∨ iccData = some [] := by
  unfold CardPaymentInstrument.new at h
  split at h
  · split at h
    · cases h
    · next hicc => exact Or.inr (not_not.mp hicc)
  · next hpan => exact Or.inl hpan

/-- The currencies of the table are canonical ones. -/
theorem valid_of_lookup_currency {numeric currency : String}
    (h : numericToAlphaCurrency.lookup numeric = some currency) :
    (currency.length = 3 ∧ isAsciiAlpha currency = true) ∧ upper currency = currency := by
  have hmem := (lookup_eq_some_iff_mem (by decide)).mp h
  have hall : ∀ pair ∈ numericToAlphaCurrency,
      (pair.2.length = 3 ∧ isAsciiAlpha pair.2 = true) ∧ upper pair.2 = pair.2 := by decide
  exact hall _ hmem

section Decoded

variable {payload : Bytes} {message : ISO8583Message}

/-- The ICC data of a decoded message is there to be read, and not empty. -/
theorem iccValue_of_decode (h : defaultCodec.decode payload = .ok message) :
    ∃ iccData, iccValue message.fields = .ok iccData ∧ iccData ≠ some [] := by
  cases hlookup : message.fields.lookup 55 with
  | none => exact ⟨none, iccValue_eq_ok.mpr hlookup, nofun⟩
  | some value =>
    have hadmits := admits_of_decode h hlookup rfl
    cases value with
    | text s => exact absurd rfl hadmits.1
    | bytes raw =>
      refine ⟨some raw, iccValue_eq_ok.mpr hlookup, fun hnil => ?_⟩
      have hlength : 1 ≤ raw.length := hadmits.2.1
      rw [Option.some.inj hnil] at hlength
      exact absurd hlength (by norm_num)

/-- The number of a decoded card is refused when it is too short. -/
theorem pan_of_decode (h : defaultCodec.decode payload = .ok message) {pan : String}
    (hpan : message.fields.lookup 2 = some (.text pan)) :
    (12 ≤ pan.length ∧ pan.length ≤ 19 ∧ isAsciiDecimal pan = true) ↔ 12 ≤ pan.length := by
  obtain ⟨-, hdigits, hone, hnineteen⟩ := admits_of_decode h hpan rfl
  refine ⟨fun hvalid => hvalid.1, fun htwelve => ⟨htwelve, hnineteen, ?_⟩⟩
  exact isAsciiDecimal_of_admits (by omega) hdigits

/-- What is not a mapping error is raised for a card number that is too short. -/
theorem reachesCard_of_error (h : defaultCodec.decode payload = .ok message) {e : PyError}
    (hraised : authorizationFromIso8583 message = .error e) :
    e.IsMappingError ∨ ∃ pan, ReachesCard message pan ∧ pan.length < 12 := by
  unfold authorizationFromIso8583 at hraised
  simp only [ite_throw_eq_error, bind_eq_error, requiredText_eq_ok, alphaCurrency_eq_ok, not_not,
    not_le] at hraised
  rcases hraised with ⟨-, rfl⟩ | ⟨hmti, hraised⟩
  · exact Or.inl ⟨_, rfl⟩
  rcases hraised with herror | ⟨_, hcode, ⟨-, rfl⟩ | ⟨rfl, hraised⟩⟩
  · exact Or.inl (isMappingError_of_requiredText herror)
  · exact Or.inl ⟨_, rfl⟩
  rcases hraised with herror | ⟨amountText, hamountText, hraised⟩
  · exact Or.inl (isMappingError_of_requiredText herror)
  -- The twelve digits of DE4 are an integer.
  obtain ⟨digits, -, -, -, hamount⟩ := amountDigits_of_decode h hamountText
  rw [hamount] at hraised
  rcases hraised with herror | ⟨_, hok, ⟨-, rfl⟩ | ⟨hpos, hraised⟩⟩
  · cases herror
  · exact Or.inl ⟨_, rfl⟩
  cases hok
  rcases hraised with herror | ⟨numeric, hnumeric, herror | ⟨currency, hcurrency, hraised⟩⟩
  · exact Or.inl (isMappingError_of_requiredText herror)
  · exact Or.inl (isMappingError_of_alphaCurrency herror)
  rcases hraised with herror | ⟨iccData, hicc, hraised⟩
  · exact Or.inl (isMappingError_of_iccValue herror)
  rcases hraised with herror | ⟨merchantId, hmerchant, herror | ⟨terminalId, hterminal, hraised⟩⟩
  · exact Or.inl (isMappingError_of_requiredText herror)
  · exact Or.inl (isMappingError_of_requiredText herror)
  rcases hraised with herror | ⟨pan, hpan, hraised⟩
  · exact Or.inl (isMappingError_of_requiredText herror)
  rcases hraised with herror | ⟨instrument, hinstrument, hraised⟩
  · -- The card is refused: its number is too short, since DE55 is never empty.
    obtain ⟨_, hicc', hne⟩ := iccValue_of_decode h
    cases hicc.symm.trans hicc'
    have hinvalid := (CardPaymentInstrument.new_eq_error herror).resolve_right hne
    rw [pan_of_decode h hpan, not_le] at hinvalid
    exact Or.inr ⟨pan, ⟨hmti, hcode, ⟨_, _, hamountText, hamount, hpos⟩,
      ⟨_, _, hnumeric, hcurrency⟩, ⟨_, hmerchant⟩, ⟨_, hterminal⟩, hpan⟩, hinvalid⟩
  rcases hraised with herror | ⟨stan, hstan, herror | ⟨rrn, hrrn, hraised⟩⟩
  · exact Or.inl (isMappingError_of_requiredText herror)
  · exact Or.inl (isMappingError_of_requiredText herror)
  -- What is left of the canonical model's rules holds of every decoded message.
  obtain ⟨correlation, hcorrelation⟩ := correlation_of_decode h hstan hrrn
  rw [hcorrelation] at hraised
  rcases hraised with herror | ⟨_, hok, herror⟩
  · cases herror
  cases hok
  obtain ⟨-, -, hmerchantLen⟩ := admits_of_decode h hmerchant rfl
  obtain ⟨-, -, hterminalLen⟩ := admits_of_decode h hterminal rfl
  change merchantId.length = 15 at hmerchantLen
  change terminalId.length = 8 at hterminalLen
  obtain ⟨hvalid, hupper⟩ := valid_of_lookup_currency hcurrency
  have hnew : AuthorizationRequest.new (intOfDigits digits) currency merchantId terminalId
      instrument correlation = .ok ⟨intOfDigits digits, currency, merchantId, terminalId,
        instrument, correlation, hpos, hvalid, hupper, ne_empty_of_length_pos (by omega),
        ne_empty_of_length_pos (by omega)⟩ :=
    AuthorizationRequest.new_eq_ok.mpr ⟨rfl, rfl, rfl, rfl, rfl, rfl⟩
  cases hnew.symm.trans herror

/-- A card number that is too short raises a value error, once the checks before it are passed. -/
theorem authorizationFromIso8583_of_reachesCard (h : defaultCodec.decode payload = .ok message)
    {pan : String} (hreaches : ReachesCard message pan) (hshort : pan.length < 12) :
    authorizationFromIso8583 message =
      .error (.valueError "PAN must contain 12 to 19 ASCII digits") := by
  obtain ⟨amountText, amountMinor, hamountText, hamount, hpos⟩ := hreaches.amount
  obtain ⟨numeric, currency, hnumeric, hcurrency⟩ := hreaches.currency
  obtain ⟨merchantId, hmerchant⟩ := hreaches.merchantId
  obtain ⟨terminalId, hterminal⟩ := hreaches.terminalId
  obtain ⟨iccData, hicc, -⟩ := iccValue_of_decode h
  -- The length of the number is the first thing that the card looks at.
  have hcard : CardPaymentInstrument.new pan iccData =
      .error (.valueError "PAN must contain 12 to 19 ASCII digits") := by
    unfold CardPaymentInstrument.new
    rw [dif_neg fun hvalid => by omega]
    rfl
  unfold authorizationFromIso8583
  simp only [ite_throw_eq_error, bind_eq_error, requiredText_eq_ok, alphaCurrency_eq_ok, not_not,
    not_le]
  exact Or.inr ⟨hreaches.mti, Or.inr ⟨_, hreaches.processingCode, Or.inr ⟨rfl,
    Or.inr ⟨amountText, hamountText, Or.inr ⟨amountMinor, hamount, Or.inr ⟨hpos,
    Or.inr ⟨numeric, hnumeric, Or.inr ⟨currency, hcurrency, Or.inr ⟨iccData, hicc,
    Or.inr ⟨merchantId, hmerchant, Or.inr ⟨terminalId, hterminal, Or.inr ⟨pan, hreaches.pan,
    Or.inl hcard⟩⟩⟩⟩⟩⟩⟩⟩⟩⟩⟩⟩

/-- A decoded message is mapped or refused exactly when its card number, if it comes to that, has
the twelve digits that the canonical model asks for. -/
theorem mapsOrRefuses_iff (h : defaultCodec.decode payload = .ok message) :
    MapsOrRefuses message ↔ ∀ pan, ReachesCard message pan → 12 ≤ pan.length := by
  constructor
  · intro hmaps pan hreaches
    by_contra hshort
    have hraised := authorizationFromIso8583_of_reachesCard h hreaches (not_le.mp hshort)
    rcases hmaps with ⟨request, hok⟩ | ⟨text, herror⟩
    · cases hraised.symm.trans hok
    · cases hraised.symm.trans herror
  · intro hlong
    cases hfrom : authorizationFromIso8583 message with
    | ok request => exact Or.inl ⟨request, hfrom⟩
    | error e =>
      rcases reachesCard_of_error h hfrom with ⟨text, rfl⟩ | ⟨pan, hreaches, hshort⟩
      · exact Or.inr ⟨text, hfrom⟩
      · exact absurd (hlong pan hreaches) (not_le.mpr hshort)

end Decoded

/-- A purchase authorization under a card number. -/
def cardElements (pan : String) : List (ℕ × FieldValue) :=
  [(2, .text pan), (3, .text "000000"), (4, .text "000000012900"), (11, .text "123456"),
    (37, .text "ABC123456789"), (41, .text "TERM0002"), (42, .text "MERCHANT0000002"),
    (49, .text "978")]

/-- It passes the checks before that of the card. -/
theorem reachesCard_cardElements {pan : String} {message : ISO8583Message}
    (h : message.Same ⟨"0200", fieldsOf (cardElements pan)⟩) : ReachesCard message pan := by
  obtain ⟨hmti, hlookup⟩ := h
  constructor
  case mti => exact hmti
  all_goals simp only [hlookup, lookup_fieldsOf]
  case processingCode => rfl
  case amount => exact ⟨"000000012900", 12900, rfl, rfl, by norm_num⟩
  case currency => exact ⟨"978", "EUR", rfl, rfl⟩
  case merchantId => exact ⟨_, rfl⟩
  case terminalId => exact ⟨_, rfl⟩
  case pan => rfl

/-- A card number of sixteen digits is decoded and mapped. -/
theorem mapsOrRefuses_sample : ∃ payload decoded,
    defaultCodec.encode ⟨"0200", fieldsOf (cardElements "4761739001010010")⟩ = .ok payload ∧
    defaultCodec.decode payload = .ok decoded ∧ MapsOrRefuses decoded := by
  obtain ⟨payload, hencode⟩ : ∃ payload, defaultCodec.encode
      ⟨"0200", fieldsOf (cardElements "4761739001010010")⟩ = .ok payload := ⟨_, rfl⟩
  obtain ⟨elements, hdecode, hsorted, hperm⟩ := ISO8583Codec.decode_of_encode hencode
  refine ⟨payload, _, hencode, hdecode, (mapsOrRefuses_iff hdecode).mpr ?_⟩
  intro pan hreaches
  have hcard := reachesCard_cardElements (ISO8583Codec.same_insertAll hsorted hperm)
  have hpan := hcard.pan.symm.trans hreaches.pan
  rw [Option.some.injEq, FieldValue.text.injEq] at hpan
  rw [← hpan]
  decide

/-- A card number of five digits is decoded, and neither mapped nor refused as a mapping error. -/
theorem not_mapsOrRefuses_short :
    ¬∀ payload message, defaultCodec.decode payload = .ok message → MapsOrRefuses message := by
  intro h
  obtain ⟨payload, hencode⟩ : ∃ payload,
      defaultCodec.encode ⟨"0200", fieldsOf (cardElements "47617")⟩ = .ok payload := ⟨_, rfl⟩
  obtain ⟨elements, hdecode, hsorted, hperm⟩ := ISO8583Codec.decode_of_encode hencode
  have hcard := reachesCard_cardElements (ISO8583Codec.same_insertAll hsorted hperm)
  have hraised := authorizationFromIso8583_of_reachesCard hdecode hcard (by decide)
  rcases h payload _ hdecode with ⟨request, hok⟩ | ⟨text, herror⟩
  · cases hraised.symm.trans hok
  · cases hraised.symm.trans herror

/-! ## To ISO 20022 -/

/-- The request is projected, or refused as a mapping error. -/
def ProjectsOrRefuses (request : AuthorizationRequest) (messageId : String) : Prop :=
  (∃ projection, authorizationToIso20022 request messageId = .ok projection) ∨
    ∃ text, authorizationToIso20022 request messageId = .error (.iso20022MappingError text)

/-- The RRN, the merchant and the terminal of the request are not blank. -/
def AuthorizationRequest.NotBlank (request : AuthorizationRequest) : Prop :=
  isNotBlank request.correlation.rrn = true ∧ isNotBlank request.merchantId = true ∧
    isNotBlank request.terminalId = true

/-- The canonical model sees to all but the blanks, for which the message raises a value error. -/
theorem authorizationToIso20022_cases (request : AuthorizationRequest) {messageId : String}
    (hmessage : isNotBlank messageId = true) :
    (request.NotBlank ∧ ∃ projection, authorizationToIso20022 request messageId = .ok projection) ∨
      (¬request.NotBlank ∧
        ∃ text, authorizationToIso20022 request messageId = .error (.valueError text)) := by
  unfold authorizationToIso20022 ISO20022CardAuthorization.new AuthorizationRequest.NotBlank
  -- The checks of the message in its order; those after the terminal are the canonical model's.
  rw [dif_pos hmessage]
  by_cases hrrn : isNotBlank request.correlation.rrn = true
  · by_cases hmerchant : isNotBlank request.merchantId = true
    · by_cases hterminal : isNotBlank request.terminalId = true
      · rw [dif_pos hrrn, dif_pos hmerchant, dif_pos hterminal, dif_pos request.amountMinor_pos,
          dif_pos request.currency_valid, dif_pos request.currency_upper,
          dif_pos request.instrument.pan_valid]
        exact .inl ⟨⟨hrrn, hmerchant, hterminal⟩, _, rfl⟩
      · rw [dif_pos hrrn, dif_pos hmerchant, dif_neg hterminal]
        exact .inr ⟨fun h => hterminal h.2.2, _, rfl⟩
    · rw [dif_pos hrrn, dif_neg hmerchant]
      exact .inr ⟨fun h => hmerchant h.2.1, _, rfl⟩
  · rw [dif_neg hrrn]
    exact .inr ⟨fun h => hrrn h.1, _, rfl⟩

/-- A request is projected or refused, under a message id that is not blank, exactly when its RRN,
its merchant and its terminal are not blank. -/
theorem projectsOrRefuses_iff (request : AuthorizationRequest) {messageId : String}
    (hmessage : isNotBlank messageId = true) :
    ProjectsOrRefuses request messageId ↔ isNotBlank request.correlation.rrn = true ∧
      isNotBlank request.merchantId = true ∧ isNotBlank request.terminalId = true := by
  rcases authorizationToIso20022_cases request hmessage with
    ⟨hnotBlank, hprojected⟩ | ⟨hblank, text, hraised⟩
  · exact iff_of_true (Or.inl hprojected) hnotBlank
  · refine iff_of_false ?_ hblank
    rintro (⟨projection, hok⟩ | ⟨text', herror⟩)
    · cases hraised.symm.trans hok
    · cases hraised.symm.trans herror

/-- The sample authorization is projected. -/
theorem projectsOrRefuses_sample :
    ProjectsOrRefuses (sampleAuthorization none (by decide)) "msg-002" :=
  (projectsOrRefuses_iff _ (by decide)).mpr ⟨by decide, by decide, by decide⟩

/-- An authorization whose RRN is twelve spaces. -/
def blankAuthorization : AuthorizationRequest :=
  { sampleAuthorization none nofun with
    correlation := { sampleCorrelation with
      rrn := "            "
      rrn_valid := by decide } }

/-- A blank RRN is canonical, and neither projected nor refused as a mapping error. -/
theorem not_projectsOrRefuses_blank : ¬∀ request messageId, isNotBlank messageId = true →
    ProjectsOrRefuses request messageId := by
  intro h
  have hraised : authorizationToIso20022 blankAuthorization "msg-002" =
      .error (.valueError "transaction_id must not be empty") := rfl
  rcases h blankAuthorization "msg-002" (by decide) with ⟨projection, hok⟩ | ⟨text, herror⟩
  · cases hraised.symm.trans hok
  · cases hraised.symm.trans herror

end AtlasPay
