import AtlasPay.Network.Mapping

/-!
# What the adapter emits

`authorization_to_iso8583` checks that the values of a request fit the elements of the default
profile, but only by counting characters: it looks neither at what the identifiers consist of nor
at the ICC data. `emitsEncodable_iff` says for which requests that is enough, so that whatever the
adapter emits can be encoded and whatever cannot be encoded is rejected as a mapping error.
-/

namespace AtlasPay

open Positional (asciiDigits toNat_of_asciiDigits_isGlyph)

/-! ## Values that satisfy the default profile -/

/-- A zero-padded number is digits. -/
theorem admits_zeroPaddedText (width n : ℕ) :
    ∀ c ∈ (zeroPaddedText width n).toList, FieldDataType.n.Admits c.toNat := by
  intro c hc
  unfold zeroPaddedText asciiText at hc
  rw [String.toList_ofList] at hc
  obtain ⟨b, hb, rfl⟩ := List.mem_map.mp hc
  have hdigit := toNat_of_asciiDigits_isGlyph (asciiDigits.isGlyph_of_mem_write (by norm_num) hb)
  rw [toNat_ofNat_of_lt (by omega)]
  exact hdigit

/-- A zero-padded number that fits its width has that width. -/
theorem length_zeroPaddedText {width n : ℕ} (h : n < 10 ^ width) :
    (zeroPaddedText width n).length = width := by
  unfold zeroPaddedText asciiText
  rw [String.length_ofList, List.length_map]
  exact asciiDigits.length_write (by norm_num) h

/-- A value fits the element of its number in the default profile. -/
def FitsElement (element : ℕ × FieldValue) : Prop :=
  ∃ spec, defaultCodec.fieldSpecs element.1 = some spec ∧ spec.Admits element.2

/-- The values of a request fit the elements that they are written to. -/
def AuthorizationRequest.Fits (request : AuthorizationRequest) : Prop :=
  ∃ numeric, alphaToNumericCurrency.lookup request.currency = some numeric ∧
    ∀ element ∈ canonicalElements request numeric, FitsElement element

/-- Whatever is emitted for the request can be encoded, and a request that does not fit is rejected
as a mapping error. -/
def EmitsEncodable (request : AuthorizationRequest) : Prop :=
  (∀ message, authorizationToIso8583 request = .ok message →
    ∃ payload, defaultCodec.encode message = .ok payload) ∧
  (¬request.Fits → ∃ text, authorizationToIso8583 request = .error (.iso8583MappingError text))

/-- The adapter's own checks reject the request. -/
def AuthorizationRequest.Rejected (request : AuthorizationRequest) : Prop :=
  alphaToNumericCurrency.lookup request.currency = none ∨ 999999999999 < request.amountMinor ∨
    request.terminalId.length ≠ 8 ∨ request.merchantId.length ≠ 15

/-- What the adapter does not look at fits: the identifiers are printable ASCII, and DE55 has room
for the ICC data. -/
def AuthorizationRequest.FitsUnchecked (request : AuthorizationRequest) : Prop :=
  isAsciiPrintable request.terminalId = true ∧ isAsciiPrintable request.merchantId = true ∧
    ∀ raw, request.instrument.iccData = some raw → raw.length ≤ 999

variable {request : AuthorizationRequest}

/-! ## Which requests fit -/

/-- A value fits an element exactly when it satisfies the specification of the element. -/
theorem fitsElement_iff {number : ℕ} {value : FieldValue} {spec : FieldSpec}
    (hspec : defaultCodec.fieldSpecs number = some spec) :
    FitsElement (number, value) ↔ spec.Admits value := by
  constructor
  · rintro ⟨spec', hspec', hadmits⟩
    cases hspec.symm.trans hspec'
    exact hadmits
  · exact fun hadmits => ⟨spec, hspec, hadmits⟩

/-- The numeric codes of the table are three digits. -/
theorem fitsElement_currency {currency numeric : String}
    (h : alphaToNumericCurrency.lookup currency = some numeric) :
    FitsElement (49, .text numeric) := by
  have hmem := (lookup_eq_some_iff_mem (by decide)).mp h
  have hcodes : ∀ pair ∈ alphaToNumericCurrency,
      isAsciiDecimal pair.2 = true ∧ pair.2.length = 3 := by decide
  obtain ⟨hdecimal, hlength⟩ := hcodes _ hmem
  rw [fitsElement_iff rfl]
  exact ⟨by decide, admits_of_isAsciiDecimal hdecimal, hlength⟩

/-- A request that the adapter's own checks do not reject fits exactly when what they do not look
at fits. -/
theorem fits_iff {numeric : String}
    (hnumeric : alphaToNumericCurrency.lookup request.currency = some numeric)
    (hamount : request.amountMinor ≤ 999999999999) (hterminal : request.terminalId.length = 8)
    (hmerchant : request.merchantId.length = 15) :
    (∀ element ∈ canonicalElements request numeric, FitsElement element) ↔
      request.FitsUnchecked := by
  have hpos := request.amountMinor_pos
  -- The canonical model and the format of the amount see to the other elements.
  have hpan : FitsElement (2, .text request.instrument.pan) := by
    rw [fitsElement_iff rfl]
    obtain ⟨hmin, hmax, hdigits⟩ := request.instrument.pan_valid
    exact ⟨by decide, admits_of_isAsciiDecimal hdigits, le_trans (by norm_num) hmin, hmax⟩
  have hcode : FitsElement (3, .text "000000") := by
    rw [fitsElement_iff rfl]
    exact ⟨by decide, admits_of_isAsciiDecimal (by decide), rfl⟩
  have hfour : FitsElement (4, .text (zeroPaddedText 12 request.amountMinor.toNat)) := by
    rw [fitsElement_iff rfl]
    exact ⟨by decide, admits_zeroPaddedText _ _, length_zeroPaddedText (by norm_num; omega)⟩
  have hstan : FitsElement (11, .text request.correlation.stan) := by
    rw [fitsElement_iff rfl]
    obtain ⟨hlength, hdigits⟩ := request.correlation.stan_valid
    exact ⟨by decide, admits_of_isAsciiDecimal hdigits, hlength⟩
  have hrrn : FitsElement (37, .text request.correlation.rrn) := by
    rw [fitsElement_iff rfl]
    obtain ⟨hlength, hprintable⟩ := request.correlation.rrn_valid
    exact ⟨by decide, isAsciiPrintable_iff.mp hprintable, hlength⟩
  -- Of the identifiers only the lengths were looked at, and of the ICC data nothing.
  have hfortyOne : FitsElement (41, .text request.terminalId) ↔
      isAsciiPrintable request.terminalId = true := by
    rw [fitsElement_iff rfl, isAsciiPrintable_iff]
    exact ⟨fun h => h.2.1, fun h => ⟨by decide, h, hterminal⟩⟩
  have hfortyTwo : FitsElement (42, .text request.merchantId) ↔
      isAsciiPrintable request.merchantId = true := by
    rw [fitsElement_iff rfl, isAsciiPrintable_iff]
    exact ⟨fun h => h.2.1, fun h => ⟨by decide, h, hmerchant⟩⟩
  have hicc : ∀ raw, request.instrument.iccData = some raw →
      (FitsElement (55, .bytes raw) ↔ raw.length ≤ 999) := by
    intro raw hraw
    have hne : raw ≠ [] := fun hnil => request.instrument.iccData_ne (hnil ▸ hraw)
    have hpositive := List.length_pos_iff.mpr hne
    rw [fitsElement_iff rfl]
    exact ⟨fun h => h.2.2, fun h => ⟨by decide, hpositive, h⟩⟩
  unfold canonicalElements AuthorizationRequest.FitsUnchecked
  cases hdata : request.instrument.iccData with
  | none =>
    simp only [List.append_nil, List.forall_mem_cons, hpan, hcode, hfour, hstan, hrrn, hfortyOne,
      hfortyTwo, fitsElement_currency hnumeric, true_and, and_true, reduceCtorEq, false_imp_iff,
      implies_true, List.not_mem_nil]
  | some raw =>
    simp only [List.cons_append, List.nil_append, List.forall_mem_cons, hpan, hcode, hfour, hstan,
      hrrn, hfortyOne, hfortyTwo, fitsElement_currency hnumeric, hicc raw hdata, true_and, and_true,
      Option.some.injEq, forall_eq', List.not_mem_nil, false_imp_iff, implies_true]

/-- The message of a request can be encoded exactly when the elements of the message fit. -/
theorem encode_canonicalElements_iff {numeric : String} :
    (∃ payload, defaultCodec.encode ⟨"0200", fieldsOf (canonicalElements request numeric)⟩ =
        .ok payload) ↔
      ∀ element ∈ canonicalElements request numeric, FitsElement element := by
  have hnodup : ((canonicalElements request numeric).map Prod.fst).Nodup := by
    unfold canonicalElements
    cases request.instrument.iccData with
    | none => simp
    | some raw => simp
  have hmti : ∃ mtiRaw, encodeMti "0200" = .ok mtiRaw := ⟨_, rfl⟩
  rw [ISO8583Codec.encode_isOk_iff]
  simp only [hmti, true_and, lookup_fieldsOf, lookup_eq_some_iff_mem hnodup]
  exact ⟨fun h element => h element.1 element.2, fun h number value => h (number, value)⟩

/-! ## What the adapter does -/

/-- The adapter rejects a request as a mapping error, or returns its message. -/
theorem authorizationToIso8583_cases (request : AuthorizationRequest) :
    request.Rejected ∧
        (∃ text, authorizationToIso8583 request = .error (.iso8583MappingError text)) ∨
      ∃ numeric, alphaToNumericCurrency.lookup request.currency = some numeric ∧
        request.amountMinor ≤ 999999999999 ∧ request.terminalId.length = 8 ∧
        request.merchantId.length = 15 ∧ authorizationToIso8583 request =
          .ok ⟨"0200", fieldsOf (canonicalElements request numeric)⟩ := by
  unfold authorizationToIso8583 numericCurrency AuthorizationRequest.Rejected
  cases hcurrency : alphaToNumericCurrency.lookup request.currency with
  | none => exact Or.inl ⟨Or.inl rfl, _, rfl⟩
  | some numeric =>
    -- The checks in the order of the source; the first one that fails decides what is raised.
    by_cases hamount : 999999999999 < request.amountMinor
    · refine Or.inl ⟨Or.inr (Or.inl hamount), "amount_minor exceeds the 12-digit DE4 profile", ?_⟩
      exact if_pos hamount
    by_cases hterminal : request.terminalId.length = 8
    · by_cases hmerchant : request.merchantId.length = 15
      · refine Or.inr ⟨numeric, rfl, not_lt.mp hamount, hterminal, hmerchant, ?_⟩
        exact (if_neg hamount).trans ((if_neg (not_not.mpr hterminal)).trans
          (if_neg (not_not.mpr hmerchant)))
      · refine Or.inl ⟨Or.inr (Or.inr (Or.inr hmerchant)),
          "merchant_id must be exactly 15 characters for DE42", ?_⟩
        exact (if_neg hamount).trans ((if_neg (not_not.mpr hterminal)).trans (if_pos hmerchant))
    · refine Or.inl ⟨Or.inr (Or.inr (Or.inl hterminal)),
        "terminal_id must be exactly 8 characters for DE41", ?_⟩
      exact (if_neg hamount).trans (if_pos hterminal)

/-- Whatever the adapter emits for a request can be encoded, and what does not fit is rejected by
the adapter, exactly when its own checks reject the request or what they do not look at fits. -/
theorem emitsEncodable_iff (request : AuthorizationRequest) :
    EmitsEncodable request ↔ request.Rejected ∨ request.FitsUnchecked := by
  rcases authorizationToIso8583_cases request with
    ⟨hrejected, text, hraised⟩ | ⟨numeric, hnumeric, hamount, hterminal, hmerchant, hmessage⟩
  · refine iff_of_true ⟨fun message hmessage => ?_, fun _ => ⟨text, hraised⟩⟩ (Or.inl hrejected)
    cases hraised.symm.trans hmessage
  · have hnot : ¬request.Rejected := by
      rintro (h | h | h | h)
      · cases hnumeric.symm.trans h
      · omega
      · exact h hterminal
      · exact h hmerchant
    -- The message can be encoded exactly when its elements fit, and these are the unchecked ones.
    have hfits := fits_iff hnumeric hamount hterminal hmerchant
    have hencode : (∃ payload, defaultCodec.encode
        ⟨"0200", fieldsOf (canonicalElements request numeric)⟩ = .ok payload) ↔
        request.FitsUnchecked := encode_canonicalElements_iff.trans hfits
    constructor
    · rintro ⟨hemits, -⟩
      exact Or.inr (hencode.mp (hemits _ hmessage))
    · rintro (hrejected | hunchecked)
      · exact absurd hrejected hnot
      refine ⟨fun message hok => ?_, fun hmisfit => ?_⟩
      · cases hmessage.symm.trans hok
        exact hencode.mpr hunchecked
      · exact absurd ⟨numeric, hnumeric, hfits.mpr hunchecked⟩ hmisfit

/-- ICC data of a thousand bytes. -/
def oversizedData : Bytes := List.replicate 1000 0

/-- It has a thousand bytes. -/
theorem length_oversizedData : oversizedData.length = 1000 := List.length_replicate

/-- The ICC data is too long for DE55. -/
def oversizedAuthorization : AuthorizationRequest :=
  sampleAuthorization (some oversizedData) fun hnil => by
    have hlength := length_oversizedData
    rw [Option.some.inj hnil] at hlength
    cases hlength

/-- The terminal's id is not ASCII. -/
def accentedAuthorization : AuthorizationRequest :=
  { sampleAuthorization (some [159, 2]) (by decide) with
    terminalId := "TERM000é"
    terminalId_ne := by decide }

/-- ICC data of a thousand bytes and an accented terminal id are emitted, and cannot be encoded. -/
theorem not_emitsEncodable_oversized_accented :
    ¬EmitsEncodable oversizedAuthorization ∧ ¬EmitsEncodable accentedAuthorization := by
  constructor
  · rintro ⟨hemits, -⟩
    have hfits := encode_canonicalElements_iff.mp (hemits _ rfl)
    have hicc := hfits (55, .bytes oversizedData)
      (List.mem_append_right _ (List.mem_singleton.mpr rfl))
    rw [fitsElement_iff rfl] at hicc
    have hlength : oversizedData.length ≤ 999 := hicc.2.2
    rw [length_oversizedData] at hlength
    norm_num at hlength
  · rintro ⟨hemits, -⟩
    obtain ⟨payload, hpayload⟩ := hemits _ rfl
    have hraised : defaultCodec.encode
        ⟨"0200", fieldsOf (canonicalElements accentedAuthorization "978")⟩ =
          .error (.iso8583CodecError "DE41 must contain ASCII characters") := rfl
    cases hraised.symm.trans hpayload

end AtlasPay
