import AtlasPay.Codec.RoundTrip
import AtlasPay.Network.Adapter
import AtlasPay.Python.Integers

/-!
# The canonical model and ISO 8583 messages

The mappings of `app/iso8583_adapter.py` between purchase authorizations of the canonical model and
ISO 8583 messages. `Represents` says what both of them mean: which request a message stands for. On
messages of the default codec the two mappings are inverse to each other, up to the data elements
that the canonical model does not have (`iso8583_inverse`).
-/

namespace AtlasPay

open Positional (asciiDigits asciiDigits_isGlyph toNat_of_asciiDigits_isGlyph)

/-! ## The mappings -/

/-- `NUMERIC_TO_ALPHA_CURRENCY`. -/
def numericToAlphaCurrency : List (String × String) :=
  [("504", "MAD"), ("840", "USD"), ("978", "EUR")]

/-- `ALPHA_TO_NUMERIC_CURRENCY`. -/
def alphaToNumericCurrency : List (String × String) := numericToAlphaCurrency.map Prod.swap

/-- `NUMERIC_TO_ALPHA_CURRENCY[currency_numeric]`. -/
def alphaCurrency (numeric : String) : Py String :=
  match numericToAlphaCurrency.lookup numeric with
  | none => throw (.iso8583MappingError s!"Unsupported DE49 numeric currency code {numeric}")
  | some currency => pure currency

/-- `ALPHA_TO_NUMERIC_CURRENCY[request.currency]`. -/
def numericCurrency (currency : String) : Py String :=
  match alphaToNumericCurrency.lookup currency with
  | none => throw (.iso8583MappingError s!"Unsupported canonical currency {currency}")
  | some numeric => pure numeric

/-- `message.fields.get(55)`, which must not be text. -/
def iccValue (fields : Fields) : Py (Option Bytes) :=
  match fields.lookup 55 with
  | none => pure none
  | some (.bytes raw) => pure (some raw)
  | some (.text _) => throw (.iso8583MappingError "DE55 must be binary ICC data")

/-- `authorization_from_iso8583`. -/
def authorizationFromIso8583 (message : ISO8583Message) : Py AuthorizationRequest :=
  if message.mti ≠ "0200" then
    throw (.iso8583MappingError s!"Expected authorization MTI 0200; received {message.mti}")
  else do
    let processingCode ← requiredText message.fields 3
    if processingCode ≠ "000000" then
      throw (.iso8583MappingError (s!"Unsupported DE3 processing code {processingCode}; " ++
        s!"only purchase 000000 is mapped"))
    else do
      let amountText ← requiredText message.fields 4
      let amountMinor ← intOfText amountText
      if amountMinor ≤ 0 then
        throw (.iso8583MappingError "DE4 transaction amount must be greater than zero")
      else do
        let currencyNumeric ← requiredText message.fields 49
        let currency ← alphaCurrency currencyNumeric
        let iccData ← iccValue message.fields
        let merchantId ← requiredText message.fields 42
        let terminalId ← requiredText message.fields 41
        let pan ← requiredText message.fields 2
        let instrument ← CardPaymentInstrument.new pan iccData
        let stan ← requiredText message.fields 11
        let rrn ← requiredText message.fields 37
        let correlation ← NetworkCorrelation.new stan rrn
        AuthorizationRequest.new amountMinor currency merchantId terminalId instrument correlation

/-- The mapping with some data elements, in their order. -/
def fieldsOf (elements : List (ℕ × FieldValue)) : Fields :=
  elements.foldr (fun element fields => fields.insert element.1 element.2) ∅

/-- The data elements of a canonical request, in the order in which the source lists them. -/
def canonicalElements (request : AuthorizationRequest) (currencyNumeric : String) :
    List (ℕ × FieldValue) :=
  [(2, .text request.instrument.pan), (3, .text "000000"),
    (4, .text (zeroPaddedText 12 request.amountMinor.toNat)),
    (11, .text request.correlation.stan), (37, .text request.correlation.rrn),
    (41, .text request.terminalId), (42, .text request.merchantId),
    (49, .text currencyNumeric)] ++
  match request.instrument.iccData with
  | none => []
  | some raw => [(55, .bytes raw)]

/-- `authorization_to_iso8583`. -/
def authorizationToIso8583 (request : AuthorizationRequest) : Py ISO8583Message := do
  let currencyNumeric ← numericCurrency request.currency
  if request.amountMinor > 999999999999 then
    throw (.iso8583MappingError "amount_minor exceeds the 12-digit DE4 profile")
  else if request.terminalId.length ≠ 8 then
    throw (.iso8583MappingError "terminal_id must be exactly 8 characters for DE41")
  else if request.merchantId.length ≠ 15 then
    throw (.iso8583MappingError "merchant_id must be exactly 15 characters for DE42")
  else pure ⟨"0200", fieldsOf (canonicalElements request currencyNumeric)⟩

/-! ## What the mappings read and write -/

/-- `_required_text` returns the text of its data element. -/
theorem requiredText_eq_ok {fields : Fields} {number : ℕ} {s : String} :
    requiredText fields number = .ok s ↔ fields.lookup number = some (.text s) := by
  unfold requiredText
  split <;> simp_all

/-- The ICC data is that of DE55. -/
theorem iccValue_eq_ok {fields : Fields} {iccData : Option Bytes} :
    iccValue fields = .ok iccData ↔ fields.lookup 55 = iccData.map FieldValue.bytes := by
  unfold iccValue
  split
  · next habsent => cases iccData <;> simp [habsent]
  · next raw hraw => cases iccData <;> simp [hraw]
  · next s hs => cases iccData <;> simp [hs]

/-- A numeric code has the alphabetic one of the table. -/
theorem alphaCurrency_eq_ok {numeric currency : String} :
    alphaCurrency numeric = .ok currency ↔
      numericToAlphaCurrency.lookup numeric = some currency := by
  unfold alphaCurrency
  split
  · next h => simp only [h, throw_ne_ok, reduceCtorEq]
  · next h => rw [h, pure_eq_ok, Option.some.injEq]

/-- An alphabetic code has the numeric one of the table. -/
theorem numericCurrency_eq_ok {currency numeric : String} :
    numericCurrency currency = .ok numeric ↔
      alphaToNumericCurrency.lookup currency = some numeric := by
  unfold numericCurrency
  split
  · next h => simp only [h, throw_ne_ok, reduceCtorEq]
  · next h => rw [h, pure_eq_ok, Option.some.injEq]

/-- A list of pairs with different keys has the pairs that are looked up in it. -/
theorem lookup_eq_some_iff_mem {α β : Type*} [DecidableEq α] {pairs : List (α × β)}
    (hnodup : (pairs.map Prod.fst).Nodup) {a : α} {b : β} :
    pairs.lookup a = some b ↔ (a, b) ∈ pairs := by
  induction pairs with
  | nil => simp
  | cons pair rest ih =>
    obtain ⟨a', b'⟩ := pair
    obtain ⟨hfresh, hrest⟩ := List.nodup_cons.mp hnodup
    rw [List.lookup_cons, List.mem_cons, Prod.mk.injEq]
    by_cases heq : a = a'
    · subst heq
      have habsent : (a, b) ∉ rest := fun hmem =>
        hfresh (List.mem_map.mpr ⟨_, hmem, rfl⟩)
      simp only [beq_self_eq_true, Option.some.injEq, true_and, habsent, or_false]
      exact eq_comm
    · simp only [beq_false_of_ne heq, heq, false_and, false_or]
      exact ih hrest

/-- The two tables are inverse to each other. -/
theorem lookup_currency {numeric currency : String} :
    numericToAlphaCurrency.lookup numeric = some currency ↔
      alphaToNumericCurrency.lookup currency = some numeric := by
  rw [lookup_eq_some_iff_mem (by decide), lookup_eq_some_iff_mem (by decide),
    alphaToNumericCurrency, List.mem_map]
  constructor
  · exact fun h => ⟨_, h, rfl⟩
  · rintro ⟨⟨numeric', currency'⟩, h, heq⟩
    cases heq
    exact h

/-- The mapping has the elements of the list. -/
theorem lookup_fieldsOf (elements : List (ℕ × FieldValue)) (number : ℕ) :
    (fieldsOf elements).lookup number = elements.lookup number := by
  induction elements with
  | nil => rfl
  | cons element rest ih =>
    obtain ⟨number', value⟩ := element
    rw [fieldsOf, List.foldr_cons, ← fieldsOf, List.lookup_cons]
    by_cases heq : number = number'
    · subst heq
      rw [beq_self_eq_true, AList.lookup_insert]
    · rw [AList.lookup_insert_ne heq, ih, beq_false_of_ne heq]

/-- A message stands for a canonical request: its data elements have the request's values. -/
structure Represents (message : ISO8583Message) (request : AuthorizationRequest) : Prop where
  mti : message.mti = "0200"
  processingCode : message.fields.lookup 3 = some (.text "000000")
  amount : ∃ amountText, message.fields.lookup 4 = some (.text amountText) ∧
    intOfText amountText = .ok request.amountMinor
  currency : ∃ numeric, message.fields.lookup 49 = some (.text numeric) ∧
    numericToAlphaCurrency.lookup numeric = some request.currency
  iccData : message.fields.lookup 55 = request.instrument.iccData.map FieldValue.bytes
  merchantId : message.fields.lookup 42 = some (.text request.merchantId)
  terminalId : message.fields.lookup 41 = some (.text request.terminalId)
  pan : message.fields.lookup 2 = some (.text request.instrument.pan)
  stan : message.fields.lookup 11 = some (.text request.correlation.stan)
  rrn : message.fields.lookup 37 = some (.text request.correlation.rrn)

/-- A message is mapped to the request that it stands for. -/
theorem authorizationFromIso8583_eq_ok {message : ISO8583Message}
    {request : AuthorizationRequest} :
    authorizationFromIso8583 message = .ok request ↔ Represents message request := by
  unfold authorizationFromIso8583
  simp only [ite_throw_eq_ok, bind_eq_ok, requiredText_eq_ok, alphaCurrency_eq_ok, iccValue_eq_ok,
    CardPaymentInstrument.new_eq_ok, NetworkCorrelation.new_eq_ok, AuthorizationRequest.new_eq_ok,
    not_not, not_le]
  constructor
  · rintro ⟨hmti, _, hcode, rfl, amountText, hamountText, amountMinor, hamount, -, numeric,
      hnumeric, currency, hcurrency, iccData, hicc, merchantId, hmerchant, terminalId, hterminal,
      pan, hpan, instrument, ⟨rfl, rfl⟩, stan, hstan, rrn, hrrn, correlation, ⟨rfl, rfl⟩, rfl,
      rfl, rfl, rfl, rfl, rfl⟩
    exact ⟨hmti, hcode, ⟨amountText, hamountText, hamount⟩, ⟨numeric, hnumeric, hcurrency⟩, hicc,
      hmerchant, hterminal, hpan, hstan, hrrn⟩
  · rintro ⟨hmti, hcode, ⟨amountText, hamountText, hamount⟩, ⟨numeric, hnumeric, hcurrency⟩, hicc,
      hmerchant, hterminal, hpan, hstan, hrrn⟩
    exact ⟨hmti, _, hcode, rfl, amountText, hamountText, _, hamount, request.amountMinor_pos,
      numeric, hnumeric, _, hcurrency, _, hicc, _, hmerchant, _, hterminal, _, hpan, _,
      ⟨rfl, rfl⟩, _, hstan, _, hrrn, _, ⟨rfl, rfl⟩, rfl, rfl, rfl, rfl, rfl, rfl⟩

/-- A request is mapped when its currency has a numeric code and its values fit. -/
theorem authorizationToIso8583_eq_ok {request : AuthorizationRequest} {message : ISO8583Message} :
    authorizationToIso8583 request = .ok message ↔
      ∃ numeric, alphaToNumericCurrency.lookup request.currency = some numeric ∧
        request.amountMinor ≤ 999999999999 ∧ request.terminalId.length = 8 ∧
        request.merchantId.length = 15 ∧
        message = ⟨"0200", fieldsOf (canonicalElements request numeric)⟩ := by
  unfold authorizationToIso8583
  simp only [bind_eq_ok, numericCurrency_eq_ok, ite_throw_eq_ok, pure_eq_ok, gt_iff_lt, not_lt,
    not_not, eq_comm (b := message)]

/-! ## From a request to its bytes and back -/

/-- Equal messages stand for the same requests. -/
theorem Represents.congr {message message' : ISO8583Message} {request : AuthorizationRequest}
    (h : Represents message request) (hsame : message'.Same message) :
    Represents message' request := by
  obtain ⟨hmti, hlookup⟩ := hsame
  constructor
  case mti => exact hmti.trans h.mti
  all_goals rw [hlookup]
  case processingCode => exact h.processingCode
  case amount => exact h.amount
  case currency => exact h.currency
  case iccData => exact h.iccData
  case merchantId => exact h.merchantId
  case terminalId => exact h.terminalId
  case pan => exact h.pan
  case stan => exact h.stan
  case rrn => exact h.rrn

/-- The message of a request stands for it. -/
theorem represents_of_authorizationToIso8583 {request : AuthorizationRequest}
    {message : ISO8583Message} (h : authorizationToIso8583 request = .ok message) :
    Represents message request := by
  obtain ⟨numeric, hnumeric, hamount, -, -, rfl⟩ := authorizationToIso8583_eq_ok.mp h
  have hpos := request.amountMinor_pos
  have hread : intOfText (zeroPaddedText 12 request.amountMinor.toNat) =
      .ok (request.amountMinor.toNat : ℤ) :=
    intOfText_zeroPaddedText (by norm_num) (by omega) (by norm_num)
  rw [Int.toNat_of_nonneg hpos.le] at hread
  constructor
  case mti => rfl
  all_goals simp only [lookup_fieldsOf]
  case processingCode => rfl
  case amount => exact ⟨_, rfl, hread⟩
  case currency => exact ⟨numeric, rfl, lookup_currency.mpr hnumeric⟩
  case iccData =>
    unfold canonicalElements
    cases request.instrument.iccData <;> rfl
  case merchantId => rfl
  case terminalId => rfl
  case pan => rfl
  case stan => rfl
  case rrn => rfl

/-! ## From bytes to a request and back -/

/-- The data elements of the canonical model. -/
def canonicalNumbers : List ℕ := [2, 3, 4, 11, 37, 41, 42, 49, 55]

/-- A message has the MTI of another one, and its data elements of some numbers. -/
def ISO8583Message.IsRestriction (message whole : ISO8583Message) (numbers : List ℕ) : Prop :=
  message.mti = whole.mti ∧ ∀ number, message.fields.lookup number =
    if number ∈ numbers then whole.fields.lookup number else none

/-- What is decoded under a number has an encoding under the specification of the number. -/
theorem ISO8583Codec.encodes_of_decode {codec : ISO8583Codec} {payload : Bytes}
    {message : ISO8583Message} (h : codec.decode payload = .ok message) {number : ℕ}
    {value : FieldValue} (hvalue : message.fields.lookup number = some value) :
    ∃ wire, codec.Encodes ⟨number, value⟩ wire := by
  obtain ⟨elements, ⟨mtiRaw, wires, -, hsorted, -, hwires, -⟩, hfields⟩ :=
    ISO8583Codec.decode_eq_ok.mp h
  rw [hfields, ← Option.mem_def, AList.mem_lookup_iff,
    ISO8583Codec.entries_insertAll_empty hsorted, List.mem_reverse] at hvalue
  obtain ⟨i, hi, hget⟩ := List.getElem_of_mem hvalue
  obtain ⟨hlength, hall⟩ := List.forall₂_iff_get.mp hwires
  exact ⟨wires.get ⟨i, hlength ▸ hi⟩, hget ▸ hall i hi (hlength ▸ hi)⟩

/-- What is decoded under a number satisfies the specification of the number. -/
theorem admits_of_decode {payload : Bytes} {message : ISO8583Message}
    (h : defaultCodec.decode payload = .ok message) {number : ℕ} {value : FieldValue}
    (hvalue : message.fields.lookup number = some value) {spec : FieldSpec}
    (hspec : defaultCodec.fieldSpecs number = some spec) : spec.Admits value := by
  obtain ⟨wire, spec', hspec', hwire⟩ := ISO8583Codec.encodes_of_decode h hvalue
  cases hspec.symm.trans hspec'
  exact encodeField_isOk_iff.mp ⟨wire, hwire⟩

/-- Printable ASCII text is what the elements of type ans consist of. -/
theorem isAsciiPrintable_iff {s : String} :
    isAsciiPrintable s = true ↔ ∀ c ∈ s.toList, FieldDataType.ans.Admits c.toNat := by
  simp only [isAsciiPrintable, List.all_eq_true, Bool.and_eq_true, decide_eq_true_eq,
    FieldDataType.Admits]

/-- ASCII digits are what the elements of type n consist of. -/
theorem admits_of_isAsciiDecimal {s : String} (h : isAsciiDecimal s = true) :
    ∀ c ∈ s.toList, FieldDataType.n.Admits c.toNat := by
  simp only [isAsciiDecimal, Bool.and_eq_true, List.all_eq_true, decide_eq_true_eq] at h
  exact h.2

/-- Text with a positive length is not empty. -/
theorem ne_empty_of_length_pos {s : String} (h : 0 < s.length) : s ≠ "" := by
  rintro rfl
  exact absurd h (lt_irrefl 0)

/-- Digits, at least one, are decimal. -/
theorem isAsciiDecimal_of_admits {s : String} (hpos : 0 < s.length)
    (h : ∀ c ∈ s.toList, FieldDataType.n.Admits c.toNat) : isAsciiDecimal s = true := by
  simp only [isAsciiDecimal, Bool.and_eq_true, List.all_eq_true, decide_eq_true_eq]
  exact ⟨ne_empty_of_length_pos hpos, h⟩

/-- The trace references of a decoded message are a correlation. -/
theorem correlation_of_decode {payload : Bytes} {message : ISO8583Message}
    (h : defaultCodec.decode payload = .ok message) {stan rrn : String}
    (hstan : message.fields.lookup 11 = some (.text stan))
    (hrrn : message.fields.lookup 37 = some (.text rrn)) :
    ∃ correlation, NetworkCorrelation.new stan rrn = .ok correlation := by
  obtain ⟨-, hdigits, hsix⟩ := admits_of_decode h hstan rfl
  obtain ⟨-, hprintable, htwelve⟩ := admits_of_decode h hrrn rfl
  change stan.length = 6 at hsix
  have hvalid : stan.length = 6 ∧ isAsciiDecimal stan = true :=
    ⟨hsix, isAsciiDecimal_of_admits (by omega) hdigits⟩
  exact ⟨⟨stan, rrn, hvalid, htwelve, isAsciiPrintable_iff.mpr hprintable⟩,
    NetworkCorrelation.new_eq_ok.mpr ⟨rfl, rfl⟩⟩

/-- Text that is decoded under a fixed number has ASCII bytes of the fixed length, which pass the
check of their type. -/
theorem text_of_decode {payload : Bytes} {message : ISO8583Message}
    (h : defaultCodec.decode payload = .ok message) {number : ℕ} {s : String}
    (hs : message.fields.lookup number = some (.text s)) {spec : FieldSpec}
    (hspec : defaultCodec.fieldSpecs number = some spec) (hfixed : spec.lengthType = .fixed)
    (htype : spec.dataType ≠ .binary) :
    ∃ raw, encodeAscii s = .ok raw ∧ raw.length = spec.maxLength ∧
      validateTextBytes spec raw = .ok () := by
  obtain ⟨wire, spec', hspec', hwire⟩ := ISO8583Codec.encodes_of_decode h hs
  cases hspec.symm.trans hspec'
  obtain ⟨raw, hraw, hlength, -⟩ := encodeField_eq_ok.mp hwire
  obtain ⟨hascii, hvalid⟩ := (coerceAndValidateValue_text htype).mp hraw
  rw [FieldSpec.ValidLength, if_pos hfixed] at hlength
  exact ⟨raw, hascii, hlength, hvalid⟩

/-- The bytes of a numeric element are digits. -/
theorem isGlyph_of_validateTextBytes {spec : FieldSpec} {raw : Bytes} (htype : spec.dataType = .n)
    (h : validateTextBytes spec raw = .ok ()) : ∀ b ∈ raw, asciiDigits.IsGlyph b := by
  intro b hb
  have hoctet := validateTextBytes_eq_ok.mp h b hb
  rw [htype] at hoctet
  exact asciiDigits_isGlyph hoctet.1 hoctet.2

/-- The amount of a decoded message is twelve digits, which are read as an integer. -/
theorem amountDigits_of_decode {payload : Bytes} {message : ISO8583Message}
    (h : defaultCodec.decode payload = .ok message) {amountText : String}
    (htext : message.fields.lookup 4 = some (.text amountText)) :
    ∃ digits : Bytes, asciiText digits = amountText ∧ digits.length = 12 ∧
      (∀ b ∈ digits, asciiDigits.IsGlyph b) ∧
      intOfText amountText = .ok (intOfDigits digits) := by
  obtain ⟨raw, hraw, hlength, hvalid⟩ := text_of_decode h htext rfl rfl (by decide)
  have hdigits := isGlyph_of_validateTextBytes rfl hvalid
  change raw.length = 12 at hlength
  have hne : raw ≠ [] := List.ne_nil_of_length_pos (by omega)
  have hread := intOfText_of_digits hne hdigits (by rw [hlength]; norm_num)
  rw [asciiText_of_encodeAscii hraw] at hread
  exact ⟨raw, asciiText_of_encodeAscii hraw, hlength, hdigits, hread⟩

/-- The amount of a decoded message is written as it was read. -/
theorem zeroPaddedText_of_decode {payload : Bytes} {message : ISO8583Message}
    (h : defaultCodec.decode payload = .ok message) {amountText : String}
    (htext : message.fields.lookup 4 = some (.text amountText)) {amountMinor : ℤ}
    (hamount : intOfText amountText = .ok amountMinor) :
    amountMinor ≤ 999999999999 ∧ zeroPaddedText 12 amountMinor.toNat = amountText := by
  obtain ⟨digits, htext, hlength, hdigits, hread⟩ := amountDigits_of_decode h htext
  rw [hamount, Except.ok.injEq] at hread
  have hlt : intOfDigits digits < 10 ^ digits.length := asciiDigits.read_lt (by norm_num) hdigits
  rw [hlength] at hlt
  constructor
  · rw [hread]
    omega
  · rw [hread, Int.toNat_natCast, ← htext, ← hlength]
    exact zeroPaddedText_intOfDigits hdigits

/-- The elements of a request are those of the canonical model. -/
theorem mem_canonicalNumbers {request : AuthorizationRequest} {numeric : String}
    {element : ℕ × FieldValue} (h : element ∈ canonicalElements request numeric) :
    element.1 ∈ canonicalNumbers := by
  have hsub : (canonicalElements request numeric).map Prod.fst ⊆ canonicalNumbers := by
    unfold canonicalElements
    cases request.instrument.iccData <;> simp [canonicalNumbers]
  exact hsub (List.mem_map_of_mem h)

/-- A decoded message that stands for a request is, in its canonical elements, the message of the
request. -/
theorem authorizationToIso8583_of_represents {payload : Bytes} {decoded : ISO8583Message}
    (h : defaultCodec.decode payload = .ok decoded) {request : AuthorizationRequest}
    (hrepresents : Represents decoded request) :
    ∃ message, authorizationToIso8583 request = .ok message ∧
      message.IsRestriction decoded canonicalNumbers := by
  obtain ⟨amountText, hamountText, hamount⟩ := hrepresents.amount
  obtain ⟨numeric, hnumeric, hcurrency⟩ := hrepresents.currency
  obtain ⟨hle, hpadded⟩ := zeroPaddedText_of_decode h hamountText hamount
  obtain ⟨-, -, hterminal⟩ := admits_of_decode h hrepresents.terminalId rfl
  obtain ⟨-, -, hmerchant⟩ := admits_of_decode h hrepresents.merchantId rfl
  refine ⟨_, authorizationToIso8583_eq_ok.mpr ⟨numeric, lookup_currency.mp hcurrency, hle,
    hterminal, hmerchant, rfl⟩, hrepresents.mti.symm, ?_⟩
  intro number
  rw [lookup_fieldsOf]
  -- One case for each canonical element; the request writes no other one.
  by_cases hmem : number ∈ canonicalNumbers
  · rw [if_pos hmem]
    simp only [canonicalNumbers, List.mem_cons, List.not_mem_nil, or_false] at hmem
    rcases hmem with rfl | rfl | rfl | rfl | rfl | rfl | rfl | rfl | rfl
    · rw [hrepresents.pan]
      rfl
    · rw [hrepresents.processingCode]
      rfl
    · rw [hamountText, ← hpadded]
      rfl
    · rw [hrepresents.stan]
      rfl
    · rw [hrepresents.rrn]
      rfl
    · rw [hrepresents.terminalId]
      rfl
    · rw [hrepresents.merchantId]
      rfl
    · rw [hnumeric]
      rfl
    · rw [hrepresents.iccData]
      unfold canonicalElements
      cases request.instrument.iccData <;> rfl
  · rw [if_neg hmem, List.lookup_eq_none_iff]
    intro element helement
    refine bne_iff_ne.mpr fun heq => hmem ?_
    rw [heq]
    exact mem_canonicalNumbers helement

/-- Canonical requests and the messages of the default codec are inverse views of each other: a
request that is written as bytes is read back, and a message that is read as a request is written
back, in the data elements that the canonical model has. -/
theorem iso8583_inverse :
    (∀ request message payload, authorizationToIso8583 request = .ok message →
      defaultCodec.encode message = .ok payload → ∃ decoded,
        defaultCodec.decode payload = .ok decoded ∧
        authorizationFromIso8583 decoded = .ok request) ∧
    ∀ payload decoded request, defaultCodec.decode payload = .ok decoded →
      authorizationFromIso8583 decoded = .ok request → ∃ message,
        authorizationToIso8583 request = .ok message ∧
        message.IsRestriction decoded canonicalNumbers := by
  constructor
  · intro request message payload hto hencode
    obtain ⟨elements, hdecode, hsorted, hperm⟩ := ISO8583Codec.decode_of_encode hencode
    have hsame := ISO8583Codec.same_insertAll hsorted hperm
    have hrepresents := (represents_of_authorizationToIso8583 hto).congr hsame
    exact ⟨_, hdecode, authorizationFromIso8583_eq_ok.mpr hrepresents⟩
  · intro payload decoded request hdecode hfrom
    exact authorizationToIso8583_of_represents hdecode (authorizationFromIso8583_eq_ok.mp hfrom)

/-- A purchase authorization for 129 euros, with or without ICC data. -/
def sampleAuthorization (iccData : Option Bytes) (hicc : iccData ≠ some []) :
    AuthorizationRequest :=
  ⟨12900, "EUR", "MERCHANT0000002", "TERM0002", ⟨"4761739001010010", iccData, by decide, hicc⟩,
    sampleCorrelation, by decide, by decide, by decide, by decide, by decide⟩

/-- The data elements of the authorization, with EMV data in DE55. -/
def sampleElements : List (ℕ × FieldValue) :=
  [(2, .text "4761739001010010"), (3, .text "000000"), (4, .text "000000012900"),
    (11, .text "123456"), (37, .text "ABC123456789"), (41, .text "TERM0002"),
    (42, .text "MERCHANT0000002"), (49, .text "978"), (55, .bytes [159, 2, 1, 41])]

/-- The authorization is written as its bytes, read back, and written again. -/
theorem iso8583_inverse_sample : ∃ payload decoded,
    defaultCodec.encode ⟨"0200", fieldsOf sampleElements⟩ = .ok payload ∧
    defaultCodec.decode payload = .ok decoded ∧
    authorizationFromIso8583 decoded =
      .ok (sampleAuthorization (some [159, 2, 1, 41]) (by decide)) ∧
    ∃ message, authorizationToIso8583 (sampleAuthorization (some [159, 2, 1, 41]) (by decide)) =
        .ok message ∧ message.IsRestriction decoded canonicalNumbers := by
  have hto : authorizationToIso8583 (sampleAuthorization (some [159, 2, 1, 41]) (by decide)) =
      .ok ⟨"0200", fieldsOf sampleElements⟩ := rfl
  obtain ⟨payload, hencode⟩ : ∃ payload,
      defaultCodec.encode ⟨"0200", fieldsOf sampleElements⟩ = .ok payload := ⟨_, rfl⟩
  obtain ⟨decoded, hdecode, hfrom⟩ := iso8583_inverse.1 _ _ _ hto hencode
  exact ⟨payload, decoded, hencode, hdecode, hfrom, iso8583_inverse.2 _ _ _ hdecode hfrom⟩

end AtlasPay
