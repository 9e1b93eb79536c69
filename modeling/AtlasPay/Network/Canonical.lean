import AtlasPay.Python.Unicode

/-!
# The canonical payment model

The model of `app/canonical.py`: values that are independent of any wire format. Each structure has
the checks of its `__post_init__` as fields, so that only what the constructor accepts exists.
-/

namespace AtlasPay

/-- `str.isascii() and str.isprintable()`. -/
def isAsciiPrintable (s : String) : Bool :=
  s.toList.all fun c => 0x20 ≤ c.toNat && c.toNat ≤ 0x7E

/-- `str.isascii() and str.isalpha()`: one or more ASCII letters. -/
def isAsciiAlpha (s : String) : Bool :=
  s ≠ "" && s.toList.all fun c =>
    0x41 ≤ c.toNat && c.toNat ≤ 0x5A || 0x61 ≤ c.toNat && c.toNat ≤ 0x7A

/-- `NetworkCorrelation`. -/
structure NetworkCorrelation where
  /-- The system trace audit number. -/
  stan : String
  /-- The retrieval reference number. -/
  rrn : String
  /-- STAN must be exactly six ASCII digits. -/
  stan_valid : stan.length = 6 ∧ isAsciiDecimal stan = true
  /-- RRN must be exactly twelve printable ASCII characters. -/
  rrn_valid : rrn.length = 12 ∧ isAsciiPrintable rrn = true
  deriving DecidableEq

/-- The constructor of `NetworkCorrelation`. -/
def NetworkCorrelation.new (stan rrn : String) : Py NetworkCorrelation :=
  if hstan : stan.length = 6 ∧ isAsciiDecimal stan = true then
    if hrrn : rrn.length = 12 ∧ isAsciiPrintable rrn = true then pure ⟨stan, rrn, hstan, hrrn⟩
    else throw (.valueError "RRN must be exactly twelve printable ASCII characters")
  else throw (.valueError "STAN must be exactly six ASCII digits")

/-- `CardPaymentInstrument`. -/
structure CardPaymentInstrument where
  /-- The card number. -/
  pan : String
  /-- The content of DE55. -/
  iccData : Option Bytes := none
  /-- PAN must contain 12 to 19 ASCII digits. -/
  pan_valid : 12 ≤ pan.length ∧ pan.length ≤ 19 ∧ isAsciiDecimal pan = true
  /-- ICC data must be non-empty when provided. -/
  iccData_ne : iccData ≠ some []

/-- The constructor of `CardPaymentInstrument`. -/
def CardPaymentInstrument.new (pan : String) (iccData : Option Bytes) :
    Py CardPaymentInstrument :=
  if hpan : 12 ≤ pan.length ∧ pan.length ≤ 19 ∧ isAsciiDecimal pan = true then
    if hicc : iccData ≠ some [] then pure ⟨pan, iccData, hpan, hicc⟩
    else throw (.valueError "ICC data must be non-empty when provided")
  else throw (.valueError "PAN must contain 12 to 19 ASCII digits")

/-- `AuthorizationRequest`. -/
structure AuthorizationRequest where
  /-- The amount in minor units. -/
  amountMinor : ℤ
  /-- The alphabetic currency code. -/
  currency : String
  /-- The merchant. -/
  merchantId : String
  /-- The terminal. -/
  terminalId : String
  /-- The card. -/
  instrument : CardPaymentInstrument
  /-- The trace references. -/
  correlation : NetworkCorrelation
  /-- The amount must be a positive integer. -/
  amountMinor_pos : 0 < amountMinor
  /-- The currency must be a three-letter ASCII code. -/
  currency_valid : currency.length = 3 ∧ isAsciiAlpha currency = true
  /-- The currency must be upper-case. -/
  currency_upper : upper currency = currency
  /-- The merchant cannot be empty. -/
  merchantId_ne : merchantId ≠ ""
  /-- The terminal cannot be empty. -/
  terminalId_ne : terminalId ≠ ""

/-- The constructor of `AuthorizationRequest`. -/
def AuthorizationRequest.new (amountMinor : ℤ) (currency merchantId terminalId : String)
    (instrument : CardPaymentInstrument) (correlation : NetworkCorrelation) :
    Py AuthorizationRequest :=
  if hamount : 0 < amountMinor then
    if hcurrency : currency.length = 3 ∧ isAsciiAlpha currency = true then
      if hupper : upper currency = currency then
        if hmerchant : merchantId ≠ "" then
          if hterminal : terminalId ≠ "" then
            pure ⟨amountMinor, currency, merchantId, terminalId, instrument, correlation, hamount,
              hcurrency, hupper, hmerchant, hterminal⟩
          else throw (.valueError "terminal_id cannot be empty")
        else throw (.valueError "merchant_id cannot be empty")
      else throw (.valueError "currency must be uppercase")
    else throw (.valueError "currency must be a three-letter ASCII code")
  else throw (.valueError "amount_minor must be a positive integer")

/-- The constructor returns the correlation of its arguments. -/
theorem NetworkCorrelation.new_eq_ok {stan rrn : String} {correlation : NetworkCorrelation} :
    NetworkCorrelation.new stan rrn = .ok correlation ↔
      correlation.stan = stan ∧ correlation.rrn = rrn := by
  unfold NetworkCorrelation.new
  constructor
  · intro h
    split at h
    · split at h
      · cases h
        exact ⟨rfl, rfl⟩
      · simp at h
    · simp at h
  · rintro ⟨rfl, rfl⟩
    rw [dif_pos correlation.stan_valid, dif_pos correlation.rrn_valid]
    rfl

/-- The constructor returns the instrument of its arguments. -/
theorem CardPaymentInstrument.new_eq_ok {pan : String} {iccData : Option Bytes}
    {instrument : CardPaymentInstrument} :
    CardPaymentInstrument.new pan iccData = .ok instrument ↔
      instrument.pan = pan ∧ instrument.iccData = iccData := by
  unfold CardPaymentInstrument.new
  constructor
  · intro h
    split at h
    · split at h
      · cases h
        exact ⟨rfl, rfl⟩
      · simp at h
    · simp at h
  · rintro ⟨rfl, rfl⟩
    rw [dif_pos instrument.pan_valid, dif_pos instrument.iccData_ne]
    rfl

/-- The constructor returns the request of its arguments. -/
theorem AuthorizationRequest.new_eq_ok {amountMinor : ℤ} {currency merchantId terminalId : String}
    {instrument : CardPaymentInstrument} {correlation : NetworkCorrelation}
    {request : AuthorizationRequest} :
    AuthorizationRequest.new amountMinor currency merchantId terminalId instrument correlation =
        .ok request ↔
      request.amountMinor = amountMinor ∧ request.currency = currency ∧
        request.merchantId = merchantId ∧ request.terminalId = terminalId ∧
        request.instrument = instrument ∧ request.correlation = correlation := by
  unfold AuthorizationRequest.new
  constructor
  · intro h
    repeat' split at h
    case isTrue.isTrue.isTrue.isTrue.isTrue =>
      cases h
      exact ⟨rfl, rfl, rfl, rfl, rfl, rfl⟩
    all_goals simp at h
  · rintro ⟨rfl, rfl, rfl, rfl, rfl, rfl⟩
    rw [dif_pos request.amountMinor_pos, dif_pos request.currency_valid,
      dif_pos request.currency_upper, dif_pos request.merchantId_ne,
      dif_pos request.terminalId_ne]
    rfl

end AtlasPay
