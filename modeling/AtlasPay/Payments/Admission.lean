import AtlasPay.Database.Answers

/-!
# Admitted requests and the columns of payments

The validation of a request bounds the amount from below only, counts the characters of the currency
before upper-casing it, which lengthens some texts, and lets a NUL pass in its texts.
`fitsColumns_iff` says for which arguments what is admitted fits the columns of `payments` all the
same, and so can be inserted. `PostgresLedger.create_account` upper-cases first and then counts, and
needs no condition on the length.
-/

namespace AtlasPay

/-- A request fits the columns: the amount is a 64-bit integer, the currency is three characters and
its own upper-case form, both are stored as they are, and under any id the payment has a row with
these values, with its reference as it is. -/
structure CreatePaymentRequest.FitsColumns (request : CreatePaymentRequest) : Prop where
  amount : -2 ^ 63 ≤ request.amount ∧ request.amount < 2 ^ 63
  currency_length : request.currency.length = 3
  currency_upper : upper request.currency = request.currency
  amount_stored : ∃ stored, bigint request.amount = .ok stored ∧ stored.1 = request.amount
  currency_stored : text request.currency = .ok () ∧
    ∃ stored, bpchar 3 request.currency = .ok stored ∧ stored.1 = request.currency
  row_stored : ∀ id now, Storable id →
    ∃ row, Database.paymentRow (Payment.new request id now) = .ok row ∧
      row.amount = request.amount ∧ row.currency = request.currency ∧
      row.merchantReference = request.merchantReference

/-- The validation of a request keeps its amount and its reference, and upper-cases its currency
once this has been found to have three characters. -/
theorem CreatePaymentRequest.validate_eq_some {amount : ℤ} {currency merchantReference : String}
    {request : CreatePaymentRequest}
    (h : CreatePaymentRequest.validate amount currency merchantReference = some request) :
    0 < amount ∧ currency.length = 3 ∧ request.amount = amount ∧
      request.currency = upper currency ∧ request.merchantReference = merchantReference := by
  unfold CreatePaymentRequest.validate at h
  split at h
  · next hvalid =>
    obtain rfl := Option.some.inj h
    exact ⟨hvalid.1, hvalid.2.1, rfl, rfl, rfl⟩
  · cases h

/-- A text can be stored when its upper-case form can. -/
theorem storable_upper_iff {s : String} : Storable (upper s) ↔ Storable s :=
  nul_mem_upper_iff.not

/-- A request whose values fit has a row. -/
theorem CreatePaymentRequest.paymentRow_of_fits {request : CreatePaymentRequest}
    (hlt : request.amount < 2 ^ 63) (hthree : request.currency.length = 3)
    (hcurrency : Storable request.currency) (hreference : Storable request.merchantReference)
    {id : String} (hid : Storable id) (now : Timestamp) :
    ∃ row, Database.paymentRow (Payment.new request id now) = .ok row ∧
      row.amount = request.amount ∧ row.currency = request.currency ∧
      row.merchantReference = request.merchantReference := by
  -- A positive amount is over the lower bound of the column.
  have hpos := request.amount_gt
  have hbigint : bigint request.amount = .ok ⟨request.amount, hlt⟩ :=
    bigint_eq_ok.mpr ⟨by omega, rfl⟩
  have hbpchar := bpchar_of_length hthree
  have hvarchar := varchar_of_length request.merchantReference_max
  have htext : ∀ s, Storable s → text s = .ok () := fun s hs => text_eq_ok.mpr hs
  unfold Database.paymentRow Payment.new
  simp only [htext _ hid, htext _ hcurrency, htext _ hreference, hbigint, hbpchar, hvarchar, bind,
    Except.bind, dif_pos hpos]
  exact ⟨_, rfl, rfl, rfl, rfl⟩

/-- A request fits the columns exactly when its amount and the length of its currency do, and its
texts have no NUL. -/
theorem CreatePaymentRequest.fitsColumns_of {request : CreatePaymentRequest}
    (hupper : upper request.currency = request.currency) :
    request.FitsColumns ↔ request.amount < 2 ^ 63 ∧ request.currency.length = 3 ∧
      Storable request.currency ∧ Storable request.merchantReference := by
  constructor
  · intro hfits
    refine ⟨hfits.amount.2, hfits.currency_length, text_eq_ok.mp hfits.currency_stored.1, ?_⟩
    obtain ⟨row, hrow, -⟩ := hfits.row_stored "pay_1" 0 (by decide)
    exact (Database.storable_of_paymentRow hrow).2.2
  · rintro ⟨hlt, hthree, hcurrency, hreference⟩
    have hpos := request.amount_gt
    have hge : -2 ^ 63 ≤ request.amount := by omega
    exact ⟨⟨hge, hlt⟩, hthree, hupper, ⟨⟨request.amount, hlt⟩, bigint_eq_ok.mpr ⟨hge, rfl⟩, rfl⟩,
      ⟨text_eq_ok.mpr hcurrency, _, bpchar_of_length hthree, rfl⟩,
      fun id now hid => paymentRow_of_fits hlt hthree hcurrency hreference hid now⟩

/-- What is admitted fits the columns exactly when the amount is below 2^63, no character of the
given currency has an upper-case form of several characters, and neither the currency nor the
reference has a NUL. -/
theorem CreatePaymentRequest.fitsColumns_iff {amount : ℤ} {currency merchantReference : String}
    {request : CreatePaymentRequest}
    (h : CreatePaymentRequest.validate amount currency merchantReference = some request) :
    request.FitsColumns ↔ amount < 2 ^ 63 ∧
      (∀ c ∈ currency.toList, c.toNat ∉ upperSequences.map Prod.fst) ∧
      Storable currency ∧ Storable merchantReference := by
  obtain ⟨-, hthree, hamount, hcurrency, hreference⟩ := validate_eq_some h
  have hupper : upper request.currency = request.currency := by
    rw [hcurrency, upper_upper]
  rw [fitsColumns_of hupper, hamount, hcurrency, hreference, storable_upper_iff,
    ← (length_upper currency).2, hthree]

/-- The payment of the tests is admitted, and fits. -/
theorem CreatePaymentRequest.fitsColumns_sample : ∃ request,
    CreatePaymentRequest.validate 12500 "mad" "order-001" = some request ∧
      request.FitsColumns := by
  obtain ⟨request, hrequest⟩ : ∃ request,
      CreatePaymentRequest.validate 12500 "mad" "order-001" = some request := ⟨_, rfl⟩
  have hsingle : ∀ c ∈ "mad".toList, c.toNat ∉ upperSequences.map Prod.fst :=
    (length_upper "mad").2.mp rfl
  exact ⟨request, hrequest,
    (fitsColumns_iff hrequest).mpr ⟨by norm_num, hsingle, by decide, by decide⟩⟩

/-- The amount 2^63, the currency ßab, and a currency that starts with a NUL are admitted, and do
not fit. -/
theorem CreatePaymentRequest.not_fitsColumns : ∃ excessive lengthened unstorable,
    CreatePaymentRequest.validate (2 ^ 63) "MAD" "order-001" = some excessive ∧
      ¬excessive.FitsColumns ∧
      CreatePaymentRequest.validate 12500 "ßab" "order-001" = some lengthened ∧
      ¬lengthened.FitsColumns ∧
      CreatePaymentRequest.validate 12500 "\x00ab" "order-001" = some unstorable ∧
      ¬unstorable.FitsColumns := by
  refine ⟨_, _, _, rfl, fun hfits => ?_, rfl, fun hfits => ?_, rfl, fun hfits => ?_⟩
  · have hlt : (2 : ℤ) ^ 63 < 2 ^ 63 := hfits.amount.2
    exact lt_irrefl _ hlt
  · have hlength : (upper "ßab").length = 3 := hfits.currency_length
    have hfour : (upper "ßab").length = 4 := by decide
    omega
  · have hstorable : Storable (upper "\x00ab") := text_eq_ok.mp hfits.currency_stored.1
    exact absurd (storable_upper_iff.mp hstorable) (by decide)

end AtlasPay
