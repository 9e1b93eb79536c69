import AtlasPay.Codec.Iso8583

/-!
# One data element on the wire

A data element is its length prefix followed by its raw bytes. `encodeField_eq_ok` and
`decodeField_eq_ok` describe both directions in the same terms, a valid value and a valid length,
so that each of them undoes the other on what it accepts.
-/

namespace AtlasPay

/-! ## Values -/

/-- ASCII text and its bytes determine each other. -/
theorem encodeAscii_iff_decodeAscii {s : String} {raw : Bytes} :
    encodeAscii s = .ok raw ↔ decodeAscii raw = .ok s :=
  ⟨decodeAscii_of_encodeAscii, encodeAscii_of_decodeAscii⟩

/-- `_coerce_and_validate_value` on text returns the ASCII bytes that pass the check of the type. -/
theorem coerceAndValidateValue_text {spec : FieldSpec} {s : String} {raw : Bytes}
    (hb : spec.dataType ≠ .binary) :
    coerceAndValidateValue spec (.text s) = .ok raw ↔
      encodeAscii s = .ok raw ∧ validateTextBytes spec raw = .ok () := by
  unfold coerceAndValidateValue
  split
  · next hd _ => exact absurd hd hb
  · next hd _ => exact absurd hd hb
  · next h _ => cases h
  · next hs _ =>
    cases hs
    split
    · next h => simp [h]
    · next e _ h => simp [h]
    · next raw' h =>
      rw [bind_eq_ok, h]
      simp only [pure_eq_ok, Except.ok.injEq]
      constructor
      · rintro ⟨⟨⟩, hv, rfl⟩
        exact ⟨rfl, hv⟩
      · rintro ⟨rfl, hv⟩
        exact ⟨(), hv, rfl⟩

/-- The octets that the values of a type consist of. -/
def FieldDataType.Admits : FieldDataType → ℕ → Prop
  | .n, octet => 48 ≤ octet ∧ octet ≤ 57
  | .ans, octet => 0x20 ≤ octet ∧ octet ≤ 0x7E
  | .binary, _ => True

/-- `_validate_text_bytes` returns exactly on octets of the type. -/
theorem validateTextBytes_eq_ok {spec : FieldSpec} {raw : Bytes} :
    validateTextBytes spec raw = .ok () ↔ ∀ b ∈ raw, spec.dataType.Admits b.toNat := by
  have hrange : ∀ low high : UInt8, ¬raw.any (fun byte => byte < low || byte > high) = true ↔
      ∀ b ∈ raw, low.toNat ≤ b.toNat ∧ b.toNat ≤ high.toNat := by
    intro low high
    rw [List.any_eq_true, not_exists]
    refine forall_congr' fun b => ?_
    rw [not_and, Bool.or_eq_true, not_or, decide_eq_true_eq, decide_eq_true_eq, gt_iff_lt,
      UInt8.not_lt, UInt8.not_lt, UInt8.le_iff_toNat_le, UInt8.le_iff_toNat_le]
  unfold validateTextBytes
  -- Each check concerns one type of text, and none concerns a binary element.
  cases hspec : spec.dataType with
  | n =>
    by_cases hany : raw.any (fun byte => byte < 48 || byte > 57) = true
    · refine iff_of_false ?_ fun hall => (hrange 48 57).mpr hall hany
      rw [if_pos ⟨rfl, hany⟩]
      nofun
    · refine iff_of_true ?_ ((hrange 48 57).mp hany)
      rw [if_neg fun hc => hany hc.2]
      rfl
  | ans =>
    by_cases hany : raw.any (fun byte => byte < 0x20 || byte > 0x7E) = true
    · refine iff_of_false ?_ fun hall => (hrange 0x20 0x7E).mpr hall hany
      rw [if_neg (by simp), if_pos ⟨rfl, hany⟩]
      nofun
    · refine iff_of_true ?_ ((hrange 0x20 0x7E).mp hany)
      rw [if_neg (by simp), if_neg fun hc => hany hc.2]
      rfl
  | binary => simp [FieldDataType.Admits]

/-- The two coercions are inverse to each other: a value is coerced to some bytes exactly when
those bytes are decoded to the value. -/
theorem coerce_iff {spec : FieldSpec} {value : FieldValue} {raw : Bytes} :
    coerceAndValidateValue spec value = .ok raw ↔
      coerceAndValidateDecodedValue spec raw = .ok value := by
  -- Binary elements take bytes as they are; the others take text, which must be in ASCII.
  by_cases hb : spec.dataType = .binary
  · cases value with
    | text s => simp [coerceAndValidateValue, coerceAndValidateDecodedValue, hb]
    | bytes raw' =>
      simp only [coerceAndValidateValue, coerceAndValidateDecodedValue, hb, if_true, pure_eq_ok,
        FieldValue.bytes.injEq]
      exact eq_comm
  · have hdecoded : coerceAndValidateDecodedValue spec raw = .ok value ↔
        validateTextBytes spec raw = .ok () ∧ ∃ s, decodeAscii raw = .ok s ∧ .text s = value := by
      rw [coerceAndValidateDecodedValue, if_neg hb, bind_eq_ok]
      constructor
      · rintro ⟨⟨⟩, hv, hd⟩
        rw [bind_eq_ok] at hd
        obtain ⟨s, hs, hvalue⟩ := hd
        exact ⟨hv, s, hs, pure_eq_ok.mp hvalue⟩
      · rintro ⟨hv, s, hs, hvalue⟩
        exact ⟨(), hv, bind_eq_ok.mpr ⟨s, hs, pure_eq_ok.mpr hvalue⟩⟩
    rw [hdecoded]
    cases value with
    | text s =>
      rw [coerceAndValidateValue_text hb, encodeAscii_iff_decodeAscii]
      constructor
      · rintro ⟨hs, hv⟩
        exact ⟨hv, s, hs, rfl⟩
      · rintro ⟨hv, s', hs, h⟩
        cases h
        exact ⟨hs, hv⟩
    | bytes raw' =>
      -- Bytes are refused for a text element, whatever its type.
      have hthrow : coerceAndValidateValue spec (.bytes raw') =
          throw (.iso8583CodecError s!"DE{spec.number} requires a string") := by
        unfold coerceAndValidateValue
        cases hd : spec.dataType with
        | n => rfl
        | ans => rfl
        | binary => exact absurd hd hb
      simp [hthrow]

/-! ## Lengths -/

/-- The lengths that a specification admits. -/
def FieldSpec.ValidLength (spec : FieldSpec) (length : ℕ) : Prop :=
  if spec.lengthType = .fixed then length = spec.maxLength
  else spec.minLength ≤ length ∧ length ≤ spec.maxLength

/-- The bytes of the length prefix, none for a fixed field. -/
def FieldSpec.lengthPrefix (spec : FieldSpec) (length : ℕ) : Bytes :=
  if spec.lengthType = .fixed then [] else zeroPadded spec.lengthPrefixWidth length

/-- A valid length of a variable field fits its prefix. -/
theorem FieldSpec.length_lt (spec : FieldSpec) {length : ℕ} (hf : spec.lengthType ≠ .fixed)
    (h : length ≤ spec.maxLength) : length < 10 ^ spec.lengthPrefixWidth := by
  unfold FieldSpec.lengthPrefixWidth
  cases hl : spec.lengthType with
  | fixed => exact absurd hl hf
  | llvar =>
    have := spec.llvar_maxLength hl
    simp only
    omega
  | lllvar =>
    have := spec.lllvar_maxLength hl
    simp only
    omega

/-- A variable field has a non-empty prefix. -/
theorem FieldSpec.lengthPrefixWidth_pos (spec : FieldSpec) (hf : spec.lengthType ≠ .fixed) :
    0 < spec.lengthPrefixWidth := by
  unfold FieldSpec.lengthPrefixWidth
  cases hl : spec.lengthType with
  | fixed => exact absurd hl hf
  | llvar => exact Nat.two_pos
  | lllvar => exact by norm_num

/-- The length check returns exactly on the lengths in range. -/
theorem checkLength_eq_ok {spec : FieldSpec} {length : ℕ} :
    checkLength spec length = .ok () ↔ spec.minLength ≤ length ∧ length ≤ spec.maxLength := by
  rw [checkLength, ite_throw_eq_ok]
  simp

/-- The prefix of a valid length has its width. -/
theorem FieldSpec.length_lengthPrefix (spec : FieldSpec) {length : ℕ}
    (hf : spec.lengthType ≠ .fixed) (h : length ≤ spec.maxLength) :
    (spec.lengthPrefix length).length = spec.lengthPrefixWidth := by
  rw [FieldSpec.lengthPrefix, if_neg hf]
  exact Positional.asciiDigits.length_write (by norm_num) (spec.length_lt hf h)

/-- The prefix of a valid length is a numeral that reads back as the length. -/
theorem FieldSpec.lengthPrefix_digits (spec : FieldSpec) {length : ℕ}
    (hf : spec.lengthType ≠ .fixed) (h : length ≤ spec.maxLength) :
    isDigits (spec.lengthPrefix length) = true ∧
      intOfDigits (spec.lengthPrefix length) = length := by
  have hlen := spec.length_lengthPrefix hf h
  have hpos := spec.lengthPrefixWidth_pos hf
  rw [FieldSpec.lengthPrefix, if_neg hf] at hlen ⊢
  refine ⟨isDigits_iff.mpr ⟨?_, ?_⟩, Positional.asciiDigits.read_write (by norm_num) _ _⟩
  · intro hnil
    rw [hnil, List.length_nil] at hlen
    omega
  · exact fun b hb => Positional.asciiDigits.isGlyph_of_mem_write (by norm_num) hb

/-- A length is read at an offset exactly when it is valid and its prefix is there. -/
theorem decodeLength_eq_ok {spec : FieldSpec} {payload : Bytes} {offset length start : ℕ} :
    decodeLength spec payload offset = .ok (length, start) ↔
      spec.ValidLength length ∧ start = offset + (spec.lengthPrefix length).length ∧
        (spec.lengthType = .fixed ∨ start ≤ payload.length) ∧
        slice payload offset start = spec.lengthPrefix length := by
  unfold decodeLength
  -- A fixed length is not in the payload; another one is announced by its prefix.
  by_cases hf : spec.lengthType = .fixed
  · rw [if_pos hf, pure_eq_ok, FieldSpec.ValidLength, if_pos hf, FieldSpec.lengthPrefix, if_pos hf]
    simp only [Prod.mk.injEq, List.length_nil, add_zero, hf, true_or, true_and]
    constructor
    · rintro ⟨rfl, rfl⟩
      exact ⟨rfl, rfl, by simp [slice]⟩
    · rintro ⟨rfl, rfl, -⟩
      exact ⟨rfl, rfl⟩
  · rw [if_neg hf, FieldSpec.ValidLength, if_neg hf]
    simp only [ite_throw_eq_ok, bind_eq_ok, pure_eq_ok, Prod.mk.injEq, not_lt, gt_iff_lt, hf,
      false_or, not_not]
    constructor
    · rintro ⟨hle, hdig, ⟨⟩, hcheck, rfl, rfl⟩
      obtain ⟨hne, hglyph⟩ := isDigits_iff.mp hdig
      have hvalid := checkLength_eq_ok.mp hcheck
      have hlen := spec.length_lengthPrefix hf hvalid.2
      have hslice : (slice payload offset (offset + spec.lengthPrefixWidth)).length =
          spec.lengthPrefixWidth := by
        rw [length_slice _ hle]
        omega
      refine ⟨hvalid, by rw [hlen], hle, ?_⟩
      -- The digits are those that the length is written with.
      have hwrite := Positional.asciiDigits.write_read (by norm_num) hglyph
      rw [hslice] at hwrite
      rw [FieldSpec.lengthPrefix, if_neg hf]
      exact hwrite.symm
    · rintro ⟨hvalid, hstart, hle, hslice⟩
      obtain ⟨hdig, hread⟩ := spec.lengthPrefix_digits hf hvalid.2
      rw [spec.length_lengthPrefix hf hvalid.2] at hstart
      subst hstart
      rw [hslice, hread]
      exact ⟨hle, hdig, (), checkLength_eq_ok.mpr hvalid, rfl, rfl⟩

/-! ## Elements -/

/-- The bytes of an element are the prefix of a valid length and the coerced value. -/
theorem encodeField_eq_ok {spec : FieldSpec} {value : FieldValue} {wire : Bytes} :
    encodeField spec value = .ok wire ↔
      ∃ raw, coerceAndValidateValue spec value = .ok raw ∧ spec.ValidLength raw.length ∧
        wire = spec.lengthPrefix raw.length ++ raw := by
  rw [encodeField, bind_eq_ok]
  refine exists_congr fun raw => and_congr_right fun _ => ?_
  by_cases hf : spec.lengthType = .fixed
  · simp only [hf, if_true, ite_throw_eq_ok, pure_eq_ok, FieldSpec.ValidLength,
      FieldSpec.lengthPrefix, not_not, List.nil_append]
    exact and_congr_right fun _ => eq_comm
  · simp only [hf, if_false, bind_eq_ok, pure_eq_ok, FieldSpec.ValidLength,
      FieldSpec.lengthPrefix]
    constructor
    · rintro ⟨⟨⟩, hcheck, rfl⟩
      exact ⟨checkLength_eq_ok.mp hcheck, rfl⟩
    · rintro ⟨hvalid, rfl⟩
      exact ⟨(), checkLength_eq_ok.mpr hvalid, rfl⟩

/-- A value satisfies a specification: it is of the kind, the characters and the length that the
specification names. -/
def FieldSpec.Admits (spec : FieldSpec) : FieldValue → Prop
  | .text s => spec.dataType ≠ .binary ∧ (∀ c ∈ s.toList, spec.dataType.Admits c.toNat) ∧
      spec.ValidLength s.length
  | .bytes raw => spec.dataType = .binary ∧ spec.ValidLength raw.length

/-- The octets of a type of text are ASCII. -/
theorem FieldDataType.Admits.lt {type : FieldDataType} {octet : ℕ} (h : type.Admits octet)
    (htype : type ≠ .binary) : octet < 128 := by
  cases type with
  | n => exact lt_of_le_of_lt h.2 (by norm_num)
  | ans => exact lt_of_le_of_lt h.2 (by norm_num)
  | binary => exact absurd rfl htype

/-- These bytes are those of a value. -/
def FieldValue.HasBytes (raw : Bytes) : FieldValue → Prop
  | .text s => encodeAscii s = .ok raw
  | .bytes raw' => raw' = raw

/-- A value is coerced to bytes of a valid length exactly when it satisfies its specification and
the bytes are its own. -/
theorem coerce_valid_iff {spec : FieldSpec} {value : FieldValue} {raw : Bytes} :
    coerceAndValidateValue spec value = .ok raw ∧ spec.ValidLength raw.length ↔
      spec.Admits value ∧ value.HasBytes raw := by
  cases value with
  | text s =>
    by_cases hb : spec.dataType = .binary
    · simp [coerceAndValidateValue, FieldSpec.Admits, hb]
    · rw [coerceAndValidateValue_text hb, validateTextBytes_eq_ok]
      -- The octets of the text are its characters.
      have hoctets : ∀ hascii : encodeAscii s = .ok raw,
          (∀ b ∈ raw, spec.dataType.Admits b.toNat) ↔
            ∀ c ∈ s.toList, spec.dataType.Admits c.toNat := by
        intro hascii
        obtain ⟨rfl, hs⟩ := encodeAscii_eq_ok hascii
        rw [List.forall_mem_map]
        refine forall₂_congr fun c hc => ?_
        rw [UInt8.toNat_ofNat', Nat.mod_eq_of_lt (by have := hs c hc; omega)]
      constructor
      · rintro ⟨⟨hascii, hall⟩, hlength⟩
        rw [← length_of_encodeAscii hascii] at hlength
        exact ⟨⟨hb, (hoctets hascii).mp hall, hlength⟩, hascii⟩
      · rintro ⟨⟨-, hall, hlength⟩, hascii⟩
        rw [length_of_encodeAscii hascii] at hlength
        exact ⟨⟨hascii, (hoctets hascii).mpr hall⟩, hlength⟩
  | bytes raw' =>
    cases hb : spec.dataType with
    | binary =>
      simp only [coerceAndValidateValue, FieldSpec.Admits, FieldValue.HasBytes, hb, pure_eq_ok,
        true_and]
      constructor
      · rintro ⟨rfl, hlength⟩
        exact ⟨hlength, rfl⟩
      · rintro ⟨hlength, rfl⟩
        exact ⟨rfl, hlength⟩
    | n => simp [coerceAndValidateValue, FieldSpec.Admits, hb]
    | ans => simp [coerceAndValidateValue, FieldSpec.Admits, hb]

/-- The elements that are encoded are the values that satisfy their specification. -/
theorem encodeField_isOk_iff {spec : FieldSpec} {value : FieldValue} :
    (∃ wire, encodeField spec value = .ok wire) ↔ spec.Admits value := by
  simp only [encodeField_eq_ok]
  constructor
  · rintro ⟨-, raw, hcoerce, hlength, rfl⟩
    exact (coerce_valid_iff.mp ⟨hcoerce, hlength⟩).1
  · intro hadmits
    have hraw : ∃ raw, value.HasBytes raw := by
      cases value with
      | text s => exact ⟨_, encodeAscii_of_lt fun c hc => (hadmits.2.1 c hc).lt hadmits.1⟩
      | bytes raw => exact ⟨raw, rfl⟩
    obtain ⟨raw, hraw⟩ := hraw
    obtain ⟨hcoerce, hlength⟩ := coerce_valid_iff.mpr ⟨hadmits, hraw⟩
    exact ⟨_, raw, hcoerce, hlength, rfl⟩

/-- An element is read at an offset exactly when the bytes from there to where reading stops are
the element's encoding. -/
theorem decodeField_eq_ok {spec : FieldSpec} {payload : Bytes} {offset stop : ℕ}
    {value : FieldValue} (hoffset : offset ≤ payload.length) :
    decodeField spec payload offset = .ok (value, stop) ↔
      ∃ wire, encodeField spec value = .ok wire ∧ stop = offset + wire.length ∧
        payload.drop offset = wire ++ payload.drop stop := by
  rw [decodeField, bind_eq_ok]
  constructor
  · rintro ⟨⟨length, start⟩, hlength, h⟩
    simp only [ite_throw_eq_ok, bind_eq_ok, pure_eq_ok, gt_iff_lt, not_lt,
      Prod.mk.injEq] at h
    obtain ⟨hle, value', hvalue, rfl, rfl⟩ := h
    obtain ⟨hvalid, hstart, -, hannounced⟩ := decodeLength_eq_ok.mp hlength
    have hraw : (slice payload start (start + length)).length = length := by
      rw [length_slice _ hle]
      omega
    -- The element is its prefix and as many bytes as this announces.
    refine ⟨slice payload offset start ++ slice payload start (start + length),
      encodeField_eq_ok.mpr ⟨slice payload start (start + length), coerce_iff.mpr hvalue, ?_, ?_⟩,
      ?_, ?_⟩
    · rwa [hraw]
    · rw [hannounced, hraw]
    · rw [List.length_append, hraw, hannounced]
      omega
    · rw [List.append_assoc, ← drop_eq_slice_append (Nat.le_add_right start length),
        ← drop_eq_slice_append (by omega)]
  · rintro ⟨wire, hwire, rfl, hdrop⟩
    obtain ⟨raw, hcoerce, hvalid, rfl⟩ := encodeField_eq_ok.mp hwire
    -- What is encoded is at the offset, so the prefix and the value are found there.
    have htotal := congrArg List.length hdrop
    simp only [List.length_append, List.length_drop] at htotal
    rw [List.append_assoc] at hdrop
    have hslice := slice_of_drop_eq (drop_add_of_drop_eq hdrop)
    have hlength : decodeLength spec payload offset =
        .ok (raw.length, offset + (spec.lengthPrefix raw.length).length) :=
      decodeLength_eq_ok.mpr ⟨hvalid, rfl, Or.inr (by omega), slice_of_drop_eq hdrop⟩
    refine ⟨(raw.length, offset + (spec.lengthPrefix raw.length).length), hlength, ?_⟩
    simp only [ite_throw_eq_ok, bind_eq_ok, pure_eq_ok, gt_iff_lt, not_lt, Prod.mk.injEq]
    refine ⟨by omega, value, ?_, rfl, by rw [List.length_append]; omega⟩
    rw [hslice]
    exact coerce_iff.mp hcoerce

end AtlasPay
