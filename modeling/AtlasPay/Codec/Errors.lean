import AtlasPay.Codec.Frame

/-!
# What the decoder raises

Whatever the bytes and the profile are, `decode` raises nothing but `ISO8583CodecError`: each of its
steps does, since the bytes of a text element are checked before they are taken as ASCII.
-/

namespace AtlasPay

/-- The call raises nothing but codec errors. -/
def RaisesCodecError {α : Type*} (x : Py α) : Prop :=
  ∀ e, x = .error e → ∃ message, e = .iso8583CodecError message

namespace RaisesCodecError

/-- A call that returns does not raise. -/
theorem ok {α : Type*} (a : α) : RaisesCodecError (.ok a) := nofun

/-- A codec error is one. -/
theorem throw {α : Type*} (message : String) :
    RaisesCodecError (throw (.iso8583CodecError message) : Py α) := by
  rintro _ ⟨⟩
  exact ⟨message, rfl⟩

/-- Two calls one after the other raise what one of them raises. -/
theorem bind {α β : Type} {x : Py α} {f : α → Py β} (hx : RaisesCodecError x)
    (hf : ∀ a, x = .ok a → RaisesCodecError (f a)) : RaisesCodecError (x >>= f) := by
  cases x with
  | error e =>
    rintro _ ⟨⟩
    exact hx e rfl
  | ok a => exact hf a rfl

/-- A branch raises what its sides raise. -/
theorem ite {α : Type*} {c : Prop} [Decidable c] {x y : Py α} (hx : c → RaisesCodecError x)
    (hy : ¬c → RaisesCodecError y) : RaisesCodecError (if c then x else y) := by
  by_cases h : c
  · rw [if_pos h]
    exact hx h
  · rw [if_neg h]
    exact hy h

end RaisesCodecError

/-- ASCII bytes decode, and others raise one error. -/
theorem decodeAscii_cases (raw : Bytes) :
    (∃ s, decodeAscii raw = .ok s) ∨ decodeAscii raw = .error .unicodeDecodeError := by
  unfold decodeAscii
  split
  · exact Or.inl ⟨_, rfl⟩
  · exact Or.inr rfl

/-- The bytes of a text element that pass the check of its type are ASCII. -/
theorem decodeAscii_of_validateTextBytes {spec : FieldSpec} {raw : Bytes}
    (htype : spec.dataType ≠ .binary) (h : validateTextBytes spec raw = .ok ()) :
    ∃ s, decodeAscii raw = .ok s := by
  have hoctets := validateTextBytes_eq_ok.mp h
  exact ⟨_, decodeAscii_of_lt fun b hb => (hoctets b hb).lt htype⟩

/-! ## The steps of the decoder -/

/-- `_decode_mti` raises codec errors. -/
theorem raises_decodeMti (raw : Bytes) : RaisesCodecError (decodeMti raw) := by
  unfold decodeMti
  rcases decodeAscii_cases raw with ⟨mti, hmti⟩ | hmti
  · rw [hmti]
    refine .bind ?_ fun _ _ => .ok _
    unfold encodeMti
    -- `_decode_mti` encodes the text again to check it; being ASCII, it can be encoded.
    refine .ite (fun _ => .throw _) fun _ => ?_
    rw [encodeAscii_of_decodeAscii hmti]
    exact .ok _
  · rw [hmti]
    exact .throw _

/-- The checks of a text element raise codec errors. -/
theorem raises_validateTextBytes (spec : FieldSpec) (raw : Bytes) :
    RaisesCodecError (validateTextBytes spec raw) := by
  unfold validateTextBytes
  refine .ite (fun _ => .throw _) fun _ => ?_
  exact .ite (fun _ => .throw _) fun _ => .ok _

/-- The check of a length raises codec errors. -/
theorem raises_checkLength (spec : FieldSpec) (length : ℕ) :
    RaisesCodecError (checkLength spec length) := by
  unfold checkLength
  exact .ite (fun _ => .throw _) fun _ => .ok _

/-- The length of an element raises codec errors. -/
theorem raises_decodeLength (spec : FieldSpec) (payload : Bytes) (offset : ℕ) :
    RaisesCodecError (decodeLength spec payload offset) := by
  unfold decodeLength
  refine .ite (fun _ => .ok _) fun _ => .ite (fun _ => .throw _) fun _ => ?_
  refine .ite (fun _ => .throw _) fun _ => ?_
  exact .bind (raises_checkLength _ _) fun _ _ => .ok _

/-- The value of an element raises codec errors. -/
theorem raises_coerceAndValidateDecodedValue (spec : FieldSpec) (raw : Bytes) :
    RaisesCodecError (coerceAndValidateDecodedValue spec raw) := by
  unfold coerceAndValidateDecodedValue
  refine .ite (fun _ => .ok _) fun htype => ?_
  refine .bind (raises_validateTextBytes spec raw) fun _ hvalid => ?_
  -- The bytes have passed the check of their type, and so they decode.
  obtain ⟨s, hs⟩ := decodeAscii_of_validateTextBytes htype hvalid
  rw [hs]
  exact .ok _

/-- `_decode_field` raises codec errors. -/
theorem raises_decodeField (spec : FieldSpec) (payload : Bytes) (offset : ℕ) :
    RaisesCodecError (decodeField spec payload offset) := by
  unfold decodeField
  refine .bind (raises_decodeLength _ _ _) fun _ _ => .ite (fun _ => .throw _) fun _ => ?_
  exact .bind (raises_coerceAndValidateDecodedValue _ _) fun _ _ => .ok _

namespace ISO8583Codec

variable (codec : ISO8583Codec)

/-- A number without a specification raises a codec error. -/
theorem raises_specFor (number : ℕ) : RaisesCodecError (codec.specFor number) := by
  unfold specFor
  split
  · exact .throw _
  · exact .ok _

/-- The loop over the elements raises codec errors. -/
theorem raises_decodeFields (payload : Bytes) (numbers : List ℕ) (offset : ℕ) (fields : Fields) :
    RaisesCodecError (codec.decodeFields payload numbers offset fields) := by
  -- Each element leaves another offset and other fields to the rest of the loop.
  induction numbers generalizing offset fields with
  | nil => exact .ok _
  | cons number numbers ih =>
    unfold decodeFields
    refine .bind (codec.raises_specFor number) fun _ _ => ?_
    exact .bind (raises_decodeField _ _ _) fun _ _ => ih _ _

/-- `decode` raises codec errors. -/
theorem raises_decode (payload : Bytes) : RaisesCodecError (codec.decode payload) := by
  unfold decode
  refine .ite (fun _ => .throw _) fun _ => .bind (raises_decodeMti _) fun _ _ => ?_
  refine .ite (fun _ => .throw _) fun _ => .bind (codec.raises_decodeFields _ _ _ _) fun _ _ => ?_
  exact .ite (fun _ => .throw _) fun _ => .ok _

end ISO8583Codec

end AtlasPay
