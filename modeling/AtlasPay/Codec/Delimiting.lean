import AtlasPay.Codec.Errors
import AtlasPay.Codec.RoundTrip
import AtlasPay.Library.SelfDelimiting

/-!
# Payloads end where they say

A fixed element has one length and the prefix of another one announces how it goes on, so that the
encodings under a specification are self-delimiting. The MTI and the primary bitmap have twelve
bytes, the indicator says whether eight more follow, and the bitmaps say which elements come then:
the accepted payloads are self-delimiting as well, and none of them can be cut or prolonged.
-/

namespace AtlasPay

/-- The encodings under a specification. -/
def FieldSpec.words (spec : FieldSpec) : Set Bytes :=
  {wire | ∃ value, encodeField spec value = .ok wire}

/-- An element ends where its specification or its length prefix says. -/
theorem FieldSpec.selfDelimiting (spec : FieldSpec) : SelfDelimiting spec.words := by
  by_cases hfixed : spec.lengthType = .fixed
  · have hlengths : ∀ wire ∈ spec.words, wire.length = spec.maxLength := by
      rintro wire ⟨value, hwire⟩
      obtain ⟨raw, -, hlength, rfl⟩ := encodeField_eq_ok.mp hwire
      rw [FieldSpec.ValidLength, if_pos hfixed] at hlength
      rw [FieldSpec.lengthPrefix, if_pos hfixed, List.nil_append, hlength]
    exact SelfDelimiting.of_length hlengths
  · -- The prefix has a fixed length, and announces that of the value.
    have hheads : SelfDelimiting {lengthPrefix : Bytes | lengthPrefix.length =
        spec.lengthPrefixWidth} := SelfDelimiting.of_length fun _ => id
    have htails : ∀ lengthPrefix : Bytes, SelfDelimiting {raw : Bytes | raw.length =
        intOfDigits lengthPrefix} := fun _ => SelfDelimiting.of_length fun _ => id
    refine (hheads.append fun lengthPrefix _ => htails lengthPrefix).mono ?_
    rintro wire ⟨value, hwire⟩
    obtain ⟨raw, -, hlength, rfl⟩ := encodeField_eq_ok.mp hwire
    rw [FieldSpec.ValidLength, if_neg hfixed] at hlength
    exact ⟨_, spec.length_lengthPrefix hfixed hlength.2, raw,
      (spec.lengthPrefix_digits hfixed hlength.2).2.symm, rfl⟩

namespace ISO8583Codec

variable (codec : ISO8583Codec)

/-- `decode` returns. -/
def Accepts (payload : Bytes) : Prop := ∃ message, codec.decode payload = .ok message

/-- The encodings of the element of a number. -/
def elementWords (number : ℕ) : Set Bytes :=
  {wire | ∃ value, codec.Encodes ⟨number, value⟩ wire}

/-- The secondary bitmaps that follow an MTI and a primary bitmap: one or none. -/
def secondaryWords (head : Bytes) : Set Bytes :=
  {secondary | secondary.length = if (fromBytes (head.drop 4)).testBit 63 then 8 else 0}

/-- The elements that follow an MTI and the bitmaps: those that the bitmaps announce. -/
def elementsWords (head secondary : Bytes) : Set Bytes :=
  SelfDelimiting.Flatten
    ((decodeFieldNumbers (fromBytes (head.drop 4)) secondary).map codec.elementWords)

/-- The payloads: MTI and primary bitmap, secondary bitmap, and elements. -/
def payloadWords : Set Bytes :=
  SelfDelimiting.Append {head | head.length = 12} fun head =>
    SelfDelimiting.Append (secondaryWords head) (codec.elementsWords head)

variable {codec}

/-- An element ends where it says. -/
theorem selfDelimiting_elementWords (number : ℕ) : SelfDelimiting (codec.elementWords number) := by
  cases hspec : codec.fieldSpecs number with
  | none =>
    rintro _ ⟨_, spec, hsome, -⟩
    cases hspec.symm.trans hsome
  | some spec =>
    refine spec.selfDelimiting.mono ?_
    rintro wire ⟨value, spec', hsome, hwire⟩
    cases hspec.symm.trans hsome
    exact ⟨value, hwire⟩

/-- A payload ends where it says. -/
theorem selfDelimiting_payloadWords : SelfDelimiting codec.payloadWords := by
  have helements : ∀ head secondary, SelfDelimiting (codec.elementsWords head secondary) := by
    intro head secondary
    refine SelfDelimiting.flatten fun words hwords => ?_
    obtain ⟨number, -, rfl⟩ := List.mem_map.mp hwords
    exact selfDelimiting_elementWords number
  have hsecondary : ∀ head, SelfDelimiting (secondaryWords head) := fun head =>
    SelfDelimiting.of_length fun _ => id
  have hhead : SelfDelimiting {head : Bytes | head.length = 12} :=
    SelfDelimiting.of_length fun _ => id
  -- Twelve bytes first; they fix the length of the next part, and both fix the elements.
  exact hhead.append fun head _ => (hsecondary head).append fun secondary _ =>
    helements head secondary

/-- The encodings of some elements are words of their numbers. -/
theorem words_of_encodes {elements : List Element} {wires : List Bytes}
    (h : List.Forall₂ codec.Encodes elements wires) :
    List.Forall₂ (fun wire words => wire ∈ words) wires
      ((elements.map Sigma.fst).map codec.elementWords) := by
  induction h with
  | nil => exact .nil
  | @cons element wire _ _ hhead _ ih => exact .cons ⟨element.2, hhead⟩ ih

/-- What `decode` accepts is a payload in this sense. -/
theorem mem_payloadWords {payload : Bytes} (h : codec.Accepts payload) :
    payload ∈ codec.payloadWords := by
  obtain ⟨message, hmessage⟩ := h
  obtain ⟨elements, ⟨mtiRaw, wires, hmti, hsorted, hsec, hwires, hpayload⟩, -⟩ :=
    decode_eq_ok.mp hmessage
  -- Read back from the bytes, the primary bitmap says whether there is a secondary one.
  generalize indicator payload = hasSecondary at *
  have hrange := range_of_forall₂ hwires
  have hnum : ∀ number ∈ elements.map Sigma.fst, 2 ≤ number := fun number hmem =>
    (hrange number hmem).1
  have hmtiLen := length_of_encodeMti hmti
  have hprimaryLen := length_toBytes (primaryBitmap_lt hasSecondary hnum)
  have hprimary : fromBytes ((mtiRaw ++
      toBytes 8 (primaryBitmap hasSecondary (elements.map Sigma.fst))).drop 4) =
      primaryBitmap hasSecondary (elements.map Sigma.fst) := by
    rw [List.drop_left' hmtiLen, fromBytes_toBytes]
  refine ⟨mtiRaw ++ toBytes 8 (primaryBitmap hasSecondary (elements.map Sigma.fst)), ?_,
    (if hasSecondary then toBytes 8 (secondaryBitmap (elements.map Sigma.fst)) else []) ++
      wires.flatten, ⟨_, ?_, wires.flatten, ⟨wires, ?_, rfl⟩, rfl⟩, ?_⟩
  · -- Type and primary bitmap are 12 bytes, and say how many come next.
    change (mtiRaw ++ toBytes 8 _).length = 12
    rw [List.length_append, hmtiLen, hprimaryLen]
  · change List.length _ = _
    rw [hprimary, testBit_63_primaryBitmap hnum]
    cases hasSecondary with
    | true => exact length_toBytes (secondaryBitmap_lt _)
    | false => rfl
  · -- The bitmaps announce the elements.
    rw [hprimary, decodeFieldNumbers_bitmaps hrange ?_ (pairwise_map_fst hsorted) fun _ => Iff.rfl]
    · exact words_of_encodes hwires
    · intro number hmem h64
      obtain ⟨element, helement, rfl⟩ := List.mem_map.mp hmem
      exact hsec element helement h64
  · rw [hpayload, bitmapBytes]
    simp only [List.append_assoc]

/-- No accepted payload can be prolonged. -/
theorem eq_nil_of_accepts {payload rest : Bytes} (h : codec.Accepts payload)
    (hlonger : codec.Accepts (payload ++ rest)) : rest = [] :=
  selfDelimiting_payloadWords.eq_nil (mem_payloadWords h) (mem_payloadWords hlonger)

/-- What is not accepted raises a codec error. -/
theorem raises_of_not_accepts {payload : Bytes} (h : ¬codec.Accepts payload) :
    ∃ text, codec.decode payload = .error (.iso8583CodecError text) := by
  cases hdecode : codec.decode payload with
  | error e =>
    obtain ⟨text, rfl⟩ := codec.raises_decode payload e hdecode
    exact ⟨text, rfl⟩
  | ok message => exact absurd ⟨message, hdecode⟩ h

/-- An accepted payload with more bytes after it, or without some of its last ones, is rejected. -/
theorem decode_selfDelimiting (codec : ISO8583Codec) {payload : Bytes}
    (h : codec.Accepts payload) :
    (∀ rest, codec.Accepts (payload ++ rest) → rest = []) ∧
    (∀ rest, rest ≠ [] →
      ∃ text, codec.decode (payload ++ rest) = .error (.iso8583CodecError text)) ∧
    ∀ kept lost, payload = kept ++ lost → lost ≠ [] →
      ∃ text, codec.decode kept = .error (.iso8583CodecError text) := by
  refine ⟨fun rest => eq_nil_of_accepts h, fun rest hne => ?_, fun kept lost hpayload hne => ?_⟩
  · exact raises_of_not_accepts fun hlonger => hne (eq_nil_of_accepts h hlonger)
  · rw [hpayload] at h
    exact raises_of_not_accepts fun hshorter => hne (eq_nil_of_accepts hshorter h)

/-- The payload with DE3 alone, prolonged and cut. -/
theorem decode_selfDelimiting_de3 :
    (∃ text, defaultCodec.decode
      ([48, 50, 48, 48, 32, 0, 0, 0, 0, 0, 0, 0, 48, 48, 48, 48, 48, 48] ++ [48]) =
        .error (.iso8583CodecError text)) ∧
    ∃ text, defaultCodec.decode
      [48, 50, 48, 48, 32, 0, 0, 0, 0, 0, 0, 0, 48, 48, 48, 48, 48] =
        .error (.iso8583CodecError text) := by
  have h : defaultCodec.Accepts
      [48, 50, 48, 48, 32, 0, 0, 0, 0, 0, 0, 0, 48, 48, 48, 48, 48, 48] := ⟨_, rfl⟩
  obtain ⟨-, hlonger, hshorter⟩ := decode_selfDelimiting defaultCodec h
  exact ⟨hlonger [48] (by decide), hshorter _ [48] rfl (by decide)⟩

end ISO8583Codec

end AtlasPay
