import AtlasPay.Codec.Errors
import AtlasPay.Codec.RoundTrip
import AtlasPay.Library.Parts

/-!
# The layout of a decoded payload

`decode` returns or raises `ISO8583CodecError` on any bytes. Where it returns, the payload is the
MTI, the bitmaps, and for each element in ascending order its length prefix and its value, end to
end: no byte is in two of them, and none is left over. `Layout` says which bytes are which, and that
the message holds the values, each of which satisfies its specification.
-/

namespace AtlasPay

open Parts (joined StartsAt Within)

/-- What some bytes of a payload are. -/
inductive Part where
  | mti
  | primaryBitmap
  | secondaryBitmap
  | lengthPrefix (number : ℕ)
  | value (number : ℕ)
  deriving DecidableEq

/-- The parts of an element: the prefix, which is empty for a fixed length, and the value. -/
def FieldSpec.parts (spec : FieldSpec) (raw : Bytes) : List (Part × Bytes) :=
  [(.lengthPrefix spec.number, spec.lengthPrefix raw.length), (.value spec.number, raw)]

/-- The parts of a payload with these elements, each given by the bytes of its value. -/
def payloadParts (hasSecondary : Bool) (mtiRaw : Bytes) (elements : List (FieldSpec × Bytes)) :
    List (Part × Bytes) :=
  let numbers := elements.map fun element => element.1.number
  (.mti, mtiRaw) :: (.primaryBitmap, toBytes 8 (primaryBitmap hasSecondary numbers)) ::
    ((if hasSecondary then [(.secondaryBitmap, toBytes 8 (secondaryBitmap numbers))] else []) ++
      elements.flatMap fun element => element.1.parts element.2)

/-- How the bytes of a payload make a message under a profile. -/
structure ISO8583Codec.Layout (codec : ISO8583Codec) (payload : Bytes) (message : ISO8583Message)
    (mtiRaw : Bytes) (elements : List (FieldSpec × Bytes)) : Prop where
  /-- The payload is its parts, end to end. -/
  joined : joined (payloadParts (indicator payload) mtiRaw elements) = payload
  /-- Every byte is in exactly one part. -/
  within : ∀ i < payload.length,
    ∃! part, Within (payloadParts (indicator payload) mtiRaw elements) part i
  /-- A part is what the payload has at its place. -/
  slices : ∀ part raw start,
    StartsAt (payloadParts (indicator payload) mtiRaw elements) part raw start →
      slice payload start (start + raw.length) = raw
  /-- The MTI is the message's. -/
  mti : encodeMti message.mti = .ok mtiRaw
  /-- The elements ascend. -/
  ascending : elements.Pairwise (·.1.number < ·.1.number)
  /-- Each element has the specification of the profile, and a length that this admits. -/
  specs : ∀ element ∈ elements, codec.fieldSpecs element.1.number = some element.1 ∧
    element.1.ValidLength element.2.length
  /-- The message has the elements' values, each of which satisfies its specification, and no
  others. -/
  fields : ∀ number value, message.fields.lookup number = some value ↔
    ∃ element ∈ elements, element.1.number = number ∧ element.1.Admits value ∧
      value.HasBytes element.2

namespace ISO8583Codec

variable {codec : ISO8583Codec}

/-- An element has this specification, and these bytes as its value. -/
def Specifies (codec : ISO8583Codec) (element : Element) (specified : FieldSpec × Bytes) : Prop :=
  codec.fieldSpecs element.1 = some specified.1 ∧ specified.1.Admits element.2 ∧
    element.2.HasBytes specified.2

/-- A specified element has the number of its specification. -/
theorem Specifies.number_eq {element : Element} {specified : FieldSpec × Bytes}
    (h : codec.Specifies element specified) : specified.1.number = element.1 :=
  codec.number_eq element.1 specified.1 h.1

/-- Elements that encode have specifications and bytes, which are the parts of the encodings. -/
theorem exists_specified {elements : List Element} {wires : List Bytes}
    (h : List.Forall₂ codec.Encodes elements wires) :
    ∃ specified, List.Forall₂ codec.Specifies elements specified ∧
      joined (specified.flatMap fun element => element.1.parts element.2) = wires.flatten := by
  induction h with
  | nil => exact ⟨[], .nil, rfl⟩
  | cons hhead _ ih =>
    obtain ⟨spec, hspec, hwire⟩ := hhead
    obtain ⟨raw, hcoerce, hlength, rfl⟩ := encodeField_eq_ok.mp hwire
    obtain ⟨specified, hspecified, hjoined⟩ := ih
    refine ⟨(spec, raw) :: specified,
      .cons ⟨hspec, coerce_valid_iff.mp ⟨hcoerce, hlength⟩⟩ hspecified, ?_⟩
    rw [List.flatMap_cons, Parts.joined_append, hjoined, List.flatten_cons]
    simp [FieldSpec.parts]

/-- Specified elements have the numbers of their specifications. -/
theorem map_number_eq {elements : List Element} {specified : List (FieldSpec × Bytes)}
    (h : List.Forall₂ codec.Specifies elements specified) :
    (specified.map fun element => element.1.number) = elements.map Sigma.fst := by
  induction h with
  | nil => rfl
  | cons hhead _ ih => rw [List.map_cons, List.map_cons, ih, hhead.number_eq]

/-- A specified element's specification is the profile's, and the length of its bytes is valid. -/
theorem specs_of_specifies {elements : List Element} {specified : List (FieldSpec × Bytes)}
    (h : List.Forall₂ codec.Specifies elements specified) :
    ∀ element ∈ specified, codec.fieldSpecs element.1.number = some element.1 ∧
      element.1.ValidLength element.2.length := by
  induction h with
  | nil => exact fun _ hnil => absurd hnil List.not_mem_nil
  | cons hhead _ ih =>
    refine List.forall_mem_cons.mpr ⟨⟨?_, (coerce_valid_iff.mpr hhead.2).2⟩, ih⟩
    rw [hhead.number_eq]
    exact hhead.1

/-- The labels of the elements' parts. -/
theorem mem_elementLabels {elements : List (FieldSpec × Bytes)} {part : Part} :
    part ∈ (elements.flatMap fun element => element.1.parts element.2).map Prod.fst ↔
      ∃ element ∈ elements,
        part = .lengthPrefix element.1.number ∨ part = .value element.1.number := by
  simp only [List.map_flatMap, List.mem_flatMap, FieldSpec.parts, List.map_cons, List.map_nil,
    List.mem_cons, List.not_mem_nil, or_false]

/-- No two parts have the same label. -/
theorem nodup_labels {hasSecondary : Bool} {mtiRaw : Bytes} {elements : List (FieldSpec × Bytes)}
    (h : elements.Pairwise (·.1.number < ·.1.number)) :
    ((payloadParts hasSecondary mtiRaw elements).map Prod.fst).Nodup := by
  have helements :
      ((elements.flatMap fun element => element.1.parts element.2).map Prod.fst).Nodup := by
    rw [List.map_flatMap, List.nodup_flatMap]
    refine ⟨fun element _ => by simp [FieldSpec.parts], h.imp fun {first second} hlt => ?_⟩
    have hne : first.1.number ≠ second.1.number := ne_of_lt hlt
    simp [Function.onFun, FieldSpec.parts, hne.symm]
  -- The other labels are not those of elements.
  have hother : ∀ part, (∀ number, part ≠ .lengthPrefix number ∧ part ≠ .value number) →
      part ∉ (elements.flatMap fun element => element.1.parts element.2).map Prod.fst := by
    intro part hpart hmem
    obtain ⟨element, -, heq | heq⟩ := mem_elementLabels.mp hmem
    · exact (hpart _).1 heq
    · exact (hpart _).2 heq
  have hmti := hother .mti fun _ => ⟨nofun, nofun⟩
  have hprimary := hother .primaryBitmap fun _ => ⟨nofun, nofun⟩
  have hsecondary := hother .secondaryBitmap fun _ => ⟨nofun, nofun⟩
  unfold payloadParts
  cases hasSecondary with
  | true =>
    simp only [if_true, List.map_cons, List.cons_append, List.nil_append, List.nodup_cons,
      List.mem_cons, reduceCtorEq, false_or]
    exact ⟨hmti, hprimary, hsecondary, helements⟩
  | false =>
    simp only [Bool.false_eq_true, if_false, List.map_cons, List.nil_append, List.nodup_cons,
      List.mem_cons, reduceCtorEq, false_or]
    exact ⟨hmti, hprimary, helements⟩

/-- The parts of a frame are its bytes. -/
theorem joined_payloadParts {hasSecondary : Bool} {mtiRaw : Bytes} {elements : List Element}
    {specified : List (FieldSpec × Bytes)} {wires : List Bytes}
    (hspecified : List.Forall₂ codec.Specifies elements specified)
    (hjoined : joined (specified.flatMap fun element => element.1.parts element.2) =
      wires.flatten) :
    joined (payloadParts hasSecondary mtiRaw specified) =
      mtiRaw ++ bitmapBytes hasSecondary (elements.map Sigma.fst) ++ wires.flatten := by
  unfold payloadParts bitmapBytes
  rw [map_number_eq hspecified]
  cases hasSecondary with
  | true =>
    simp only [if_true, Parts.joined_cons, Parts.joined_append, Parts.joined_nil, hjoined,
      List.append_assoc, List.nil_append]
  | false =>
    simp only [Bool.false_eq_true, if_false, Parts.joined_cons, hjoined, List.append_assoc,
      List.nil_append]

/-- The values under a number are those with the bytes of an element of the number. -/
theorem lookup_eq_some_iff_specified {elements : List Element}
    {specified : List (FieldSpec × Bytes)} (hsorted : elements.Pairwise (·.1 < ·.1))
    (hspecified : List.Forall₂ codec.Specifies elements specified) {number : ℕ}
    {value : FieldValue} :
    (insertAll elements ∅).lookup number = some value ↔
      ∃ element ∈ specified, element.1.number = number ∧ element.1.Admits value ∧
        value.HasBytes element.2 := by
  rw [← Option.mem_def, AList.mem_lookup_iff, entries_insertAll_empty hsorted, List.mem_reverse]
  -- The order of the elements was needed for the fields alone.
  clear hsorted
  induction hspecified with
  | nil => simp
  | @cons first second _ _ hhead _ ih =>
    rw [List.mem_cons, ih, List.exists_mem_cons_iff, hhead.number_eq]
    refine or_congr_left ?_
    constructor
    · rintro rfl
      exact ⟨rfl, hhead.2⟩
    · rintro ⟨rfl, hadmits, hbytes⟩
      -- Bytes are those of one value only.
      have hvalue := coerce_iff.mp (coerce_valid_iff.mpr ⟨hadmits, hbytes⟩).1
      have hfirst := coerce_iff.mp (coerce_valid_iff.mpr hhead.2).1
      rw [hvalue, Except.ok.injEq] at hfirst
      rw [hfirst]

/-- `decode` returns or raises a codec error on any bytes, and where it returns, the bytes are laid
out as the message that it returns. -/
theorem decode_layout (codec : ISO8583Codec) (payload : Bytes) :
    (∃ text, codec.decode payload = .error (.iso8583CodecError text)) ∨
    ∃ message mtiRaw elements, codec.decode payload = .ok message ∧
      codec.Layout payload message mtiRaw elements := by
  cases hdecode : codec.decode payload with
  | error e =>
    obtain ⟨text, rfl⟩ := codec.raises_decode payload e hdecode
    exact Or.inl ⟨text, rfl⟩
  | ok message =>
    right
    obtain ⟨elements, ⟨mtiRaw, wires, hmti, hsorted, -, hwires, hpayload⟩, hfields⟩ :=
      decode_eq_ok.mp hdecode
    obtain ⟨specified, hspecified, hjoined⟩ := exists_specified hwires
    -- The elements come in the order of the bitmaps, so no two parts have one label.
    have hascending : specified.Pairwise (·.1.number < ·.1.number) := by
      rw [← List.pairwise_map, map_number_eq hspecified]
      exact pairwise_map_fst hsorted
    have hparts : joined (payloadParts (indicator payload) mtiRaw specified) = payload :=
      (joined_payloadParts hspecified hjoined).trans hpayload.symm
    refine ⟨message, mtiRaw, specified, rfl, hparts, ?_, ?_, hmti, hascending,
      specs_of_specifies hspecified, ?_⟩
    · intro i hi
      refine Parts.existsUnique_within (nodup_labels hascending) ?_
      rwa [hparts]
    · intro part raw start hstart
      have htake := hstart.take_drop
      rwa [hparts, ← Nat.add_sub_cancel_left start raw.length] at htake
    · intro number value
      rw [hfields]
      exact lookup_eq_some_iff_specified hsorted hspecified

end ISO8583Codec

end AtlasPay
