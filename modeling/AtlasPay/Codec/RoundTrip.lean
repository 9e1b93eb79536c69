import AtlasPay.Codec.Frame

/-!
# Encoding and decoding undo each other

`decode` undoes `encode` on everything that `encode` accepts (`decode_encode`). The other way there
is one exception: `decode` accepts a payload whose secondary bitmap is announced but empty, and
`encode` never writes one (`encode_decode_iff`).
-/

namespace AtlasPay

namespace ISO8583Codec

variable {codec : ISO8583Codec}

/-- The indicator that `decode` computes. -/
theorem decide_indicator (payload : Bytes) :
    decide (fromBytes (slice payload 4 12) &&& (1 <<< 63) ≠ 0) = indicator payload := by
  rw [indicator, Bool.eq_iff_iff, decide_eq_true_eq, and_shiftLeft_ne_zero]

/-- The loop of `decode` followed by its last check reads elements up to the end. -/
theorem decodeFields_all {payload : Bytes} {numbers : List ℕ} {offset : ℕ} {fields : Fields}
    (hoffset : offset ≤ payload.length) :
    codec.decodeFields payload numbers offset ∅ = .ok (fields, payload.length) ↔
      ∃ elements wires, elements.map Sigma.fst = numbers ∧
        List.Forall₂ codec.Encodes elements wires ∧ fields = insertAll elements ∅ ∧
        payload.drop offset = wires.flatten := by
  rw [decodeFields_eq_ok hoffset]
  refine exists_congr fun elements => exists_congr fun wires => and_congr_right fun _ =>
    and_congr_right fun _ => and_congr_right fun _ => ?_
  rw [List.drop_length, List.append_nil]
  constructor
  · exact fun h => h.2
  · intro h
    have hlen := congrArg List.length h
    rw [List.length_drop] at hlen
    exact ⟨by omega, h⟩

/-- `decode` accepts exactly the frames, and returns their MTI and elements. -/
theorem decode_eq_ok {payload : Bytes} {message : ISO8583Message} :
    codec.decode payload = .ok message ↔
      ∃ elements, codec.Frame (indicator payload) message.mti elements payload ∧
        message.fields = insertAll elements ∅ := by
  obtain ⟨mti, fields⟩ := message
  unfold decode
  simp only [ite_throw_eq_ok, bind_eq_ok, pure_eq_ok, not_lt, not_not, decodeMti_eq_ok,
    decide_indicator, ISO8583Message.mk.injEq]
  constructor
  · rintro ⟨h12, mti', hmti, hend, ⟨fields', stop⟩, hfields, rfl, rfl, rfl⟩
    obtain ⟨elements, wires, hmap, hwires, rfl, hdrop⟩ := (decodeFields_all hend).mp hfields
    refine ⟨elements, ⟨slice payload 0 4, wires, hmti, ?_, ?_, hwires, ?_⟩, rfl⟩
    · rw [← List.pairwise_map, hmap]
      exact decodeFieldNumbers_pairwise _ _
    · intro element helement h64
      have hmem := List.mem_map_of_mem (f := Sigma.fst) helement
      rw [hmap] at hmem
      rcases mem_decodeFieldNumbers.mp hmem with ⟨-, hle, -⟩ | ⟨-, -, hne, -⟩
      · omega
      · by_contra hfalse
        exact hne (if_neg hfalse)
    · have hprimary : (slice payload 4 12).length = 8 := length_slice 4 h12
      have hsecondary : (if indicator payload = true then slice payload 12 20 else []).length =
          if (fromBytes (slice payload 4 12)).testBit 63 = true then 8 else 0 := by
        change _ = if indicator payload = true then 8 else 0
        split_ifs at hend ⊢
        · exact length_slice 12 hend
        · rfl
      -- The bitmaps are those of the numbers that were decoded from them.
      have hbitmap := bitmapBytes_decodeFieldNumbers hprimary hsecondary
      rw [← hdrop, hmap]
      change payload = slice payload 0 4 ++ bitmapBytes (indicator payload) _ ++ _
      change bitmapBytes (indicator payload) _ = _ at hbitmap
      rw [hbitmap, List.append_assoc, List.append_assoc]
      calc payload = payload.drop 0 := rfl
        _ = slice payload 0 4 ++ payload.drop 4 := drop_eq_slice_append (by omega)
        _ = slice payload 0 4 ++ (slice payload 4 12 ++ payload.drop 12) := by
            rw [@drop_eq_slice_append payload 4 12 (by omega)]
        _ = _ := by
            congr 2
            split_ifs
            · exact drop_eq_slice_append (by omega)
            · rfl
  · rintro ⟨elements, hframe, rfl⟩
    obtain ⟨mtiRaw, wires, hmti, hslice, hprimary, -, hsecondary, hwires, hdrop, hlen⟩ :=
      hframe.parts
    obtain ⟨-, -, -, hsorted, hsec, -, -⟩ := hframe
    -- The bitmaps of the frame announce the elements that it has.
    have hnumbers : decodeFieldNumbers (fromBytes (slice payload 4 12))
        (if indicator payload = true then slice payload 12 20 else []) =
        elements.map Sigma.fst := by
      rw [hprimary, hsecondary]
      refine decodeFieldNumbers_bitmaps (range_of_forall₂ hwires) ?_ (pairwise_map_fst hsorted)
        fun _ => Iff.rfl
      intro number hmem h64
      obtain ⟨element, helement, rfl⟩ := List.mem_map.mp hmem
      exact hsec element helement h64
    have hend : (if indicator payload = true then 20 else 12) ≤ payload.length := by
      rw [hlen]
      exact Nat.le_add_right _ _
    refine ⟨?_, mti, hslice ▸ hmti, hend, (insertAll elements ∅, payload.length), ?_, rfl, rfl, rfl⟩
    · split_ifs at hend <;> omega
    · rw [hnumbers]
      exact (decodeFields_all hend).mpr ⟨elements, wires, rfl, hwires, rfl, hdrop⟩

/-! ## `decode` undoes `encode` -/

/-- The mapping of a frame's elements has the lookups of any mapping with those elements. -/
theorem lookup_insertAll {elements : List Element} {fields : Fields}
    (hsorted : elements.Pairwise (·.1 < ·.1)) (hperm : elements.Perm fields.entries) (number : ℕ) :
    (insertAll elements ∅).lookup number = fields.lookup number := by
  refine AList.perm_lookup ?_
  rw [entries_insertAll_empty hsorted]
  exact elements.reverse_perm.trans hperm

/-- A message is the same as its MTI with the mapping of its elements in ascending order. -/
theorem same_insertAll {message : ISO8583Message} {elements : List Element}
    (hsorted : elements.Pairwise (·.1 < ·.1)) (hperm : elements.Perm message.fields.entries) :
    ISO8583Message.Same ⟨message.mti, insertAll elements ∅⟩ message :=
  ⟨rfl, lookup_insertAll hsorted hperm⟩

/-- An encoded message is decoded to its MTI and its elements, inserted in ascending order. -/
theorem decode_of_encode {message : ISO8583Message} {payload : Bytes}
    (h : codec.encode message = .ok payload) :
    ∃ elements, codec.decode payload = .ok ⟨message.mti, insertAll elements ∅⟩ ∧
      elements.Pairwise (·.1 < ·.1) ∧ elements.Perm message.fields.entries := by
  obtain ⟨elements, hperm, hframe⟩ := encode_eq_ok.mp h
  obtain ⟨-, -, -, -, -, hindicator, -⟩ := hframe.parts
  refine ⟨elements, ?_, ?_, hperm⟩
  · refine decode_eq_ok.mpr ⟨elements, ?_, rfl⟩
    rwa [hindicator]
  · obtain ⟨-, -, -, hsorted, -⟩ := hframe
    exact hsorted

/-- Decoding an encoded message gives a message with the same MTI and the same mapping. -/
theorem decode_encode (codec : ISO8583Codec) {message : ISO8583Message} {payload : Bytes}
    (h : codec.encode message = .ok payload) :
    ∃ decoded, codec.decode payload = .ok decoded ∧ decoded.Same message := by
  obtain ⟨elements, hdecode, hsorted, hperm⟩ := decode_of_encode h
  exact ⟨_, hdecode, same_insertAll hsorted hperm⟩

/-- The round trip of a message with an LLVAR, an LLLVAR and a secondary-bitmap element, out of
order. -/
theorem decode_encode_de70_de55_de2 :
    ∃ decoded, defaultCodec.decode
        [48, 50, 48, 48, 192, 0, 0, 0, 0, 0, 2, 0, 4, 0, 0, 0, 0, 0, 0, 0, 48, 54, 49, 50, 51, 52,
          53, 54, 48, 48, 50, 159, 2, 48, 48, 49] = .ok decoded ∧
      decoded.Same ⟨"0200", (((∅ : Fields).insert 2 (.text "123456")).insert 55
        (.bytes [159, 2])).insert 70 (.text "001")⟩ :=
  decode_encode defaultCodec (by decide)

/-! ## `encode` undoes `decode`, but for an empty secondary bitmap -/

/-- The payload announces a secondary bitmap, and that bitmap announces nothing. -/
def EmptySecondaryBitmap (payload : Bytes) : Prop :=
  fromBytes (slice payload 4 12) &&& (1 <<< 63) ≠ 0 ∧ fromBytes (slice payload 12 20) = 0

instance (payload : Bytes) : Decidable (EmptySecondaryBitmap payload) :=
  inferInstanceAs (Decidable (_ ∧ _))

/-- A frame has an empty secondary bitmap exactly when it has a secondary bitmap that no element
needs. -/
theorem Frame.emptySecondaryBitmap_iff {hasSecondary : Bool} {mti : String}
    {elements : List Element} {payload : Bytes}
    (h : codec.Frame hasSecondary mti elements payload) :
    EmptySecondaryBitmap payload ↔
      ((elements.map Sigma.fst).any fun number => 64 < number) ≠ hasSecondary := by
  obtain ⟨-, wires, -, -, -, hindicator, hsecondary, hwires, -, -⟩ := h.parts
  obtain ⟨-, -, -, -, hsec, -, -⟩ := h
  have hset : fromBytes (slice payload 4 12) &&& (1 <<< 63) ≠ 0 ↔ hasSecondary = true := by
    rw [and_shiftLeft_ne_zero, ← hindicator]
    rfl
  rw [EmptySecondaryBitmap, hset]
  cases hasSecondary with
  | false =>
    simp only [Bool.false_eq_true, false_and, ne_eq, false_iff, not_not, List.any_eq_false,
      decide_eq_true_eq]
    -- A number above 64 needs the secondary bitmap.
    intro number hmem h64
    obtain ⟨element, helement, rfl⟩ := List.mem_map.mp hmem
    exact absurd (hsec element helement h64) Bool.false_ne_true
  | true =>
    rw [if_pos rfl, if_pos rfl] at hsecondary
    rw [hsecondary, fromBytes_toBytes]
    simp only [true_and, ne_eq, Bool.not_eq_true, List.any_eq_false, decide_eq_true_eq]
    constructor
    · intro hzero number hmem h64
      -- A bit that is set for an element makes the bitmap other than zero.
      have hbit := testBit_secondaryBitmap.mpr ⟨number, hmem, h64, rfl⟩
      rw [hzero, Nat.zero_testBit] at hbit
      exact Bool.false_ne_true hbit
    · intro hnone
      refine Nat.eq_of_testBit_eq fun i => ?_
      rw [Nat.zero_testBit, Bool.eq_false_iff, ne_eq, testBit_secondaryBitmap]
      rintro ⟨number, hmem, h64, -⟩
      exact hnone number hmem h64

/-- A frame's elements determine its payload, given whether there is a secondary bitmap. -/
theorem Frame.payload_unique {hasSecondary : Bool} {mti : String} {elements : List Element}
    {payload payload' : Bytes} (h : codec.Frame hasSecondary mti elements payload)
    (h' : codec.Frame hasSecondary mti elements payload') : payload = payload' := by
  obtain ⟨mtiRaw, wires, hmti, -, -, hwires, rfl⟩ := h
  obtain ⟨mtiRaw', wires', hmti', -, -, hwires', rfl⟩ := h'
  -- An element has one encoding.
  have hunique : Relator.RightUnique codec.Encodes := by
    rintro element wire wire' ⟨spec, hspec, hwire⟩ ⟨spec', hspec', hwire'⟩
    rw [hspec, Option.some.injEq] at hspec'
    subst hspec'
    rw [hwire, Except.ok.injEq] at hwire'
    exact hwire'
  rw [hmti, Except.ok.injEq] at hmti'
  rw [hmti', List.right_unique_forall₂' hunique hwires hwires']

/-- Messages with the same mapping have the same ascending elements. -/
theorem elements_eq_of_same {elements elements' : List Element}
    (hsorted : elements.Pairwise (·.1 < ·.1)) (hsorted' : elements'.Pairwise (·.1 < ·.1))
    (hlookup : ∀ number, (insertAll elements ∅).lookup number =
      (insertAll elements' ∅).lookup number) : elements = elements' := by
  -- The mapping says which elements there are, and the order is that of the numbers.
  have hmem : ∀ {es : List Element}, es.Pairwise (·.1 < ·.1) → ∀ element : Element,
      element ∈ es ↔ (insertAll es ∅).lookup element.1 = some element.2 := by
    intro es hes element
    rw [← Option.mem_def, AList.mem_lookup_iff, entries_insertAll_empty hes, List.mem_reverse]
  have hperm : elements.Perm elements' := by
    refine (List.perm_ext_iff_of_nodup ?_ ?_).mpr fun element => ?_
    · exact hsorted.imp fun hlt heq => absurd (heq ▸ hlt) (lt_irrefl _)
    · exact hsorted'.imp fun hlt heq => absurd (heq ▸ hlt) (lt_irrefl _)
    · rw [hmem hsorted, hmem hsorted', hlookup]
  exact hperm.eq_of_pairwise (fun a b _ _ hab hba => absurd hab (Nat.lt_asymm hba)) hsorted hsorted'

/-- Encoding a decoded message gives the payload back unless the payload has an empty secondary
bitmap, and two payloads without one that decode to the same message are equal. -/
theorem encode_decode_iff (codec : ISO8583Codec) {payload : Bytes} {message : ISO8583Message}
    (h : codec.decode payload = .ok message) :
    (codec.encode message = .ok payload ↔ ¬EmptySecondaryBitmap payload) ∧
      ∀ payload' message', codec.decode payload' = .ok message' → message.Same message' →
        ¬EmptySecondaryBitmap payload → ¬EmptySecondaryBitmap payload' → payload = payload' := by
  obtain ⟨elements, hframe, hfields⟩ := decode_eq_ok.mp h
  have hempty := hframe.emptySecondaryBitmap_iff
  have hsorted := hframe.choose_spec.choose_spec.2.1
  constructor
  -- `encode` sets the indicator where an element needs it, which is where it was read.
  · rw [hempty, not_not, encode_eq_ok]
    constructor
    · rintro ⟨elements', hperm, hframe'⟩
      obtain ⟨-, -, -, -, -, hindicator, -⟩ := hframe'.parts
      rw [hindicator]
      refine any_congr fun x => ?_
      rw [(hperm.map Sigma.fst).mem_iff, hfields, entries_insertAll_empty hsorted,
        List.map_reverse, List.mem_reverse]
    · intro hany
      refine ⟨elements, ?_, by rwa [hany]⟩
      rw [hfields, entries_insertAll_empty hsorted]
      exact elements.reverse_perm.symm
  · intro payload' message' h' hsame hne hne'
    obtain ⟨elements', hframe', hfields'⟩ := decode_eq_ok.mp h'
    have hsorted' := hframe'.choose_spec.choose_spec.2.1
    obtain ⟨hmti, hlookup⟩ := hsame
    rw [hfields, hfields'] at hlookup
    have heq := elements_eq_of_same hsorted hsorted' hlookup
    rw [hempty, not_not] at hne
    rw [hframe'.emptySecondaryBitmap_iff, not_not] at hne'
    rw [← hmti, ← heq, ← hne', ← heq] at hframe'
    rw [← hne] at hframe
    exact hframe.payload_unique hframe'

/-- The condition is met by a payload with DE3 alone. -/
theorem encode_decode_de3 :
    (defaultCodec.encode ⟨"0200", (∅ : Fields).insert 3 (.text "000000")⟩ =
        .ok [48, 50, 48, 48, 32, 0, 0, 0, 0, 0, 0, 0, 48, 48, 48, 48, 48, 48] ↔
      ¬EmptySecondaryBitmap [48, 50, 48, 48, 32, 0, 0, 0, 0, 0, 0, 0, 48, 48, 48, 48, 48, 48]) ∧
    ∀ payload' message', defaultCodec.decode payload' = .ok message' →
      ISO8583Message.Same ⟨"0200", (∅ : Fields).insert 3 (.text "000000")⟩ message' →
        ¬EmptySecondaryBitmap [48, 50, 48, 48, 32, 0, 0, 0, 0, 0, 0, 0, 48, 48, 48, 48, 48, 48] →
        ¬EmptySecondaryBitmap payload' →
          [48, 50, 48, 48, 32, 0, 0, 0, 0, 0, 0, 0, 48, 48, 48, 48, 48, 48] = payload' :=
  encode_decode_iff defaultCodec rfl

/-- An empty secondary bitmap is accepted and lost: the payload decodes to the message of the
payload without it, which is what encoding the message gives. -/
theorem decode_empty_secondaryBitmap :
    defaultCodec.decode [48, 56, 48, 48, 128, 0, 0, 0, 0, 0, 0, 0, 0, 0, 0, 0, 0, 0, 0, 0] =
        .ok ⟨"0800", ∅⟩ ∧
      defaultCodec.decode [48, 56, 48, 48, 0, 0, 0, 0, 0, 0, 0, 0] = .ok ⟨"0800", ∅⟩ ∧
      defaultCodec.encode ⟨"0800", ∅⟩ = .ok [48, 56, 48, 48, 0, 0, 0, 0, 0, 0, 0, 0] ∧
      ¬∀ payload message, defaultCodec.decode payload = .ok message →
        defaultCodec.encode message = .ok payload := by
  refine ⟨rfl, rfl, rfl, fun h => ?_⟩
  have h' := h [48, 56, 48, 48, 128, 0, 0, 0, 0, 0, 0, 0, 0, 0, 0, 0, 0, 0, 0, 0] ⟨"0800", ∅⟩ rfl
  exact absurd h' (by decide)

end ISO8583Codec

end AtlasPay
