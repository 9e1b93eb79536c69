import AtlasPay.Codec.Bitmap
import AtlasPay.Codec.Fields
import Mathlib.Data.List.Perm.Basic

/-!
# The wire form of a message

A frame is the MTI, the bitmaps, and the encodings of the data elements in ascending order.
`encode_eq_ok` says that `encode` returns the frame of a message with a secondary bitmap only when
an element needs it; `decode_eq_ok` says that `decode` accepts exactly the frames, with a secondary
bitmap whenever an element needs it. What the two say differently is the whole difference between
the two functions' domains.
-/

namespace AtlasPay

/-- A data element of a field mapping. -/
abbrev Element := Σ _ : ℕ, FieldValue

namespace ISO8583Codec

variable (codec : ISO8583Codec)

/-- The profile encodes an element as `wire`. -/
def Encodes (element : Element) (wire : Bytes) : Prop :=
  ∃ spec, codec.fieldSpecs element.1 = some spec ∧ encodeField spec element.2 = .ok wire

/-- The mapping that `fields[number] = value` builds, one element after the other. -/
def insertAll (elements : List Element) (fields : Fields) : Fields :=
  elements.foldl (fun fields element => fields.insert element.1 element.2) fields

/-- `payload` is the MTI, the bitmaps and the ascending elements, encoded under the profile. -/
def Frame (hasSecondary : Bool) (mti : String) (elements : List Element) (payload : Bytes) : Prop :=
  ∃ mtiRaw wires, encodeMti mti = .ok mtiRaw ∧ elements.Pairwise (·.1 < ·.1) ∧
    (∀ element ∈ elements, 64 < element.1 → hasSecondary = true) ∧
    List.Forall₂ codec.Encodes elements wires ∧
    payload = mtiRaw ++ bitmapBytes hasSecondary (elements.map Sigma.fst) ++ wires.flatten

variable {codec}

/-! ## Elements -/

/-- A profile has specifications only for data element numbers. -/
theorem range_of_fieldSpecs {number : ℕ} {spec : FieldSpec}
    (h : codec.fieldSpecs number = some spec) : 2 ≤ number ∧ number ≤ 128 := by
  rw [← codec.number_eq number spec h]
  exact spec.number_range

/-- An element that encodes has a data element number. -/
theorem Encodes.range {element : Element} {wire : Bytes} (h : codec.Encodes element wire) :
    2 ≤ element.1 ∧ element.1 ≤ 128 := by
  obtain ⟨spec, hspec, -⟩ := h
  exact range_of_fieldSpecs hspec

/-- Every element of a list that encodes has a data element number. -/
theorem range_of_forall₂ {elements : List Element} {wires : List Bytes}
    (h : List.Forall₂ codec.Encodes elements wires) :
    ∀ number ∈ elements.map Sigma.fst, 2 ≤ number ∧ number ≤ 128 := by
  induction h with
  | nil => simp
  | cons hhead _ ih =>
    simp only [List.map_cons, List.mem_cons, forall_eq_or_imp]
    exact ⟨hhead.range, ih⟩

/-- The lookup of a specification returns it when there is one. -/
theorem specFor_eq_ok {number : ℕ} {spec : FieldSpec} :
    codec.specFor number = .ok spec ↔ codec.fieldSpecs number = some spec := by
  unfold specFor
  cases codec.fieldSpecs number with
  | none => simp
  | some spec' => simp

/-- The loop of `encode` pairs every element's number with its encoding. -/
theorem normalizeFields_eq_ok {entries : List Element} {normalized : List (ℕ × Bytes)} :
    codec.normalizeFields entries = .ok normalized ↔
      List.Forall₂ (fun element pair => element.1 = pair.1 ∧ codec.Encodes element pair.2)
        entries normalized := by
  induction entries generalizing normalized with
  | nil =>
    rw [normalizeFields, pure_eq_ok, List.forall₂_nil_left_iff]
    exact eq_comm
  | cons element rest ih =>
    obtain ⟨number, value⟩ := element
    simp only [normalizeFields, bind_eq_ok, specFor_eq_ok, pure_eq_ok]
    constructor
    · rintro ⟨⟨⟩, -, spec, hspec, raw, hraw, tail, htail, rfl⟩
      exact List.Forall₂.cons ⟨rfl, spec, hspec, hraw⟩ (ih.mp htail)
    · intro h
      rcases List.forall₂_cons_left_iff.mp h with ⟨⟨number', raw⟩, tail, ⟨hn, hwire⟩, htail, rfl⟩
      obtain ⟨spec, hspec, hraw⟩ := hwire
      cases hn
      refine ⟨(), ?_, spec, hspec, raw, hraw, tail, ih.mpr htail, rfl⟩
      rw [validateFieldNumber, ite_throw_eq_ok, not_not]
      exact ⟨range_of_fieldSpecs hspec, rfl⟩

/-- The loop of `decode` over some numbers reads one element for each of them. -/
theorem decodeFields_eq_ok {payload : Bytes} {numbers : List ℕ} {offset stop : ℕ}
    {start fields : Fields} (hoffset : offset ≤ payload.length) :
    codec.decodeFields payload numbers offset start = .ok (fields, stop) ↔
      ∃ elements wires, elements.map Sigma.fst = numbers ∧
        List.Forall₂ codec.Encodes elements wires ∧ fields = insertAll elements start ∧
        stop = offset + wires.flatten.length ∧
        payload.drop offset = wires.flatten ++ payload.drop stop := by
  induction numbers generalizing offset start with
  | nil =>
    simp only [decodeFields, pure_eq_ok, Prod.mk.injEq]
    constructor
    · rintro ⟨rfl, rfl⟩
      exact ⟨[], [], rfl, List.Forall₂.nil, rfl, rfl, rfl⟩
    · rintro ⟨elements, wires, hnil, hwires, rfl, rfl, -⟩
      obtain rfl := List.map_eq_nil_iff.mp hnil
      obtain rfl := List.forall₂_nil_left_iff.mp hwires
      exact ⟨rfl, rfl⟩
  | cons number rest ih =>
    simp only [decodeFields, bind_eq_ok, specFor_eq_ok]
    constructor
    · rintro ⟨spec, hspec, ⟨value, middle⟩, hfield, hrest⟩
      obtain ⟨wire, hwire, rfl, hdrop⟩ := (decodeField_eq_ok hoffset).mp hfield
      have hlen := congrArg List.length hdrop
      simp only [List.length_drop, List.length_append] at hlen
      obtain ⟨elements, wires, hmap, hwires, hfields, hstop, htail⟩ := (ih (by omega)).mp hrest
      refine ⟨⟨number, value⟩ :: elements, wire :: wires, by rw [List.map_cons, hmap],
        List.Forall₂.cons ⟨spec, hspec, hwire⟩ hwires, hfields, ?_, ?_⟩
      · rw [hstop, List.flatten_cons, List.length_append]
        omega
      · rw [hdrop, htail, List.flatten_cons, List.append_assoc]
    · rintro ⟨elements, wires, hmap, hwires, hfields, hstop, hdrop⟩
      cases elements with
      | nil => simp at hmap
      | cons element elements =>
        obtain ⟨number', value⟩ := element
        simp only [List.map_cons, List.cons.injEq] at hmap
        obtain ⟨rfl, hmap⟩ := hmap
        rcases List.forall₂_cons_left_iff.mp hwires with ⟨wire, tail, hwire, htail, rfl⟩
        obtain ⟨spec, hspec, hwire⟩ := hwire
        rw [List.flatten_cons, List.append_assoc] at hdrop
        -- The first element ends where the others start.
        have hmiddle := drop_add_of_drop_eq hdrop
        have hlen := congrArg List.length hdrop
        simp only [List.length_drop, List.length_append] at hlen
        refine ⟨spec, hspec, (value, offset + wire.length), ?_, ?_⟩
        · exact (decodeField_eq_ok hoffset).mpr ⟨wire, hwire, rfl, by rw [hmiddle, hdrop]⟩
        · refine (ih (by omega)).mpr ⟨elements, tail, hmap, htail, hfields, ?_, ?_⟩
          · rw [hstop, List.flatten_cons, List.length_append]
            omega
          · exact hmiddle

/-- Inserting new elements with different numbers puts them in front, the last one first. -/
theorem entries_insertAll {elements : List Element} {fields : Fields}
    (hnodup : (elements.map Sigma.fst).Nodup)
    (hnew : ∀ number ∈ elements.map Sigma.fst, number ∉ fields) :
    (insertAll elements fields).entries = elements.reverse ++ fields.entries := by
  induction elements generalizing fields with
  | nil => rfl
  | cons element rest ih =>
    rw [List.map_cons, List.nodup_cons] at hnodup
    simp only [List.map_cons, List.mem_cons, forall_eq_or_imp] at hnew
    have hstep : insertAll (element :: rest) fields =
        insertAll rest (fields.insert element.1 element.2) := rfl
    rw [hstep, ih hnodup.2, AList.entries_insert_of_notMem hnew.1, List.reverse_cons,
      List.append_assoc]
    · rfl
    · intro number hmem
      rw [AList.mem_insert, not_or]
      refine ⟨?_, hnew.2 number hmem⟩
      rintro rfl
      exact hnodup.1 hmem

/-- The mapping of ascending elements has them as its entries. -/
theorem entries_insertAll_empty {elements : List Element}
    (h : elements.Pairwise (·.1 < ·.1)) : (insertAll elements ∅).entries = elements.reverse := by
  have hnodup : (elements.map Sigma.fst).Nodup := by
    rw [List.Nodup, List.pairwise_map]
    exact h.imp fun hlt => ne_of_lt hlt
  rw [entries_insertAll hnodup fun number _ => AList.notMem_empty number, AList.empty_entries,
    List.append_nil]

/-! ## The bitmaps of a frame -/

/-- The bitmaps depend only on which numbers they announce. -/
theorem bitmapBytes_congr {hasSecondary : Bool} {numbers numbers' : List ℕ}
    (h : ∀ x, x ∈ numbers ↔ x ∈ numbers') :
    bitmapBytes hasSecondary numbers = bitmapBytes hasSecondary numbers' := by
  have hp : primaryBitmap hasSecondary numbers = primaryBitmap hasSecondary numbers' := by
    refine Nat.eq_of_testBit_eq fun i => ?_
    rw [Bool.eq_iff_iff, testBit_primaryBitmap, testBit_primaryBitmap]
    simp only [h]
  have hs : secondaryBitmap numbers = secondaryBitmap numbers' := by
    refine Nat.eq_of_testBit_eq fun i => ?_
    rw [Bool.eq_iff_iff, testBit_secondaryBitmap, testBit_secondaryBitmap]
    simp only [h]
  rw [bitmapBytes, bitmapBytes, hp, hs]

/-- The bitmaps are eight bytes, or sixteen. -/
theorem length_bitmapBytes (hasSecondary : Bool) {numbers : List ℕ}
    (hnum : ∀ number ∈ numbers, 2 ≤ number) :
    (bitmapBytes hasSecondary numbers).length = if hasSecondary then 16 else 8 := by
  rw [bitmapBytes, List.length_append, length_toBytes (primaryBitmap_lt hasSecondary hnum)]
  cases hasSecondary with
  | true => rw [if_pos rfl, if_pos rfl, length_toBytes (secondaryBitmap_lt numbers)]
  | false => rfl

/-- An MTI that encodes has four bytes. -/
theorem length_of_encodeMti {mti : String} {raw : Bytes} (h : encodeMti mti = .ok raw) :
    raw.length = 4 := by
  rw [encodeMti, ite_throw_eq_ok, not_or, not_not] at h
  obtain ⟨⟨hlen, -⟩, hascii⟩ := h
  rw [(encodeAscii_eq_ok hascii).1, List.length_map, String.length_toList, hlen]

/-- `_decode_mti` undoes `_encode_mti`, and accepts nothing else. -/
theorem decodeMti_eq_ok {raw : Bytes} {mti : String} :
    decodeMti raw = .ok mti ↔ encodeMti mti = .ok raw := by
  unfold decodeMti
  split
  · next h =>
    simp only [throw_ne_ok, false_iff]
    intro henc
    rw [encodeMti, ite_throw_eq_ok, encodeAscii_iff_decodeAscii, h] at henc
    exact absurd henc.2 (by simp)
  · next e _ h =>
    simp only [throw_ne_ok, false_iff]
    intro henc
    rw [encodeMti, ite_throw_eq_ok, encodeAscii_iff_decodeAscii, h] at henc
    exact absurd henc.2 (by simp)
  · next mti' h =>
    simp only [bind_eq_ok, pure_eq_ok]
    constructor
    · rintro ⟨raw', henc, rfl⟩
      have hascii : encodeAscii mti' = .ok raw := encodeAscii_of_decodeAscii h
      rw [encodeMti, ite_throw_eq_ok] at henc ⊢
      exact ⟨henc.1, hascii⟩
    · intro henc
      have hascii := henc
      rw [encodeMti, ite_throw_eq_ok, encodeAscii_iff_decodeAscii, h, Except.ok.injEq] at hascii
      obtain rfl := hascii.2
      exact ⟨raw, henc, rfl⟩

/-! ## Both directions -/

/-- The numbers of ascending elements ascend. -/
theorem pairwise_map_fst {elements : List Element} (h : elements.Pairwise (·.1 < ·.1)) :
    (elements.map Sigma.fst).Pairwise (· < ·) :=
  List.pairwise_map.mpr h

/-- A list of pairs with different keys sorts to ascending keys. -/
theorem insertionSort_pairwise_lt {α : Type*} (pairs : List (ℕ × α))
    (h : (pairs.map Prod.fst).Nodup) :
    (pairs.insertionSort (·.1 ≤ ·.1)).Pairwise (·.1 < ·.1) := by
  have htotal : Std.Total fun a b : ℕ × α => a.1 ≤ b.1 := ⟨fun a b => le_total a.1 b.1⟩
  have htrans : IsTrans (ℕ × α) fun a b => a.1 ≤ b.1 := ⟨fun _ _ _ => le_trans⟩
  have hle := List.pairwise_insertionSort (fun a b : ℕ × α => a.1 ≤ b.1) pairs
  have hperm := List.perm_insertionSort (fun a b : ℕ × α => a.1 ≤ b.1) pairs
  have hne : (pairs.insertionSort (·.1 ≤ ·.1)).Pairwise (·.1 ≠ ·.1) :=
    List.pairwise_map.mp ((hperm.map Prod.fst).nodup_iff.mpr h)
  exact hle.imp₂ (fun _ _ h1 h2 => lt_of_le_of_ne h1 h2) hne

/-- Pairs that agree with elements on the numbers and encode them are the numbers and the
encodings. -/
theorem forall₂_pairs {elements : List Element} {pairs : List (ℕ × Bytes)} :
    List.Forall₂ (fun element pair => element.1 = pair.1 ∧ codec.Encodes element pair.2)
        elements pairs ↔
      pairs.map Prod.fst = elements.map Sigma.fst ∧
        List.Forall₂ codec.Encodes elements (pairs.map Prod.snd) := by
  induction elements generalizing pairs with
  | nil =>
    cases pairs with
    | nil => simp
    | cons pair pairs => simp
  | cons element elements ih =>
    cases pairs with
    | nil => simp
    | cons pair pairs =>
      simp only [List.forall₂_cons, ih, List.map_cons, List.cons.injEq]
      constructor
      · rintro ⟨⟨h1, h2⟩, h3, h4⟩
        exact ⟨⟨h1.symm, h3⟩, h2, h4⟩
      · rintro ⟨⟨h1, h3⟩, h2, h4⟩
        exact ⟨⟨h1.symm, h2⟩, h3, h4⟩

/-- Pairs that are a permutation of pairs with ascending keys sort to them. -/
theorem insertionSort_eq_of_perm {α : Type*} {pairs sorted : List (ℕ × α)}
    (hperm : pairs.Perm sorted) (hsorted : sorted.Pairwise (·.1 < ·.1)) :
    pairs.insertionSort (·.1 ≤ ·.1) = sorted := by
  have hnodup : (pairs.map Prod.fst).Nodup :=
    (hperm.map Prod.fst).nodup_iff.mpr (List.pairwise_map.mpr (hsorted.imp fun h => ne_of_lt h))
  have hsort := insertionSort_pairwise_lt pairs hnodup
  have hperm' := (List.perm_insertionSort (fun a b : ℕ × α => a.1 ≤ b.1) pairs).trans hperm
  exact hperm'.eq_of_pairwise (fun a b _ _ hab hba => absurd hab (Nat.lt_asymm hba)) hsort hsorted

/-- Whether a number needs the secondary bitmap depends only on which numbers there are. -/
theorem any_congr {numbers numbers' : List ℕ} (h : ∀ x, x ∈ numbers ↔ x ∈ numbers') :
    (numbers.any fun number => 64 < number) = numbers'.any fun number => 64 < number := by
  rw [Bool.eq_iff_iff, List.any_eq_true, List.any_eq_true]
  simp only [h]

/-- `encode` returns the frame of the message's elements in ascending order, with a secondary
bitmap exactly when one of them needs it. -/
theorem encode_eq_ok {message : ISO8583Message} {payload : Bytes} :
    codec.encode message = .ok payload ↔
      ∃ elements, elements.Perm message.fields.entries ∧
        codec.Frame ((elements.map Sigma.fst).any fun number => 64 < number) message.mti elements
          payload := by
  simp only [encode, bind_eq_ok, normalizeFields_eq_ok, pure_eq_ok]
  constructor
  · rintro ⟨mtiRaw, hmti, normalized, hnormalized, rfl⟩
    have hkeys := (forall₂_pairs.mp hnormalized).1
    -- Sort the elements along with their encodings.
    have hperm := List.perm_insertionSort (fun a b : ℕ × Bytes => a.1 ≤ b.1) normalized
    obtain ⟨elements, hflip, hperm'⟩ := List.perm_comp_forall₂ hperm hnormalized.flip
    obtain ⟨hmap, hwires⟩ := forall₂_pairs.mp hflip.flip
    have hsorted := insertionSort_pairwise_lt normalized
      (hkeys ▸ message.fields.keys_nodup)
    have hmem : ∀ x, x ∈ normalized.map Prod.fst ↔ x ∈ elements.map Sigma.fst := by
      intro x
      rw [← hmap]
      exact ((hperm.map Prod.fst).mem_iff).symm
    refine ⟨elements, hperm', mtiRaw, _, hmti, ?_, ?_, hwires, ?_⟩
    · rw [← List.pairwise_map, ← hmap, List.pairwise_map]
      exact hsorted
    · intro element helement h64
      exact List.any_eq_true.mpr ⟨element.1, List.mem_map_of_mem helement, by simpa using h64⟩
    · rw [encodeBitmap, any_congr hmem, bitmapBytes_congr hmem]
  · rintro ⟨elements, hperm, mtiRaw, wires, hmti, hsorted, -, hwires, rfl⟩
    have hlen : (elements.map Sigma.fst).length = wires.length := by
      rw [List.length_map, hwires.length_eq]
    have hpairs : List.Forall₂ (fun element pair => element.1 = pair.1 ∧
        codec.Encodes element pair.2) elements ((elements.map Sigma.fst).zip wires) := by
      rw [forall₂_pairs, List.map_fst_zip hlen.le, List.map_snd_zip hlen.ge]
      exact ⟨rfl, hwires⟩
    -- The encodings in the order of the mapping, which `encode` sorts back.
    obtain ⟨normalized, hnormalized, hperm'⟩ := List.perm_comp_forall₂ hperm.symm hpairs
    have hsort : normalized.insertionSort (·.1 ≤ ·.1) = (elements.map Sigma.fst).zip wires := by
      refine insertionSort_eq_of_perm hperm' ?_
      refine List.pairwise_map.mp ?_
      rw [List.map_fst_zip hlen.le]
      exact pairwise_map_fst hsorted
    have hmem : ∀ x, x ∈ normalized.map Prod.fst ↔ x ∈ elements.map Sigma.fst := by
      intro x
      rw [(hperm'.map Prod.fst).mem_iff, List.map_fst_zip hlen.le]
    refine ⟨mtiRaw, hmti, normalized, hnormalized, ?_⟩
    rw [hsort, List.map_snd_zip hlen.ge, encodeBitmap, any_congr hmem, bitmapBytes_congr hmem]

/-- A list is related to another one when each of its members is related to something. -/
theorem exists_forall₂_iff {α β : Type*} {R : α → β → Prop} {xs : List α} :
    (∃ ys, List.Forall₂ R xs ys) ↔ ∀ x ∈ xs, ∃ y, R x y := by
  induction xs with
  | nil => exact iff_of_true ⟨[], .nil⟩ fun _ hnil => absurd hnil List.not_mem_nil
  | cons x xs ih =>
    rw [List.forall_mem_cons, ← ih]
    constructor
    · rintro ⟨_, h⟩
      obtain ⟨y, ys, hhead, htail, -⟩ := List.forall₂_cons_left_iff.mp h
      exact ⟨⟨y, hhead⟩, ys, htail⟩
    · rintro ⟨⟨y, hhead⟩, ys, htail⟩
      exact ⟨y :: ys, .cons hhead htail⟩

/-- `encode` returns exactly when the MTI is four digits and every element has a specification,
which its value satisfies. -/
theorem encode_isOk_iff {message : ISO8583Message} :
    (∃ payload, codec.encode message = .ok payload) ↔
      (∃ mtiRaw, encodeMti message.mti = .ok mtiRaw) ∧
        ∀ number value, message.fields.lookup number = some value →
          ∃ spec, codec.fieldSpecs number = some spec ∧ spec.Admits value := by
  have hreturns : (∃ payload, codec.encode message = .ok payload) ↔
      (∃ mtiRaw, encodeMti message.mti = .ok mtiRaw) ∧
        ∃ normalized, codec.normalizeFields message.fields.entries = .ok normalized := by
    simp only [encode, bind_eq_ok, pure_eq_ok]
    constructor
    · rintro ⟨-, mtiRaw, hmti, normalized, hnormalized, -⟩
      exact ⟨⟨mtiRaw, hmti⟩, normalized, hnormalized⟩
    · rintro ⟨⟨mtiRaw, hmti⟩, normalized, hnormalized⟩
      exact ⟨_, mtiRaw, hmti, normalized, hnormalized, rfl⟩
  simp only [hreturns, normalizeFields_eq_ok, exists_forall₂_iff]
  refine and_congr_right fun _ => ?_
  constructor
  · intro h number value hvalue
    obtain ⟨⟨_, wire⟩, -, spec, hspec, hwire⟩ :=
      h ⟨number, value⟩ (AList.mem_lookup_iff.mp hvalue)
    exact ⟨spec, hspec, encodeField_isOk_iff.mp ⟨wire, hwire⟩⟩
  · rintro h ⟨number, value⟩ hmem
    obtain ⟨spec, hspec, hadmits⟩ := h number value (AList.mem_lookup_iff.mpr hmem)
    obtain ⟨wire, hwire⟩ := encodeField_isOk_iff.mpr hadmits
    exact ⟨(number, wire), rfl, spec, hspec, hwire⟩

/-- The secondary bitmap indicator of a payload. -/
def indicator (payload : Bytes) : Bool := (fromBytes (slice payload 4 12)).testBit 63

/-- The parts of a frame, at the offsets where `decode` reads them. -/
theorem Frame.parts {hasSecondary : Bool} {mti : String} {elements : List Element}
    {payload : Bytes} (h : codec.Frame hasSecondary mti elements payload) :
    ∃ mtiRaw wires, encodeMti mti = .ok mtiRaw ∧ slice payload 0 4 = mtiRaw ∧
      fromBytes (slice payload 4 12) = primaryBitmap hasSecondary (elements.map Sigma.fst) ∧
      indicator payload = hasSecondary ∧
      (if hasSecondary then slice payload 12 20 else []) =
        (if hasSecondary then toBytes 8 (secondaryBitmap (elements.map Sigma.fst)) else []) ∧
      List.Forall₂ codec.Encodes elements wires ∧
      payload.drop (if hasSecondary then 20 else 12) = wires.flatten ∧
      payload.length = (if hasSecondary then 20 else 12) + wires.flatten.length := by
  obtain ⟨mtiRaw, wires, hmti, -, -, hwires, rfl⟩ := h
  have hnum : ∀ number ∈ elements.map Sigma.fst, 2 ≤ number := fun number hmem =>
    (range_of_forall₂ hwires number hmem).1
  -- The parts have fixed widths, which give the offsets.
  have hmtiLen := length_of_encodeMti hmti
  have hprimaryLen := length_toBytes (primaryBitmap_lt hasSecondary hnum)
  have hsecondaryLen := length_toBytes (secondaryBitmap_lt (elements.map Sigma.fst))
  have hbitmapLen := length_bitmapBytes hasSecondary hnum
  have h4 : slice (mtiRaw ++ bitmapBytes hasSecondary (elements.map Sigma.fst) ++ wires.flatten)
      4 12 = toBytes 8 (primaryBitmap hasSecondary (elements.map Sigma.fst)) := by
    rw [bitmapBytes, List.append_assoc, List.append_assoc]
    exact slice_append hmtiLen (by rw [hprimaryLen])
  have hprimary : fromBytes (slice (mtiRaw ++ bitmapBytes hasSecondary (elements.map Sigma.fst) ++
      wires.flatten) 4 12) = primaryBitmap hasSecondary (elements.map Sigma.fst) := by
    rw [h4, fromBytes_toBytes]
  refine ⟨mtiRaw, wires, hmti, ?_, hprimary, ?_, ?_, hwires, ?_, ?_⟩
  · rw [slice, List.drop_zero, List.append_assoc, List.take_left' hmtiLen]
  · rw [indicator, hprimary, testBit_63_primaryBitmap hnum]
  · cases hasSecondary with
    | false => rfl
    | true =>
      rw [if_pos rfl, if_pos rfl, bitmapBytes, if_pos rfl, ← List.append_assoc, List.append_assoc]
      refine slice_append ?_ (by rw [hsecondaryLen])
      rw [List.length_append, hmtiLen, hprimaryLen]
  · refine List.drop_left' ?_
    rw [List.length_append, hmtiLen, hbitmapLen]
    split_ifs <;> rfl
  · rw [List.length_append, List.length_append, hmtiLen, hbitmapLen]
    split_ifs <;> omega

end ISO8583Codec

end AtlasPay
