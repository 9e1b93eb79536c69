import AtlasPay.Emv.Grammar
import AtlasPay.Library.Flags
import AtlasPay.Python.Unicode
import Mathlib.Logic.Relation

/-!
# Reading what DE55 carries

The helpers of `app/emv.py` over parsed items: the names of tags, `find_tags`, and `decode_tvr`.
-/

namespace AtlasPay

/-! ## The tables -/

/-- `EMV_TAG_NAMES`. -/
def emvTagNames : List (String × String) := [
  ("5F2A", "Transaction Currency Code"),
  ("82", "Application Interchange Profile"),
  ("84", "Dedicated File Name"),
  ("95", "Terminal Verification Results"),
  ("9A", "Transaction Date"),
  ("9C", "Transaction Type"),
  ("9F02", "Amount, Authorised (Numeric)"),
  ("9F03", "Amount, Other (Numeric)"),
  ("9F10", "Issuer Application Data"),
  ("9F1A", "Terminal Country Code"),
  ("9F26", "Application Cryptogram"),
  ("9F27", "Cryptogram Information Data"),
  ("9F33", "Terminal Capabilities"),
  ("9F34", "Cardholder Verification Method Results"),
  ("9F35", "Terminal Type"),
  ("9F36", "Application Transaction Counter"),
  ("9F37", "Unpredictable Number"),
  ("9F41", "Transaction Sequence Counter")]

/-- `_TVR_BITS`: the names of the bits of each byte, the most significant bit first. -/
def tvrBits : List (List (Option String)) := [
  [some "Offline data authentication was not performed",
    some "Static data authentication failed",
    some "ICC data missing",
    some "Card appears on terminal exception file",
    some "Dynamic data authentication failed",
    some "Combined DDA/application cryptogram generation failed",
    none,
    none],
  [some "ICC and terminal have different application versions",
    some "Expired application",
    some "Application not yet effective",
    some "Requested service not allowed for card product",
    some "New card",
    none,
    none,
    none],
  [some "Cardholder verification was not successful",
    some "Unrecognized cardholder verification method",
    some "PIN try limit exceeded",
    some "PIN entry required and PIN pad not present or not working",
    some "PIN entry required, PIN pad present, but PIN was not entered",
    some "Online PIN entered",
    none,
    none],
  [some "Transaction exceeds floor limit",
    some "Lower consecutive offline limit exceeded",
    some "Upper consecutive offline limit exceeded",
    some "Transaction selected randomly for online processing",
    some "Merchant forced transaction online",
    none,
    none,
    none],
  [some "Default TDOL used",
    some "Issuer authentication failed",
    some "Script processing failed before final GENERATE AC",
    some "Script processing failed after final GENERATE AC",
    none,
    none,
    none,
    none]]

/-- `BerTlv.name`. -/
def BerTlv.name (self : BerTlv) : Option String := emvTagNames.lookup self.tag

/-- `decode_de55`. -/
def decodeDe55 (payload : Bytes) : Py (List BerTlv) := parseBerTlv payload

/-! ## `find_tags` -/

/-- The loop of `find_tags`, with the tag in upper case. The call for the children puts it in upper
case again. -/
def findTagsLoop : List BerTlv → String → List BerTlv
  | [], _ => []
  | .mk tag value constructed children :: rest, normalized =>
    (if tag = normalized then [.mk tag value constructed children] else []) ++
      (if children ≠ [] then findTagsLoop children (upper normalized) else []) ++
      findTagsLoop rest normalized

/-- `find_tags`. -/
def findTags (items : List BerTlv) (tag : String) : List BerTlv := findTagsLoop items (upper tag)

/-- Some items and the items in them, each after the item that it is in. -/
def preorder : List BerTlv → List BerTlv
  | [] => []
  | .mk tag value constructed children :: rest =>
    .mk tag value constructed children :: (preorder children ++ preorder rest)

/-- `find_tags` keeps of all items those with the tag. -/
theorem findTags_eq_filter (items : List BerTlv) (tag : String) :
    findTags items tag = (preorder items).filter fun item => item.tag = upper tag := by
  have hloop : ∀ normalized, upper normalized = normalized → findTagsLoop items normalized =
      (preorder items).filter fun item => item.tag = normalized := by
    intro normalized hupper
    fun_induction preorder items with
    | case1 => rw [findTagsLoop, List.filter_nil]
    | case2 tag value constructed children rest ihChildren ihRest =>
      have hchildren : (if children ≠ [] then findTagsLoop children (upper normalized) else []) =
          (preorder children).filter fun item => item.tag = normalized := by
        split
        · rw [hupper, ihChildren]
        · next hnone => rw [not_not.mp hnone, preorder, List.filter_nil]
      rw [findTagsLoop, hchildren, ihRest, List.filter_cons, List.filter_append]
      split <;> simp_all [BerTlv.tag]
  exact hloop (upper tag) (upper_upper tag)

/-- An item is directly in another one. -/
def BerTlv.Holds (parent child : BerTlv) : Prop := child ∈ parent.children

/-- All items are those given, and those that are in them at any depth. -/
theorem mem_preorder_iff {items : List BerTlv} {item : BerTlv} :
    item ∈ preorder items ↔ ∃ top ∈ items, Relation.ReflTransGen BerTlv.Holds top item := by
  fun_induction preorder items with
  | case1 => simp
  | case2 tag value constructed children rest ihChildren ihRest =>
    rw [List.mem_cons, List.mem_append, ihChildren, ihRest, List.exists_mem_cons_iff]
    have hfirst : Relation.ReflTransGen BerTlv.Holds (.mk tag value constructed children) item ↔
        item = .mk tag value constructed children ∨
          ∃ top ∈ children, Relation.ReflTransGen BerTlv.Holds top item := by
      rw [Relation.ReflTransGen.cases_head_iff]
      exact or_congr eq_comm Iff.rfl
    rw [hfirst, or_assoc]

mutual

/-- The items in the item of an object, in the order in which they start in its octets. -/
theorem preorder_itemOf_cons (rest : List BerTlv) (start : ℕ) : ∀ tree : Ber.Tree,
    preorder (itemOf tree :: rest) =
      ((tree.located start).map fun place => itemOf place.2) ++ preorder rest
  | .primitive tag value => by
    simp [itemOf, preorder, Ber.Tree.located]
  | .constructed tag children => by
    rw [itemOf, preorder, preorder_itemsOf _ children, Ber.Tree.located, List.map_cons, itemOf,
      List.cons_append]

/-- The items of a forest, in the order in which they start in its octets. -/
theorem preorder_itemsOf (start : ℕ) : ∀ trees : List Ber.Tree,
    preorder (itemsOf trees) = (Ber.locatedForest start trees).map fun place => itemOf place.2
  | [] => by
    rw [itemsOf, preorder, Ber.locatedForest, List.map_nil]
  | tree :: rest => by
    rw [itemsOf, preorder_itemOf_cons _ start tree, preorder_itemsOf _ rest, Ber.locatedForest,
      List.map_append]

end

/-- An item is encoded in a payload from a place on. -/
def BerTlv.StartsAt (payload : Bytes) (place : ℕ) (item : BerTlv) : Prop :=
  ∃ rest, payload.drop place = item.encode ++ rest

/-- In the items that `decode_de55` returns, `find_tags` finds those with the tag in upper case at
any depth, and no other: of all items, in the order in which they start in the payload, it keeps
each one with the tag, however often equal ones occur. Each is read from a place of its own on. -/
theorem findTags_decodeDe55 {payload : Bytes} {items : List BerTlv}
    (h : decodeDe55 payload = .ok items) (tag : String) :
    findTags items tag = (preorder items).filter (fun item => item.tag = upper tag) ∧
    (∀ item, item ∈ preorder items ↔
      ∃ top ∈ items, Relation.ReflTransGen BerTlv.Holds top item) ∧
    (∃ places, places.Pairwise (· < ·) ∧
      List.Forall₂ (BerTlv.StartsAt payload) places (preorder items)) ∧
    ∃ places, places.Pairwise (· < ·) ∧
      List.Forall₂ (BerTlv.StartsAt payload) places (findTags items tag) := by
  refine ⟨findTags_eq_filter items tag, fun item => mem_preorder_iff, ?_⟩
  obtain ⟨trees, ⟨-, hwf, hpayload⟩, rfl⟩ := parseBerTlv_eq_ok.mp h
  have hplaces := Ber.places_locatedForest (fun tree htree => (hwf tree htree).places) 0
  rw [hpayload] at hplaces
  -- Some of the located objects, in their order, are read from their own places on.
  have hread : ∀ found : List (ℕ × Ber.Tree), found.Sublist (Ber.locatedForest 0 trees) →
      ∃ places, places.Pairwise (· < ·) ∧ List.Forall₂ (BerTlv.StartsAt payload) places
        (found.map fun place => itemOf place.2) := by
    intro found hfound
    refine ⟨found.map Prod.fst, hplaces.increasing.sublist (hfound.map Prod.fst), ?_⟩
    rw [List.forall₂_map_left_iff, List.forall₂_map_right_iff, List.forall₂_same]
    intro place hplace
    obtain ⟨rest, hrest⟩ := hplaces.octets_at place (hfound.mem hplace)
    exact ⟨rest, by rw [encode_itemOf, ← hrest, Nat.sub_zero]⟩
  rw [findTags_eq_filter, preorder_itemsOf 0, List.filter_map]
  exact ⟨hread _ (List.Sublist.refl _), hread _ List.filter_sublist⟩

/-- Two counters in a template are both found, each in its place. -/
theorem findTags_template :
    let payload := [0x77, 0x08, 0x9F, 0x36, 0x01, 0x01, 0x9F, 0x36, 0x01, 0x02]
    ∃ items, decodeDe55 payload = .ok items ∧
      (findTags items "9f36").map BerTlv.value = [[0x01], [0x02]] ∧
      ∃ places, places.Pairwise (· < ·) ∧
        List.Forall₂ (BerTlv.StartsAt payload) places (findTags items "9f36") := by
  intro payload
  let trees : List Ber.Tree := [.constructed [0x77]
    [.primitive [0x9F, 0x36] [0x01], .primitive [0x9F, 0x36] [0x02]]]
  -- The tag of the counter has a second byte, which is its last.
  have hcounter : Ber.ValidTag emvLimits [0x9F, 0x36] := by
    refine ⟨by decide, by decide, by decide, ?_⟩
    rw [if_pos (by decide)]
    have hlast : Ber.Continuation [0x36] := by
      rw [Ber.Continuation]
      decide
    exact ⟨hlast, fun b hb => by cases hb; decide⟩
  have htemplate : Ber.ValidTag emvLimits [0x77] := by
    refine ⟨by decide, by decide, by decide, ?_⟩
    rw [if_neg (by decide)]
  have hwf : ∀ tree ∈ trees, Ber.WellFormed emvLimits 0 tree := by
    refine List.forall_mem_singleton.mpr (.constructed (by decide) htemplate (by decide) nofun ?_
      (by decide))
    simp only [List.forall_mem_cons]
    exact ⟨.primitive (by decide) hcounter (by decide) (by decide),
      .primitive (by decide) hcounter (by decide) (by decide), by simp⟩
  have hitems : decodeDe55 payload = .ok (itemsOf trees) :=
    parseBerTlv_eq_ok.mpr ⟨trees, ⟨nofun, hwf, by decide⟩, rfl⟩
  refine ⟨itemsOf trees, hitems, ?_, (findTags_decodeDe55 hitems "9f36").2.2.2⟩
  rw [findTags_eq_filter, preorder_itemsOf 0]
  decide

/-! ## `decode_tvr` -/

/-- `TVR`. -/
structure TVR where
  raw : Bytes
  failures : List String
  deriving DecidableEq, Repr

/-- `TVR.hex`. -/
def TVR.hex (self : TVR) : String := hexUpper self.raw

/-- The inner loop of `decode_tvr`: what is appended for a byte. -/
def failuresOf (byte : UInt8) (names : List (Option String)) : List String :=
  names.zipIdx.filterMap fun (name, bitIndex) =>
    let mask := 1 <<< (7 - bitIndex)
    if byte.toNat &&& mask ≠ 0 then name else none

/-- `decode_tvr`. -/
def decodeTvr (value : Bytes) : Py TVR :=
  if value.length ≠ 5 then throw (.emvTlvError "TVR must contain exactly 5 bytes")
  else
    pure {
      raw := value
      failures := value.zipIdx.flatMap fun (byte, byteIndex) =>
        failuresOf byte (tvrBits.getD byteIndex []) }

/-- A bit of a value, counted from the most significant one of the first byte. -/
def isSet (value : Bytes) (position : ℕ) : Bool :=
  (value.getD (position / 8) 0).toNat &&& 1 <<< (7 - position % 8) ≠ 0

/-- The names of all bits. -/
def tvrNames : List (Option String) := tvrBits.flatten

/-- No two bits have one name. -/
theorem nodup_tvrNames : tvrNames.reduceOption.Nodup := by decide

/-- What is appended for a byte is reported of its bits. -/
theorem failuresOf_eq_reported (byte : UInt8) {names : List (Option String)}
    (h : names.length = 8) :
    failuresOf byte names = Flags.reported names ((List.range 8).map (isSet [byte])) := by
  unfold failuresOf Flags.reported
  rw [List.zipIdx_eq_zip_range', ← List.range_eq_range', h, List.zip_map_right, List.filterMap_map]
  refine List.filterMap_congr fun ⟨name, position⟩ hmem => ?_
  have hposition : position < 8 := List.mem_range.mp (List.of_mem_zip hmem).2
  have hquotient : position / 8 = 0 := by omega
  have hremainder : position % 8 = position := by omega
  simp only [Function.comp_apply, Prod.map_apply, id_eq, isSet, hquotient, hremainder,
    List.getD_cons_zero, decide_eq_true_eq]

/-- The names that `decode_tvr` finds are reported of the bits of the value. -/
theorem decodeTvr_eq_ok {value : Bytes} {tvr : TVR} :
    decodeTvr value = .ok tvr ↔ value.length = 5 ∧ tvr.raw = value ∧
      tvr.failures = Flags.reported tvrNames ((List.range 40).map (isSet value)) := by
  unfold decodeTvr
  rw [ite_throw_eq_ok, not_not]
  refine and_congr_right fun hlength => ?_
  obtain ⟨a, b, c, d, e, rfl⟩ : ∃ a b c d e, value = [a, b, c, d, e] := by
    match value, hlength with
    | [a, b, c, d, e], _ => exact ⟨a, b, c, d, e, rfl⟩
  -- The 40 bits are those of the five bytes, and so are the names.
  have hbits : (List.range 40).map (isSet [a, b, c, d, e]) =
      (List.range 8).map (isSet [a]) ++ ((List.range 8).map (isSet [b]) ++
        ((List.range 8).map (isSet [c]) ++ ((List.range 8).map (isSet [d]) ++
          (List.range 8).map (isSet [e])))) := rfl
  have hnames : tvrNames = tvrBits.getD 0 [] ++ (tvrBits.getD 1 [] ++ (tvrBits.getD 2 [] ++
      (tvrBits.getD 3 [] ++ tvrBits.getD 4 []))) := rfl
  -- The loop reports row after row.
  have hrows : [a, b, c, d, e].zipIdx.flatMap (fun (byte, byteIndex) =>
      failuresOf byte (tvrBits.getD byteIndex [])) =
      Flags.reported tvrNames ((List.range 40).map (isSet [a, b, c, d, e])) := by
    rw [hbits, hnames, Flags.reported_append rfl, Flags.reported_append rfl,
      Flags.reported_append rfl, Flags.reported_append rfl, ← failuresOf_eq_reported a rfl,
      ← failuresOf_eq_reported b rfl, ← failuresOf_eq_reported c rfl,
      ← failuresOf_eq_reported d rfl, ← failuresOf_eq_reported e rfl]
    simp only [List.zipIdx_cons, List.zipIdx_nil, List.flatMap_cons, List.flatMap_nil,
      List.append_nil, Nat.zero_add, Nat.reduceAdd]
  rw [hrows]
  constructor
  · rintro ⟨⟩
    exact ⟨rfl, rfl⟩
  · rintro ⟨hraw, hfailures⟩
    cases tvr
    cases hraw
    cases hfailures
    rfl

/-- `decode_tvr` accepts the values of five bytes. What it reports of one are the names of its set
bits, in the order of the bits and each once; and two values are reported alike exactly when they
agree on every bit that has a name. -/
theorem decodeTvr_reports (value : Bytes) :
    ((∃ tvr, decodeTvr value = .ok tvr) ↔ value.length = 5) ∧
      ∀ tvr, decodeTvr value = .ok tvr →
        tvr.raw = value ∧ tvr.failures.Sublist tvrNames.reduceOption ∧ tvr.failures.Nodup ∧
        (∀ name, name ∈ tvr.failures ↔
          ∃ position, tvrNames[position]? = some (some name) ∧ isSet value position = true) ∧
        ∀ value' tvr', decodeTvr value' = .ok tvr' →
          (tvr.failures = tvr'.failures ↔ ∀ (position : ℕ) (name : String),
            tvrNames[position]? = some (some name) →
              isSet value position = isSet value' position) := by
  have hlength : tvrNames.length = 40 := rfl
  -- A name stands at one of 40 positions, where the bits are those of the value.
  have hbit : ∀ (value : Bytes) (position : ℕ) (name : String),
      tvrNames[position]? = some (some name) →
        ((List.range 40).map (isSet value))[position]? = some (isSet value position) := by
    intro value position name hname
    have hlt : position < 40 := (List.getElem?_eq_some_iff.mp hname).1
    rw [List.getElem?_map, List.getElem?_range hlt, Option.map_some]
  refine ⟨⟨?_, fun h => ⟨⟨value, _⟩, decodeTvr_eq_ok.mpr ⟨h, rfl, rfl⟩⟩⟩, fun tvr h => ?_⟩
  · rintro ⟨tvr, h⟩
    exact (decodeTvr_eq_ok.mp h).1
  obtain ⟨-, hraw, hfailures⟩ := decodeTvr_eq_ok.mp h
  have hsublist := Flags.reported_sublist tvrNames ((List.range 40).map (isSet value))
  rw [← hfailures] at hsublist
  refine ⟨hraw, hsublist, hsublist.nodup nodup_tvrNames, fun name => ?_, fun value' tvr' h' => ?_⟩
  · rw [hfailures, Flags.mem_reported_iff]
    refine exists_congr fun position => and_congr_right fun hname => ?_
    rw [hbit value position name hname, Option.some.injEq]
  · obtain ⟨-, -, hfailures'⟩ := decodeTvr_eq_ok.mp h'
    rw [hfailures, hfailures', Flags.reported_eq_iff nodup_tvrNames (by simp [hlength])
      (by simp [hlength])]
    refine forall₂_congr fun position name => forall_congr' fun hname => ?_
    rw [hbit value position name hname, hbit value' position name hname, Option.some.injEq]

/-- The value of the tests. -/
example : (decodeTvr [0xA0, 0x00, 0x00, 0x80, 0x40]).toOption.map TVR.failures = some [
    "Offline data authentication was not performed", "ICC data missing",
    "Transaction exceeds floor limit", "Issuer authentication failed"] := by
  decide

end AtlasPay
