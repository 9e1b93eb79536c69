import AtlasPay.Emv.BerTlv

/-!
# The parser accepts its grammar

Each function of the parser, run in a window that ends with the octets, succeeds exactly when the
octets from the offset start with what the grammar allows there, and stops after it. Over a window
the proof is by strong induction on what is left of it: the content of a constructed object is a
shorter window.
-/

namespace AtlasPay

/-- The limits of the parser as limits of the grammar. -/
def emvLimits : Ber.Limits where
  tagOctets := maxTagBytes
  lengthOctets := maxLengthBytes
  depth := maxNestingDepth
  lengthOctets_lt := by decide

/-! ## Tags -/

/-- The loop of `_read_tag` reads the continuation of a tag. -/
theorem readTagLoop_eq_ok {payload tagBytes tagBytes' : Bytes} {offset stop : ℕ}
    (hne : 0 < tagBytes.length) :
    readTagLoop payload payload.length tagBytes offset = .ok (tagBytes', stop) ↔
      ∃ rest, Ber.Continuation rest ∧
        (tagBytes.length = 1 → ∀ b ∈ rest.head?, b &&& 0x7F ≠ 0) ∧
        tagBytes.length + rest.length ≤ maxTagBytes ∧ tagBytes' = tagBytes ++ rest ∧
        stop = offset + rest.length ∧ payload.drop offset = rest ++ payload.drop stop := by
  fun_induction readTagLoop payload payload.length tagBytes offset with
  | case1 tagBytes offset hend =>
    simp only [reduceCtorEq, false_iff, not_exists, throw, throwThe, MonadExceptOf.throw]
    rintro rest ⟨hcont, -, -, -, -, hdrop⟩
    rw [List.drop_eq_nil_of_le hend] at hdrop
    rw [(List.append_eq_nil_iff.mp hdrop.symm).1] at hcont
    exact hcont
  | case2 tagBytes offset _ hmax =>
    simp only [reduceCtorEq, false_iff, not_exists, throw, throwThe, MonadExceptOf.throw]
    rintro rest ⟨hcont, -, hle, -⟩
    have hnil : rest = [] := List.length_eq_zero_iff.mp (by omega)
    rw [hnil] at hcont
    exact hcont
  | case3 tagBytes offset hend hmax ih =>
    rw [bind_eq_ok]
    constructor
    · rintro ⟨current, hindex, h⟩
      obtain ⟨tail, htail⟩ := index_eq_ok.mp hindex
      have hnext := drop_succ_of_drop_eq htail
      obtain ⟨hfirst, h⟩ := ite_throw_eq_ok.mp h
      split at h
      -- The continuation bit is clear: this octet is the last one of the tag.
      · next hlast =>
        cases h
        refine ⟨[current], hlast, fun h1 b hb => ?_, ?_, rfl, rfl, ?_⟩
        · obtain rfl : current = b := by simpa using hb
          exact fun h0 => hfirst ⟨h1, h0⟩
        · simp only [List.length_singleton]
          omega
        · rw [htail, hnext, List.singleton_append]
      -- The bit is set: the next iteration reads the rest.
      · next hmore =>
        obtain ⟨rest, hcont, -, hle, rfl, rfl, hdrop⟩ := (ih current (by simp)).mp h
        simp only [List.length_append, List.length_singleton] at hle
        refine ⟨current :: rest, ?_, fun h1 b hb => ?_, ?_, by simp, ?_, ?_⟩
        · cases rest with
          | nil => exact hcont.elim
          | cons b rest => exact ⟨hmore, hcont⟩
        · obtain rfl : current = b := by simpa using hb
          exact fun h0 => hfirst ⟨h1, h0⟩
        · simp only [List.length_cons]
          omega
        · simp only [List.length_cons]
          omega
        · rw [htail, ← hnext, hdrop, List.cons_append]
    · rintro ⟨rest, hcont, hhead, hle, rfl, rfl, hdrop⟩
      cases rest with
      | nil => exact hcont.elim
      | cons current rest =>
        rw [List.cons_append] at hdrop
        have hnext := drop_succ_of_drop_eq hdrop
        refine ⟨current, index_eq_ok.mpr ⟨_, hdrop⟩, ite_throw_eq_ok.mpr
          ⟨fun h => hhead h.1 current (by simp) h.2, ?_⟩⟩
        cases rest with
        | nil =>
          rw [if_pos (show current &&& 0x80 = 0 from hcont)]
          rfl
        | cons b rest =>
          obtain ⟨hmore, hcont⟩ := hcont
          rw [if_neg hmore]
          simp only [List.length_cons] at hle hnext
          refine (ih current (by simp)).mpr ⟨b :: rest, hcont, fun h1 => ?_, ?_, by simp, ?_, ?_⟩
          · simp only [List.length_append, List.length_singleton] at h1
            omega
          · simp only [List.length_append, List.length_cons, List.length_nil]
            omega
          · simp only [List.length_cons]
            omega
          · rw [hnext]
            rfl

/-- `_read_tag` reads a valid tag. -/
theorem readTag_eq_ok {payload : Bytes} {offset stop : ℕ} {tag : String} {constructed : Bool} :
    readTag payload offset payload.length = .ok (tag, constructed, stop) ↔
      ∃ tagBytes, Ber.ValidTag emvLimits tagBytes ∧ tag = hexUpper tagBytes ∧
        constructed = Ber.isConstructed tagBytes ∧ stop = offset + tagBytes.length ∧
        payload.drop offset = tagBytes ++ payload.drop stop := by
  unfold readTag
  rw [ite_throw_eq_ok, bind_eq_ok]
  constructor
  · rintro ⟨-, first, hindex, h⟩
    obtain ⟨tail, htail⟩ := index_eq_ok.mp hindex
    have hnext := drop_succ_of_drop_eq htail
    obtain ⟨hpad, h⟩ := ite_throw_eq_ok.mp h
    rw [not_or] at hpad
    split at h
    -- The low five bits are all set, so the tag goes on after its first octet.
    · next hlong =>
      obtain ⟨⟨tagBytes, stop'⟩, hloop, h⟩ := bind_eq_ok.mp h
      cases h
      obtain ⟨rest, hcont, hhead, hle, rfl, rfl, hdrop⟩ := (readTagLoop_eq_ok (by simp)).mp hloop
      refine ⟨first :: rest, ⟨hpad.1, hpad.2, ?_, ?_⟩, rfl, rfl, ?_, ?_⟩
      · rw [List.length_singleton] at hle
        change rest.length < maxTagBytes
        omega
      · rw [if_pos hlong]
        exact ⟨hcont, hhead rfl⟩
      · rw [List.length_cons]
        omega
      · rw [htail, ← hnext, hdrop, List.cons_append]
    · next hshort =>
      cases h
      refine ⟨[first], ⟨hpad.1, hpad.2, by decide, ?_⟩, rfl, rfl, rfl, ?_⟩
      · rw [if_neg hshort]
      · rw [htail, hnext, List.singleton_append]
  · rintro ⟨tagBytes, htag, rfl, rfl, rfl, hdrop⟩
    cases tagBytes with
    | nil => exact htag.elim
    | cons first rest =>
      obtain ⟨h00, hff, hlt, hrest⟩ := htag
      rw [List.cons_append] at hdrop
      have hnext := drop_succ_of_drop_eq hdrop
      have hlen := congrArg List.length hdrop
      rw [List.length_drop, List.length_cons] at hlen
      refine ⟨by omega, first, index_eq_ok.mpr ⟨_, hdrop⟩,
        ite_throw_eq_ok.mpr ⟨not_or.mpr ⟨h00, hff⟩, ?_⟩⟩
      split at hrest
      · next hlong =>
        have hloop : readTagLoop payload payload.length [first] (offset + 1) =
            .ok (first :: rest, offset + (first :: rest).length) := by
          refine (readTagLoop_eq_ok (by simp)).mpr
            ⟨rest, hrest.1, fun _ => hrest.2, ?_, rfl, ?_, hnext⟩
          · rw [List.length_singleton]
            change rest.length < maxTagBytes at hlt
            omega
          · rw [List.length_cons]
            omega
        rw [if_pos hlong, hloop]
        rfl
      · next hshort =>
        subst hrest
        rw [if_neg hshort]
        rfl

/-! ## Lengths -/

/-- The low seven bits of an octet that announces `width` length octets. -/
theorem and_announced (width : ℕ) (hpos : 0 < width) (hmax : width ≤ maxLengthBytes) :
    ¬UInt8.ofNat (0x80 + width) < 0x80 ∧ UInt8.ofNat (0x80 + width) ≠ 0x80 ∧
      (UInt8.ofNat (0x80 + width) &&& 0x7F).toNat = width := by
  have h3 : width ≤ 3 := hmax
  interval_cases width <;> decide

/-- An octet with the high bit announces as many length octets as its low seven bits say. -/
theorem announced_and {first : UInt8} (h : ¬first < 0x80) :
    UInt8.ofNat (0x80 + (first &&& 0x7F).toNat) = first := by
  have hlt := first.toNat_lt
  have hge : 0x80 ≤ first.toNat := not_lt.mp h
  have hmod : (first &&& 0x7F).toNat = first.toNat % 0x80 := by
    rw [UInt8.toNat_and]
    exact Nat.and_two_pow_sub_one_eq_mod first.toNat 7
  rw [hmod, show 0x80 + first.toNat % 0x80 = first.toNat by omega, UInt8.ofNat_toNat]

/-- `_read_length` reads the shortest form of a length. -/
theorem readLength_eq_ok {payload : Bytes} {offset length stop : ℕ} :
    readLength payload offset payload.length = .ok (length, stop) ↔
      length < 256 ^ maxLengthBytes ∧ stop = offset + (Ber.encodeLength length).length ∧
        payload.drop offset = Ber.encodeLength length ++ payload.drop stop := by
  unfold readLength
  rw [ite_throw_eq_ok, bind_eq_ok]
  constructor
  · rintro ⟨-, first, hindex, h⟩
    obtain ⟨tail, htail⟩ := index_eq_ok.mp hindex
    have hnext := drop_succ_of_drop_eq htail
    split at h
    · next hshort =>
      cases h
      have hlt : first.toNat < 0x80 := hshort
      have hone : Ber.encodeLength first.toNat = [first] := by
        rw [Ber.encodeLength, if_pos hlt, UInt8.ofNat_toNat]
      refine ⟨by rw [maxLengthBytes]; omega, by rw [hone, List.length_singleton], ?_⟩
      rw [htail, hnext, hone, List.singleton_append]
    -- The long form was the shortest one: the first octet of the length is not zero, and the length
    -- does not fit in the short form.
    · next hlong =>
      simp only [ite_throw_eq_ok, bind_eq_ok, not_or, not_lt, gt_iff_lt] at h
      obtain ⟨-, ⟨-, hwidth⟩, hend, high, hhigh, hnz, hge, h⟩ := h
      cases h
      obtain ⟨rest, hencoded⟩ := index_eq_ok.mp hhigh
      rw [List.drop_zero] at hencoded
      have hlen := length_slice (offset + 1) hend
      rw [Nat.add_sub_cancel_left, hencoded] at hlen
      have hlength : Ber.encodeLength (fromBytes (high :: rest)) = first :: high :: rest := by
        rw [fromBytes, Ber.encodeLength_read hnz (hencoded ▸ hge), hlen, announced_and hlong]
      rw [hencoded, hlength]
      refine ⟨?_, ?_, ?_⟩
      · refine (fromBytes_lt _).trans_le (Nat.pow_le_pow_right (by norm_num) ?_)
        rw [hlen]
        exact hwidth
      · rw [List.length_cons, hlen]
        omega
      · rw [htail, ← hnext, drop_eq_slice_append (Nat.le_add_right (offset + 1) _), hencoded]
        rfl
  · rintro ⟨hlt, rfl, hdrop⟩
    have hlen := congrArg List.length hdrop
    rw [List.length_drop, List.length_append] at hlen
    have hpos := Ber.encodeLength_length_pos length
    refine ⟨by omega, ?_⟩
    by_cases hshort : length < 0x80
    · have hone : Ber.encodeLength length = [UInt8.ofNat length] := by
        rw [Ber.encodeLength, if_pos hshort]
      have hnat : (UInt8.ofNat length).toNat = length := by
        rw [UInt8.toNat_ofNat', Nat.mod_eq_of_lt (by omega)]
      rw [hone, List.singleton_append] at hdrop
      refine ⟨UInt8.ofNat length, index_eq_ok.mpr ⟨_, hdrop⟩, ?_⟩
      have hbyte : UInt8.ofNat length < 0x80 :=
        UInt8.lt_iff_toNat_lt.mpr (by rw [hnat]; exact hshort)
      rw [if_pos hbyte, hone, hnat]
      rfl
    · obtain ⟨high, rest, hnz, hwidth, hread, hlength⟩ :=
        Ber.encodeLength_long (not_lt.mp hshort) hlt
      obtain ⟨hge, hne, hand⟩ := and_announced (high :: rest).length (by simp) hwidth
      rw [hlength, List.cons_append] at hdrop
      refine ⟨UInt8.ofNat (0x80 + (high :: rest).length), index_eq_ok.mpr ⟨_, hdrop⟩, ?_⟩
      have hslice := slice_of_drop_eq (drop_succ_of_drop_eq hdrop)
      simp only [hlength, List.length_cons] at hlen
      rw [if_neg hge]
      simp only [ite_throw_eq_ok, bind_eq_ok, not_or, not_lt, gt_iff_lt, hand, hslice,
        fromBytes, hread]
      have hend : offset + 1 + (high :: rest).length ≤ payload.length := by
        rw [List.length_cons]
        omega
      refine ⟨hne, ⟨by simp, hwidth⟩, hend, high, index_eq_ok.mpr ⟨rest, rfl⟩, hnz,
        not_lt.mp hshort, ?_⟩
      rw [hlength, List.length_cons, Nat.add_assoc, Nat.add_comm 1]
      rfl

/-! ## Objects -/

mutual

/-- The item that stands for an object. -/
def itemOf : Ber.Tree → BerTlv
  | .primitive tag value => .mk (hexUpper tag) value false []
  | .constructed tag children =>
    .mk (hexUpper tag) (Ber.encodeForest children) true (itemsOf children)

/-- The items that stand for some objects. -/
def itemsOf : List Ber.Tree → List BerTlv
  | [] => []
  | tree :: rest => itemOf tree :: itemsOf rest

end

/-- The item of a well-formed object has its tag and its content. -/
theorem itemOf_eq {depth : ℕ} {tree : Ber.Tree} (h : Ber.WellFormed emvLimits depth tree) :
    itemOf tree =
      .mk (hexUpper tree.tag) tree.value (Ber.isConstructed tree.tag) (itemOf tree).children := by
  cases h with
  | primitive _ _ hbit _ => rw [Ber.Tree.tag, hbit]; rfl
  | constructed _ _ hbit _ _ _ => rw [Ber.Tree.tag, hbit]; rfl

/-- From an offset to the end of the octets, the loop of `_parse_items` accepts exactly the
concatenations of well-formed objects, and appends their items. -/
def LoopAccepts (payload : Bytes) (offset : ℕ) : Prop :=
  ∀ depth ≤ maxNestingDepth, ∀ items result,
    parseLoop payload offset payload.length depth items = .ok result ↔
      ∃ trees, (∀ tree ∈ trees, Ber.WellFormed emvLimits depth tree) ∧
        payload.drop offset = Ber.encodeForest trees ∧
        result = (items ++ itemsOf trees, payload.length)

/-- `_parse_items` accepts a whole window as its loop does, unless it is too deep. -/
theorem parseItems_eq_ok {payload : Bytes} {depth : ℕ} {result : List BerTlv × ℕ}
    (hloop : LoopAccepts payload 0) :
    parseItems payload 0 payload.length depth = .ok result ↔
      depth ≤ maxNestingDepth ∧
        ∃ trees, (∀ tree ∈ trees, Ber.WellFormed emvLimits depth tree) ∧
          payload = Ber.encodeForest trees ∧ result = (itemsOf trees, payload.length) := by
  unfold parseItems
  rw [ite_throw_eq_ok, not_lt]
  refine and_congr_right fun hdepth => ?_
  rw [hloop depth hdepth, List.drop_zero]
  rfl

/-- The content of a constructed tag is accepted when it is a non-empty concatenation of
well-formed objects one level deeper. -/
theorem parseChildren_eq_ok {tag : String} {value : Bytes} {depth : ℕ} {children : List BerTlv}
    (hloop : LoopAccepts value 0) :
    parseChildren tag value depth = .ok children ↔
      ∃ trees, trees ≠ [] ∧ (∀ tree ∈ trees, Ber.WellFormed emvLimits (depth + 1) tree) ∧
        value = Ber.encodeForest trees ∧ children = itemsOf trees := by
  unfold parseChildren
  simp only [ite_throw_eq_ok, bind_eq_ok, parseItems_eq_ok hloop, not_not]
  constructor
  · rintro ⟨hne, ⟨_, _⟩, ⟨-, trees, hwf, hvalue, hresult⟩, -, h⟩
    cases hresult
    cases h
    refine ⟨trees, fun hnil => hne ?_, hwf, hvalue, rfl⟩
    rw [hvalue, hnil, Ber.encodeForest]
  · rintro ⟨trees, hne, hwf, hvalue, rfl⟩
    obtain ⟨tree, htree⟩ := List.exists_mem_of_ne_nil trees hne
    refine ⟨hvalue ▸ Ber.encodeForest_ne_nil hwf hne, (itemsOf trees, value.length),
      ⟨(hwf tree htree).depth_le, trees, hwf, hvalue, rfl⟩, rfl, rfl⟩

/-- The content of a tag is accepted when the tag and the content are those of a well-formed
object. -/
theorem parseContent_eq_ok {tag value : Bytes} {depth : ℕ} {children : List BerTlv}
    (hloop : LoopAccepts value 0) (hdepth : depth ≤ maxNestingDepth)
    (htag : Ber.ValidTag emvLimits tag) (hlength : value.length < 256 ^ maxLengthBytes) :
    (if Ber.isConstructed tag then parseChildren (hexUpper tag) value depth else pure []) =
        .ok children ↔
      ∃ tree, Ber.WellFormed emvLimits depth tree ∧ tree.tag = tag ∧ tree.value = value ∧
        itemOf tree = .mk (hexUpper tag) value (Ber.isConstructed tag) children := by
  cases hbit : Ber.isConstructed tag with
  | true =>
    rw [if_pos rfl, parseChildren_eq_ok hloop]
    constructor
    · rintro ⟨trees, hne, hwf, rfl, rfl⟩
      exact ⟨.constructed tag trees, .constructed hdepth htag hbit hne hwf hlength, rfl, rfl, rfl⟩
    -- The tree is of the kind that the bit of its tag says.
    · rintro ⟨tree, hwf, rfl, rfl, hitem⟩
      cases hwf with
      | primitive _ _ hbit' _ => rw [Ber.Tree.tag, hbit'] at hbit; cases hbit
      | @constructed _ _ trees _ _ _ hne hwf _ =>
        exact ⟨trees, hne, hwf, rfl, (BerTlv.mk.inj hitem).2.2.2.symm⟩
  | false =>
    rw [if_neg Bool.false_ne_true]
    constructor
    · intro h
      cases h
      exact ⟨.primitive tag value, .primitive hdepth htag hbit hlength, rfl, rfl, rfl⟩
    · rintro ⟨tree, hwf, rfl, rfl, hitem⟩
      cases hwf with
      | primitive _ _ _ _ =>
        rw [← (BerTlv.mk.inj hitem).2.2.2]
        rfl
      | constructed _ _ hbit' _ _ _ => rw [Ber.Tree.tag, hbit'] at hbit; cases hbit

/-- One iteration of the loop of `_parse_items`: a tag, a length that fits the window, and content
that is accepted. -/
theorem parseLoop_eq_ok_of_lt {payload : Bytes} {offset limit depth : ℕ} {items : List BerTlv}
    {result : List BerTlv × ℕ} (hlt : offset < limit) :
    parseLoop payload offset limit depth items = .ok result ↔
      ∃ tag constructed lengthStart length start children,
        readTag payload offset limit = .ok (tag, constructed, lengthStart) ∧
        readLength payload lengthStart limit = .ok (length, start) ∧ start + length ≤ limit ∧
        (if constructed then parseChildren tag (slice payload start (start + length)) depth
          else pure []) = .ok children ∧
        parseLoop payload (start + length) limit depth
          (items ++ [.mk tag (slice payload start (start + length)) constructed children]) =
            .ok result := by
  rw [parseLoop_eq, if_pos hlt]
  simp only [bind_eq_ok, ite_throw_eq_ok, gt_iff_lt, not_lt]
  constructor
  · rintro ⟨⟨tag, constructed, lengthStart⟩, htag, ⟨length, start⟩, hlength, hle, children,
      hchildren, h⟩
    exact ⟨tag, constructed, lengthStart, length, start, children, htag, hlength, hle, hchildren,
      h⟩
  · rintro ⟨tag, constructed, lengthStart, length, start, children, htag, hlength, hle, hchildren,
      h⟩
    exact ⟨(tag, constructed, lengthStart), htag, (length, start), hlength, hle, children,
      hchildren, h⟩

/-- The loop of `_parse_items` accepts exactly the concatenations of well-formed objects. -/
theorem loopAccepts {payload : Bytes} {offset : ℕ} (hoffset : offset ≤ payload.length) :
    LoopAccepts payload offset := by
  -- The induction is on what is left of the window: an iteration leaves less of it, and the
  -- content of an object is a window shorter than what was left.
  induction hn : payload.length - offset using Nat.strong_induction_on
    generalizing payload offset with
  | _ n ih =>
    intro depth hdepth items result
    rcases hoffset.eq_or_lt with heq | hlt
    · rw [parseLoop, if_neg (by omega), pure_eq_ok, List.drop_eq_nil_of_le heq.ge]
      constructor
      · rintro rfl
        exact ⟨[], by simp, rfl, by rw [itemsOf, List.append_nil, heq]⟩
      · rintro ⟨trees, hwf, hnil, rfl⟩
        have htrees : trees = [] := by
          by_contra hne
          exact Ber.encodeForest_ne_nil hwf hne hnil.symm
        rw [htrees, itemsOf, List.append_nil, heq]
    · have hvalue : ∀ start length, offset < start → start + length ≤ payload.length →
          LoopAccepts (slice payload start (start + length)) 0 := by
        intro start length hstart hle
        have hlen := length_slice start hle
        exact ih _ (by rw [Nat.sub_zero, hlen]; omega) (Nat.zero_le _) rfl
      rw [parseLoop_eq_ok_of_lt hlt]
      constructor
      · rintro ⟨tag, constructed, lengthStart, length, start, children, htag, hlength, hle,
          hcontent, hrest⟩
        obtain ⟨tagBytes, hvalid, rfl, rfl, htagEnd, htagDrop⟩ := readTag_eq_ok.mp htag
        obtain ⟨hfit, hstart, hlengthDrop⟩ := readLength_eq_ok.mp hlength
        have hpos := readTag_progress htag
        have hpos' := readLength_progress hlength
        have hlen := length_slice start hle
        rw [Nat.add_sub_cancel_left] at hlen
        -- The object at the offset, whose content is a shorter window.
        obtain ⟨tree, hwf, rfl, hslice, hitem⟩ :=
          (parseContent_eq_ok (hvalue start length (by omega) hle) hdepth hvalid
            (by rw [hlen]; exact hfit)).mp hcontent
        -- The objects after it, in what is left of this window.
        obtain ⟨trees, hwfs, hdrop, rfl⟩ :=
          (ih _ (by omega) hle rfl depth hdepth _ _).mp hrest
        refine ⟨tree :: trees, by simpa using ⟨hwf, hwfs⟩, ?_, ?_⟩
        · rw [htagDrop, hlengthDrop, drop_eq_slice_append (Nat.le_add_right start length), hdrop,
            Ber.encodeForest, tree.encode_eq, hslice, hlen]
          simp only [List.append_assoc]
        · rw [← hitem, itemsOf, List.append_assoc, List.singleton_append]
      · rintro ⟨trees, hwf, hdrop, rfl⟩
        cases trees with
        | nil =>
          have hlen := congrArg List.length hdrop
          rw [List.length_drop, Ber.encodeForest, List.length_nil] at hlen
          omega
        | cons tree trees =>
          have htree := hwf tree List.mem_cons_self
          rw [Ber.encodeForest, tree.encode_eq, List.append_assoc, List.append_assoc] at hdrop
          have htagDrop := drop_add_of_drop_eq hdrop
          have hlengthDrop := drop_add_of_drop_eq htagDrop
          have hslice := slice_of_drop_eq hlengthDrop
          have hvalueDrop := drop_add_of_drop_eq hlengthDrop
          have htag : readTag payload offset payload.length =
              .ok (hexUpper tree.tag, Ber.isConstructed tree.tag, offset + tree.tag.length) :=
            readTag_eq_ok.mpr ⟨tree.tag, htree.validTag, rfl, rfl, rfl, by rw [hdrop, htagDrop]⟩
          have hlength := readLength_eq_ok.mpr ⟨htree.length_value, rfl,
            by rw [htagDrop, hlengthDrop]⟩
          have hpos := readTag_progress htag
          have hpos' := readLength_progress hlength
          have hlen := congrArg List.length hdrop
          simp only [List.length_drop, List.length_append] at hlen
          have hle : offset + tree.tag.length + (Ber.encodeLength tree.value.length).length +
              tree.value.length ≤ payload.length := by
            omega
          refine ⟨_, _, _, _, _, (itemOf tree).children, htag, hlength, hle, ?_, ?_⟩
          · have hcontent := hvalue _ _ (by omega) hle
            rw [hslice] at hcontent ⊢
            exact (parseContent_eq_ok hcontent hdepth htree.validTag htree.length_value).mpr
              ⟨tree, htree, rfl, rfl, itemOf_eq htree⟩
          · rw [hslice, ← itemOf_eq htree]
            refine (ih _ (by omega) hle rfl depth hdepth _ _).mpr
              ⟨trees, fun t ht => hwf t (List.mem_cons_of_mem _ ht), hvalueDrop, ?_⟩
            rw [itemsOf, List.append_assoc, List.singleton_append]

/-- `payload` is the concatenation of the canonical encodings of a non-empty list of well-formed
objects. -/
def IsForest (trees : List Ber.Tree) (payload : Bytes) : Prop :=
  trees ≠ [] ∧ (∀ tree ∈ trees, Ber.WellFormed emvLimits 0 tree) ∧
    Ber.encodeForest trees = payload

/-- `parse_ber_tlv` accepts exactly the forests, and returns their items. -/
theorem parseBerTlv_eq_ok {payload : Bytes} {items : List BerTlv} :
    parseBerTlv payload = .ok items ↔ ∃ trees, IsForest trees payload ∧ items = itemsOf trees := by
  unfold parseBerTlv
  simp only [ite_throw_eq_ok, bind_eq_ok, parseItems_eq_ok (loopAccepts (Nat.zero_le _)),
    not_not]
  constructor
  · rintro ⟨hne, ⟨_, _⟩, ⟨-, trees, hwf, hpayload, hresult⟩, -, h⟩
    cases hresult
    cases h
    refine ⟨trees, ⟨fun hnil => hne ?_, hwf, hpayload.symm⟩, rfl⟩
    rw [hpayload, hnil, Ber.encodeForest]
  · rintro ⟨trees, ⟨hne, hwf, hpayload⟩, rfl⟩
    refine ⟨hpayload ▸ Ber.encodeForest_ne_nil hwf hne, (itemsOf trees, payload.length),
      ⟨Nat.zero_le _, trees, hwf, hpayload.symm, rfl⟩, rfl, rfl⟩

/-! ## Encoding the items again -/

/-- The tag bytes, the shortest length and the value of an item. -/
def BerTlv.encode (item : BerTlv) : Bytes :=
  fromHex item.tag ++ (Ber.encodeLength item.value.length ++ item.value)

/-- The encodings of some items, one after the other. -/
def encodeItems (items : List BerTlv) : Bytes := items.flatMap BerTlv.encode

/-- In every constructed node of an item the encodings of the children are the value, and the other
nodes have no children. -/
inductive BerTlv.Faithful : BerTlv → Prop where
  | primitive (tag : String) (value : Bytes) : Faithful (.mk tag value false [])
  | constructed (tag : String) (value : Bytes) (children : List BerTlv)
      (hvalue : encodeItems children = value) (hchildren : ∀ child ∈ children, child.Faithful) :
      Faithful (.mk tag value true children)

/-- The items of some objects are their items, one by one. -/
theorem itemsOf_eq_map (trees : List Ber.Tree) : itemsOf trees = trees.map itemOf := by
  induction trees with
  | nil => rfl
  | cons tree rest ih => rw [itemsOf, ih, List.map_cons]

/-- The item of an object has its encoding. -/
theorem encode_itemOf (tree : Ber.Tree) : (itemOf tree).encode = tree.encode := by
  cases tree <;> simp [itemOf, BerTlv.encode, BerTlv.tag, BerTlv.value, Ber.Tree.encode]

/-- The items of some objects have their encoding. -/
theorem encodeItems_itemsOf (trees : List Ber.Tree) :
    encodeItems (itemsOf trees) = Ber.encodeForest trees := by
  rw [itemsOf_eq_map, encodeItems, List.flatMap_map, Ber.encodeForest_eq_flatMap]
  exact List.flatMap_congr fun tree _ => encode_itemOf tree

/-- The item of a well-formed object is faithful at every node. -/
theorem faithful_itemOf {depth : ℕ} {tree : Ber.Tree} (h : Ber.WellFormed emvLimits depth tree) :
    (itemOf tree).Faithful := by
  induction h with
  | primitive _ _ _ _ => exact .primitive _ _
  | constructed _ _ _ _ _ _ ih =>
    refine .constructed _ _ _ (encodeItems_itemsOf _) fun child hchild => ?_
    rw [itemsOf_eq_map, List.mem_map] at hchild
    obtain ⟨tree, htree, rfl⟩ := hchild
    exact ih tree htree

/-- `parse_ber_tlv` succeeds exactly on the forests of the grammar; it returns the trees of the
forest, and encoding what it returns gives back the payload, and in every constructed node the
value. -/
theorem parseBerTlv_grammar (payload : Bytes) :
    ((∃ items, parseBerTlv payload = .ok items) ↔ ∃ trees, IsForest trees payload) ∧
      (∀ trees, IsForest trees payload → parseBerTlv payload = .ok (itemsOf trees)) ∧
      ∀ items, parseBerTlv payload = .ok items →
        encodeItems items = payload ∧ ∀ item ∈ items, item.Faithful := by
  refine ⟨⟨?_, ?_⟩, fun trees h => parseBerTlv_eq_ok.mpr ⟨trees, h, rfl⟩, fun items hitems => ?_⟩
  · rintro ⟨items, hitems⟩
    obtain ⟨trees, htrees, -⟩ := parseBerTlv_eq_ok.mp hitems
    exact ⟨trees, htrees⟩
  · rintro ⟨trees, htrees⟩
    exact ⟨itemsOf trees, parseBerTlv_eq_ok.mpr ⟨trees, htrees, rfl⟩⟩
  · obtain ⟨trees, ⟨-, hwf, hpayload⟩, rfl⟩ := parseBerTlv_eq_ok.mp hitems
    refine ⟨by rw [encodeItems_itemsOf, hpayload], fun item hitem => ?_⟩
    rw [itemsOf_eq_map, List.mem_map] at hitem
    obtain ⟨tree, htree, rfl⟩ := hitem
    exact faithful_itemOf (hwf tree htree)

end AtlasPay
