import AtlasPay.Python.Basic
import AtlasPay.Library.Ber

/-!
# The BER-TLV parser of DE55

The model of the parser in `app/emv.py`. Offsets are absolute in the window that is being parsed,
and every octet is read through `index`, which raises outside it. Tag names and the TVR helper are
left out, since the parser does not read them.
-/

namespace AtlasPay

/-- `MAX_TAG_BYTES`. -/
def maxTagBytes : ℕ := 4

/-- `MAX_LENGTH_BYTES`. -/
def maxLengthBytes : ℕ := 3

/-- `MAX_NESTING_DEPTH`. -/
def maxNestingDepth : ℕ := 8

/-- `BerTlv`. -/
inductive BerTlv where
  | mk (tag : String) (value : Bytes) (constructed : Bool) (children : List BerTlv)
  deriving Repr

namespace BerTlv

/-- The tag, in upper-case hexadecimal. -/
def tag : BerTlv → String
  | mk tag _ _ _ => tag

/-- The content. -/
def value : BerTlv → Bytes
  | mk _ value _ _ => value

/-- Whether the content is a sequence of objects. -/
def constructed : BerTlv → Bool
  | mk _ _ constructed _ => constructed

/-- The objects in the content. -/
def children : BerTlv → List BerTlv
  | mk _ _ _ children => children

end BerTlv

/-! ## Tags and lengths -/

/-- The loop of `_read_tag`. -/
def readTagLoop (payload : Bytes) (limit : ℕ) (tagBytes : Bytes) (offset : ℕ) : Py (Bytes × ℕ) :=
  if offset ≥ limit then throw (.emvTlvError "multi-byte BER-TLV tag is truncated")
  else if _h : tagBytes.length ≥ maxTagBytes then
    throw (.emvTlvError "BER-TLV tag exceeds configured width limit")
  else do
    let current ← index payload offset
    if tagBytes.length = 1 ∧ current &&& 0x7F = 0 then
      throw (.emvTlvError "BER-TLV tag uses non-canonical continuation byte")
    else if current &&& 0x80 = 0 then pure (tagBytes ++ [current], offset + 1)
    else readTagLoop payload limit (tagBytes ++ [current]) (offset + 1)
termination_by maxTagBytes - tagBytes.length
decreasing_by
  rw [List.length_append, List.length_singleton]
  omega

/-- `_read_tag`. -/
def readTag (payload : Bytes) (offset limit : ℕ) : Py (String × Bool × ℕ) :=
  if offset ≥ limit then throw (.emvTlvError "BER-TLV tag is truncated")
  else do
    let first ← index payload offset
    if first = 0x00 ∨ first = 0xFF then
      throw (.emvTlvError "BER-TLV padding bytes are not valid tags")
    else
      let constructed : Bool := first &&& 0x20 ≠ 0
      if first &&& 0x1F = 0x1F then do
        let (tagBytes, stop) ← readTagLoop payload limit [first] (offset + 1)
        pure (hexUpper tagBytes, constructed, stop)
      else pure (hexUpper [first], constructed, offset + 1)

/-- `_read_length`. -/
def readLength (payload : Bytes) (offset limit : ℕ) : Py (ℕ × ℕ) :=
  if offset ≥ limit then throw (.emvTlvError "BER-TLV length is truncated")
  else do
    let first ← index payload offset
    if first < 0x80 then pure (first.toNat, offset + 1)
    else if first = 0x80 then throw (.emvTlvError "indefinite BER lengths are not allowed")
    else
      let width := (first &&& 0x7F).toNat
      if width = 0 ∨ width > maxLengthBytes then
        throw (.emvTlvError "BER-TLV length width exceeds configured limit")
      else
        let stop := offset + 1 + width
        if stop > limit then throw (.emvTlvError "BER-TLV long-form length is truncated")
        else do
          let encoded := slice payload (offset + 1) stop
          let high ← index encoded 0
          if high = 0 then throw (.emvTlvError "BER-TLV length must use minimal encoding")
          else
            let length := fromBytes encoded
            if length < 0x80 then
              throw (.emvTlvError "BER-TLV long-form length is non-canonical")
            else pure (length, stop)

/-- The loop of `_read_tag` moves forward. -/
theorem readTagLoop_progress {payload tagBytes tagBytes' : Bytes} {offset limit stop : ℕ}
    (h : readTagLoop payload limit tagBytes offset = .ok (tagBytes', stop)) : offset < stop := by
  fun_induction readTagLoop payload limit tagBytes offset with
  | case1 | case2 => cases h
  | case3 tagBytes offset _ _ ih =>
    obtain ⟨current, -, h⟩ := bind_eq_ok.mp h
    obtain ⟨-, h⟩ := ite_throw_eq_ok.mp h
    split at h
    · cases h
      omega
    · have := ih current h
      omega

/-- `_read_tag` reads an octet at least. -/
theorem readTag_progress {payload : Bytes} {offset limit stop : ℕ} {tag : String}
    {constructed : Bool} (h : readTag payload offset limit = .ok (tag, constructed, stop)) :
    offset < stop := by
  unfold readTag at h
  obtain ⟨-, h⟩ := ite_throw_eq_ok.mp h
  obtain ⟨first, -, h⟩ := bind_eq_ok.mp h
  obtain ⟨-, h⟩ := ite_throw_eq_ok.mp h
  split at h
  · obtain ⟨⟨tagBytes, stop'⟩, hloop, h⟩ := bind_eq_ok.mp h
    have := readTagLoop_progress hloop
    cases h
    omega
  · cases h
    omega

/-- `_read_length` reads an octet at least. -/
theorem readLength_progress {payload : Bytes} {offset limit length stop : ℕ}
    (h : readLength payload offset limit = .ok (length, stop)) : offset < stop := by
  unfold readLength at h
  obtain ⟨-, h⟩ := ite_throw_eq_ok.mp h
  obtain ⟨first, -, h⟩ := bind_eq_ok.mp h
  split at h
  · cases h
    omega
  · obtain ⟨-, h⟩ := ite_throw_eq_ok.mp h
    obtain ⟨-, h⟩ := ite_throw_eq_ok.mp h
    obtain ⟨-, h⟩ := ite_throw_eq_ok.mp h
    obtain ⟨high, -, h⟩ := bind_eq_ok.mp h
    obtain ⟨-, h⟩ := ite_throw_eq_ok.mp h
    obtain ⟨-, h⟩ := ite_throw_eq_ok.mp h
    cases h
    omega

/-! ## Objects -/

mutual

/-- `_parse_items`. -/
def parseItems (payload : Bytes) (offset limit depth : ℕ) : Py (List BerTlv × ℕ) :=
  if depth > maxNestingDepth then
    throw (.emvTlvError "BER-TLV nesting exceeds configured depth limit")
  else parseLoop payload offset limit depth []
termination_by (limit - offset, 1)

/-- The loop of `_parse_items`, from the items that it has appended so far. -/
def parseLoop (payload : Bytes) (offset limit depth : ℕ) (items : List BerTlv) :
    Py (List BerTlv × ℕ) :=
  if offset < limit then
    match _htag : readTag payload offset limit with
    | .error e => throw e
    | .ok (tag, constructed, lengthStart) =>
      match hlength : readLength payload lengthStart limit with
      | .error e => throw e
      | .ok (length, start) =>
        let stop := start + length
        if stop > limit then throw (.emvTlvError s!"tag {tag} value is truncated")
        else do
          let value := slice payload start stop
          let children ← (if constructed then parseChildren tag value depth else pure [])
          parseLoop payload stop limit depth (items ++ [.mk tag value constructed children])
  else pure (items, offset)
termination_by (limit - offset, 0)
decreasing_by
  · have h₁ := readTag_progress _htag
    have h₂ := readLength_progress hlength
    have h₃ := length_slice_le payload start (start + length)
    refine Prod.Lex.left _ _ ?_
    omega
  · have h₁ := readTag_progress _htag
    have h₂ := readLength_progress hlength
    refine Prod.Lex.left _ _ ?_
    omega

/-- The objects in the content of a constructed tag. -/
def parseChildren (tag : String) (value : Bytes) (depth : ℕ) : Py (List BerTlv) :=
  if value = [] then throw (.emvTlvError s!"constructed tag {tag} must not be empty")
  else do
    let (children, childEnd) ← parseItems value 0 value.length (depth + 1)
    if childEnd ≠ value.length then
      throw (.emvTlvError s!"constructed tag {tag} contains trailing bytes")
    else pure children
termination_by (value.length, 2)

end

/-- The loop of `_parse_items` as one call after another. -/
theorem parseLoop_eq (payload : Bytes) (offset limit depth : ℕ) (items : List BerTlv) :
    parseLoop payload offset limit depth items =
      if offset < limit then do
        let (tag, constructed, lengthStart) ← readTag payload offset limit
        let (length, start) ← readLength payload lengthStart limit
        let stop := start + length
        if stop > limit then throw (.emvTlvError s!"tag {tag} value is truncated")
        else do
          let value := slice payload start stop
          let children ← (if constructed then parseChildren tag value depth else pure [])
          parseLoop payload stop limit depth (items ++ [.mk tag value constructed children])
      else pure (items, offset) := by
  rw [parseLoop]
  -- The definition matches on the results, which keeps the proof that the offset grows.
  split
  · split
    · next e htag =>
      rw [htag]
      rfl
    · next tag constructed lengthStart htag =>
      rw [htag]
      split
      · next e hlength =>
        change _ = readLength payload lengthStart limit >>= _
        rw [hlength]
        rfl
      · next length start hlength =>
        change _ = readLength payload lengthStart limit >>= _
        rw [hlength]
        rfl
  · rfl

/-- `parse_ber_tlv`. -/
def parseBerTlv (payload : Bytes) : Py (List BerTlv) :=
  if payload = [] then throw (.emvTlvError "BER-TLV payload must not be empty")
  else do
    let (items, offset) ← parseItems payload 0 payload.length 0
    if offset ≠ payload.length then throw (.emvTlvError "unexpected trailing BER-TLV bytes")
    else pure items

end AtlasPay
