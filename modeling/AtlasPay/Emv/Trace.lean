import AtlasPay.Emv.BerTlv
import AtlasPay.Library.Logged

/-!
# What the parser does on its way

The parser of `Emv/BerTlv.lean`, with a log of what it reads, of its iterations and of its calls.
Each function is the parser's, and returns or raises what that returns or raises.
-/

namespace AtlasPay

/-- What the parser does. -/
inductive ParserEvent where
  /-- It reads the octet at `offset`, in a window that ends at `limit`, of so many octets. -/
  | read (offset limit length : ℕ)
  /-- It cuts out the octets from `start` to `stop`. -/
  | slice (start stop limit length : ℕ)
  /-- An iteration of `_parse_items` has gone from `start` to `stop`. -/
  | iteration (start stop limit : ℕ)
  /-- `_parse_items` is called. -/
  | call (depth : ℕ)

/-- A part of the parser, with its log. -/
abbrev Trace := Logged ParserEvent PyError

namespace Trace

open Logged (raise note)

/-- `payload[offset]`. -/
def read (payload : Bytes) (offset limit : ℕ) : Trace UInt8 :=
  ⟨[.read offset limit payload.length], index payload offset⟩

/-- `payload[start:stop]`. -/
def cut (payload : Bytes) (start stop limit : ℕ) : Trace Bytes :=
  ⟨[.slice start stop limit payload.length], .ok (slice payload start stop)⟩

/-- `readTagLoop`. -/
def tagLoop (payload : Bytes) (limit : ℕ) (tagBytes : Bytes) (offset : ℕ) : Trace (Bytes × ℕ) :=
  if offset ≥ limit then raise (.emvTlvError "multi-byte BER-TLV tag is truncated")
  else if _h : tagBytes.length ≥ maxTagBytes then
    raise (.emvTlvError "BER-TLV tag exceeds configured width limit")
  else do
    let current ← read payload offset limit
    if tagBytes.length = 1 ∧ current &&& 0x7F = 0 then
      raise (.emvTlvError "BER-TLV tag uses non-canonical continuation byte")
    else if current &&& 0x80 = 0 then pure (tagBytes ++ [current], offset + 1)
    else tagLoop payload limit (tagBytes ++ [current]) (offset + 1)
termination_by maxTagBytes - tagBytes.length
decreasing_by
  rw [List.length_append, List.length_singleton]
  omega

/-- `readTag`. -/
def tag (payload : Bytes) (offset limit : ℕ) : Trace (String × Bool × ℕ) :=
  if offset ≥ limit then raise (.emvTlvError "BER-TLV tag is truncated")
  else do
    let first ← read payload offset limit
    if first = 0x00 ∨ first = 0xFF then
      raise (.emvTlvError "BER-TLV padding bytes are not valid tags")
    else
      let constructed : Bool := first &&& 0x20 ≠ 0
      if first &&& 0x1F = 0x1F then do
        let (tagBytes, stop) ← tagLoop payload limit [first] (offset + 1)
        pure (hexUpper tagBytes, constructed, stop)
      else pure (hexUpper [first], constructed, offset + 1)

/-- `readLength`. -/
def length (payload : Bytes) (offset limit : ℕ) : Trace (ℕ × ℕ) :=
  if offset ≥ limit then raise (.emvTlvError "BER-TLV length is truncated")
  else do
    let first ← read payload offset limit
    if first < 0x80 then pure (first.toNat, offset + 1)
    else if first = 0x80 then raise (.emvTlvError "indefinite BER lengths are not allowed")
    else
      let width := (first &&& 0x7F).toNat
      if width = 0 ∨ width > maxLengthBytes then
        raise (.emvTlvError "BER-TLV length width exceeds configured limit")
      else
        let stop := offset + 1 + width
        if stop > limit then raise (.emvTlvError "BER-TLV long-form length is truncated")
        else do
          let encoded ← cut payload (offset + 1) stop limit
          let high ← read encoded 0 encoded.length
          if high = 0 then raise (.emvTlvError "BER-TLV length must use minimal encoding")
          else
            let length := fromBytes encoded
            if length < 0x80 then
              raise (.emvTlvError "BER-TLV long-form length is non-canonical")
            else pure (length, stop)

/-- The loop of `_read_tag` returns and raises the same without the log. -/
theorem result_tagLoop (payload : Bytes) (limit : ℕ) (tagBytes : Bytes) (offset : ℕ) :
    (tagLoop payload limit tagBytes offset).result = readTagLoop payload limit tagBytes offset := by
  fun_induction readTagLoop payload limit tagBytes offset with
  | case1 tagBytes offset hend =>
    rw [tagLoop, if_pos hend]
    rfl
  | case2 tagBytes offset hend hmax =>
    rw [tagLoop, if_neg hend, dif_pos hmax]
    rfl
  | case3 tagBytes offset hend hmax ih =>
    rw [tagLoop, if_neg hend, dif_neg hmax]
    refine Logged.result_bind rfl fun current _ => ?_
    refine Logged.result_ite (fun _ => rfl) fun _ => Logged.result_ite (fun _ => rfl) fun _ => ?_
    exact ih current

/-- `_read_tag` returns and raises the same without the log. -/
theorem result_tag (payload : Bytes) (offset limit : ℕ) :
    (tag payload offset limit).result = readTag payload offset limit := by
  unfold tag readTag
  refine Logged.result_ite (fun _ => rfl) fun _ => Logged.result_bind rfl fun first _ => ?_
  refine Logged.result_ite (fun _ => rfl) fun _ => Logged.result_ite (fun _ => ?_) fun _ => rfl
  exact Logged.result_bind (result_tagLoop _ _ _ _) fun _ _ => rfl

/-- `_read_length` returns and raises the same without the log. -/
theorem result_length (payload : Bytes) (offset limit : ℕ) :
    (length payload offset limit).result = readLength payload offset limit := by
  unfold length readLength
  refine Logged.result_ite (fun _ => rfl) fun _ => Logged.result_bind rfl fun first _ => ?_
  refine Logged.result_ite (fun _ => rfl) fun _ => Logged.result_ite (fun _ => rfl) fun _ => ?_
  refine Logged.result_ite (fun _ => rfl) fun _ => Logged.result_ite (fun _ => rfl) fun _ => ?_
  -- Cutting out the octets never raises.
  change Logged.result (read _ _ _ >>= _) = _
  refine Logged.result_bind rfl fun high _ => Logged.result_ite (fun _ => rfl) fun _ => ?_
  exact Logged.result_ite (fun _ => rfl) fun _ => rfl

/-! ## Objects -/

mutual

/-- `parseItems`. -/
def items (payload : Bytes) (offset limit depth : ℕ) : Trace (List BerTlv × ℕ) := do
  note (.call depth)
  if depth > maxNestingDepth then
    raise (.emvTlvError "BER-TLV nesting exceeds configured depth limit")
  else loop payload offset limit depth []
termination_by (limit - offset, 1)

/-- `parseLoop`. -/
def loop (payload : Bytes) (offset limit depth : ℕ) (items : List BerTlv) :
    Trace (List BerTlv × ℕ) :=
  if offset < limit then
    (tag payload offset limit).bind fun (tag, constructed, lengthStart) _htag =>
      (length payload lengthStart limit).bind fun (length, start) hlength =>
        let stop := start + length
        if stop > limit then raise (.emvTlvError s!"tag {tag} value is truncated")
        else
          (cut payload start stop limit).bind fun value hvalue => do
            let children ← (if constructed then children tag value depth else pure [])
            note (.iteration offset stop limit)
            loop payload stop limit depth (items ++ [.mk tag value constructed children])
  else pure (items, offset)
termination_by (limit - offset, 0)
decreasing_by
  · have h₁ := readTag_progress ((result_tag _ _ _).symm.trans _htag)
    have h₂ := readLength_progress ((result_length _ _ _).symm.trans hlength)
    have h₃ := length_slice_le payload start stop
    have _ : stop = start + length := rfl
    cases hvalue
    refine Prod.Lex.left _ _ ?_
    omega
  · have h₁ := readTag_progress ((result_tag _ _ _).symm.trans _htag)
    have h₂ := readLength_progress ((result_length _ _ _).symm.trans hlength)
    refine Prod.Lex.left _ _ ?_
    omega

/-- `parseChildren`. -/
def children (tag : String) (value : Bytes) (depth : ℕ) : Trace (List BerTlv) :=
  if value = [] then raise (.emvTlvError s!"constructed tag {tag} must not be empty")
  else do
    let (children, childEnd) ← items value 0 value.length (depth + 1)
    if childEnd ≠ value.length then
      raise (.emvTlvError s!"constructed tag {tag} contains trailing bytes")
    else pure children
termination_by (value.length, 2)

end

/-- `parseBerTlv`. -/
def parse (payload : Bytes) : Trace (List BerTlv) :=
  if payload = [] then raise (.emvTlvError "BER-TLV payload must not be empty")
  else do
    let (items, offset) ← items payload 0 payload.length 0
    if offset ≠ payload.length then raise (.emvTlvError "unexpected trailing BER-TLV bytes")
    else pure items

/-- `_parse_items` returns and raises the same without the log, if its loop does. -/
theorem result_items {payload : Bytes} {offset limit depth : ℕ}
    (hloop : (loop payload offset limit depth []).result =
      parseLoop payload offset limit depth []) :
    (items payload offset limit depth).result = parseItems payload offset limit depth := by
  rw [items, parseItems]
  change Logged.result (if _ then _ else _) = _
  exact Logged.result_ite (fun _ => rfl) fun _ => hloop

/-- The objects in a content are the same without the log, if those of the window are. -/
theorem result_children {tag : String} {value : Bytes} {depth : ℕ}
    (hitems : (items value 0 value.length (depth + 1)).result =
      parseItems value 0 value.length (depth + 1)) :
    (children tag value depth).result = parseChildren tag value depth := by
  rw [children, parseChildren]
  refine Logged.result_ite (fun _ => rfl) fun _ => Logged.result_bind hitems fun _ _ => ?_
  exact Logged.result_ite (fun _ => rfl) fun _ => rfl

/-- The loop of `_parse_items` returns and raises the same without the log. -/
theorem result_loop (payload : Bytes) (offset limit depth : ℕ) (items : List BerTlv) :
    (loop payload offset limit depth items).result =
      parseLoop payload offset limit depth items := by
  -- The induction is on what is left of the window, as for the grammar.
  induction hn : limit - offset using Nat.strong_induction_on
    generalizing payload offset limit depth items with
  | _ n ih =>
    rw [loop, parseLoop_eq]
    refine Logged.result_ite (fun hlt => ?_) fun _ => rfl
    refine Logged.result_bind (result_tag _ _ _) fun tagged htag => ?_
    refine Logged.result_bind (result_length _ _ _) fun sized hlength => ?_
    have h₁ := readTag_progress ((result_tag _ _ _).symm.trans htag)
    have h₂ := readLength_progress ((result_length _ _ _).symm.trans hlength)
    refine Logged.result_ite (fun _ => rfl) fun hle => ?_
    have h₃ := length_slice_le payload sized.2 (sized.2 + sized.1)
    change Logged.result (_ >>= _) = _
    refine Logged.result_bind (Logged.result_ite (fun _ => ?_) fun _ => rfl) fun _ _ => ?_
    · exact result_children (result_items (ih _ (by omega) _ _ _ _ _ rfl))
    · exact ih _ (by omega) _ _ _ _ _ rfl

/-- `parse_ber_tlv` returns and raises the same without the log. -/
theorem result_parse (payload : Bytes) : (parse payload).result = parseBerTlv payload := by
  unfold parse parseBerTlv
  refine Logged.result_ite (fun _ => rfl) fun _ => ?_
  refine Logged.result_bind (result_items (result_loop _ _ _ _ _)) fun _ _ => ?_
  exact Logged.result_ite (fun _ => rfl) fun _ => rfl

end Trace

end AtlasPay
