import AtlasPay.Library.Positional

/-!
# The Python that the codecs and the network layer are written in

Exceptions with their texts, `bytes` as lists of octets, and the ASCII and integer conversions that
the modules call. A Python function that may raise is a function into `Py`.
-/

namespace AtlasPay

open Positional (octets octets_isGlyph asciiDigits asciiDigits_isGlyph hexDigits
  toNat_of_asciiDigits_isGlyph)

universe u

/-- The exceptions that the modelled functions raise, with their texts where the source gives them.
`external` is whatever a collaborator passed in from outside raises. -/
inductive PyError where
  | valueError (message : String)
  | typeError (message : String)
  | indexError
  | assertionError
  | unicodeEncodeError
  | unicodeDecodeError
  | iso8583CodecError (message : String)
  | iso8583MappingError (message : String)
  | iso20022MappingError (message : String)
  | networkRoutingError (message : String)
  | emvTlvError (message : String)
  | external (name : String)
  deriving DecidableEq, Repr

/-- A call that returns a value or raises. -/
abbrev Py (α : Type*) := Except PyError α

/-- `raise` never returns. -/
@[simp]
theorem throw_ne_ok {ε α : Type*} {e : ε} {a : α} : (throw e : Except ε α) ≠ .ok a := by
  simp [throw, throwThe, MonadExceptOf.throw]

/-- `pure` returns its value. -/
@[simp]
theorem pure_eq_ok {ε α : Type*} {a b : α} : (pure a : Except ε α) = .ok b ↔ a = b := by
  simp [pure, Except.pure]

/-- A call that returns by binding: the first part returned, and the rest did from its value. -/
theorem bind_eq_ok {ε : Type*} {α β : Type u} {x : Except ε α} {f : α → Except ε β} {b : β} :
    (x >>= f) = .ok b ↔ ∃ a, x = .ok a ∧ f a = .ok b := by
  cases x with
  | ok a => simp [bind, Except.bind]
  | error e => simp [bind, Except.bind]

/-- A call that raises by binding: the first part raised, or returned and the rest raised. -/
theorem bind_eq_error {ε : Type*} {α β : Type u} {x : Except ε α} {f : α → Except ε β} {e : ε} :
    (x >>= f) = .error e ↔ x = .error e ∨ ∃ a, x = .ok a ∧ f a = .error e := by
  cases x with
  | ok a => simp [bind, Except.bind]
  | error e => simp [bind, Except.bind]

/-- What is done with the members of a list, where none of them fails. -/
theorem mapM_eq_ok {ε α : Type*} {β : Type u} {f : α → Except ε β} {g : α → β} {xs : List α}
    (h : ∀ x ∈ xs, f x = .ok (g x)) : xs.mapM f = .ok (xs.map g) := by
  induction xs with
  | nil => rfl
  | cons x xs ih =>
    obtain ⟨hx, hxs⟩ := List.forall_mem_cons.mp h
    rw [List.mapM_cons, hx, ih hxs]
    rfl

/-- A guard that raises did not raise. -/
theorem ite_throw_eq_ok {ε α : Type*} {c : Prop} [Decidable c] {e : ε} {x : Except ε α} {a : α} :
    (if c then throw e else x) = .ok a ↔ ¬c ∧ x = .ok a := by
  by_cases h : c
  · simp [h, throw, throwThe, MonadExceptOf.throw]
  · simp [h]

/-- A guard raised, or what follows it did. -/
theorem ite_throw_eq_error {ε α : Type*} {c : Prop} [Decidable c] {e e' : ε} {x : Except ε α} :
    (if c then throw e' else x) = .error e ↔ c ∧ e' = e ∨ ¬c ∧ x = .error e := by
  by_cases h : c
  · simp [h, throw, throwThe, MonadExceptOf.throw]
  · simp [h]

/-- Python `bytes`. -/
abbrev Bytes := List UInt8

/-- `int.to_bytes(width, "big")`. -/
def toBytes (width n : ℕ) : Bytes := octets.write width n

/-- `int.from_bytes(raw, "big")`. -/
def fromBytes (raw : Bytes) : ℕ := octets.read raw

/-- `f"{n:0{width}d}".encode("ascii")`, for a positive width. -/
def zeroPadded (width n : ℕ) : Bytes := asciiDigits.write width n

/-- `int(raw)` on ASCII digits. -/
def intOfDigits (raw : Bytes) : ℕ := asciiDigits.read raw

/-- `str.isascii`. -/
def isAscii (s : String) : Bool := s.toList.all fun c => c.toNat < 128

/-- `str.isascii() and str.isdecimal()`: one or more ASCII digits. -/
def isAsciiDecimal (s : String) : Bool :=
  s ≠ "" && s.toList.all fun c => 48 ≤ c.toNat && c.toNat ≤ 57

/-- `bytes.isascii() and bytes.isdigit()`: one or more ASCII digits. -/
def isDigits (raw : Bytes) : Bool := raw ≠ [] && raw.all fun b => 48 ≤ b.toNat && b.toNat ≤ 57

/-- `str.encode("ascii")`. -/
def encodeAscii (s : String) : Py Bytes :=
  if isAscii s then pure (s.toList.map fun c => UInt8.ofNat c.toNat) else throw .unicodeEncodeError

/-- `bytes.decode("ascii")`. -/
def decodeAscii (raw : Bytes) : Py String :=
  if raw.all fun b => b.toNat < 128 then pure (String.ofList (raw.map fun b => Char.ofNat b.toNat))
  else throw .unicodeDecodeError

/-- `raw.hex().upper()`. -/
def hexUpper (raw : Bytes) : String :=
  String.ofList (raw.flatMap fun byte => hexDigits.write 2 byte.toNat)

/-- `raw[offset]`. -/
def index (raw : Bytes) (offset : ℕ) : Py UInt8 :=
  match raw[offset]? with
  | some byte => pure byte
  | none => throw .indexError

/-- `raw[start:stop]`. -/
def slice (raw : Bytes) (start stop : ℕ) : Bytes := (raw.drop start).take (stop - start)

/-! ## Integers as bytes -/

/-- `bytes.isdigit` is being a non-empty decimal numeral. -/
theorem isDigits_iff {raw : Bytes} :
    isDigits raw = true ↔ raw ≠ [] ∧ ∀ b ∈ raw, asciiDigits.IsGlyph b := by
  simp only [isDigits, Bool.and_eq_true, decide_eq_true_eq, List.all_eq_true, ne_eq]
  refine and_congr_right fun _ => forall₂_congr fun b _ => ?_
  exact ⟨fun h => asciiDigits_isGlyph h.1 h.2, toNat_of_asciiDigits_isGlyph⟩

/-- `int.to_bytes` gives `width` octets to a number that fits. -/
theorem length_toBytes {width n : ℕ} (h : n < 256 ^ width) : (toBytes width n).length = width :=
  octets.length_write (by norm_num) h

/-- `int.from_bytes` undoes `int.to_bytes`. -/
@[simp]
theorem fromBytes_toBytes (width n : ℕ) : fromBytes (toBytes width n) = n :=
  octets.read_write (by norm_num) width n

/-- `int.to_bytes` at the width of the octets undoes `int.from_bytes`. -/
theorem toBytes_fromBytes (raw : Bytes) : toBytes raw.length (fromBytes raw) = raw :=
  octets.write_read (by norm_num) fun b _ => octets_isGlyph b

/-- The value of some octets is below the power of 256 that their number allows. -/
theorem fromBytes_lt (raw : Bytes) : fromBytes raw < 256 ^ raw.length :=
  octets.read_lt (by norm_num) fun b _ => octets_isGlyph b

/-! ## ASCII text -/

/-- An encoded string has one octet for each character, all of them ASCII. -/
theorem encodeAscii_eq_ok {s : String} {raw : Bytes} (h : encodeAscii s = .ok raw) :
    raw = s.toList.map (fun c => UInt8.ofNat c.toNat) ∧ ∀ c ∈ s.toList, c.toNat < 128 := by
  unfold encodeAscii at h
  split at h
  · next hs =>
    simp only [isAscii, List.all_eq_true, decide_eq_true_eq] at hs
    exact ⟨by simpa [pure, Except.pure] using h.symm, hs⟩
  · simp [throw, throwThe, MonadExceptOf.throw] at h

/-- Text has as many characters as ASCII bytes. -/
theorem length_of_encodeAscii {s : String} {raw : Bytes} (h : encodeAscii s = .ok raw) :
    s.length = raw.length := by
  rw [(encodeAscii_eq_ok h).1, List.length_map, String.length_toList]

/-- ASCII text encodes to one octet for each character. -/
theorem encodeAscii_of_lt {s : String} (h : ∀ c ∈ s.toList, c.toNat < 128) :
    encodeAscii s = .ok (s.toList.map fun c => UInt8.ofNat c.toNat) := by
  have hs : isAscii s = true := by
    simp only [isAscii, List.all_eq_true, decide_eq_true_eq]
    exact h
  unfold encodeAscii
  rw [if_pos hs]
  rfl

/-- A character below 256 is read back from its octet. -/
theorem ofNat_toNat_ofNat {c : Char} (h : c.toNat < 256) :
    Char.ofNat (UInt8.ofNat c.toNat).toNat = c := by
  rw [UInt8.toNat_ofNat', Nat.mod_eq_of_lt h, Char.ofNat_toNat]

/-- An ASCII octet is read back from its character. -/
theorem toNat_ofNat_of_lt {n : ℕ} (h : n < 128) : (Char.ofNat n).toNat = n := by
  have hv : n.isValidChar := Or.inl (by omega)
  rw [Char.ofNat, dif_pos hv]
  rfl

/-- Decoding undoes encoding. -/
theorem decodeAscii_of_encodeAscii {s : String} {raw : Bytes} (h : encodeAscii s = .ok raw) :
    decodeAscii raw = .ok s := by
  obtain ⟨rfl, hs⟩ := encodeAscii_eq_ok h
  have hall : ((s.toList.map fun c => UInt8.ofNat c.toNat).all fun b => b.toNat < 128) = true := by
    simp only [List.all_map, List.all_eq_true, Function.comp_apply, decide_eq_true_eq]
    intro c hc
    rw [UInt8.toNat_ofNat', Nat.mod_eq_of_lt (by have := hs c hc; omega)]
    exact hs c hc
  have hback : (s.toList.map fun c => UInt8.ofNat c.toNat).map (fun b => Char.ofNat b.toNat) =
      s.toList := by
    rw [List.map_map]
    conv_rhs => rw [← List.map_id s.toList]
    exact List.map_congr_left fun c hc => ofNat_toNat_ofNat (by have := hs c hc; omega)
  unfold decodeAscii
  rw [if_pos hall, hback, String.ofList_toList]
  rfl

/-- Octets that are all ASCII decode. -/
theorem decodeAscii_of_lt {raw : Bytes} (h : ∀ b ∈ raw, b.toNat < 128) :
    decodeAscii raw = .ok (String.ofList (raw.map fun b => Char.ofNat b.toNat)) := by
  unfold decodeAscii
  rw [if_pos (by simpa using h)]
  rfl

/-- Encoding undoes decoding. -/
theorem encodeAscii_of_decodeAscii {raw : Bytes} {s : String} (h : decodeAscii raw = .ok s) :
    encodeAscii s = .ok raw := by
  unfold decodeAscii at h
  split at h
  · next hraw =>
    simp only [List.all_eq_true, decide_eq_true_eq] at hraw
    obtain rfl : String.ofList (raw.map fun b => Char.ofNat b.toNat) = s := by
      simpa [pure, Except.pure] using h
    have hascii : isAscii (String.ofList (raw.map fun b => Char.ofNat b.toNat)) = true := by
      simp only [isAscii, String.toList_ofList, List.all_map, List.all_eq_true,
        Function.comp_apply, decide_eq_true_eq]
      intro b hb
      rw [toNat_ofNat_of_lt (hraw b hb)]
      exact hraw b hb
    have hback :
        (raw.map fun b => Char.ofNat b.toNat).map (fun c => UInt8.ofNat c.toNat) = raw := by
      rw [List.map_map]
      conv_rhs => rw [← List.map_id raw]
      refine List.map_congr_left fun b hb => ?_
      simp only [Function.comp_apply, id_eq]
      rw [toNat_ofNat_of_lt (hraw b hb), UInt8.ofNat_toNat]
    unfold encodeAscii
    rw [if_pos hascii, String.toList_ofList, hback]
    rfl
  · simp [throw, throwThe, MonadExceptOf.throw] at h

/-! ## Hexadecimal text -/

/-- The octets of pairs of hexadecimal digits. -/
def octetsOfHex : List Char → Bytes
  | high :: low :: rest => UInt8.ofNat (hexDigits.read [high, low]) :: octetsOfHex rest
  | _ => []

/-- `bytes.fromhex`, on text that `hexUpper` returns. -/
def fromHex (s : String) : Bytes := octetsOfHex s.toList

/-- Reading hexadecimal text back gives the octets. -/
@[simp]
theorem fromHex_hexUpper (raw : Bytes) : fromHex (hexUpper raw) = raw := by
  rw [fromHex, hexUpper, String.toList_ofList]
  induction raw with
  | nil => rfl
  | cons byte rest ih =>
    have hlt : byte.toNat < 16 ^ 2 := byte.toNat_lt
    obtain ⟨high, low, hpair⟩ :=
      List.length_eq_two.mp (hexDigits.length_write (by norm_num) hlt)
    rw [List.flatMap_cons, hpair, List.cons_append, List.cons_append, List.nil_append, octetsOfHex,
      ih, ← hpair, hexDigits.read_write (by norm_num), UInt8.ofNat_toNat]

/-! ## Slices -/

/-- An index succeeds within the octets. -/
theorem index_eq_ok {raw : Bytes} {offset : ℕ} {byte : UInt8} :
    index raw offset = .ok byte ↔ ∃ rest, raw.drop offset = byte :: rest := by
  unfold index
  cases h : raw[offset]? with
  | none =>
    have hle := List.getElem?_eq_none_iff.mp h
    simp [List.drop_eq_nil_of_le hle, throw, throwThe, MonadExceptOf.throw]
  | some byte' =>
    obtain ⟨hlt, hget⟩ := List.getElem?_eq_some_iff.mp h
    rw [List.drop_eq_getElem_cons hlt, hget]
    simp [pure, Except.pure]

/-- A slice that starts where a part starts and has its length is the part. -/
theorem slice_of_drop_eq {raw part rest : Bytes} {start : ℕ} (h : raw.drop start = part ++ rest) :
    slice raw start (start + part.length) = part := by
  simp [slice, h]

/-- A part between others is the slice at its place. -/
theorem slice_append {pre part rest : Bytes} {start stop : ℕ} (hstart : pre.length = start)
    (hstop : start + part.length = stop) : slice (pre ++ (part ++ rest)) start stop = part := by
  rw [← hstop]
  exact slice_of_drop_eq (List.drop_left' hstart)

/-- What follows an octet. -/
theorem drop_succ_of_drop_eq {raw rest : Bytes} {byte : UInt8} {start : ℕ}
    (h : raw.drop start = byte :: rest) : raw.drop (start + 1) = rest := by
  rw [← List.drop_drop, h, List.drop_one, List.tail_cons]

/-- What follows a part is what is left when it is dropped as well. -/
theorem drop_add_of_drop_eq {raw part rest : Bytes} {start : ℕ}
    (h : raw.drop start = part ++ rest) : raw.drop (start + part.length) = rest := by
  rw [← List.drop_drop, h, List.drop_left]

/-- A slice is no longer than its window. -/
theorem length_slice_le (raw : Bytes) (start stop : ℕ) :
    (slice raw start stop).length ≤ stop - start := by
  simp only [slice, List.length_take]
  omega

/-- A slice within its list has the length of its window. -/
theorem length_slice {raw : Bytes} (start : ℕ) {stop : ℕ} (h : stop ≤ raw.length) :
    (slice raw start stop).length = stop - start := by
  simp only [slice, List.length_take, List.length_drop]
  omega

/-- Dropping up to a slice's start leaves the slice and what follows it. -/
theorem drop_eq_slice_append {raw : Bytes} {start stop : ℕ} (h : start ≤ stop) :
    raw.drop start = slice raw start stop ++ raw.drop stop := by
  have hs : raw.drop stop = (raw.drop start).drop (stop - start) := by
    rw [List.drop_drop, Nat.add_sub_cancel' h]
  rw [slice, hs, List.take_append_drop]

end AtlasPay
