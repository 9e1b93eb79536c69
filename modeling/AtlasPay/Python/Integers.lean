import AtlasPay.Python.Basic
import AtlasPay.Python.Unicode
import Mathlib.Data.List.DropRight

/-!
# Integers as text

`int` on text, and the zero-padded decimal format. The digits are those of every decimal system of
Unicode 14, which is the database of the source's Python.
-/

namespace AtlasPay

open Positional (asciiDigits toNat_of_asciiDigits_isGlyph)

/-- The code points of the zeros of the decimal systems. The other digits of a system follow. -/
def decimalZeros : List ℕ :=
  [0x30, 0x660, 0x6F0, 0x7C0, 0x966, 0x9E6, 0xA66, 0xAE6, 0xB66, 0xBE6, 0xC66, 0xCE6, 0xD66,
   0xDE6, 0xE50, 0xED0, 0xF20, 0x1040, 0x1090, 0x17E0, 0x1810, 0x1946, 0x19D0, 0x1A80, 0x1A90,
   0x1B50, 0x1BB0, 0x1C40, 0x1C50, 0xA620, 0xA8D0, 0xA900, 0xA9D0, 0xA9F0, 0xAA50, 0xABF0,
   0xFF10, 0x104A0, 0x10D30, 0x11066, 0x110F0, 0x11136, 0x111D0, 0x112F0, 0x11450, 0x114D0,
   0x11650, 0x116C0, 0x11730, 0x118E0, 0x11950, 0x11C50, 0x11D50, 0x11DA0, 0x16A60, 0x16AC0,
   0x16B50, 0x1D7CE, 0x1D7D8, 0x1D7E2, 0x1D7EC, 0x1D7F6, 0x1E140, 0x1E2F0, 0x1E950, 0x1FBF0]

/-- The value of a decimal digit. -/
def decimalValue? (c : Char) : Option ℕ :=
  (decimalZeros.find? fun first => first.ble c.toNat && c.toNat.blt (first + 10)).map fun first =>
    c.toNat - first

/-- The white space around a literal: that of `str.isspace`, but for the four separators. -/
def isLiteralSpace (c : Char) : Bool :=
  isSpace c && !(Nat.ble 0x1C c.toNat && c.toNat.ble 0x1F)

/-- The digits of a literal, with single underscores between them. -/
def literalDigits : List Char → Option (List ℕ)
  | [] => none
  | c :: rest =>
    match decimalValue? c with
    | none => none
    | some digit =>
      match rest with
      | [] => some [digit]
      | '_' :: rest' => (literalDigits rest').map (digit :: ·)
      | c' :: rest' => (literalDigits (c' :: rest')).map (digit :: ·)

/-- A literal with its sign: whether it is negative, and its digits. -/
def signedLiteral : List Char → Bool × Option (List ℕ)
  | '-' :: rest => (true, literalDigits rest)
  | '+' :: rest => (false, literalDigits rest)
  | chars => (false, literalDigits chars)

/-- `int(text)`. In the text of the error the literal stands as it is, between single quotes.
CPython prints the first 200 characters of its `repr`, which comes to the same for at most 198
printable characters without a single quote or a backslash. -/
def intOfText (text : String) : Py ℤ :=
  let chars := (text.toList.dropWhile isLiteralSpace).rdropWhile isLiteralSpace
  match signedLiteral chars with
  | (_, none) => throw (.valueError s!"invalid literal for int() with base 10: '{text}'")
  | (negative, some digits) =>
    if 4300 < digits.length then
      throw (.valueError (s!"Exceeds the limit (4300 digits) for integer string conversion: " ++
        s!"value has {digits.length} digits; " ++
        s!"use sys.set_int_max_str_digits() to increase the limit"))
    else
      let value : ℕ := Nat.ofDigits 10 digits.reverse
      pure (if negative then -(value : ℤ) else value)

/-- The text of some ASCII bytes. -/
def asciiText (raw : Bytes) : String := String.ofList (raw.map fun b => Char.ofNat b.toNat)

/-- `f"{n:0{width}d}"`, for a positive width. -/
def zeroPaddedText (width n : ℕ) : String := asciiText (zeroPadded width n)

/-! ## ASCII digits -/

/-- An ASCII digit as a character of a literal. -/
theorem literal_of_digit {n : ℕ} (h48 : 48 ≤ n) (h57 : n ≤ 57) :
    isLiteralSpace (Char.ofNat n) = false ∧ decimalValue? (Char.ofNat n) = some (n - 48) ∧
      Char.ofNat n ≠ '_' ∧ Char.ofNat n ≠ '-' ∧ Char.ofNat n ≠ '+' := by
  interval_cases n <;> decide

/-- Some ASCII digits are a literal, with their own values. -/
theorem literalDigits_of_digits {raw : Bytes} (hne : raw ≠ [])
    (hraw : ∀ b ∈ raw, asciiDigits.IsGlyph b) :
    literalDigits (raw.map fun b => Char.ofNat b.toNat) = some (raw.map asciiDigits.digit) := by
  induction raw with
  | nil => exact absurd rfl hne
  | cons b rest ih =>
    have hb := toNat_of_asciiDigits_isGlyph (hraw b List.mem_cons_self)
    obtain ⟨-, hvalue, -⟩ := literal_of_digit hb.1 hb.2
    cases rest with
    | nil =>
      simp only [List.map_cons, List.map_nil, literalDigits, hvalue]
      rfl
    | cons b' rest' =>
      have hb' := toNat_of_asciiDigits_isGlyph (hraw b' (by simp))
      obtain ⟨-, -, hunderscore, -⟩ := literal_of_digit hb'.1 hb'.2
      have hrest := ih (List.cons_ne_nil _ _) fun c hc => hraw c (List.mem_cons_of_mem _ hc)
      simp only [List.map_cons] at hrest ⊢
      rw [literalDigits, hvalue]
      dsimp only
      split
      · next heq => cases heq
      · next heq => exact absurd (List.cons.inj heq).1 hunderscore
      · next heq =>
        obtain ⟨rfl, rfl⟩ := List.cons.inj heq
        rw [hrest]
        rfl

/-- A literal that does not start with a sign has none. -/
theorem signedLiteral_cons {c : Char} {rest : List Char} (hminus : c ≠ '-') (hplus : c ≠ '+') :
    signedLiteral (c :: rest) = (false, literalDigits (c :: rest)) := by
  unfold signedLiteral
  split
  · next heq => exact absurd (List.cons.inj heq).1 hminus
  · next heq => exact absurd (List.cons.inj heq).1 hplus
  · rfl

/-- `int` on some ASCII digits is their value. -/
theorem intOfText_of_digits {raw : Bytes} (hne : raw ≠ [])
    (hraw : ∀ b ∈ raw, asciiDigits.IsGlyph b) (hlength : raw.length ≤ 4300) :
    intOfText (asciiText raw) = .ok (intOfDigits raw : ℤ) := by
  set chars := raw.map fun b => Char.ofNat b.toNat with hchars
  have hnotSpace : ∀ c ∈ chars, isLiteralSpace c = false := by
    intro c hc
    obtain ⟨b, hb, rfl⟩ := List.mem_map.mp hc
    have hdigit := toNat_of_asciiDigits_isGlyph (hraw b hb)
    exact (literal_of_digit hdigit.1 hdigit.2).1
  -- A digit is no space, so that nothing is stripped.
  have hleft : chars.dropWhile isLiteralSpace = chars := by
    refine List.dropWhile_eq_self_iff.mpr fun hpos => ?_
    rw [hnotSpace _ (List.getElem_mem hpos)]
    exact Bool.false_ne_true
  have hright : chars.rdropWhile isLiteralSpace = chars := by
    refine List.rdropWhile_eq_self_iff.mpr fun hpos => ?_
    rw [hnotSpace _ (List.getLast_mem hpos)]
    exact Bool.false_ne_true
  -- Nor is a digit a sign.
  have hsigned : signedLiteral chars = (false, some (raw.map asciiDigits.digit)) := by
    rw [← literalDigits_of_digits hne hraw]
    obtain ⟨b, rest, rfl⟩ := List.exists_cons_of_ne_nil hne
    have hdigit := toNat_of_asciiDigits_isGlyph (hraw b List.mem_cons_self)
    obtain ⟨-, -, -, hminus, hplus⟩ := literal_of_digit hdigit.1 hdigit.2
    exact signedLiteral_cons hminus hplus
  unfold intOfText asciiText
  rw [String.toList_ofList, ← hchars]
  simp only [hleft, hright, hsigned, List.length_map]
  rw [if_neg (not_lt.mpr hlength), ← List.map_reverse]
  rfl

/-- ASCII text is that of its bytes. -/
theorem asciiText_of_encodeAscii {s : String} {raw : Bytes} (h : encodeAscii s = .ok raw) :
    asciiText raw = s := by
  have hdecoded := decodeAscii_of_encodeAscii h
  unfold decodeAscii at hdecoded
  split at hdecoded
  · exact Except.ok.inj hdecoded
  · simp at hdecoded

/-- `int` undoes the zero-padded format. -/
theorem intOfText_zeroPaddedText {width n : ℕ} (hpos : 0 < width) (hn : n < 10 ^ width)
    (hwidth : width ≤ 4300) : intOfText (zeroPaddedText width n) = .ok (n : ℤ) := by
  have hlength : (zeroPadded width n).length = width :=
    asciiDigits.length_write (by norm_num) hn
  have hne : zeroPadded width n ≠ [] := by
    intro hnil
    rw [hnil, List.length_nil] at hlength
    omega
  have hread : intOfDigits (zeroPadded width n) = n := asciiDigits.read_write (by norm_num) _ _
  rw [zeroPaddedText, intOfText_of_digits hne
    (fun b hb => asciiDigits.isGlyph_of_mem_write (by norm_num) hb) (by rw [hlength]; exact hwidth),
    hread]

/-- The zero-padded format undoes `int` on digits of its width. -/
theorem zeroPaddedText_intOfDigits {raw : Bytes} (hraw : ∀ b ∈ raw, asciiDigits.IsGlyph b) :
    zeroPaddedText raw.length (intOfDigits raw) = asciiText raw :=
  congrArg asciiText (asciiDigits.write_read (by norm_num) hraw)

end AtlasPay
