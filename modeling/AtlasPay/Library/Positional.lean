import Mathlib.Data.Nat.Digits.Lemmas

/-!
# Fixed-width positional numerals over an alphabet

A numeral is a list of glyphs, most significant first. An `Alphabet` says which glyph stands for
which digit of the base. `write` pads with the glyph of zero up to a width and never truncates, as
zero-padded printing does; `read` is the value of a list of glyphs. Mathlib's `Nat.digitsAppend`
and `Nat.ofDigits` do the arithmetic, least significant digit first.
-/

namespace Positional

/-- The glyphs of the digits of base `b`. -/
structure Alphabet (b : ℕ) (α : Type*) where
  /-- The glyph of a digit. -/
  glyph : ℕ → α
  /-- The digit that a glyph stands for. -/
  digit : α → ℕ
  /-- A digit is read back from its glyph. -/
  digit_glyph : ∀ d < b, digit (glyph d) = d

namespace Alphabet

variable {b : ℕ} {α : Type*} (A : Alphabet b α)

/-- `a` is the glyph of a digit of the base. -/
def IsGlyph (a : α) : Prop := A.digit a < b ∧ A.glyph (A.digit a) = a

/-- The numeral of `n`, padded with zeros to `w` glyphs. -/
def write (w n : ℕ) : List α := (Nat.digitsAppend b w n).reverse.map A.glyph

/-- The value of a numeral. -/
def read (s : List α) : ℕ := Nat.ofDigits b (s.reverse.map A.digit)

/-- A number below `b^w` is written with exactly `w` glyphs. -/
theorem length_write (hb : 1 < b) {w n : ℕ} (hn : n < b ^ w) : (A.write w n).length = w := by
  simp [write, Nat.length_digitsAppend hb w hn]

/-- Every glyph of a written numeral stands for a digit. -/
theorem isGlyph_of_mem_write (hb : 1 < b) {w n : ℕ} {a : α} (ha : a ∈ A.write w n) :
    A.IsGlyph a := by
  simp only [write, List.mem_map, List.mem_reverse] at ha
  obtain ⟨d, hd, rfl⟩ := ha
  have hlt : d < b := Nat.lt_of_mem_digitsAppend hb w d hd
  exact ⟨by rwa [A.digit_glyph d hlt], by rw [A.digit_glyph d hlt]⟩

/-- Reading the digits of a list of glyphs undoes writing them. -/
theorem map_digit_map_glyph {ds : List ℕ} (hds : ∀ d ∈ ds, d < b) :
    (ds.map A.glyph).map A.digit = ds := by
  rw [List.map_map]
  conv_rhs => rw [← List.map_id ds]
  exact List.map_congr_left fun d hd => A.digit_glyph d (hds d hd)

/-- Writing the digits of a list of glyphs undoes reading them. -/
theorem map_glyph_map_digit {s : List α} (hs : ∀ a ∈ s, A.IsGlyph a) :
    (s.map A.digit).map A.glyph = s := by
  rw [List.map_map]
  conv_rhs => rw [← List.map_id s]
  exact List.map_congr_left fun a ha => (hs a ha).2

/-- Reading undoes writing, whatever the padding. -/
theorem read_write (hb : 1 < b) (w n : ℕ) : A.read (A.write w n) = n := by
  have hlt : ∀ d ∈ Nat.digitsAppend b w n, d < b := fun d hd =>
    Nat.lt_of_mem_digitsAppend hb w d hd
  rw [read, write, ← List.map_reverse, List.reverse_reverse, A.map_digit_map_glyph hlt,
    Nat.digitsAppend, Nat.ofDigits_append_replicate_zero, Nat.ofDigits_digits]

/-- A numeral of `w` glyphs is below `b^w`. -/
theorem read_lt (hb : 1 < b) {s : List α} (hs : ∀ a ∈ s, A.IsGlyph a) :
    A.read s < b ^ s.length := by
  have hlt : ∀ d ∈ s.reverse.map A.digit, d < b := by
    intro d hd
    simp only [List.mem_map, List.mem_reverse] at hd
    obtain ⟨a, ha, rfl⟩ := hd
    exact (hs a ha).1
  have h := Nat.ofDigits_lt_base_pow_length hb hlt
  rwa [List.length_map, List.length_reverse] at h

/-- Writing undoes reading at the numeral's own width. -/
theorem write_read (hb : 1 < b) {s : List α} (hs : ∀ a ∈ s, A.IsGlyph a) :
    A.write s.length (A.read s) = s := by
  have hds : s.reverse.map A.digit ∈ {L : List ℕ | L.length = s.length ∧ ∀ x ∈ L, x < b} := by
    refine ⟨by simp, fun d hd => ?_⟩
    simp only [List.mem_map, List.mem_reverse] at hd
    obtain ⟨a, ha, rfl⟩ := hd
    exact (hs a ha).1
  have hrev : ∀ a ∈ s.reverse, A.IsGlyph a := fun a ha => hs a (List.mem_reverse.mp ha)
  rw [write, read, (Nat.setInvOn_digitsAppend_ofDigits hb s.length).1 hds, List.map_reverse,
    A.map_glyph_map_digit hrev, List.reverse_reverse]

/-- The shortest numeral of a number below `b^k` has at most `k` glyphs. -/
theorem length_write_zero_le (hb : 1 < b) {k n : ℕ} (hn : n < b ^ k) :
    (A.write 0 n).length ≤ k := by
  simpa [write, Nat.digitsAppend] using (Nat.digits_length_le_iff hb n).mpr hn

/-- The shortest numeral of a positive number starts with the glyph of a non-zero digit. -/
theorem head_write_zero (hb : 1 < b) {n : ℕ} (hn : n ≠ 0) :
    ∃ d rest, d ≠ 0 ∧ d < b ∧ A.write 0 n = A.glyph d :: rest := by
  have hne : Nat.digits b n ≠ [] := Nat.digits_ne_nil_iff_ne_zero.mpr hn
  refine ⟨(Nat.digits b n).getLast hne, ((Nat.digits b n).dropLast.reverse).map A.glyph,
    Nat.getLast_digit_ne_zero b hn, Nat.digits_lt_base hb (List.getLast_mem hne), ?_⟩
  have hsplit := List.dropLast_concat_getLast hne
  simp only [write, Nat.digitsAppend, Nat.zero_sub, List.replicate_zero, List.append_nil]
  conv_lhs => rw [← hsplit]
  rw [List.reverse_append, List.reverse_singleton, List.singleton_append, List.map_cons]

/-- A numeral that does not start with the glyph of zero is the shortest of its value. -/
theorem write_zero_read (hb : 1 < b) {a : α} {s : List α} (hs : ∀ c ∈ a :: s, A.IsGlyph c)
    (ha : A.digit a ≠ 0) : A.write 0 (A.read (a :: s)) = a :: s := by
  have hrev : (a :: s).reverse.map A.digit = (s.reverse.map A.digit) ++ [A.digit a] := by
    rw [List.reverse_cons, List.map_append, List.map_singleton]
  have hlt : ∀ d ∈ (a :: s).reverse.map A.digit, d < b := by
    intro d hd
    simp only [List.mem_map, List.mem_reverse] at hd
    obtain ⟨c, hc, rfl⟩ := hd
    exact (hs c hc).1
  have hdigits : Nat.digits b (A.read (a :: s)) = (a :: s).reverse.map A.digit := by
    refine Nat.digits_ofDigits b hb _ hlt fun hne => ?_
    simp only [hrev, List.getLast_append_singleton]
    exact ha
  have hglyph : ∀ c ∈ (a :: s).reverse, A.IsGlyph c := fun c hc => hs c (List.mem_reverse.mp hc)
  rw [write, Nat.digitsAppend, hdigits, Nat.zero_sub, List.replicate_zero, List.append_nil,
    List.map_reverse, A.map_glyph_map_digit hglyph, List.reverse_reverse]

end Alphabet

/-! ## Octets, ASCII digits and hexadecimal digits -/

/-- The octets as digits of base 256. -/
def octets : Alphabet 256 UInt8 where
  glyph := UInt8.ofNat
  digit := UInt8.toNat
  digit_glyph d hd := by simp [Nat.mod_eq_of_lt hd]

/-- The ASCII digits as digits of base 10. -/
def asciiDigits : Alphabet 10 UInt8 where
  glyph d := UInt8.ofNat (48 + d)
  digit c := c.toNat - 48
  digit_glyph d hd := by
    have h : 48 + d < 256 := by omega
    simp [Nat.mod_eq_of_lt h]

/-- The upper-case hexadecimal digits. -/
def hexDigits : Alphabet 16 Char where
  glyph d := if d < 10 then Char.ofNat (48 + d) else Char.ofNat (55 + d)
  digit c := if c.toNat < 65 then c.toNat - 48 else c.toNat - 55
  digit_glyph := by decide

/-- The lower-case hexadecimal digits. -/
def lowerHexDigits : Alphabet 16 Char where
  glyph d := if d < 10 then Char.ofNat (48 + d) else Char.ofNat (87 + d)
  digit c := if c.toNat < 97 then c.toNat - 48 else c.toNat - 87
  digit_glyph := by decide

/-- Every octet is a digit of base 256. -/
theorem octets_isGlyph (b : UInt8) : octets.IsGlyph b :=
  ⟨b.toNat_lt, by simp [octets]⟩

/-- The glyphs of the decimal digits are the octets 48 to 57. -/
theorem asciiDigits_isGlyph {b : UInt8} (h48 : 48 ≤ b.toNat) (h57 : b.toNat ≤ 57) :
    asciiDigits.IsGlyph b := by
  refine ⟨by simp only [asciiDigits]; omega, ?_⟩
  simp only [asciiDigits]
  rw [Nat.add_sub_cancel' h48, UInt8.ofNat_toNat]

/-- A decimal glyph is an octet from 48 to 57. -/
theorem toNat_of_asciiDigits_isGlyph {b : UInt8} (h : asciiDigits.IsGlyph b) :
    48 ≤ b.toNat ∧ b.toNat ≤ 57 := by
  obtain ⟨hlt, heq⟩ := h
  simp only [asciiDigits] at hlt heq
  rw [← heq, UInt8.toNat_ofNat']
  omega

end Positional
