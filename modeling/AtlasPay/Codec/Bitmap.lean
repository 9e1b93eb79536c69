import AtlasPay.Codec.Iso8583

/-!
# Bitmaps and the numbers that they announce

`_encode_bitmap` and `_decode_field_numbers` are inverse to each other between sorted lists of
numbers from 2 to 128 and pairs of bitmaps. The decoder reads its own secondary indicator, so the
inverse keeps that indicator as a parameter: it is set whenever a number needs it, and the decoder
also accepts it when none does.
-/

namespace AtlasPay

/-! ## Bits -/

/-- Masking one bit of a number is testing it. -/
theorem and_shiftLeft_ne_zero {n i : ℕ} : n &&& (1 <<< i) ≠ 0 ↔ n.testBit i = true := by
  constructor
  · intro h
    obtain ⟨j, hj⟩ := Nat.exists_testBit_of_ne_zero h
    simp only [Nat.testBit_and, Nat.testBit_shiftLeft, Bool.and_eq_true, decide_eq_true_eq] at hj
    obtain ⟨hn, hij, h0⟩ := hj
    have hji : j - i = 0 := Nat.testBit_one_eq_true_iff_self_eq_zero.mp h0
    rwa [show i = j by omega]
  · intro h h0
    have hi : (n &&& (1 <<< i)).testBit i = true := by simp [h]
    rw [h0, Nat.zero_testBit] at hi
    exact Bool.false_ne_true hi

/-- The bits of a fold that sets one bit for each selected element. -/
theorem testBit_foldl_or {p : ℕ → Prop} [DecidablePred p] (f : ℕ → ℕ) (i : ℕ) :
    ∀ (numbers : List ℕ) (start : ℕ),
      (numbers.foldl (fun acc number => if p number then acc ||| (1 <<< f number) else acc)
        start).testBit i = true ↔
      start.testBit i = true ∨ ∃ number ∈ numbers, p number ∧ f number = i
  | [], start => by simp
  | number :: rest, start => by
    rw [List.foldl_cons, testBit_foldl_or f i rest]
    have hone : ∀ j k : ℕ, (1 <<< j).testBit k = true ↔ j = k := by
      intro j k
      rw [Nat.one_shiftLeft, Nat.testBit_two_pow, decide_eq_true_eq]
    by_cases hp : p number
    · simp only [hp, if_true, Nat.testBit_or, Bool.or_eq_true, hone, List.mem_cons, or_assoc]
      simp [hp]
    · simp only [hp, if_false, List.mem_cons]
      simp [hp]

/-- The bits of the primary bitmap: the indicator, and one for each number to 64. -/
theorem testBit_primaryBitmap {hasSecondary : Bool} {numbers : List ℕ} {i : ℕ} :
    (primaryBitmap hasSecondary numbers).testBit i = true ↔
      (hasSecondary = true ∧ i = 63) ∨ ∃ number ∈ numbers, number ≤ 64 ∧ 64 - number = i := by
  rw [primaryBitmap, testBit_foldl_or (p := fun number => number ≤ 64)]
  refine or_congr_left ?_
  cases hasSecondary with
  | true =>
    rw [if_pos rfl, Nat.one_shiftLeft, Nat.testBit_two_pow, decide_eq_true_eq, eq_comm]
    exact ⟨fun h => ⟨rfl, h⟩, fun h => h.2⟩
  | false => simp

/-- The bits of the secondary bitmap: one for each number from 65. -/
theorem testBit_secondaryBitmap {numbers : List ℕ} {i : ℕ} :
    (secondaryBitmap numbers).testBit i = true ↔
      ∃ number ∈ numbers, 64 < number ∧ 128 - number = i := by
  have hite : (fun secondary number =>
      if number ≤ 64 then secondary else secondary ||| (1 <<< (128 - number))) =
      fun secondary number =>
        if 64 < number then secondary ||| (1 <<< (128 - number)) else secondary := by
    funext secondary number
    by_cases h : number ≤ 64
    · rw [if_pos h, if_neg (by omega)]
    · rw [if_neg h, if_pos (by omega)]
  rw [secondaryBitmap, hite, testBit_foldl_or (p := fun number => 64 < number)]
  simp

/-- The primary bitmap fits its eight bytes. -/
theorem primaryBitmap_lt (hasSecondary : Bool) {numbers : List ℕ}
    (hnum : ∀ number ∈ numbers, 2 ≤ number) : primaryBitmap hasSecondary numbers < 256 ^ 8 := by
  rw [show (256 : ℕ) ^ 8 = 2 ^ 64 by norm_num]
  refine Nat.lt_pow_two_of_testBit _ fun i hi => ?_
  rw [Bool.eq_false_iff, ne_eq, testBit_primaryBitmap]
  rintro (⟨-, rfl⟩ | ⟨number, hmem, -, rfl⟩)
  · omega
  · have := hnum number hmem
    omega

/-- The secondary bitmap fits its eight bytes. -/
theorem secondaryBitmap_lt (numbers : List ℕ) : secondaryBitmap numbers < 256 ^ 8 := by
  rw [show (256 : ℕ) ^ 8 = 2 ^ 64 by norm_num]
  refine Nat.lt_pow_two_of_testBit _ fun i hi => ?_
  rw [Bool.eq_false_iff, ne_eq, testBit_secondaryBitmap]
  rintro ⟨number, -, h64, rfl⟩
  omega

/-- The indicator of the primary bitmap is the one that it was made with. -/
theorem testBit_63_primaryBitmap {hasSecondary : Bool} {numbers : List ℕ}
    (hnum : ∀ number ∈ numbers, 2 ≤ number) :
    (primaryBitmap hasSecondary numbers).testBit 63 = hasSecondary := by
  rw [Bool.eq_iff_iff, testBit_primaryBitmap]
  constructor
  · rintro (⟨h, -⟩ | ⟨number, hmem, h64, hi⟩)
    · exact h
    · have := hnum number hmem
      omega
  · exact fun h => Or.inl ⟨h, rfl⟩

/-! ## The decoded numbers -/

/-- The decoded numbers to 64 are those with a bit in the primary bitmap, DE1 excepted, and those
from 65 are those with a bit in the secondary one, when it is there. -/
theorem mem_decodeFieldNumbers {primary : ℕ} {secondaryRaw : Bytes} {number : ℕ} :
    number ∈ decodeFieldNumbers primary secondaryRaw ↔
      (2 ≤ number ∧ number ≤ 64 ∧ primary.testBit (64 - number) = true) ∨
      (65 ≤ number ∧ number ≤ 128 ∧ secondaryRaw ≠ [] ∧
        (fromBytes secondaryRaw).testBit (128 - number) = true) := by
  rw [decodeFieldNumbers, List.mem_append]
  refine or_congr ?_ ?_
  · simp only [List.mem_filterMap, List.mem_range, and_shiftLeft_ne_zero]
    constructor
    · -- Bit `i` from the left stands for DE `i + 1`; the leftmost one is no element.
      rintro ⟨bit, hbit, h⟩
      split_ifs at h with hc
      obtain rfl : bit + 1 = number := by simpa using h
      refine ⟨by omega, by omega, ?_⟩
      rw [show 64 - (bit + 1) = 63 - bit by omega]
      exact hc.1
    · rintro ⟨h2, h64, hbit⟩
      refine ⟨number - 1, by omega, ?_⟩
      rw [show 63 - (number - 1) = 64 - number by omega, if_pos ⟨hbit, by omega⟩,
        show number - 1 + 1 = number by omega]
  · -- Without a secondary bitmap nothing from 65 on is read.
    by_cases hsec : secondaryRaw = []
    · simp [hsec]
    · rw [if_pos hsec]
      simp only [List.mem_filterMap, List.mem_range, and_shiftLeft_ne_zero]
      constructor
      · rintro ⟨bit, hbit, h⟩
        split_ifs at h with hc
        obtain rfl : bit + 65 = number := by simpa using h
        refine ⟨by omega, by omega, hsec, ?_⟩
        rw [show 128 - (bit + 65) = 63 - bit by omega]
        exact hc
      · rintro ⟨h65, h128, -, hbit⟩
        refine ⟨number - 65, by omega, ?_⟩
        rw [show 63 - (number - 65) = 128 - number by omega, if_pos hbit,
          show number - 65 + 65 = number by omega]

/-- The decoded numbers ascend. -/
theorem decodeFieldNumbers_pairwise (primary : ℕ) (secondaryRaw : Bytes) :
    (decodeFieldNumbers primary secondaryRaw).Pairwise (· < ·) := by
  have hhalf : ∀ (k : ℕ) (p : ℕ → Prop) [DecidablePred p],
      ((List.range 64).filterMap fun bit => if p bit then some (bit + k) else none).Pairwise
        (· < ·) := by
    intro k p _
    refine List.Pairwise.filterMap _ ?_ (List.pairwise_lt_range (n := 64))
    intro a b hab x hx y hy
    split_ifs at hx hy
    simp only [Option.some.injEq] at hx hy
    omega
  -- The numbers of the primary bitmap are below those of the secondary one.
  rw [decodeFieldNumbers, List.pairwise_append]
  refine ⟨hhalf 1 _, ?_, ?_⟩
  · split_ifs
    · exact hhalf 65 _
    · exact List.Pairwise.nil
  · intro x hx y hy
    simp only [List.mem_filterMap, List.mem_range] at hx
    obtain ⟨bit, hbit, hx⟩ := hx
    split_ifs at hx hy
    · simp only [Option.some.injEq] at hx
      simp only [List.mem_filterMap, List.mem_range] at hy
      obtain ⟨bit', hbit', hy⟩ := hy
      split_ifs at hy
      simp only [Option.some.injEq] at hy
      omega
    · simp at hy

/-- Two ascending lists with the same elements are equal. -/
theorem eq_of_pairwise_lt {l l' : List ℕ} (hl : l.Pairwise (· < ·)) (hl' : l'.Pairwise (· < ·))
    (hmem : ∀ x, x ∈ l ↔ x ∈ l') : l = l' := by
  have hperm : l.Perm l' :=
    (List.perm_ext_iff_of_nodup (hl.imp fun h => ne_of_lt h) (hl'.imp fun h => ne_of_lt h)).mpr hmem
  exact hperm.eq_of_pairwise (fun a b _ _ hab hba => absurd hab (Nat.lt_asymm hba)) hl hl'

/-- Decoding the bitmaps of some numbers gives the numbers in ascending order. The secondary
bitmap must be there when a number needs it. -/
theorem decodeFieldNumbers_bitmaps {hasSecondary : Bool} {numbers sorted : List ℕ}
    (hrange : ∀ number ∈ numbers, 2 ≤ number ∧ number ≤ 128)
    (hsec : ∀ number ∈ numbers, 64 < number → hasSecondary = true)
    (hsorted : sorted.Pairwise (· < ·)) (hperm : ∀ x, x ∈ sorted ↔ x ∈ numbers) :
    decodeFieldNumbers (primaryBitmap hasSecondary numbers)
      (if hasSecondary then toBytes 8 (secondaryBitmap numbers) else []) = sorted := by
  refine eq_of_pairwise_lt (decodeFieldNumbers_pairwise _ _) hsorted fun number => ?_
  rw [mem_decodeFieldNumbers, hperm, testBit_primaryBitmap]
  -- A secondary bitmap that is written is there.
  have hne : toBytes 8 (secondaryBitmap numbers) ≠ [] := by
    intro h
    have hlen := length_toBytes (secondaryBitmap_lt numbers)
    rw [h] at hlen
    simp at hlen
  constructor
  · rintro (⟨h2, h64, ⟨-, h⟩ | ⟨number', hmem, h64', h⟩⟩ | ⟨h65, h128, hne', h⟩)
    · omega
    · have := hrange number' hmem
      rwa [show number = number' by omega]
    · cases hasSecondary with
      | false => simp at hne'
      | true =>
        simp only [if_true, fromBytes_toBytes, testBit_secondaryBitmap] at h
        obtain ⟨number', hmem, h64', h⟩ := h
        have := hrange number' hmem
        rwa [show number = number' by omega]
  · intro hmem
    obtain ⟨h2, h128⟩ := hrange number hmem
    by_cases h64 : number ≤ 64
    · exact Or.inl ⟨h2, h64, Or.inr ⟨number, hmem, h64, rfl⟩⟩
    · have hs := hsec number hmem (by omega)
      subst hs
      refine Or.inr ⟨by omega, h128, by simpa using hne, ?_⟩
      simp only [if_true, fromBytes_toBytes, testBit_secondaryBitmap]
      exact ⟨number, hmem, by omega, rfl⟩

/-- Eight bytes are a number of 64 bits. -/
theorem lt_of_testBit_fromBytes {raw : Bytes} (hlength : raw.length = 8) {i : ℕ}
    (h : (fromBytes raw).testBit i = true) : i < 64 := by
  have hlt : fromBytes raw < 2 ^ 64 := by
    calc fromBytes raw < 256 ^ raw.length := fromBytes_lt raw
      _ = 2 ^ 64 := by rw [hlength]; norm_num
  by_contra hge
  have hle : fromBytes raw < 2 ^ i :=
    hlt.trans_le (Nat.pow_le_pow_right (by norm_num) (not_lt.mp hge))
  rw [Nat.testBit_lt_two_pow hle] at h
  exact Bool.false_ne_true h

/-- Encoding the decoded numbers, with the indicator that was read, gives the bitmaps back. -/
theorem bitmapBytes_decodeFieldNumbers {primaryRaw secondaryRaw : Bytes}
    (hprimary : primaryRaw.length = 8)
    (hsecondary : secondaryRaw.length = if (fromBytes primaryRaw).testBit 63 then 8 else 0) :
    bitmapBytes ((fromBytes primaryRaw).testBit 63)
      (decodeFieldNumbers (fromBytes primaryRaw) secondaryRaw) = primaryRaw ++ secondaryRaw := by
  -- Bit by bit: the highest one is the indicator, and each other one is that of a number.
  have hp : primaryBitmap ((fromBytes primaryRaw).testBit 63)
      (decodeFieldNumbers (fromBytes primaryRaw) secondaryRaw) = fromBytes primaryRaw := by
    refine Nat.eq_of_testBit_eq fun i => ?_
    rw [Bool.eq_iff_iff, testBit_primaryBitmap]
    constructor
    · rintro (⟨h, rfl⟩ | ⟨number, hmem, h64, rfl⟩)
      · exact h
      · rcases mem_decodeFieldNumbers.mp hmem with ⟨-, -, h⟩ | ⟨h65, -⟩
        · exact h
        · omega
    · intro hi
      have hlt := lt_of_testBit_fromBytes hprimary hi
      by_cases h63 : i = 63
      · exact Or.inl ⟨h63 ▸ hi, h63⟩
      · refine Or.inr ⟨64 - i, mem_decodeFieldNumbers.mpr (Or.inl ⟨by omega, by omega, ?_⟩),
          by omega, by omega⟩
        rwa [show 64 - (64 - i) = i by omega]
  have hpb : toBytes 8 (fromBytes primaryRaw) = primaryRaw := by
    rw [← hprimary]
    exact toBytes_fromBytes primaryRaw
  rw [bitmapBytes, hp, hpb]
  congr 1
  -- The secondary bitmap was read only where the indicator is set.
  by_cases hs : (fromBytes primaryRaw).testBit 63 = true
  · rw [if_pos hs] at hsecondary ⊢
    have hsb : toBytes 8 (fromBytes secondaryRaw) = secondaryRaw := by
      rw [← hsecondary]
      exact toBytes_fromBytes secondaryRaw
    conv_rhs => rw [← hsb]
    congr 1
    refine Nat.eq_of_testBit_eq fun i => ?_
    rw [Bool.eq_iff_iff, testBit_secondaryBitmap]
    constructor
    · rintro ⟨number, hmem, h64, rfl⟩
      rcases mem_decodeFieldNumbers.mp hmem with ⟨-, h, -⟩ | ⟨-, -, -, h⟩
      · omega
      · exact h
    · intro hi
      have hlt := lt_of_testBit_fromBytes hsecondary hi
      refine ⟨128 - i, mem_decodeFieldNumbers.mpr (Or.inr ⟨by omega, by omega, ?_, ?_⟩),
        by omega, by omega⟩
      · intro h
        simp [h] at hsecondary
      · rwa [show 128 - (128 - i) = i by omega]
  · rw [if_neg hs] at hsecondary ⊢
    exact (List.length_eq_zero_iff.mp hsecondary).symm

end AtlasPay
