import AtlasPay.Library.SelfDelimiting
import AtlasPay.Python.Json

/-!
# Payloads are told apart

The escapes of `json.dumps` can be read back from the front of a text: a backslash says what follows
it, and a first surrogate says that there is a second one. So a quoted string ends at its closing
quote, whatever is in it, and an integer ends before the comma or the brace behind it. Two objects
have the same text only when they have the same members (`dumps_injective`).
-/

namespace AtlasPay

namespace Json

open Positional (lowerHexDigits)

/-! ## Escapes -/

/-- The character that an escape with these four digits stands for: alone, or with the next escape
when it is a surrogate. -/
def unescapeUnit (unit : ℕ) : List Char → Option Char
  | '\\' :: 'u' :: a :: b :: c :: d :: _ =>
    if 0xd800 ≤ unit ∧ unit < 0xe000 then
      some (Char.ofNat (0x10000 + 0x400 * (unit - 0xd800) +
        (lowerHexDigits.read [a, b, c, d] - 0xdc00)))
    else some (Char.ofNat unit)
  | _ => some (Char.ofNat unit)

/-- The character at the front of an escaped text. -/
def unescape : List Char → Option Char
  | '\\' :: 'u' :: a :: b :: c :: d :: rest =>
    unescapeUnit (lowerHexDigits.read [a, b, c, d]) rest
  | '\\' :: 'n' :: _ => some '\n'
  | '\\' :: 'r' :: _ => some '\r'
  | '\\' :: 't' :: _ => some '\t'
  | '\\' :: 'f' :: _ => some (Char.ofNat 12)
  | '\\' :: 'b' :: _ => some (Char.ofNat 8)
  | '\\' :: c :: _ => some c
  | c :: _ => some c
  | [] => none

/-- A code unit is written with four digits, and read from them. -/
theorem write_unit {unit : ℕ} (h : unit < 0x10000) :
    ∃ a b c d, lowerHexDigits.write 4 unit = [a, b, c, d] ∧
      lowerHexDigits.read [a, b, c, d] = unit := by
  have hlength := lowerHexDigits.length_write (by norm_num) (w := 4) h
  obtain ⟨a, b, c, d, hwrite⟩ := List.length_eq_four.mp hlength
  refine ⟨a, b, c, d, hwrite, ?_⟩
  rw [← hwrite, lowerHexDigits.read_write (by norm_num)]

/-- A character is no surrogate. -/
theorem not_surrogate (c : Char) : ¬(0xd800 ≤ c.toNat ∧ c.toNat < 0xe000) := by
  have hvalid := c.valid
  simp only [UInt32.isValidChar, Nat.isValidChar] at hvalid
  have hval : c.toNat = c.val.toNat := rfl
  omega

/-- An escape with digits of its own. -/
theorem unescapeUnit_of_not_surrogate {unit : ℕ} (h : ¬(0xd800 ≤ unit ∧ unit < 0xe000))
    (rest : List Char) : unescapeUnit unit rest = some (Char.ofNat unit) := by
  unfold unescapeUnit
  split
  · rw [if_neg h]
  · rfl

/-- An escape that goes on with a second one. -/
theorem unescapeUnit_of_surrogate {unit : ℕ} (h : 0xd800 ≤ unit ∧ unit < 0xe000)
    (a b c d : Char) (rest : List Char) :
    unescapeUnit unit ('\\' :: 'u' :: a :: b :: c :: d :: rest) =
      some (Char.ofNat (0x10000 + 0x400 * (unit - 0xd800) +
        (lowerHexDigits.read [a, b, c, d] - 0xdc00))) := by
  simp only [unescapeUnit, if_pos h]

/-- The digits of a character that has no shorter escape. -/
theorem unescape_units (c : Char) (rest : List Char) :
    unescape (((utf16 c).flatMap fun unit => '\\' :: 'u' :: lowerHexDigits.write 4 unit) ++ rest) =
      some c := by
  have hback := Char.ofNat_toNat c
  have hbound : c.toNat < 0x110000 := by
    have hvalid := c.valid
    simp only [UInt32.isValidChar, Nat.isValidChar] at hvalid
    have hval : c.toNat = c.val.toNat := rfl
    omega
  unfold utf16
  split_ifs with hsmall
  · obtain ⟨a, b, c', d, hwrite, hread⟩ := write_unit hsmall
    simp only [List.flatMap_cons, List.flatMap_nil, List.append_nil, hwrite]
    change unescapeUnit (lowerHexDigits.read [a, b, c', d]) rest = some c
    rw [hread, unescapeUnit_of_not_surrogate (not_surrogate c), hback]
  · -- The first of the two code units has the high bits, the second one the low bits.
    have hhigh : 0xd800 + (c.toNat - 0x10000) / 0x400 < 0x10000 := by omega
    have hlow : 0xdc00 + (c.toNat - 0x10000) % 0x400 < 0x10000 := by omega
    obtain ⟨a, b, c', d, hwrite, hread⟩ := write_unit hhigh
    obtain ⟨a', b', c'', d', hwrite', hread'⟩ := write_unit hlow
    simp only [List.flatMap_cons, List.flatMap_nil, List.append_nil, hwrite, hwrite']
    change unescapeUnit (lowerHexDigits.read [a, b, c', d])
      ('\\' :: 'u' :: a' :: b' :: c'' :: d' :: rest) = some c
    rw [hread, unescapeUnit_of_surrogate (by omega), hread']
    have hjoin : 0x10000 + 0x400 * (0xd800 + (c.toNat - 0x10000) / 0x400 - 0xd800) +
        (0xdc00 + (c.toNat - 0x10000) % 0x400 - 0xdc00) = c.toNat := by omega
    rw [hjoin, hback]

/-- A character is read back from its escape. -/
theorem unescape_escape (c : Char) (rest : List Char) : unescape (escape c ++ rest) = some c := by
  have hback := Char.ofNat_toNat c
  unfold escape
  split_ifs with hquote hbackslash hn hr ht hf hb hprintable
  · subst hquote; rfl
  · subst hbackslash; rfl
  · subst hn; rfl
  · subst hr; rfl
  · subst ht; rfl
  · rw [← hback, hf]; rfl
  · rw [← hback, hb]; rfl
  · rw [List.singleton_append]
    unfold unescape
    split
    all_goals first
      | next heq => exact absurd (List.cons.inj heq).1 hbackslash
      | next heq => rw [(List.cons.inj heq).1]
      | next heq => cases heq
  · exact unescape_units c rest

/-- Escapes read back. -/
theorem readsBack_escape : ReadsBack escape Set.univ :=
  .of_read fun c rest _ => unescape_escape c rest

/-- No escape begins with a quote. -/
theorem escape_eq_cons (c : Char) : ∃ letter rest, escape c = letter :: rest ∧ letter ≠ '"' := by
  unfold escape
  split_ifs with hquote hbackslash hn hr ht hf hb hprintable
  · exact ⟨'\\', ['"'], rfl, by decide⟩
  · exact ⟨'\\', ['\\'], rfl, by decide⟩
  · exact ⟨'\\', ['n'], rfl, by decide⟩
  · exact ⟨'\\', ['r'], rfl, by decide⟩
  · exact ⟨'\\', ['t'], rfl, by decide⟩
  · exact ⟨'\\', ['f'], rfl, by decide⟩
  · exact ⟨'\\', ['b'], rfl, by decide⟩
  · exact ⟨c, [], rfl, hquote⟩
  · unfold utf16
    split_ifs
    · exact ⟨'\\', _, List.flatMap_cons, by decide⟩
    · exact ⟨'\\', _, List.flatMap_cons, by decide⟩

/-! ## Values and objects -/

/-- A quoted string as characters. -/
theorem toList_quote (s : String) :
    (quote s).toList = '"' :: (s.toList.flatMap escape ++ ['"']) := String.toList_ofList

/-- A quoted string ends at its closing quote. -/
theorem readsBack_quote : ReadsBack (fun s => (quote s).toList) Set.univ := by
  intro s s' rest rest' _ _ heq
  simp only [toList_quote, List.cons_append] at heq
  have hchars := readsBack_escape.flatMap escape_eq_cons s.toList s'.toList rest rest' trivial
    trivial (List.cons.inj heq).2
  exact String.toList_inj.mp hchars

/-- The characters of an integer are a minus and digits. -/
theorem mem_toString_int {n : ℤ} {c : Char} (h : c ∈ (toString n).toList) :
    c = '-' ∨ c.isDigit = true := by
  have hnat : ∀ k : ℕ, c ∈ k.repr.toList → c.isDigit = true := by
    intro k hk
    rw [Nat.toList_repr] at hk
    exact Nat.isDigit_of_mem_toDigits (by norm_num) le_rfl hk
  rw [Int.toString_eq_repr, Int.repr_eq_if] at h
  split_ifs at h
  · exact Or.inr (hnat _ h)
  · rw [String.toList_append, List.mem_append] at h
    rcases h with h | h
    · exact Or.inl (by simpa using h)
    · exact Or.inr (hnat _ h)

/-- Integers are told apart by their texts. -/
theorem toString_int_injective : Function.Injective fun n : ℤ => (toString n).toList := by
  have hdigits : ∀ {k l : ℕ}, k.repr.toList = l.repr.toList → k = l := by
    intro k l h
    rw [Nat.toList_repr, Nat.toList_repr] at h
    rw [← @Nat.ofDigitChars_ten_toDigits k, h, Nat.ofDigitChars_ten_toDigits]
  -- The digits of a number do not begin with a minus.
  have hminus : ∀ {k l : ℕ}, k.repr.toList ≠ '-' :: l.repr.toList := by
    intro k l h
    have hmem : '-' ∈ Nat.toDigits 10 k := by
      rw [← Nat.toList_repr, h]
      exact List.mem_cons_self
    exact absurd (Nat.isDigit_of_mem_toDigits (by norm_num) le_rfl hmem) (by decide)
  have htext : ∀ k : ℕ, ("-" ++ k.repr).toList = '-' :: k.repr.toList := fun k =>
    String.toList_append
  intro m n h
  simp only [Int.toString_eq_repr, Int.repr_eq_if] at h
  split_ifs at h with hm hn hn
  · have heq := hdigits h
    omega
  · rw [htext] at h
    exact absurd h hminus
  · rw [htext] at h
    exact absurd h.symm hminus
  · rw [htext, htext] at h
    have heq := hdigits (List.cons.inj h).2
    omega

/-- The text of an integer is not empty. -/
theorem toString_int_eq_cons (n : ℤ) : ∃ letter rest, (toString n).toList = letter :: rest := by
  rw [Int.toString_eq_repr, Int.repr_eq_if]
  split_ifs
  · rw [Nat.toList_repr]
    exact List.exists_cons_of_ne_nil Nat.toDigits_ne_nil
  · exact ⟨'-', _, String.toList_append⟩

/-- A string is no integer. -/
theorem quote_ne_int {s : String} {n : ℤ} (rest rest' : List Char) :
    (quote s).toList ++ rest ≠ (toString n).toList ++ rest' := by
  intro heq
  rw [toList_quote] at heq
  obtain ⟨letter, more, hword⟩ := toString_int_eq_cons n
  rw [hword] at heq
  have hletter : '"' = letter := (List.cons.inj heq).1
  have hmem : letter ∈ (toString n).toList := by
    rw [hword]
    exact List.mem_cons_self
  rcases mem_toString_int hmem with hminus | hdigit
  · rw [← hletter] at hminus
    exact absurd hminus (by decide)
  · rw [← hletter] at hdigit
    exact absurd hdigit (by decide)

/-- A value ends before the comma or the brace behind it. -/
theorem readsBack_value : ReadsBack (fun v => (value v).toList) (StartsIn {',', '}'}) := by
  have hstrings := readsBack_quote.mono (Set.subset_univ (StartsIn {',', '}'}))
  have hintegers : ReadsBack (fun n : ℤ => (toString n).toList) (StartsIn {',', '}'}) := by
    refine .of_avoids toString_int_injective fun n c hc hstop => ?_
    rcases mem_toString_int hc with rfl | hdigit
    · rcases hstop with hstop | hstop <;> exact absurd hstop (by decide)
    · rcases hstop with rfl | hstop
      · exact absurd hdigit (by decide)
      · rw [Set.mem_singleton_iff.mp hstop] at hdigit
        exact absurd hdigit (by decide)
  intro v v' rest rest' hrest hrest' heq
  cases v with
  | str s =>
    cases v' with
    | str s' => rw [hstrings s s' rest rest' hrest hrest' heq]
    | int n => exact absurd heq (quote_ne_int rest rest')
  | int m =>
    cases v' with
    | str s => exact absurd heq.symm (quote_ne_int rest' rest)
    | int n => rw [hintegers m n rest rest' hrest hrest' heq]

/-- A member as characters. -/
def memberChars (member : String × JsonValue) : List Char :=
  (quote member.1).toList ++ (':' :: (value member.2).toList)

/-- A member ends before the comma or the brace behind it. -/
theorem readsBack_memberChars : ReadsBack memberChars (StartsIn {',', '}'}) := by
  have hafter : ReadsBack (fun v => ':' :: (value v).toList) (StartsIn {',', '}'}) := by
    intro v v' rest rest' hrest hrest' heq
    simp only [List.cons_append, List.cons.injEq, true_and] at heq
    exact readsBack_value v v' rest rest' hrest hrest' heq
  have hpair := readsBack_quote.append hafter fun _ _ _ => Set.mem_univ _
  rintro ⟨key, v⟩ ⟨key', v'⟩ rest rest' hrest hrest' heq
  exact hpair (key, v) (key', v') rest rest' hrest hrest' heq

/-- An object is its members in braces. -/
theorem toList_dumps (payload : JsonObject) :
    (dumps payload).toList = '{' :: closedList ',' '}' memberChars payload := by
  have hmembers : (payload.map fun member => quote member.1 ++ ":" ++ value member.2).map
      String.toList = payload.map memberChars := by
    rw [List.map_map]
    refine List.map_congr_left fun member _ => ?_
    simp [memberChars]
  unfold dumps closedList
  rw [← hmembers]
  simp [String.toList_intercalate]

/-- Objects with one text have the same members. -/
theorem dumps_injective : Function.Injective dumps := by
  have hlists : ReadsBack (closedList ',' '}' memberChars) Set.univ := by
    refine readsBack_memberChars.separated (by decide) fun member => ?_
    unfold memberChars
    rw [toList_quote, List.cons_append]
    exact ⟨'"', _, rfl, by decide⟩
  intro payload payload' h
  have hchars := congrArg String.toList h
  rw [toList_dumps, toList_dumps] at hchars
  exact hlists.injective ⟨[], trivial⟩ (List.cons.inj hchars).2

end Json

end AtlasPay
