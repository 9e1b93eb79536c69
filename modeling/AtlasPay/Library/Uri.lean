import Mathlib.Data.List.Basic

/-!
# Paths of URIs

A raw path is split at its slashes; a segment may carry parameters behind a semicolon, and any of
its characters may be percent-encoded. A text is what a segment spells when the parameters are
removed and the rest is decoded. The lemmas say what the raw path starts with when its segments
spell given texts: with these texts themselves only where nothing of them is encoded.
-/

namespace Uri

/-! ## Percent-encoding -/

/-- The value of a hexadecimal digit. -/
def hexValue (c : Char) : Option ℕ :=
  if '0' ≤ c ∧ c ≤ '9' then some (c.toNat - '0'.toNat)
  else if 'a' ≤ c ∧ c ≤ 'f' then some (c.toNat - 'a'.toNat + 10)
  else if 'A' ≤ c ∧ c ≤ 'F' then some (c.toNat - 'A'.toNat + 10)
  else none

/-- The octets of a text. -/
def utf8 (text : List Char) : List UInt8 := text.flatMap String.utf8EncodeChar

/-- The octets that a percent-encoded text stands for, if all its escapes are complete. -/
def percentDecode : List Char → Option (List UInt8)
  | [] => some []
  | c :: rest =>
    if c = '%' then
      match rest with
      | high :: low :: rest =>
        match hexValue high, hexValue low, percentDecode rest with
        | some h, some l, some octets => some (UInt8.ofNat (16 * h + l) :: octets)
        | _, _, _ => none
      | _ => none
    else (percentDecode rest).map (String.utf8EncodeChar c ++ ·)

/-- A character that is no escape stands for its octets. -/
theorem percentDecode_cons {c : Char} (hc : c ≠ '%') (rest : List Char) :
    percentDecode (c :: rest) =
      (percentDecode rest).map (String.utf8EncodeChar c ++ ·) := by
  conv_lhs => unfold percentDecode
  exact if_neg hc

/-- A text without escapes stands for its own octets. -/
theorem percentDecode_append {text : List Char} (h : '%' ∉ text) (rest : List Char) :
    percentDecode (text ++ rest) = (percentDecode rest).map (utf8 text ++ ·) := by
  induction text with
  | nil => simp [utf8]
  | cons c text ih =>
    simp only [List.mem_cons, not_or] at h
    obtain ⟨hc, htext⟩ := h
    rw [List.cons_append, percentDecode_cons (Ne.symm hc), ih htext, Option.map_map]
    simp [utf8, Function.comp_def]

/-- Only the empty text stands for no octets. -/
theorem eq_nil_of_percentDecode {text : List Char} (h : percentDecode text = some []) :
    text = [] := by
  cases text with
  | nil => rfl
  | cons c rest =>
    unfold percentDecode at h
    split at h
    · split at h
      · split at h <;> simp at h
      · cases h
    · obtain ⟨octets, -, hnil⟩ := Option.map_eq_some_iff.mp h
      exact absurd (List.append_eq_nil_iff.mp hnil).1 String.utf8EncodeChar_ne_nil

/-! ## Segments -/

/-- The part of a segment before its parameters. -/
def withoutParameters (segment : List Char) : List Char := segment.takeWhile (· ≠ ';')

/-- The segment is the text, once the parameters are removed and the rest is decoded. -/
def Spells (segment text : List Char) : Prop :=
  percentDecode (withoutParameters segment) = some (utf8 text)

instance (segment text : List Char) : Decidable (Spells segment text) :=
  inferInstanceAs (Decidable (_ = _))

/-- Nothing in the text is an escape or the start of parameters. -/
def Plain (text : List Char) : Prop := '%' ∉ text ∧ ';' ∉ text

instance (text : List Char) : Decidable (Plain text) := inferInstanceAs (Decidable (_ ∧ _))

/-- Parameters begin behind a text that has no semicolon. -/
theorem withoutParameters_append {text : List Char} (h : ';' ∉ text) (rest : List Char) :
    withoutParameters (text ++ rest) = text ++ withoutParameters rest := by
  unfold withoutParameters
  rw [List.takeWhile_append_of_pos]
  intro c hc
  simpa using ne_of_mem_of_not_mem hc h

/-- What a segment spells starts with a plain text with which the segment starts. -/
theorem prefix_of_spells {text other segment : List Char} (hplain : Plain text)
    (hspells : Spells segment other) (hstarts : text <+: segment) : utf8 text <+: utf8 other := by
  obtain ⟨rest, rfl⟩ := hstarts
  rw [Spells, withoutParameters_append hplain.2, percentDecode_append hplain.1] at hspells
  obtain ⟨octets, -, heq⟩ := Option.map_eq_some_iff.mp hspells
  exact ⟨octets, heq⟩

/-- A segment that spells a plain text starts with it exactly when it is this text, with or without
parameters. -/
theorem prefix_iff_of_spells {text segment : List Char} (hplain : Plain text)
    (hspells : Spells segment text) : text <+: segment ↔ withoutParameters segment = text := by
  constructor
  · rintro ⟨rest, rfl⟩
    rw [Spells, withoutParameters_append hplain.2, percentDecode_append hplain.1] at hspells
    obtain ⟨octets, hrest, heq⟩ := Option.map_eq_some_iff.mp hspells
    -- Nothing is left for the rest of the segment to stand for.
    rw [List.append_right_eq_self.mp heq] at hrest
    rw [withoutParameters_append hplain.2, eq_nil_of_percentDecode hrest, List.append_nil]
  · intro h
    rw [← h]
    exact List.takeWhile_prefix _

/-! ## Paths -/

/-- The segments of a path that starts with a slash. -/
def pathSegments (path : List Char) : Option (List (List Char)) :=
  match path.splitOn '/' with
  | [] :: segments => some segments
  | _ => none

/-- Splitting finds the first separator. -/
theorem splitOn_eq_cons_cons_iff {xs x y : List Char} {rest : List (List Char)} :
    xs.splitOn '/' = x :: y :: rest ↔
      ∃ tail, xs = x ++ '/' :: tail ∧ '/' ∉ x ∧ tail.splitOn '/' = y :: rest := by
  constructor
  · intro h
    by_cases hmem : '/' ∈ xs
    · obtain ⟨first, tail, rfl, hfirst⟩ := List.eq_append_cons_of_mem hmem
      rw [List.splitOn_append_cons_self_of_not_mem hfirst, List.cons.injEq] at h
      obtain ⟨rfl, htail⟩ := h
      exact ⟨tail, rfl, hfirst, htail⟩
    · rw [List.splitOn_eq_singleton hmem] at h
      simp at h
  · rintro ⟨tail, rfl, hx, htail⟩
    rw [List.splitOn_append_cons_self_of_not_mem hx, htail]

/-- Splitting leaves one part when there is no separator. -/
theorem splitOn_eq_singleton_iff {xs x : List Char} :
    xs.splitOn '/' = [x] ↔ xs = x ∧ '/' ∉ x := by
  constructor
  · intro h
    by_cases hmem : '/' ∈ xs
    · obtain ⟨first, tail, rfl, hfirst⟩ := List.eq_append_cons_of_mem hmem
      rw [List.splitOn_append_cons_self_of_not_mem hfirst, List.cons.injEq] at h
      exact absurd h.2 (List.splitOn_ne_nil _ _)
    · rw [List.splitOn_eq_singleton hmem, List.cons.injEq] at h
      exact ⟨h.1, h.1 ▸ hmem⟩
  · rintro ⟨rfl, hmem⟩
    exact List.splitOn_eq_singleton hmem

/-- A path of two segments. -/
theorem pathSegments_pair_iff {path first second : List Char} :
    pathSegments path = some [first, second] ↔
      path = '/' :: (first ++ '/' :: second) ∧ '/' ∉ first ∧ '/' ∉ second := by
  have hsegments : pathSegments path = some [first, second] ↔
      path.splitOn '/' = [[], first, second] := by
    unfold pathSegments
    split
    · next segments heq => rw [heq, Option.some.injEq, List.cons.injEq, and_iff_right rfl]
    · next hnot => exact iff_of_false nofun fun heq => hnot _ heq
  rw [hsegments, splitOn_eq_cons_cons_iff]
  simp only [splitOn_eq_cons_cons_iff, splitOn_eq_singleton_iff, List.nil_append]
  constructor
  · rintro ⟨_, rfl, -, _, rfl, hfirst, rfl, hsecond⟩
    exact ⟨rfl, hfirst, hsecond⟩
  · rintro ⟨rfl, hfirst, hsecond⟩
    exact ⟨_, rfl, List.not_mem_nil, _, rfl, hfirst, rfl, hsecond⟩

/-- A text without a slash with which two segments start is one with which the first starts. -/
theorem prefix_append_slash_iff {text first : List Char} (htext : '/' ∉ text)
    (second : List Char) : text <+: first ++ '/' :: second ↔ text <+: first := by
  constructor
  · intro h
    -- The text has no slash, so it ends within the first segment.
    induction text generalizing first with
    | nil => exact List.nil_prefix
    | cons c text ih =>
      simp only [List.mem_cons, not_or] at htext
      obtain ⟨hc, htext⟩ := htext
      cases first with
      | nil => exact absurd (List.cons_prefix_cons.mp h).1 (Ne.symm hc)
      | cons d first =>
        obtain ⟨rfl, hrest⟩ := List.cons_prefix_cons.mp h
        exact List.cons_prefix_cons.mpr ⟨rfl, ih htext hrest⟩
  · exact fun h => h.trans (List.prefix_append _ _)

/-- Two segments start with a text, a slash and another text when the first is the one and the
second starts with the other. -/
theorem slash_prefix_iff {text rest first second : List Char} (htext : '/' ∉ text)
    (hfirst : '/' ∉ first) :
    text ++ '/' :: rest <+: first ++ '/' :: second ↔ text = first ∧ rest <+: second := by
  constructor
  · intro h
    -- Neither part has a slash, so the first slash of both sides is the one that separates.
    induction text generalizing first with
    | nil =>
      cases first with
      | nil => exact ⟨rfl, (List.cons_prefix_cons.mp h).2⟩
      | cons d first =>
        simp only [List.mem_cons, not_or] at hfirst
        exact absurd (List.cons_prefix_cons.mp h).1 hfirst.1
    | cons c text ih =>
      simp only [List.mem_cons, not_or] at htext
      obtain ⟨hc, htext⟩ := htext
      cases first with
      | nil => exact absurd (List.cons_prefix_cons.mp h).1 (Ne.symm hc)
      | cons d first =>
        obtain ⟨rfl, hrest⟩ := List.cons_prefix_cons.mp h
        simp only [List.mem_cons, not_or] at hfirst
        obtain ⟨rfl, hsecond⟩ := ih htext hfirst.2 hrest
        exact ⟨rfl, hsecond⟩
  · rintro ⟨rfl, hsecond⟩
    exact (List.prefix_append_right_inj _).mpr (List.cons_prefix_cons.mpr ⟨rfl, hsecond⟩)

end Uri
