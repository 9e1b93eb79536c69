import Mathlib.Data.List.Forall2
import Mathlib.Data.Set.Basic

/-!
# Words that end where they say

A set of words is self-delimiting when a word can be read off the front of a text in one way only.
Words of one length are, and so are words that go on with a word of a self-delimiting set, even if
that set depends on what came before (`SelfDelimiting.append`, `SelfDelimiting.flatten`). A word of
such a set is no proper prefix of another one (`SelfDelimiting.eq_nil`).

A code gives each value its word. It reads back before some texts when the value can be told from
the front of a text, as long as what follows the word is one of those: before every text, if some
function reads it (`ReadsBack.of_read`); before a stop, if no word has one in it
(`ReadsBack.of_avoids`). Lists of values read back when they are closed by a letter that begins no
word (`ReadsBack.flatMap`), or when a stop separates the words (`ReadsBack.separated`).
-/

variable {α : Type*}

/-- No word of the set begins a text that another word of it begins. -/
def SelfDelimiting (words : Set (List α)) : Prop :=
  ∀ word ∈ words, ∀ word' ∈ words, ∀ rest rest',
    word ++ rest = word' ++ rest' → word = word'

namespace SelfDelimiting

variable {words heads : Set (List α)} {tails : List α → Set (List α)}

/-- Fewer words are self-delimiting too. -/
theorem mono {words' : Set (List α)} (h : SelfDelimiting words) (hsub : words' ⊆ words) :
    SelfDelimiting words' :=
  fun word hword word' hword' => h word (hsub hword) word' (hsub hword')

/-- Words of one length are self-delimiting. -/
theorem of_length {length : ℕ} (h : ∀ word ∈ words, word.length = length) :
    SelfDelimiting words := by
  intro word hword word' hword' rest rest' heq
  have hlength : word.length = word'.length := (h word hword).trans (h word' hword').symm
  exact (List.append_inj heq hlength).1

/-- The words that start with a word of one set, and go on with a word of a set that this names. -/
def Append (heads : Set (List α)) (tails : List α → Set (List α)) : Set (List α) :=
  {word | ∃ head ∈ heads, ∃ tail ∈ tails head, word = head ++ tail}

/-- Self-delimiting words go on with self-delimiting words. -/
theorem append (hheads : SelfDelimiting heads)
    (htails : ∀ head ∈ heads, SelfDelimiting (tails head)) :
    SelfDelimiting (Append heads tails) := by
  rintro _ ⟨head, hhead, tail, htail, rfl⟩ _ ⟨head', hhead', tail', htail', rfl⟩ rest rest' heq
  rw [List.append_assoc, List.append_assoc] at heq
  -- The heads are read first, and then the tails, of the set that the head names.
  obtain rfl := hheads head hhead head' hhead' _ _ heq
  have hrest := List.append_cancel_left heq
  rw [htails head hhead tail htail tail' htail' _ _ hrest]

/-- The words that are one word of each set after another. -/
def Flatten (sets : List (Set (List α))) : Set (List α) :=
  {word | ∃ parts, List.Forall₂ (fun part words => part ∈ words) parts sets ∧
    word = parts.flatten}

/-- One self-delimiting word after another is self-delimiting. -/
theorem flatten {sets : List (Set (List α))} (h : ∀ words ∈ sets, SelfDelimiting words) :
    SelfDelimiting (Flatten sets) := by
  induction sets with
  | nil =>
    have hempty : ∀ word ∈ Flatten ([] : List (Set (List α))), word.length = 0 := by
      rintro _ ⟨parts, hparts, rfl⟩
      rw [List.forall₂_nil_right_iff.mp hparts]
      rfl
    exact of_length hempty
  | cons words sets ih =>
    -- A word of the first set goes on with one word of each of the others.
    obtain ⟨hwords, hsets⟩ := List.forall_mem_cons.mp h
    refine (hwords.append fun _ _ => ih hsets).mono ?_
    rintro _ ⟨parts, hparts, rfl⟩
    obtain ⟨part, rest, hpart, hrest, rfl⟩ := List.forall₂_cons_right_iff.mp hparts
    exact ⟨part, hpart, rest.flatten, ⟨rest, hrest, rfl⟩, List.flatten_cons⟩

/-- A word that goes on is none. -/
theorem eq_nil (h : SelfDelimiting words) {word rest : List α} (hword : word ∈ words)
    (hlonger : word ++ rest ∈ words) : rest = [] := by
  have heq := h word hword (word ++ rest) hlonger rest [] (List.append_nil _).symm
  exact List.append_right_eq_self.mp heq.symm

end SelfDelimiting

/-! ## Codes -/

/-- The values are told from the fronts of texts whose rests are among those that may follow. -/
def ReadsBack {γ : Type*} (code : γ → List α) (follows : Set (List α)) : Prop :=
  ∀ value value' rest rest', rest ∈ follows → rest' ∈ follows →
    code value ++ rest = code value' ++ rest' → value = value'

/-- The texts that begin with a stop. -/
def StartsIn (stops : Set α) : Set (List α) := {text | ∃ stop ∈ stops, ∃ rest, text = stop :: rest}

/-- The words of some values with a separator between them, and a closing letter. -/
def closedList {γ : Type*} (sep close : α) (code : γ → List α) (values : List γ) : List α :=
  [sep].intercalate (values.map code) ++ [close]

/-- The word of the first value, and the closing letter or the separator and the other values. -/
theorem closedList_cons {γ : Type*} (sep close : α) (code : γ → List α) (value : γ)
    (values : List γ) : closedList sep close code (value :: values) =
      code value ++
        if values.isEmpty then [close] else sep :: closedList sep close code values := by
  cases values with
  | nil => simp [closedList]
  | cons next values => simp [closedList, List.intercalate_cons_cons]

namespace ReadsBack

variable {γ : Type*} {code : γ → List α} {follows : Set (List α)}

/-- A code that is read back tells its values apart. -/
theorem injective (h : ReadsBack code follows) (hsome : follows.Nonempty) :
    Function.Injective code := by
  obtain ⟨rest, hrest⟩ := hsome
  intro value value' heq
  exact h value value' rest rest hrest hrest (congrArg (· ++ rest) heq)

/-- The words of a code that reads back before every text are self-delimiting. -/
theorem selfDelimiting (h : ReadsBack code Set.univ) : SelfDelimiting (Set.range code) := by
  rintro _ ⟨value, rfl⟩ _ ⟨value', rfl⟩ rest rest' heq
  rw [h value value' rest rest' trivial trivial heq]

/-- Before fewer texts a code reads back too. -/
theorem mono {follows' : Set (List α)} (h : ReadsBack code follows) (hsub : follows' ⊆ follows) :
    ReadsBack code follows' :=
  fun value value' rest rest' hrest hrest' =>
    h value value' rest rest' (hsub hrest) (hsub hrest')

/-- What a function reads from the front of a text reads back. -/
theorem of_read {read : List α → Option γ}
    (hread : ∀ value, ∀ rest ∈ follows, read (code value ++ rest) = some value) :
    ReadsBack code follows := by
  intro value value' rest rest' hrest hrest' heq
  have hsome : some value = some value' := by
    rw [← hread value rest hrest, heq, hread value' rest' hrest']
  exact Option.some.inj hsome

/-- Words without a stop read back before one. -/
theorem of_avoids {stops : Set α} (hinjective : Function.Injective code)
    (havoids : ∀ value, ∀ letter ∈ code value, letter ∉ stops) :
    ReadsBack code (StartsIn stops) := by
  rintro value value' _ _ ⟨stop, hstop, rest, rfl⟩ ⟨stop', hstop', rest', rfl⟩ heq
  refine hinjective ?_
  -- Where one word is longer than the other one, it has its stop in it.
  rcases List.append_eq_append_iff.mp heq with ⟨more, hword, hrest⟩ | ⟨more, hword, hrest⟩
  · cases more with
    | nil => rw [hword, List.append_nil]
    | cons letter more =>
      obtain ⟨rfl, -⟩ := List.cons.inj hrest
      exact absurd hstop (havoids value' stop (by simp [hword]))
  · cases more with
    | nil => rw [hword, List.append_nil]
    | cons letter more =>
      obtain ⟨rfl, -⟩ := List.cons.inj hrest
      exact absurd hstop' (havoids value stop' (by simp [hword]))

/-- A word may go on with a word of another code. -/
theorem append {δ : Type*} {code' : δ → List α} {follows' : Set (List α)}
    (h : ReadsBack code follows) (h' : ReadsBack code' follows')
    (hfollows : ∀ value, ∀ rest ∈ follows', code' value ++ rest ∈ follows) :
    ReadsBack (fun pair : γ × δ => code pair.1 ++ code' pair.2) follows' := by
  rintro ⟨value, next⟩ ⟨value', next'⟩ rest rest' hrest hrest' heq
  simp only [List.append_assoc] at heq
  obtain rfl := h value value' _ _ (hfollows next rest hrest) (hfollows next' rest' hrest') heq
  obtain rfl := h' next next' rest rest' hrest hrest' (List.append_cancel_left heq)
  rfl

/-- Words one after the other read back when they are closed by a letter that begins none. -/
theorem flatMap (h : ReadsBack code Set.univ) {close : α}
    (hclose : ∀ value, ∃ letter rest, code value = letter :: rest ∧ letter ≠ close) :
    ReadsBack (fun values : List γ => values.flatMap code ++ [close]) Set.univ := by
  intro values values' rest rest' _ _ heq
  induction values generalizing values' with
  | nil =>
    cases values' with
    | nil => rfl
    | cons value' values' =>
      obtain ⟨letter, tail, hword, hne⟩ := hclose value'
      simp only [List.flatMap_cons, hword] at heq
      exact absurd (List.cons.inj heq).1.symm hne
  | cons value values ih =>
    cases values' with
    | nil =>
      obtain ⟨letter, tail, hword, hne⟩ := hclose value
      simp only [List.flatMap_cons, hword] at heq
      exact absurd (List.cons.inj heq).1 hne
    | cons value' values' =>
      -- The first words are read, and then what follows them.
      simp only [List.flatMap_cons, List.append_assoc] at heq
      obtain rfl := h value value' _ _ trivial trivial heq
      have hrest := List.append_cancel_left heq
      rw [ih values' (by simpa only [List.append_assoc] using hrest)]

/-- Words with separators between them read back when they do before the separator and before the
closing letter, and none begins with the latter. -/
theorem separated {sep close : α} (h : ReadsBack code (StartsIn {sep, close})) (hne : sep ≠ close)
    (hclose : ∀ value, ∃ letter rest, code value = letter :: rest ∧ letter ≠ close) :
    ReadsBack (closedList sep close code) Set.univ := by
  -- What follows a word is the closing letter, or the separator and the other words.
  have htail : ∀ (values : List γ) rest,
      (if values.isEmpty then [close] else sep :: closedList sep close code values) ++ rest ∈
        StartsIn {sep, close} := by
    intro values rest
    cases values with
    | nil => exact ⟨close, Or.inr rfl, rest, rfl⟩
    | cons value values => exact ⟨sep, Or.inl rfl, _, rfl⟩
  intro values values' rest rest' _ _ heq
  induction values generalizing values' with
  | nil =>
    cases values' with
    | nil => rfl
    | cons value' values' =>
      obtain ⟨letter, tail, hword, hletter⟩ := hclose value'
      rw [closedList_cons, hword] at heq
      exact absurd (List.cons.inj heq).1.symm hletter
  | cons value values ih =>
    cases values' with
    | nil =>
      obtain ⟨letter, tail, hword, hletter⟩ := hclose value
      rw [closedList_cons, hword] at heq
      exact absurd (List.cons.inj heq).1 hletter
    | cons value' values' =>
      rw [closedList_cons, closedList_cons, List.append_assoc, List.append_assoc] at heq
      obtain rfl := h value value' _ _ (htail values rest) (htail values' rest') heq
      have hrest := List.append_cancel_left heq
      -- The lists end together, since the separator is not the closing letter.
      cases values with
      | nil =>
        cases values' with
        | nil => rfl
        | cons next' values' => exact absurd (List.cons.inj hrest).1.symm hne
      | cons next values =>
        cases values' with
        | nil => exact absurd (List.cons.inj hrest).1 hne
        | cons next' values' => rw [ih (next' :: values') (List.cons.inj hrest).2]

end ReadsBack
