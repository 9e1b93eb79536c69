import AtlasPay.Library.Positional

/-!
# Trees of tag-length-value objects and their canonical octets

The grammar of definite-length BER: an object is a tag, the length of its content in the shortest
form, and its content; the content of a constructed object is a concatenation of objects. Nothing
here parses. `Tree.encode` and `WellFormed` say which octets are well formed, the lemmas about
`encodeLength` are what a parser of the short and the long form needs, and `located` says where in
the octets each object of a forest starts.
-/

namespace Ber

open Positional (octets octets_isGlyph)

/-- The octets. -/
abbrev Octets := List UInt8

/-- A tag-length-value object. -/
inductive Tree where
  | primitive (tag value : Octets)
  | constructed (tag : Octets) (children : List Tree)

/-- The widths and the depth that a profile of the grammar allows. -/
structure Limits where
  /-- The most octets of a tag. -/
  tagOctets : ℕ
  /-- The most octets of a length after the octet that says how many follow. -/
  lengthOctets : ℕ
  /-- The depth of the deepest object, the outermost ones being at depth zero. -/
  depth : ℕ
  /-- The number of length octets fits the octet that announces it. -/
  lengthOctets_lt : lengthOctets < 128

/-! ## Tags -/

/-- The octets that continue a tag: the high bit is set on all but the last. -/
def Continuation : Octets → Prop
  | [] => False
  | [last] => last &&& 0x80 = 0
  | b :: rest => b &&& 0x80 ≠ 0 ∧ Continuation rest

/-- A tag: its first octet is not padding, and exactly when its low five bits are all ones it
continues, with a first continuation octet whose low seven bits are not all zero. -/
def ValidTag (limits : Limits) : Octets → Prop
  | [] => False
  | first :: rest => first ≠ 0x00 ∧ first ≠ 0xFF ∧ rest.length < limits.tagOctets ∧
    if first &&& 0x1F = 0x1F then Continuation rest ∧ ∀ b ∈ rest.head?, b &&& 0x7F ≠ 0
    else rest = []

/-- The bit of a tag that marks a constructed object. -/
def isConstructed : Octets → Bool
  | [] => false
  | first :: _ => first &&& 0x20 ≠ 0

/-! ## Encodings -/

/-- A definite length in the shortest form. -/
def encodeLength (n : ℕ) : Octets :=
  if n < 0x80 then [UInt8.ofNat n]
  else UInt8.ofNat (0x80 + (octets.write 0 n).length) :: octets.write 0 n

mutual

/-- The canonical octets of an object. -/
def Tree.encode : Tree → Octets
  | .primitive tag value => tag ++ (encodeLength value.length ++ value)
  | .constructed tag children =>
    tag ++ (encodeLength (encodeForest children).length ++ encodeForest children)

/-- The canonical octets of some objects, one after the other. -/
def encodeForest : List Tree → Octets
  | [] => []
  | tree :: rest => tree.encode ++ encodeForest rest

end

/-- The tag of an object. -/
def Tree.tag : Tree → Octets
  | .primitive tag _ => tag
  | .constructed tag _ => tag

/-- The content of an object. -/
def Tree.value : Tree → Octets
  | .primitive _ value => value
  | .constructed _ children => encodeForest children

/-- An object at a depth whose tags, lengths and nesting keep to the limits. -/
inductive WellFormed (limits : Limits) : ℕ → Tree → Prop where
  | primitive {depth : ℕ} {tag value : Octets} (hdepth : depth ≤ limits.depth)
      (htag : ValidTag limits tag) (hbit : isConstructed tag = false)
      (hlength : value.length < 256 ^ limits.lengthOctets) :
      WellFormed limits depth (.primitive tag value)
  | constructed {depth : ℕ} {tag : Octets} {children : List Tree} (hdepth : depth ≤ limits.depth)
      (htag : ValidTag limits tag) (hbit : isConstructed tag = true) (hchildren : children ≠ [])
      (hwf : ∀ child ∈ children, WellFormed limits (depth + 1) child)
      (hlength : (encodeForest children).length < 256 ^ limits.lengthOctets) :
      WellFormed limits depth (.constructed tag children)

/-! ## Objects -/

/-- An object is its tag, the length of its content and its content. -/
theorem Tree.encode_eq (tree : Tree) :
    tree.encode = tree.tag ++ (encodeLength tree.value.length ++ tree.value) := by
  cases tree <;> simp [Tree.encode, Tree.tag, Tree.value]

/-- A tag has an octet. -/
theorem ValidTag.length_pos {limits : Limits} {tag : Octets} (h : ValidTag limits tag) :
    0 < tag.length := by
  cases tag with
  | nil => exact h.elim
  | cons first rest => simp

/-- A well-formed object has a valid tag. -/
theorem WellFormed.validTag {limits : Limits} {depth : ℕ} {tree : Tree}
    (h : WellFormed limits depth tree) : ValidTag limits tree.tag := by
  cases h <;> assumption

/-- The length of the content of a well-formed object fits the length octets. -/
theorem WellFormed.length_value {limits : Limits} {depth : ℕ} {tree : Tree}
    (h : WellFormed limits depth tree) : tree.value.length < 256 ^ limits.lengthOctets := by
  cases h <;> assumption

/-- A well-formed object is not too deep. -/
theorem WellFormed.depth_le {limits : Limits} {depth : ℕ} {tree : Tree}
    (h : WellFormed limits depth tree) : depth ≤ limits.depth := by
  cases h <;> assumption

/-- A well-formed object has octets. -/
theorem WellFormed.encode_length_pos {limits : Limits} {depth : ℕ} {tree : Tree}
    (h : WellFormed limits depth tree) : 0 < tree.encode.length := by
  rw [tree.encode_eq, List.length_append]
  exact Nat.add_pos_left h.validTag.length_pos _

/-- Some well-formed objects have octets. -/
theorem encodeForest_ne_nil {limits : Limits} {depth : ℕ} {trees : List Tree}
    (hwf : ∀ tree ∈ trees, WellFormed limits depth tree) (hne : trees ≠ []) :
    encodeForest trees ≠ [] := by
  cases trees with
  | nil => exact absurd rfl hne
  | cons tree rest =>
    intro h
    rw [encodeForest, List.append_eq_nil_iff] at h
    have hpos := (hwf tree List.mem_cons_self).encode_length_pos
    rw [h.1] at hpos
    exact absurd hpos (by simp)

/-- Objects are encoded one after the other. -/
theorem encodeForest_eq_flatMap (trees : List Tree) :
    encodeForest trees = trees.flatMap Tree.encode := by
  induction trees with
  | nil => rfl
  | cons tree rest ih => rw [encodeForest, ih, List.flatMap_cons]

/-! ## Lengths -/

/-- A length has an octet. -/
theorem encodeLength_length_pos (n : ℕ) : 0 < (encodeLength n).length := by
  unfold encodeLength
  split <;> simp

/-- The octets of a long-form length: the first is not zero, and as few as the value allows. -/
theorem encodeLength_long {n k : ℕ} (hn : 0x80 ≤ n) (hk : n < 256 ^ k) :
    ∃ first rest, first ≠ 0 ∧ (first :: rest).length ≤ k ∧ octets.read (first :: rest) = n ∧
      encodeLength n = UInt8.ofNat (0x80 + (first :: rest).length) :: first :: rest := by
  obtain ⟨d, rest, hd, hlt, hwrite⟩ := octets.head_write_zero (by norm_num) (by omega : n ≠ 0)
  refine ⟨octets.glyph d, rest, fun h => hd ?_, ?_, ?_, ?_⟩
  · rw [← octets.digit_glyph d hlt, h]
    rfl
  · rw [← hwrite]
    exact octets.length_write_zero_le (by norm_num) hk
  · rw [← hwrite]
    exact octets.read_write (by norm_num) 0 n
  · rw [encodeLength, if_neg (by omega), hwrite]

/-- Long-form octets that are not padded and not short-form are the encoding of their value. -/
theorem encodeLength_read {first : UInt8} {rest : Octets} (hfirst : first ≠ 0)
    (hread : 0x80 ≤ octets.read (first :: rest)) :
    encodeLength (octets.read (first :: rest)) =
      UInt8.ofNat (0x80 + (first :: rest).length) :: first :: rest := by
  have hdigit : octets.digit first ≠ 0 := fun h => hfirst (UInt8.toNat_inj.mp h)
  rw [encodeLength, if_neg (by omega),
    octets.write_zero_read (by norm_num) (fun b _ => octets_isGlyph b) hdigit]

/-! ## Where the objects start -/

mutual

/-- An object and the objects in its content, each after the object that it is in, with the places
at which their octets start. -/
def Tree.located (start : ℕ) : Tree → List (ℕ × Tree)
  | .primitive tag value => [(start, .primitive tag value)]
  | .constructed tag children =>
    (start, .constructed tag children) ::
      locatedForest (start + (tag.length + (encodeLength (encodeForest children).length).length))
        children

/-- The objects of a forest with the places at which their octets start. -/
def locatedForest (start : ℕ) : List Tree → List (ℕ × Tree)
  | [] => []
  | tree :: rest => tree.located start ++ locatedForest (start + tree.encode.length) rest

end

/-- The places of the objects: within the octets from the start on, one after the other, and each
with the octets of its object. -/
structure Places (start : ℕ) (octets : Octets) (found : List (ℕ × Tree)) : Prop where
  bounds : ∀ place ∈ found, start ≤ place.1 ∧ place.1 < start + octets.length
  increasing : (found.map Prod.fst).Pairwise (· < ·)
  octets_at : ∀ place ∈ found, ∃ rest, octets.drop (place.1 - start) = place.2.encode ++ rest

/-- Where octets are read from does not matter for what is found in them. -/
theorem Places.shift {start : ℕ} {octets : Octets} {found : List (ℕ × Tree)}
    (before after : Octets) (h : Places (start + before.length) octets found) :
    Places start (before ++ (octets ++ after)) found where
  bounds place hplace := by
    have hbounds := h.bounds place hplace
    simp only [List.length_append]
    omega
  increasing := h.increasing
  octets_at place hplace := by
    obtain ⟨hle, hlt⟩ := h.bounds place hplace
    obtain ⟨rest, hrest⟩ := h.octets_at place hplace
    refine ⟨rest ++ after, ?_⟩
    have hsplit : place.1 - start = before.length + (place.1 - (start + before.length)) := by omega
    rw [hsplit, ← List.drop_drop, List.drop_left, List.drop_append_of_le_length (by omega), hrest,
      List.append_assoc]

/-- What is found in octets is found before what is found after them. -/
theorem Places.append {start : ℕ} {octets octets' : Octets} {found found' : List (ℕ × Tree)}
    (h : Places start octets found) (h' : Places (start + octets.length) octets' found') :
    Places start (octets ++ octets') (found ++ found') := by
  have hfirst : Places start (octets ++ octets') found := h.shift [] octets'
  have hsecond : Places start (octets ++ (octets' ++ [])) found' := h'.shift octets []
  rw [List.append_nil] at hsecond
  refine ⟨?_, ?_, ?_⟩
  · exact List.forall_mem_append.mpr ⟨hfirst.bounds, hsecond.bounds⟩
  · rw [List.map_append, List.pairwise_append]
    refine ⟨h.increasing, h'.increasing, fun place hplace place' hplace' => ?_⟩
    obtain ⟨a, ha, rfl⟩ := List.mem_map.mp hplace
    obtain ⟨b, hb, rfl⟩ := List.mem_map.mp hplace'
    have hbefore := (h.bounds a ha).2
    have hafter := (h'.bounds b hb).1
    omega
  · exact List.forall_mem_append.mpr ⟨hfirst.octets_at, hsecond.octets_at⟩

/-- The objects of a forest are in place when those of each of its trees are. -/
theorem places_locatedForest {trees : List Tree}
    (h : ∀ tree ∈ trees, ∀ start, Places start tree.encode (tree.located start)) (start : ℕ) :
    Places start (encodeForest trees) (locatedForest start trees) := by
  induction trees generalizing start with
  | nil => exact ⟨by simp [locatedForest], by simp [locatedForest], by simp [locatedForest]⟩
  | cons tree rest ih =>
    obtain ⟨htree, hrest⟩ := List.forall_mem_cons.mp h
    exact (htree start).append (ih hrest _)

/-- The objects in a well-formed object are in place. -/
theorem WellFormed.places {limits : Limits} {depth : ℕ} {tree : Tree}
    (h : WellFormed limits depth tree) (start : ℕ) :
    Places start tree.encode (tree.located start) := by
  -- The object itself comes first: its tag has an octet, so its content starts after it.
  have hself : ∀ {depth : ℕ} {tree : Tree}, WellFormed limits depth tree → ∀ start,
      start < start + tree.encode.length ∧
        ∃ rest, tree.encode.drop (start - start) = tree.encode ++ rest := by
    intro depth tree h start
    have hpos := h.encode_length_pos
    exact ⟨by omega, [], by simp⟩
  induction h generalizing start with
  | primitive hdepth htag hbit hlength =>
    obtain ⟨hlt, hrest⟩ := hself (.primitive hdepth htag hbit hlength) start
    refine ⟨?_, by simp [Tree.located], ?_⟩
    · simp only [Tree.located, List.forall_mem_singleton]
      exact ⟨le_rfl, hlt⟩
    · simp only [Tree.located, List.forall_mem_singleton]
      exact hrest
  | @constructed depth tag children hdepth htag hbit hchildren hwf hlength ih =>
    obtain ⟨hlt, hrest⟩ := hself (.constructed hdepth htag hbit hchildren hwf hlength) start
    have hcontent := places_locatedForest ih
      (start + (tag ++ encodeLength (encodeForest children).length).length)
    have hwithin := hcontent.shift _ []
    rw [List.append_nil, List.append_assoc, List.length_append] at hwithin
    refine ⟨?_, ?_, ?_⟩
    · simp only [Tree.located, List.forall_mem_cons]
      exact ⟨⟨le_rfl, hlt⟩, hwithin.bounds⟩
    · simp only [Tree.located, List.map_cons, List.pairwise_cons]
      refine ⟨fun place hplace => ?_, hwithin.increasing⟩
      obtain ⟨a, ha, rfl⟩ := List.mem_map.mp hplace
      rw [List.length_append] at hcontent
      have hafter := (hcontent.bounds a ha).1
      have hpos := htag.length_pos
      omega
    · simp only [Tree.located, List.forall_mem_cons]
      exact ⟨hrest, hwithin.octets_at⟩

end Ber
