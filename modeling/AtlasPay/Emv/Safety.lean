import AtlasPay.Emv.Trace

/-!
# The parser is safe on any bytes

Every octet that the parser reads is in its window, every iteration takes two octets or more, no
call is deeper than one level over the limit, and nothing but `EMVTLVError` is raised
(`parseBerTlv_safe`). Each of its functions is safe in a window that does not exceed the octets; for
the loop the induction is on what is left of the window.
-/

namespace AtlasPay

/-- What the parser may do: read and cut within the window, take two octets in an iteration, and
call itself to one level over the limit. -/
def ParserEvent.Safe : ParserEvent → Prop
  | .read offset limit length => offset < limit ∧ limit ≤ length
  | .slice start stop limit length => start ≤ stop ∧ stop ≤ limit ∧ limit ≤ length
  | .iteration start stop limit => start + 2 ≤ stop ∧ stop ≤ limit
  | .call depth => depth ≤ maxNestingDepth + 1

/-- The error is `EMVTLVError`. -/
def PyError.IsEmvTlvError (e : PyError) : Prop := ∃ text, e = .emvTlvError text

namespace Trace

open Logged (Safe)

/-- A part of the parser does only what it may, and raises nothing but `EMVTLVError`. -/
abbrev IsSafe {α : Type} (x : Trace α) : Prop := Safe ParserEvent.Safe PyError.IsEmvTlvError x

/-- Raising `EMVTLVError` is safe. -/
theorem safe_raise {α : Type} (text : String) :
    IsSafe (Logged.raise (.emvTlvError text) : Trace α) :=
  .raise ⟨text, rfl⟩

variable {payload : Bytes} {offset limit : ℕ}

/-- Reading within the window is safe. -/
theorem safe_read (hlt : offset < limit) (hlimit : limit ≤ payload.length) :
    IsSafe (read payload offset limit) := by
  refine ⟨fun event hmem => ?_, fun e he => ?_⟩
  · rw [List.mem_singleton.mp hmem]
    exact ⟨hlt, hlimit⟩
  · have hsome : index payload offset = .ok payload[offset] := by
      rw [index, List.getElem?_eq_getElem (hlt.trans_le hlimit)]
      rfl
    cases hsome.symm.trans he

/-- Cutting within the window is safe. -/
theorem safe_cut {start stop : ℕ} (hle : start ≤ stop) (hstop : stop ≤ limit)
    (hlimit : limit ≤ payload.length) : IsSafe (cut payload start stop limit) := by
  refine ⟨fun event hmem => ?_, nofun⟩
  rw [List.mem_singleton.mp hmem]
  exact ⟨hle, hstop, hlimit⟩

/-- The loop of `_read_tag` is safe. -/
theorem safe_tagLoop (hlimit : limit ≤ payload.length) (tagBytes : Bytes) (offset : ℕ) :
    IsSafe (tagLoop payload limit tagBytes offset) := by
  fun_induction tagLoop payload limit tagBytes offset with
  | case1 => exact safe_raise _
  | case2 => exact safe_raise _
  | case3 tagBytes offset hend hmax ih =>
    refine .bind (safe_read (not_le.mp hend) hlimit) fun current _ => ?_
    exact .ite (fun _ => safe_raise _) fun _ => .ite (fun _ => .ret _) fun _ => ih current

/-- `_read_tag` is safe. -/
theorem safe_tag (hlimit : limit ≤ payload.length) (offset : ℕ) :
    IsSafe (tag payload offset limit) := by
  unfold tag
  refine .ite (fun _ => safe_raise _) fun hend => ?_
  refine .bind (safe_read (not_le.mp hend) hlimit) fun first _ => ?_
  refine .ite (fun _ => safe_raise _) fun _ => .ite (fun _ => ?_) fun _ => .ret _
  exact .bind (safe_tagLoop hlimit _ _) fun _ _ => .ret _

/-- `_read_length` is safe. -/
theorem safe_length (hlimit : limit ≤ payload.length) (offset : ℕ) :
    IsSafe (length payload offset limit) := by
  unfold length
  refine .ite (fun _ => safe_raise _) fun hend => ?_
  refine .bind (safe_read (not_le.mp hend) hlimit) fun first _ => ?_
  refine .ite (fun _ => .ret _) fun _ => .ite (fun _ => safe_raise _) fun _ => ?_
  refine .ite (fun _ => safe_raise _) fun hwidth => .ite (fun _ => safe_raise _) fun hfits => ?_
  rw [not_or] at hwidth
  refine .bind (safe_cut (by omega) (not_lt.mp hfits) hlimit) fun encoded hencoded => ?_
  -- There is a first octet to look at, since the width is not zero.
  have hpos : 0 < encoded.length := by
    cases hencoded
    rw [length_slice _ (by omega)]
    omega
  refine .bind (safe_read hpos le_rfl) fun high _ => .ite (fun _ => safe_raise _) fun _ => ?_
  exact .ite (fun _ => safe_raise _) fun _ => .ret _

/-- `_parse_items` is safe, as deep as it may be called, if its loop is where it is reached. -/
theorem safe_items {depth : ℕ} (hdepth : depth ≤ maxNestingDepth + 1)
    (hloop : depth ≤ maxNestingDepth → IsSafe (loop payload offset limit depth [])) :
    IsSafe (items payload offset limit depth) := by
  rw [items]
  refine .bind (.note hdepth) fun _ _ => .ite (fun _ => safe_raise _) fun hle => ?_
  exact hloop (not_lt.mp hle)

/-- The objects in a content are parsed safely, if `_parse_items` is safe on it. -/
theorem safe_children {name : String} {value : Bytes} {depth : ℕ}
    (hitems : IsSafe (items value 0 value.length (depth + 1))) :
    IsSafe (children name value depth) := by
  rw [children]
  refine .ite (fun _ => safe_raise _) fun _ => .bind hitems fun _ _ => ?_
  exact .ite (fun _ => safe_raise _) fun _ => .ret _

/-- The loop of `_parse_items` is safe. -/
theorem safe_loop {payload : Bytes} {limit depth : ℕ} (hlimit : limit ≤ payload.length)
    (hdepth : depth ≤ maxNestingDepth) (offset : ℕ) (items : List BerTlv) :
    IsSafe (loop payload offset limit depth items) := by
  -- An iteration leaves less of the window, and a content is shorter than what was left.
  induction hn : limit - offset using Nat.strong_induction_on
    generalizing payload offset limit depth items with
  | _ n ih =>
    rw [loop]
    refine .ite (fun hlt => ?_) fun _ => .ret _
    refine .bind (safe_tag hlimit _) fun tagged htag => ?_
    refine .bind (safe_length hlimit _) fun sized hlength => ?_
    have h₁ := readTag_progress ((result_tag _ _ _).symm.trans htag)
    have h₂ := readLength_progress ((result_length _ _ _).symm.trans hlength)
    refine .ite (fun _ => safe_raise _) fun hle => ?_
    rw [gt_iff_lt, not_lt] at hle
    refine .bind (safe_cut (Nat.le_add_right _ _) hle hlimit) fun value hvalue => ?_
    have h₃ : value.length ≤ sized.1 := by
      cases hvalue
      exact (length_slice_le _ _ _).trans (by omega)
    refine .bind (.ite (fun _ => ?_) fun _ => .ret _) fun _ _ => .bind (.note ?_) fun _ _ => ?_
    -- The content is a window of its own, one level deeper; then the rest of this window.
    · refine safe_children (safe_items (by omega) fun hdeeper => ?_)
      exact ih _ (by omega) le_rfl hdeeper _ _ rfl
    · exact ⟨by omega, hle⟩
    · exact ih _ (by omega) hlimit hdepth _ _ rfl

/-- `parse_ber_tlv` is safe. -/
theorem safe_parse (payload : Bytes) : IsSafe (parse payload) := by
  unfold parse
  refine .ite (fun _ => safe_raise _) fun _ => ?_
  refine .bind (safe_items (Nat.zero_le _) fun hdepth => safe_loop le_rfl hdepth _ _) fun _ _ => ?_
  exact .ite (fun _ => safe_raise _) fun _ => .ret _

end Trace

/-- On any bytes the parser does only what it may, and returns objects or raises `EMVTLVError`. -/
theorem parseBerTlv_safe (payload : Bytes) :
    (Trace.parse payload).result = parseBerTlv payload ∧
      (∀ event ∈ (Trace.parse payload).log, event.Safe) ∧
      ((∃ items, parseBerTlv payload = .ok items) ∨
        ∃ text, parseBerTlv payload = .error (.emvTlvError text)) := by
  have hresult := Trace.result_parse payload
  have hsafe := Trace.safe_parse payload
  refine ⟨hresult, hsafe.log, ?_⟩
  cases hparse : parseBerTlv payload with
  | ok items => exact Or.inl ⟨items, rfl⟩
  | error e =>
    obtain ⟨text, rfl⟩ := hsafe.raised e (hresult.trans hparse)
    exact Or.inr ⟨text, rfl⟩

end AtlasPay
