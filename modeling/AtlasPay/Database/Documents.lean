import AtlasPay.Payments.Models
import Mathlib.Data.List.AList

/-!
# Documents of type `jsonb`

A payload that some other program has written may be any document. Of a document the queries read
only whether it has a key, and the member of that key as text. So a value that is neither a string
nor a null stands here for the text that PostgreSQL prints of it.
-/

namespace AtlasPay

/-- A value in a document. -/
inductive JsonbValue where
  | null
  | string (s : String)
  | printed (text : String)
  deriving DecidableEq, Repr

/-- A document: an object, in which each key stands once, an array, or a single value. -/
inductive Jsonb where
  | object (members : AList fun _ : String => JsonbValue)
  | array (items : List JsonbValue)
  | scalar (value : JsonbValue)

namespace Jsonb

/-- The text of a value, if it is not null. -/
def valueText? : JsonbValue → Option String
  | .null => none
  | .string s => some s
  | .printed text => some text

/-- `payload->>'key'`. -/
def text? (key : String) : Jsonb → Option String
  | object members => (members.lookup key).bind valueText?
  | array _ => none
  | scalar _ => none

/-- `payload ? 'key'`: a key of an object, or a string of an array or by itself. -/
def has (key : String) : Jsonb → Bool
  | object members => decide (key ∈ members)
  | array items => decide (.string key ∈ items)
  | scalar value => decide (value = .string key)

/-- A member that has a text is there. -/
theorem has_of_text? {key text : String} {document : Jsonb}
    (h : document.text? key = some text) : document.has key = true := by
  cases document with
  | object members =>
    obtain ⟨value, hvalue, -⟩ := Option.bind_eq_some_iff.mp h
    exact decide_eq_true (AList.lookup_isSome.mp (by rw [hvalue]; rfl))
  | array _ => cases h
  | scalar _ => cases h

/-- A value of a payload of the services. -/
def ofValue : JsonValue → JsonbValue
  | .str s => .string s
  | .int n => .printed (toString n)

/-- A payload of the services. -/
def ofObject (payload : JsonObject) : Jsonb :=
  .object (payload.map fun member => (⟨member.1, ofValue member.2⟩ : Sigma _)).toAList

/-- What is found in a payload. -/
theorem lookup_ofObject (payload : JsonObject) (key : String) :
    (payload.map fun member => (⟨member.1, ofValue member.2⟩ : Sigma fun _ : String => JsonbValue)
      ).toAList.lookup key = (payload.lookup key).map ofValue := by
  rw [AList.lookup_to_alist]
  induction payload with
  | nil => rfl
  | cons member payload ih =>
    obtain ⟨name, value⟩ := member
    rw [List.map_cons, List.lookup_cons]
    by_cases hkey : key = name
    · subst hkey
      rw [List.dlookup_cons_eq, beq_self_eq_true]
      rfl
    · rw [List.dlookup_cons_ne _ _ hkey, ih, beq_eq_false_iff_ne.mpr hkey]

/-- The text of a member is that of the payload. -/
theorem text?_ofObject (payload : JsonObject) (key : String) :
    (ofObject payload).text? key = Json.text? payload key := by
  have hbind : (ofObject payload).text? key =
      ((payload.lookup key).map ofValue).bind valueText? := by
    rw [← lookup_ofObject]
    rfl
  rw [hbind, Json.text?]
  cases payload.lookup key with
  | none => rfl
  | some value => cases value <;> rfl

/-- A payload has a key exactly when it has a text for it. -/
theorem has_ofObject (payload : JsonObject) (key : String) :
    (ofObject payload).has key = (Json.text? payload key).isSome := by
  rw [Bool.eq_iff_iff, ← text?_ofObject]
  constructor
  · intro h
    have hlookup := AList.lookup_isSome.mpr (of_decide_eq_true h)
    rw [lookup_ofObject, Option.isSome_map] at hlookup
    obtain ⟨value, hvalue⟩ := Option.isSome_iff_exists.mp hlookup
    rw [text?_ofObject, Json.text?, hvalue]
    cases value <;> rfl
  · intro h
    obtain ⟨text, htext⟩ := Option.isSome_iff_exists.mp h
    exact has_of_text? htext

end Jsonb

end AtlasPay
