import AtlasPay.Payments.Models
import Mathlib.Data.List.TakeWhile

/-!
# The handlers

`app/main.py`: what the endpoints answer to what the payment service returns or raises, and which
requests for the operational snapshot are let through. A handler raises an `HTTPException`, or
anything else, which is answered with status 500. Header values come decoded from Latin-1.
-/

namespace AtlasPay

namespace Api

/-- What a handler raises. -/
inductive Raised where
  | httpException (statusCode : ℕ) (detail : String) (headers : List (String × String))
  | serviceError (e : ServiceError)
  | typeError (message : String)
  deriving DecidableEq

/-- The value of a header. -/
structure HeaderValue where
  text : String
  latin1 : ∀ c ∈ text.toList, c.toNat < 256
  deriving DecidableEq

/-! ## The snapshot is protected -/

/-- `str.lower` on a letter of Latin-1. -/
def lowerChar (c : Char) : Char :=
  if ('A' ≤ c ∧ c ≤ 'Z') ∨ ('À' ≤ c ∧ c ≤ 'Þ' ∧ c ≠ '×') then Char.ofNat (c.toNat + 32) else c

/-- `str.lower` on a text of Latin-1. -/
def lower (text : List Char) : List Char := text.map lowerChar

/-- `text.partition(" ")`: what is before the first space, whether there is one, and what is after
it. -/
def partitionSpace (text : List Char) : List Char × Bool × List Char :=
  match text.dropWhile (· ≠ ' ') with
  | [] => (text, false, [])
  | _ :: rest => (text.takeWhile (· ≠ ' '), true, rest)

/-- All characters are ASCII. -/
def isAscii (text : List Char) : Bool := text.all fun c => c.toNat < 128

/-- `secrets.compare_digest` on texts. -/
def compareDigest (a b : List Char) : Except Raised Bool :=
  if isAscii a && isAscii b then pure (a = b)
  else throw (.typeError "comparing strings with non-ASCII characters is not supported")

/-- The refusal of credentials that are not valid. -/
def unauthorized : Raised :=
  .httpException 401 "Valid bearer credentials are required" [("WWW-Authenticate", "Bearer")]

/-- `authorize_operational_request`, for the value of the variable `ATLASPAY_OPS_TOKEN`. -/
def authorizeOperationalRequest (token : Option String) (authorization : Option HeaderValue) :
    Except Raised Unit :=
  match token with
  | none | some "" =>
    throw (.httpException 503
      "Operational API is disabled because ATLASPAY_OPS_TOKEN is not configured" [])
  | some expected => do
    let (scheme, separator, supplied) :=
      partitionSpace ((authorization.map HeaderValue.text).getD "").toList
    if ¬separator ∨ lower scheme ≠ "bearer".toList ∨ supplied = [] then throw unauthorized
    if ← compareDigest supplied expected.toList then pure ()
    else throw unauthorized

/-- A text is split at its first space. -/
theorem partitionSpace_eq {text scheme supplied : List Char} :
    partitionSpace text = (scheme, true, supplied) ↔
      text = scheme ++ ' ' :: supplied ∧ ' ' ∉ scheme := by
  have hsplit := List.takeWhile_append_dropWhile (p := (· ≠ ' ')) (l := text)
  unfold partitionSpace
  constructor
  · intro h
    cases hrest : text.dropWhile (· ≠ ' ') with
    | nil =>
      rw [hrest] at h
      cases h
    | cons c rest =>
      rw [hrest] at h hsplit
      cases h
      have hc : c = ' ' := by
        have hhead := List.head?_dropWhile_not (· ≠ ' ') text
        rw [hrest] at hhead
        simpa using hhead
      rw [hc] at hsplit
      refine ⟨hsplit.symm, fun hmem => ?_⟩
      simpa using List.mem_takeWhile_imp hmem
  · rintro ⟨rfl, hscheme⟩
    have hall : ∀ c ∈ scheme, decide (c ≠ ' ') = true := fun c hc =>
      decide_eq_true fun heq => hscheme (heq ▸ hc)
    rw [List.dropWhile_append_of_pos hall, List.takeWhile_append_of_pos hall]
    simp

/-- Texts that are compared and found equal. -/
theorem compareDigest_eq_true {a b : List Char} :
    compareDigest a b = .ok true ↔ a = b ∧ isAscii b = true := by
  unfold compareDigest
  split
  case isTrue hascii =>
    rw [Bool.and_eq_true] at hascii
    constructor
    · intro h
      exact ⟨of_decide_eq_true (Except.ok.inj h), hascii.2⟩
    · rintro ⟨rfl, -⟩
      exact congrArg Except.ok (decide_eq_true rfl)
  case isFalse hascii =>
    refine ⟨nofun, ?_⟩
    rintro ⟨rfl, hb⟩
    simp [hb] at hascii

/-- A request is let through exactly if a token is configured, which is ASCII, and the request has
it after the scheme and one space. -/
theorem authorizeOperationalRequest_eq_ok {token : Option String}
    {authorization : Option HeaderValue} :
    authorizeOperationalRequest token authorization = .ok () ↔
      ∃ expected header scheme, token = some expected ∧ expected ≠ "" ∧
        isAscii expected.toList = true ∧ authorization = some header ∧
        header.text.toList = scheme ++ ' ' :: expected.toList ∧ ' ' ∉ scheme ∧
        lower scheme = "bearer".toList := by
  unfold authorizeOperationalRequest
  split
  · -- Without a token, or with an empty one, nobody is let through.
    exact ⟨nofun, fun ⟨_, _, _, htoken, _⟩ => nomatch htoken⟩
  · refine ⟨nofun, fun ⟨_, _, _, htoken, hne, _⟩ => absurd ?_ hne⟩
    exact (Option.some.inj htoken).symm
  next expected hne =>
    have hne : expected ≠ "" := fun heq => hne (by rw [heq])
    generalize hpart : partitionSpace ((authorization.map HeaderValue.text).getD "").toList = part
    obtain ⟨scheme, separator, supplied⟩ := part
    dsimp only
    -- `compare_digest` raises unless both are ASCII, and compares then.
    have hchecked : (compareDigest supplied expected.toList >>= fun same =>
          if same = true then pure () else throw unauthorized) = .ok () ↔
        supplied = expected.toList ∧ isAscii expected.toList = true := by
      rw [← compareDigest_eq_true]
      rcases compareDigest supplied expected.toList with e | _ | _
      · exact ⟨nofun, nofun⟩
      · exact ⟨nofun, nofun⟩
      · exact ⟨fun _ => rfl, fun _ => rfl⟩
    constructor
    · intro h
      by_cases hbad : ¬separator = true ∨ lower scheme ≠ "bearer".toList ∨ supplied = []
      · rw [if_pos hbad] at h
        cases h
      rw [if_neg hbad] at h
      simp only [not_or, not_not] at hbad
      obtain ⟨rfl, hbearer, -⟩ := hbad
      obtain ⟨rfl, hascii⟩ := hchecked.mp h
      obtain ⟨htext, hscheme⟩ := partitionSpace_eq.mp hpart
      cases authorization with
      | none => simp at htext
      | some header =>
        exact ⟨expected, header, scheme, rfl, hne, hascii, rfl, htext, hscheme, hbearer⟩
    · rintro ⟨expected', header, scheme', hexpected, -, hascii, rfl, htext, hscheme, hbearer⟩
      cases Option.some.inj hexpected
      -- The scheme has no space, so that the text is parted after it.
      have hsame := partitionSpace_eq.mpr ⟨htext, hscheme⟩
      cases hpart.symm.trans hsame
      have hnonempty : expected.toList ≠ [] := fun hnil => hne (String.toList_eq_nil_iff.mp hnil)
      have hgood : ¬(¬true = true ∨ lower scheme ≠ "bearer".toList ∨ expected.toList = []) := by
        simp only [not_or, not_not]
        exact ⟨trivial, hbearer, hnonempty⟩
      rw [if_neg hgood]
      exact hchecked.mpr ⟨rfl, hascii⟩

/-- `get_operational_snapshot`, for what the reader returns or raises. -/
def getOperationalSnapshot {α : Type} (token : Option String)
    (authorization : Option HeaderValue) (read : Except Raised α) : Except Raised α := do
  authorizeOperationalRequest token authorization
  read

/-- A snapshot is let out exactly if it was read, and the request is let through. -/
theorem getOperationalSnapshot_eq_ok {α : Type} {token : Option String}
    {authorization : Option HeaderValue} {read : Except Raised α} {snapshot : α} :
    getOperationalSnapshot token authorization read = .ok snapshot ↔ read = .ok snapshot ∧
      ∃ expected header scheme, token = some expected ∧ expected ≠ "" ∧
        isAscii expected.toList = true ∧ authorization = some header ∧
        header.text.toList = scheme ++ ' ' :: expected.toList ∧ ' ' ∉ scheme ∧
        lower scheme = "bearer".toList := by
  unfold getOperationalSnapshot
  rw [← authorizeOperationalRequest_eq_ok]
  cases authorizeOperationalRequest token authorization with
  | error e => exact ⟨nofun, nofun⟩
  | ok _ => exact ⟨fun h => ⟨h, rfl⟩, And.left⟩

/-! ## Payments -/

/-- `create_payment`, for what the service returns or raises. -/
def createPayment {α : Type} : Except ServiceError α → Except Raised α
  | .ok payment => pure payment
  | .error (.idempotencyConflict message) => throw (.httpException 409 message [])
  | .error e => throw (.serviceError e)

/-- `get_payment`, for what the service returns or raises. -/
def getPayment {α : Type} : Except ServiceError (Option α) → Except Raised α
  | .ok (some payment) => pure payment
  | .ok none => throw (.httpException 404 "Payment not found" [])
  | .error e => throw (.serviceError e)

/-- The status of an answer, where the status of what is returned is given. -/
def statusCode {α : Type} (returned : ℕ) : Except Raised α → ℕ
  | .ok _ => returned
  | .error (.httpException statusCode _ _) => statusCode
  | .error _ => 500

/-- A request to create a payment is answered a conflict when the service raises one. -/
theorem conflict_of_statusCode {α : Type} {x : Except ServiceError α}
    (h : statusCode 201 (createPayment x) = 409) :
    ∃ message, x = .error (.idempotencyConflict message) := by
  cases x with
  | ok payment => cases h
  | error e =>
    cases e with
    | idempotencyConflict message => exact ⟨message, rfl⟩
    | _ => cases h

end Api

end AtlasPay
