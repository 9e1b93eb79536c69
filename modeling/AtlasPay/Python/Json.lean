import AtlasPay.Library.Positional

/-!
# `json.dumps` of flat objects

The payloads that are fingerprinted or put in the outbox are objects whose values are strings and
integers. `dumps` prints one with compact separators and ASCII escapes, its members in the order
given: the callers give them sorted by key.
-/

namespace AtlasPay

open Positional (lowerHexDigits)

/-- A value in a payload. -/
inductive JsonValue where
  | str (s : String)
  | int (n : ℤ)
  deriving DecidableEq, Repr

/-- The members of an object, each key once. -/
abbrev JsonObject := List (String × JsonValue)

namespace Json

/-- The UTF-16 code units of a character. -/
def utf16 (c : Char) : List ℕ :=
  if c.toNat < 0x10000 then [c.toNat]
  else [0xd800 + (c.toNat - 0x10000) / 0x400, 0xdc00 + (c.toNat - 0x10000) % 0x400]

/-- A character of a string, escaped when it is a quote, a backslash or not printable ASCII. -/
def escape (c : Char) : List Char :=
  if c = '"' then ['\\', '"']
  else if c = '\\' then ['\\', '\\']
  else if c = '\n' then ['\\', 'n']
  else if c = '\r' then ['\\', 'r']
  else if c = '\t' then ['\\', 't']
  else if c.toNat = 12 then ['\\', 'f']
  else if c.toNat = 8 then ['\\', 'b']
  else if 32 ≤ c.toNat ∧ c.toNat ≤ 126 then [c]
  else (utf16 c).flatMap fun unit => '\\' :: 'u' :: lowerHexDigits.write 4 unit

/-- A string in quotes. -/
def quote (s : String) : String :=
  String.ofList ('"' :: (s.toList.flatMap escape ++ ['"']))

/-- `json.dumps` of a value. -/
def value : JsonValue → String
  | .str s => quote s
  | .int n => toString n

/-- `json.dumps(payload, sort_keys=True, separators=(",", ":"))`, for members in key order. -/
def dumps (payload : JsonObject) : String :=
  let members := payload.map fun member => quote member.1 ++ ":" ++ value member.2
  "\x7b" ++ ",".intercalate members ++ "\x7d"

/-- `payload->>'key'`: the value of a member as text. -/
def text? (payload : JsonObject) (key : String) : Option String :=
  match payload.lookup key with
  | some (.str s) => some s
  | some (.int n) => some (toString n)
  | none => none

end Json

end AtlasPay
