import AtlasPay.Python.Basic
import Mathlib.Data.List.AList
import Mathlib.Data.List.Sort

/-!
# The ISO 8583 message codec

The model of `app/iso8583.py`: an ASCII MTI, one or two 64-bit bitmaps, and the data elements in
the order of their numbers, each fixed or with an ASCII length prefix. A profile is any mapping of
numbers to valid field specifications. A field mapping is an association list without repeated
keys; its order is the order of iteration, which decides only which of several errors is raised.
Descriptions are left out, since nothing reads them.
-/

namespace AtlasPay

/-- `FieldDataType`. -/
inductive FieldDataType where
  | n
  | ans
  | binary
  deriving DecidableEq, Repr

/-- `LengthType`. -/
inductive LengthType where
  | fixed
  | llvar
  | lllvar
  deriving DecidableEq, Repr

/-- `FieldValue`: text or raw bytes. -/
inductive FieldValue where
  | text (s : String)
  | bytes (raw : Bytes)
  deriving DecidableEq, Repr

/-- `FieldSpec`, with the checks of `__post_init__` as fields. -/
structure FieldSpec where
  /-- The data element's number. -/
  number : ℕ
  /-- What its value may contain. -/
  dataType : FieldDataType
  /-- How its length is known. -/
  lengthType : LengthType
  /-- The largest length, and the only one of a fixed field. -/
  maxLength : ℕ
  /-- The smallest length of a variable field. -/
  minLength : ℕ := 0
  /-- ISO 8583 data element numbers must be between 2 and 128. -/
  number_range : 2 ≤ number ∧ number ≤ 128 := by decide
  /-- `max_length` must be positive. -/
  maxLength_pos : 0 < maxLength := by decide
  /-- `min_length` must be between zero and `max_length`. -/
  minLength_le : minLength ≤ maxLength := by decide
  /-- Fixed fields cannot define `min_length`. -/
  fixed_minLength : lengthType = .fixed → minLength = 0 := by decide
  /-- LLVAR `max_length` cannot exceed 99. -/
  llvar_maxLength : lengthType = .llvar → maxLength ≤ 99 := by decide
  /-- LLLVAR `max_length` cannot exceed 999. -/
  lllvar_maxLength : lengthType = .lllvar → maxLength ≤ 999 := by decide

/-- `FieldSpec.length_prefix_width`. -/
def FieldSpec.lengthPrefixWidth (spec : FieldSpec) : ℕ :=
  match spec.lengthType with
  | .llvar => 2
  | .lllvar => 3
  | .fixed => 0

/-- The mapping of data element numbers to values. -/
abbrev Fields := AList fun _ : ℕ => FieldValue

/-- `ISO8583Message`. -/
structure ISO8583Message where
  /-- The message type indicator. -/
  mti : String
  /-- The data elements. -/
  fields : Fields

/-- Equality of the Python objects: the same MTI and the same mapping, in whatever order. -/
def ISO8583Message.Same (m m' : ISO8583Message) : Prop :=
  m.mti = m'.mti ∧ ∀ number, m.fields.lookup number = m'.fields.lookup number

/-- `ISO8583Codec`: a profile whose keys are the numbers of their specifications. -/
structure ISO8583Codec where
  /-- `self._field_specs.get`. -/
  fieldSpecs : ℕ → Option FieldSpec
  /-- The constructor's check of each key. -/
  number_eq : ∀ number spec, fieldSpecs number = some spec → spec.number = number

/-! ## The message type indicator -/

/-- `_encode_mti`. -/
def encodeMti (mti : String) : Py Bytes :=
  if mti.length ≠ 4 ∨ ¬isAsciiDecimal mti then
    throw (.iso8583CodecError "MTI must be exactly four ASCII digits")
  else encodeAscii mti

/-- `_decode_mti`. -/
def decodeMti (raw : Bytes) : Py String :=
  match decodeAscii raw with
  | .error .unicodeDecodeError => throw (.iso8583CodecError "MTI must be ASCII")
  | .error e => throw e
  | .ok mti => do
    let _ ← encodeMti mti
    pure mti

/-! ## Bitmaps -/

/-- `_validate_field_number`. -/
def validateFieldNumber (number : ℕ) : Py Unit :=
  if ¬(2 ≤ number ∧ number ≤ 128) then
    throw (.iso8583CodecError "Data element numbers must be integers between 2 and 128")
  else pure ()

/-- The primary bitmap: the indicator of a secondary one, and one bit for each number to 64. -/
def primaryBitmap (hasSecondary : Bool) (numbers : List ℕ) : ℕ :=
  numbers.foldl (fun primary number =>
    if number ≤ 64 then primary ||| (1 <<< (64 - number)) else primary)
    (if hasSecondary then 1 <<< 63 else 0)

/-- The secondary bitmap: one bit for each number from 65. -/
def secondaryBitmap (numbers : List ℕ) : ℕ :=
  numbers.foldl (fun secondary number =>
    if number ≤ 64 then secondary else secondary ||| (1 <<< (128 - number))) 0

/-- The bitmaps of some numbers, with or without the secondary one. -/
def bitmapBytes (hasSecondary : Bool) (numbers : List ℕ) : Bytes :=
  toBytes 8 (primaryBitmap hasSecondary numbers) ++
    if hasSecondary then toBytes 8 (secondaryBitmap numbers) else []

/-- `_encode_bitmap`, on the numbers of the fields: a secondary bitmap when one of them needs it. -/
def encodeBitmap (numbers : List ℕ) : Bytes :=
  bitmapBytes (numbers.any fun number => 64 < number) numbers

/-- `_decode_field_numbers`. DE1 is the secondary bitmap indicator, not data. -/
def decodeFieldNumbers (primary : ℕ) (secondaryRaw : Bytes) : List ℕ :=
  ((List.range 64).filterMap fun bit =>
    if primary &&& (1 <<< (63 - bit)) ≠ 0 ∧ bit + 1 ≠ 1 then some (bit + 1) else none) ++
  if secondaryRaw ≠ [] then
    (List.range 64).filterMap fun bit =>
      if fromBytes secondaryRaw &&& (1 <<< (63 - bit)) ≠ 0 then some (bit + 65) else none
  else []

/-! ## Data elements -/

/-- `_validate_text_bytes`. -/
def validateTextBytes (spec : FieldSpec) (raw : Bytes) : Py Unit := do
  if spec.dataType = .n ∧ raw.any (fun byte => byte < 48 || byte > 57) then
    throw (.iso8583CodecError s!"DE{spec.number} must contain only ASCII digits")
  if spec.dataType = .ans ∧ raw.any (fun byte => byte < 0x20 || byte > 0x7E) then
    throw (.iso8583CodecError s!"DE{spec.number} must contain printable ASCII characters")

/-- `_coerce_and_validate_value`. -/
def coerceAndValidateValue (spec : FieldSpec) (value : FieldValue) : Py Bytes :=
  match spec.dataType, value with
  | .binary, .bytes raw => pure raw
  | .binary, .text _ => throw (.iso8583CodecError s!"DE{spec.number} requires bytes")
  | _, .bytes _ => throw (.iso8583CodecError s!"DE{spec.number} requires a string")
  | _, .text s =>
    match encodeAscii s with
    | .error .unicodeEncodeError =>
      throw (.iso8583CodecError s!"DE{spec.number} must contain ASCII characters")
    | .error e => throw e
    | .ok raw => do
      validateTextBytes spec raw
      pure raw

/-- `_coerce_and_validate_decoded_value`. -/
def coerceAndValidateDecodedValue (spec : FieldSpec) (raw : Bytes) : Py FieldValue :=
  if spec.dataType = .binary then pure (.bytes raw)
  else do
    validateTextBytes spec raw
    let s ← decodeAscii raw
    pure (.text s)

/-- The length check that both directions make of a variable field. -/
def checkLength (spec : FieldSpec) (length : ℕ) : Py Unit :=
  if ¬(spec.minLength ≤ length ∧ length ≤ spec.maxLength) then
    throw (.iso8583CodecError
      (s!"DE{spec.number} length must be between {spec.minLength} and {spec.maxLength}; " ++
        s!"received {length}"))
  else pure ()

/-- `_encode_field`. -/
def encodeField (spec : FieldSpec) (value : FieldValue) : Py Bytes := do
  let raw ← coerceAndValidateValue spec value
  if spec.lengthType = .fixed then
    if raw.length ≠ spec.maxLength then
      throw (.iso8583CodecError
        (s!"DE{spec.number} requires exactly {spec.maxLength} bytes; " ++
          s!"received {raw.length}"))
    else pure raw
  else do
    checkLength spec raw.length
    pure (zeroPadded spec.lengthPrefixWidth raw.length ++ raw)

/-- The length of the value at `offset`, and the offset at which it starts. -/
def decodeLength (spec : FieldSpec) (payload : Bytes) (offset : ℕ) : Py (ℕ × ℕ) :=
  if spec.lengthType = .fixed then pure (spec.maxLength, offset)
  else
    let prefixEnd := offset + spec.lengthPrefixWidth
    if prefixEnd > payload.length then
      throw (.iso8583CodecError s!"DE{spec.number} length prefix is truncated")
    else
      let lengthPrefix := slice payload offset prefixEnd
      if ¬isDigits lengthPrefix then
        throw (.iso8583CodecError s!"DE{spec.number} length prefix must be ASCII digits")
      else do
        checkLength spec (intOfDigits lengthPrefix)
        pure (intOfDigits lengthPrefix, prefixEnd)

/-- `_decode_field`. -/
def decodeField (spec : FieldSpec) (payload : Bytes) (offset : ℕ) : Py (FieldValue × ℕ) := do
  let (length, start) ← decodeLength spec payload offset
  let stop := start + length
  if stop > payload.length then
    throw (.iso8583CodecError s!"DE{spec.number} value is truncated")
  else do
    let value ← coerceAndValidateDecodedValue spec (slice payload start stop)
    pure (value, stop)

/-! ## Messages -/

/-- `self._field_specs.get(number)`, raising when there is none. -/
def ISO8583Codec.specFor (codec : ISO8583Codec) (number : ℕ) : Py FieldSpec :=
  match codec.fieldSpecs number with
  | none => throw (.iso8583CodecError s!"No field specification registered for DE{number}")
  | some spec => pure spec

/-- The loop of `encode` that fills `normalized_fields`, in the order of the mapping. -/
def ISO8583Codec.normalizeFields (codec : ISO8583Codec) :
    List (Σ _ : ℕ, FieldValue) → Py (List (ℕ × Bytes))
  | [] => pure []
  | ⟨number, value⟩ :: rest => do
    validateFieldNumber number
    let spec ← codec.specFor number
    let raw ← encodeField spec value
    let normalized ← codec.normalizeFields rest
    pure ((number, raw) :: normalized)

/-- `ISO8583Codec.encode`. -/
def ISO8583Codec.encode (codec : ISO8583Codec) (message : ISO8583Message) : Py Bytes := do
  let mti ← encodeMti message.mti
  let normalized ← codec.normalizeFields message.fields.entries
  let bitmap := encodeBitmap (normalized.map Prod.fst)
  pure (mti ++ bitmap ++ ((normalized.insertionSort (·.1 ≤ ·.1)).map Prod.snd).flatten)

/-- The loop of `decode` over the field numbers. -/
def ISO8583Codec.decodeFields (codec : ISO8583Codec) (payload : Bytes) :
    List ℕ → ℕ → Fields → Py (Fields × ℕ)
  | [], offset, fields => pure (fields, offset)
  | number :: rest, offset, fields => do
    let spec ← codec.specFor number
    let (value, stop) ← decodeField spec payload offset
    codec.decodeFields payload rest stop (fields.insert number value)

/-- `ISO8583Codec.decode`. -/
def ISO8583Codec.decode (codec : ISO8583Codec) (payload : Bytes) : Py ISO8583Message :=
  if payload.length < 12 then
    throw (.iso8583CodecError "Message must contain a 4-byte MTI and primary bitmap")
  else do
    let mti ← decodeMti (slice payload 0 4)
    let primary := fromBytes (slice payload 4 12)
    let hasSecondary : Bool := primary &&& (1 <<< 63) ≠ 0
    let bitmapEnd := if hasSecondary then 20 else 12
    if payload.length < bitmapEnd then
      throw (.iso8583CodecError "Secondary bitmap indicator is set but bitmap is truncated")
    else do
      let fieldNumbers :=
        decodeFieldNumbers primary (if hasSecondary then slice payload 12 20 else [])
      let (fields, offset) ← codec.decodeFields payload fieldNumbers bitmapEnd ∅
      if offset ≠ payload.length then
        throw (.iso8583CodecError
          s!"Unexpected trailing bytes after DE{fieldNumbers.getLastD 0}")
      else pure ⟨mti, fields⟩

/-! ## The default profile -/

/-- The entries of `DEFAULT_FIELD_SPECS`. -/
def defaultFieldSpecList : List FieldSpec :=
  [{ number := 2, dataType := .n, lengthType := .llvar, maxLength := 19, minLength := 1 },
   { number := 3, dataType := .n, lengthType := .fixed, maxLength := 6 },
   { number := 4, dataType := .n, lengthType := .fixed, maxLength := 12 },
   { number := 7, dataType := .n, lengthType := .fixed, maxLength := 10 },
   { number := 11, dataType := .n, lengthType := .fixed, maxLength := 6 },
   { number := 12, dataType := .n, lengthType := .fixed, maxLength := 6 },
   { number := 13, dataType := .n, lengthType := .fixed, maxLength := 4 },
   { number := 37, dataType := .ans, lengthType := .fixed, maxLength := 12 },
   { number := 38, dataType := .ans, lengthType := .fixed, maxLength := 6 },
   { number := 39, dataType := .ans, lengthType := .fixed, maxLength := 2 },
   { number := 41, dataType := .ans, lengthType := .fixed, maxLength := 8 },
   { number := 42, dataType := .ans, lengthType := .fixed, maxLength := 15 },
   { number := 49, dataType := .n, lengthType := .fixed, maxLength := 3 },
   { number := 52, dataType := .binary, lengthType := .fixed, maxLength := 8 },
   { number := 55, dataType := .binary, lengthType := .lllvar, maxLength := 999, minLength := 1 },
   { number := 70, dataType := .n, lengthType := .fixed, maxLength := 3 }]

/-- `ISO8583Codec()`, with `DEFAULT_FIELD_SPECS`. -/
def defaultCodec : ISO8583Codec where
  fieldSpecs number := defaultFieldSpecList.find? fun spec => spec.number = number
  number_eq number spec h := by simpa using List.find?_some h

end AtlasPay
