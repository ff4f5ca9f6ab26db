import SyscallFilter.Json.ReadError
import SyscallFilter.Json.StringLiteral

/-!
Reading JSON text as values of a given shape. A reader goes from left to right and fails at the
first fault, whether the text is malformed there or is no value of the shape. Numbers are whole; one
with a fraction, an exponent or too large a magnitude counts as malformed.
-/

namespace SyscallFilter.Json

/-- A reader takes the front of a text and leaves the rest. -/
abbrev Reader := StateT (List Char) (Except ReadError)

/-- The blanks that may stand between tokens. -/
def isBlank (c : Char) : Bool :=
  c == ' ' || c == '\n' || c == '\t' || c == '\r'

namespace Reader

variable {α δ : Type}

/-- The text is malformed. -/
def malformed : Reader α :=
  throw .malformed

/-- The first character behind any blanks, which are dropped. -/
def peek : Reader (Option Char) := do
  modify fun text => text.dropWhile isBlank
  return (← get).head?

/-- Drops the first character. -/
def advance : Reader Unit :=
  modify List.tail

/-- Takes exactly the given characters. -/
def word (characters : List Char) : Reader Unit := do
  let text ← get
  if characters.isPrefixOf text then set (text.drop characters.length) else malformed

/-- Takes a string literal that starts with the first character. -/
def literal : Reader String := do
  match (← get).tail |> unquote with
  | some (text, rest) =>
    set rest
    return String.ofList text
  | none => malformed

/-- The whole number at the front of a text without a sign. It has no needless zero in front, and no
fraction or exponent behind. -/
def magnitude? (text : List Char) : Option (Nat × List Char) :=
  let digits := text.takeWhile Char.isDigit
  let rest := text.dropWhile Char.isDigit
  if digits.isEmpty || (digits.head? == some '0' && digits.length != 1) then none
  else
    match rest with
    | '.' :: _ => none
    | 'e' :: _ => none
    | 'E' :: _ => none
    | _ => some (Nat.ofDigitChars 10 digits 0, rest)

/-- The whole number at the front of a text, within 64 bits: unsigned, or below zero and signed. -/
def integer? (text : List Char) : Option (Int × List Char) :=
  match text with
  | '-' :: text =>
    match magnitude? text with
    | some (n, rest) => if 0 < n ∧ n ≤ 0x8000000000000000 then some (-(n : Int), rest) else none
    | none => none
  | text =>
    match magnitude? text with
    | some (n, rest) => if n < UInt64.size then some ((n : Int), rest) else none
    | none => none

/-- Takes a number. -/
def integer : Reader Int := do
  match integer? (← get) with
  | some (value, rest) =>
    set rest
    return value
  | none => malformed

/-- Whether a number can start with a character. -/
def startsNumber (c : Char) : Bool :=
  c == '-' || c.isDigit

/-- Fails at a value of another type than the expected one, and names it. -/
def mismatch (expected : String) : Reader α := do
  match ← peek with
  | some 'n' =>
    word ['n', 'u', 'l', 'l']
    throw (.invalidType .null expected)
  | some 't' =>
    word ['t', 'r', 'u', 'e']
    throw (.invalidType (.boolean true) expected)
  | some 'f' =>
    word ['f', 'a', 'l', 's', 'e']
    throw (.invalidType (.boolean false) expected)
  | some '"' =>
    let text ← literal
    throw (.invalidType (.string text) expected)
  | some '[' => throw (.invalidType .sequence expected)
  | some '{' => throw (.invalidType .map expected)
  | some c =>
    if startsNumber c then
      let value ← integer
      throw (.invalidType (.integer value) expected)
    else malformed
  | none => malformed

/-- Reads `null`. -/
def null (expected : String) : Reader Unit := do
  match ← peek with
  | some 'n' => word ['n', 'u', 'l', 'l']
  | _ => mismatch expected

/-- Reads `true` or `false`. -/
def boolean : Reader Bool := do
  match ← peek with
  | some 't' =>
    word ['t', 'r', 'u', 'e']
    return true
  | some 'f' =>
    word ['f', 'a', 'l', 's', 'e']
    return false
  | _ => mismatch "a boolean"

/-- Reads a string. -/
def string : Reader String := do
  match ← peek with
  | some '"' => literal
  | _ => mismatch "a string"

/-- Reads a key. Nothing but a string can be one, so all else is malformed. -/
def key : Reader String := do
  match ← peek with
  | some '"' => literal
  | _ => malformed

/-- Reads a number from zero up to a limit, which it does not reach. -/
def below (limit : Nat) (expected : String) : Reader Nat := do
  match ← peek with
  | some c =>
    if startsNumber c then
      let value ← integer
      if 0 ≤ value ∧ value < limit then return value.toNat
      else throw (.invalidValue value expected)
    else mismatch expected
  | none => malformed

/-- Reads a 16-bit number. -/
def uint16 : Reader UInt16 :=
  UInt16.ofNat <$> below UInt16.size "u16"

/-- Reads a 32-bit number. -/
def uint32 : Reader UInt32 :=
  UInt32.ofNat <$> below UInt32.size "u32"

/-- Reads a 64-bit number. -/
def uint64 : Reader UInt64 :=
  UInt64.ofNat <$> below UInt64.size "u64"

/-- Reads `null` as nothing and all else as a value. -/
def optional (value : Reader α) : Reader (Option α) := do
  match ← peek with
  | some 'n' =>
    word ['n', 'u', 'l', 'l']
    return none
  | _ => some <$> value

/-- Whether another element follows in a sequence. -/
def hasElement (first : Bool) : Reader Bool := do
  match ← peek with
  | some ']' => return false
  | some c =>
    if first then return true
    else if c == ',' then
      advance
      match ← peek with
      | some ']' => malformed
      | some _ => return true
      | none => malformed
    else malformed
  | none => malformed

/-- Takes the closing bracket of a sequence. -/
def endSequence : Reader Unit := do
  match ← peek with
  | some ']' => advance
  | _ => malformed

/-- Reads elements up to the closing bracket, fewer than there are characters in `bound`. -/
def elements (element : Reader α) (first : Bool) : (bound : List Char) → Reader (List α)
  | [] => malformed
  | _ :: bound => do
    if ← hasElement first then
      let value ← element
      let rest ← elements element false bound
      return value :: rest
    else
      endSequence
      return []

/-- Reads a sequence. Every element and the closing bracket take a character at least, so the rest
of the text bounds their number. -/
def sequence (element : Reader α) : Reader (List α) := do
  match ← peek with
  | some '[' =>
    advance
    elements element true (← get)
  | _ => mismatch "a sequence"

/-- Takes the colon between a key and its value. -/
def colon : Reader Unit := do
  match ← peek with
  | some ':' => advance
  | _ => malformed

/-- Whether another member follows in an object. -/
def hasMember (first : Bool) : Reader Bool := do
  match ← peek with
  | some '}' => return false
  | some '"' => if first then return true else malformed
  | some ',' =>
    if first then malformed
    else
      advance
      match ← peek with
      | some '"' => return true
      | _ => malformed
  | _ => malformed

/-- A field of a record that is read into a draft: its name, whether it may be left out, whether a
draft has it, and how its value is read into a draft. -/
structure FieldReader (δ : Type) where
  name : String
  required : Bool
  isSet : δ → Bool
  read : δ → Reader δ

/-- A field from the reader of its value and the place of the value in a draft. -/
def FieldReader.of (name : String) (required : Bool) (value : Reader α) (get : δ → Option α)
    (put : δ → Option α → δ) : FieldReader δ where
  name
  required
  isSet := fun draft => (get draft).isSome
  read := fun draft => do return put draft (some (← value))

/-- Reads members up to the closing brace. A key has to name a field that is not set yet, which is
known before its value is read, so there are no more members than fields. -/
def members (fields : List (FieldReader δ)) (first : Bool) (draft : δ) : (fuel : Nat) → Reader δ
  | 0 => malformed
  | fuel + 1 => do
    if ← hasMember first then
      let name ← literal
      match fields.find? fun field => field.name == name with
      | none => throw (.unknownField name (fields.map (·.name)))
      | some field =>
        if field.isSet draft then throw (.duplicateField name)
        else
          colon
          members fields false (← field.read draft) fuel
    else
      match fields.find? fun field => field.required && !field.isSet draft with
      | some field => throw (.missingField field.name)
      | none =>
        advance
        return draft

/-- Reads the values of fields in order, without names. Fields at the end may be missing where they
are not required. -/
def positional (first : Bool) (draft : δ) : List (FieldReader δ) → Reader δ
  | [] => do
    endSequence
    return draft
  | field :: rest => do
    if ← hasElement first then positional false (← field.read draft) rest
    else if field.required then malformed
    else positional first draft rest

/-- Reads a record as an object, or as the sequence of its fields' values. -/
def record (name : String) (fields : List (FieldReader δ)) (start : δ) : Reader δ := do
  match ← peek with
  | some '{' =>
    advance
    members fields true start (fields.length + 1)
  | some '[' =>
    advance
    positional true start fields
  | _ => mismatch ("struct " ++ name)

/-- What stands behind the name of a variant: nothing, or a 16-bit number. -/
inductive Payload (α : Type)
  | unit (value : α)
  | code (build : UInt16 → α)

/-- The payload of the variant with a name. -/
def payloadOf (variants : List (String × Payload α)) (name : String) : Reader (Payload α) :=
  match variants.lookup name with
  | some payload => pure payload
  | none => throw (.unknownVariant name (variants.map (·.1)))

/-- Reads a variant as its name alone, or as an object with its name as the only key. -/
def variant (variants : List (String × Payload α)) : Reader α := do
  match ← peek with
  | some '"' =>
    match ← payloadOf variants (← literal) with
    | .unit value => return value
    | .code _ => throw (.invalidType .bareVariant "newtype variant")
  | some '{' =>
    advance
    let payload ← payloadOf variants (← key)
    colon
    let value ← match payload with
      | .unit value => do
        null "unit"
        pure value
      | .code build => build <$> uint16
    match ← peek with
    | some '}' =>
      advance
      return value
    | _ => malformed
  | _ => malformed

/-- Reads a whole text, with nothing but blanks around the value. -/
def readAll (value : Reader α) (text : List Char) : Except ReadError α :=
  match value.run text with
  | .error error => .error error
  | .ok (value, rest) => if rest.all isBlank then .ok value else .error .malformed

end Reader

end SyscallFilter.Json
