import SyscallFilter.Numeral
import SyscallFilter.Text.Quoted

/-!
Why a JSON text could not be read as a value of a given shape. Faults of the shape say what stood
in the text and what was expected there; every other fault is `malformed`.
-/

namespace SyscallFilter.Json

/-- What stood in a text in place of something of another type. -/
inductive Found
  | null
  | boolean (value : Bool)
  | integer (value : Int)
  | string (text : String)
  | sequence
  | map
  | bareVariant
  deriving DecidableEq, Repr

/-- How a message names what stood in the text. -/
def Found.text : Found → String
  | null => "null"
  | boolean true => "boolean `true`"
  | boolean false => "boolean `false`"
  | integer value => "integer `" ++ signedDecimal value ++ "`"
  | string text => "string " ++ Text.quoted text
  | sequence => "sequence"
  | map => "map"
  | bareVariant => "unit variant"

/-- The first fault met when a text is read from left to right. -/
inductive ReadError
  | missingField (name : String)
  | duplicateField (name : String)
  | unknownField (name : String) (known : List String)
  | unknownVariant (name : String) (known : List String)
  | invalidType (found : Found) (expected : String)
  | invalidValue (value : Int) (expected : String)
  | malformed
  deriving DecidableEq, Repr

namespace ReadError

/-- The names that would have been accepted, each between backquotes. -/
def oneOf (names : List String) : String :=
  "expected one of " ++ String.intercalate ", " (names.map fun name => "`" ++ name ++ "`")

/-- The message of a fault of the shape; a malformed text has none. -/
def text? : ReadError → Option String
  | missingField name => some ("missing field `" ++ name ++ "`")
  | duplicateField name => some ("duplicate field `" ++ name ++ "`")
  | unknownField name known => some ("unknown field `" ++ name ++ "`, " ++ oneOf known)
  | unknownVariant name known => some ("unknown variant `" ++ name ++ "`, " ++ oneOf known)
  | invalidType found expected =>
    some ("invalid type: " ++ found.text ++ ", expected " ++ expected)
  | invalidValue value expected =>
    some ("invalid value: integer `" ++ signedDecimal value ++ "`, expected " ++ expected)
  | malformed => none

end ReadError

end SyscallFilter.Json
