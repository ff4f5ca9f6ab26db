import SyscallFilter.Text.Unprintable

/-!
Text quoted in messages: between double quotes, with quotes, backslashes and unprintable characters
escaped.
-/

namespace SyscallFilter.Text

/-- A character as it stands inside quotes. -/
def escaped (c : Char) : String :=
  if c == '\x00' then "\\0"
  else if c == '\t' then "\\t"
  else if c == '\r' then "\\r"
  else if c == '\n' then "\\n"
  else if c == '"' then "\\\""
  else if c == '\\' then "\\\\"
  else if isUnprintable c then
    "\\u\x7b" ++ String.ofList (Nat.toDigits 16 c.toNat) ++ "\x7d"
  else c.toString

/-- A text between double quotes. -/
def quoted (text : String) : String :=
  "\"" ++ String.join (text.toList.map escaped) ++ "\""

end SyscallFilter.Text
