import SyscallFilter.Numeral

/-!
Kernel releases. A release string such as `6.1.0-13-amd64` starts with up to three numbers divided
by dots; what follows the digits of a number is a vendor's suffix and is passed over.
-/

namespace SyscallFilter

/-- The three numbers of a kernel release. -/
structure Release where
  major : Nat
  minor : Nat
  patch : Nat
  deriving DecidableEq, Repr

namespace Release

/-- The three numbers with dots between them. -/
def text (release : Release) : String :=
  decimal release.major ++ "." ++ decimal release.minor ++ "." ++ decimal release.patch

/-- Releases are ordered by major number, then minor number, then patch number. -/
def precedes (a b : Release) : Bool :=
  a.major < b.major ||
    a.major == b.major && (a.minor < b.minor || a.minor == b.minor && a.patch < b.patch)

/-- The number that a field starts with, if it starts with a digit and the number fits 32 bits. -/
def numberAtStart? (field : List Char) : Option Nat :=
  let digits := field.takeWhile Char.isDigit
  if digits.isEmpty then none
  else
    let n := Nat.ofDigitChars 10 digits 0
    if n < UInt32.size then some n else none

/-- Divides a text at its first dot, if it has one. -/
def atDot? (text : List Char) : Option (List Char × List Char) :=
  match text.dropWhile (· != '.') with
  | [] => none
  | _ :: rest => some (text.takeWhile (· != '.'), rest)

/-- Reads a release string. The major and the minor number are required, and a patch number that is
absent, unreadable or too large counts as zero. -/
def parse? (text : List Char) : Option Release :=
  match atDot? text with
  | none => none
  | some (first, rest) =>
    let (second, third) := (atDot? rest).getD (rest, [])
    match numberAtStart? first, numberAtStart? second with
    | some major, some minor => some ⟨major, minor, (numberAtStart? third).getD 0⟩
    | _, _ => none

/-- The kernel reports its release in at most 64 bytes, ended by the first zero byte, and the bytes
before that have to be UTF-8. -/
def ofBytes? (bytes : List UInt8) : Option Release :=
  let name := (bytes.take 64).takeWhile (· != 0)
  (String.fromUTF8? (ByteArray.mk name.toArray)).bind fun text => parse? text.toList

end Release

end SyscallFilter
