/-!
Numerals as they stand in printed text: decimal for counts and syscall numbers, hexadecimal with a
leading `0x` for operands and request ids.
-/

namespace SyscallFilter

/-- The decimal digits of a number, without leading zeros. -/
def decimal (n : Nat) : String :=
  String.ofList (Nat.toDigits 10 n)

/-- A negative number carries a minus sign before the digits of its magnitude. -/
def signedDecimal (i : Int) : String :=
  if i < 0 then "-" ++ decimal i.natAbs else decimal i.natAbs

/-- The lower-case hexadecimal digits of a number behind `0x`. -/
def hexadecimal (n : Nat) : String :=
  "0x" ++ String.ofList (Nat.toDigits 16 n)

end SyscallFilter
