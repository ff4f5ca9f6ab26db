import SyscallFilter.Numeral

/-!
Conditions on system call arguments. A condition compares one of the six 64-bit arguments with a
constant, as unsigned numbers, either directly or after masking.
-/

namespace SyscallFilter

/-- The operators a condition can be asked for, and `invalid` for any other request. -/
inductive Operator
  | ne
  | lt
  | le
  | eq
  | ge
  | gt
  | maskedEq
  | invalid
  deriving DecidableEq, Repr, Inhabited

namespace Operator

/-- The operator behind its number. -/
def ofNumber : Nat → Operator
  | 1 => ne
  | 2 => lt
  | 3 => le
  | 4 => eq
  | 5 => ge
  | 6 => gt
  | 7 => maskedEq
  | _ => invalid

/-- A masked comparison takes a mask and a value, every other operator one value. -/
def operandCount : Operator → Nat
  | maskedEq => 2
  | _ => 1

/-- The name of an operator in messages. -/
def text : Operator → String
  | ne => "NE"
  | lt => "LT"
  | le => "LE"
  | eq => "EQ"
  | ge => "GE"
  | gt => "GT"
  | maskedEq => "MASKED_EQ"
  | invalid => "INVALID"

end Operator

/-- The number of arguments a system call has. -/
abbrev argCount : Nat := 6

/-- The arguments of a system call. -/
abbrev Args := Vector UInt64 argCount

/-- Why a condition, or a list of conditions, is refused. -/
inductive ConditionError
  | argOutOfRange (arg : Nat)
  | invalidOperator
  | operandCount (operator : Operator) (found : Nat)
  | duplicateArg (arg : Fin argCount)
  deriving DecidableEq, Repr

/-- What was asked for and why it is refused. -/
def ConditionError.text : ConditionError → String
  | argOutOfRange arg =>
    "argument index " ++ decimal arg ++ " out of range 0..=" ++ decimal (argCount - 1)
  | invalidOperator => "invalid comparison operator"
  | operandCount operator found =>
    operator.text ++ " takes " ++ decimal operator.operandCount ++ " operand(s), got " ++
      decimal found
  | duplicateArg arg => "more than one condition on argument " ++ decimal arg

/-- The unsigned comparisons of an argument with a value. -/
inductive Comparison
  | ne
  | lt
  | le
  | eq
  | ge
  | gt
  deriving DecidableEq, Repr

namespace Comparison

/-- Whether the comparison holds of an argument on its left and a value on its right. -/
def holds : Comparison → UInt64 → UInt64 → Bool
  | ne, arg, value => arg != value
  | lt, arg, value => arg < value
  | le, arg, value => arg ≤ value
  | eq, arg, value => arg == value
  | ge, arg, value => value ≤ arg
  | gt, arg, value => value < arg

/-- The sign of a comparison in listings. -/
def sign : Comparison → String
  | ne => "!="
  | lt => "<"
  | le => "<="
  | eq => "=="
  | ge => ">="
  | gt => ">"

/-- The operator that asks for a comparison. -/
def operator : Comparison → Operator
  | ne => .ne
  | lt => .lt
  | le => .le
  | eq => .eq
  | ge => .ge
  | gt => .gt

end Comparison

/-- What a condition asks of its argument. -/
inductive Test
  | compare (comparison : Comparison) (value : UInt64)
  | masked (mask value : UInt64)
  deriving DecidableEq, Repr

namespace Test

/-- Whether an argument passes the test. -/
def holds : Test → UInt64 → Bool
  | compare comparison value, arg => comparison.holds arg value
  | masked mask value, arg => arg &&& mask == value

/-- The operator that asks for a test. -/
def operator : Test → Operator
  | compare comparison _ => comparison.operator
  | masked _ _ => .maskedEq

/-- The first constant: the mask of a masked test, the value of any other. -/
def operand1 : Test → UInt64
  | compare _ value => value
  | masked mask _ => mask

/-- The second constant: the value of a masked test, zero for any other. -/
def operand2 : Test → UInt64
  | compare _ _ => 0
  | masked _ value => value

end Test

/-- A test of one system call argument. -/
structure Condition where
  arg : Fin argCount
  test : Test
  deriving DecidableEq, Repr

namespace Condition

/-- The test that an operator and its operands ask for. -/
def testOf : Operator → List UInt64 → Except ConditionError Test
  | .invalid, _ => .error .invalidOperator
  | .ne, [value] => .ok (.compare .ne value)
  | .lt, [value] => .ok (.compare .lt value)
  | .le, [value] => .ok (.compare .le value)
  | .eq, [value] => .ok (.compare .eq value)
  | .ge, [value] => .ok (.compare .ge value)
  | .gt, [value] => .ok (.compare .gt value)
  | .maskedEq, [mask, value] => .ok (.masked mask value)
  | operator, operands => .error (.operandCount operator operands.length)

/-- Builds a condition. The argument index is checked first, then the operator, then the number of
operands. -/
def make (arg : Nat) (operator : Operator) (operands : List UInt64) :
    Except ConditionError Condition :=
  if h : arg < argCount then (testOf operator operands).map fun test => ⟨⟨arg, h⟩, test⟩
  else .error (.argOutOfRange arg)

/-- Whether a condition holds of the six arguments of a call. -/
def holds (condition : Condition) (args : Args) : Bool :=
  condition.test.holds args[condition.arg]

/-- A condition as listings show it, with the argument on the left and hexadecimal constants. -/
def text (condition : Condition) : String :=
  let arg := "$a" ++ decimal condition.arg
  match condition.test with
  | .compare comparison value =>
    arg ++ " " ++ comparison.sign ++ " " ++ hexadecimal value.toNat
  | .masked mask value =>
    arg ++ " & " ++ hexadecimal mask.toNat ++ " == " ++ hexadecimal value.toNat

/-- The bit that stands for an argument in a set of arguments. -/
def argBit (arg : Fin argCount) : UInt8 :=
  1 <<< UInt8.ofNat arg

/-- The first condition whose argument is in a set of arguments or belongs to an earlier
condition. -/
def duplicateFrom? (seen : UInt8) : List Condition → Option (Fin argCount)
  | [] => none
  | condition :: rest =>
    if seen &&& argBit condition.arg != 0 then some condition.arg
    else duplicateFrom? (seen ||| argBit condition.arg) rest

/-- Refuses a list with two conditions on one argument, naming the argument that repeats first. -/
def checkDistinct (conditions : List Condition) : Except ConditionError Unit :=
  match duplicateFrom? 0 conditions with
  | none => .ok ()
  | some arg => .error (.duplicateArg arg)

end Condition

end SyscallFilter
