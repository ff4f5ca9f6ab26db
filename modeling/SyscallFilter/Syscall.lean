import SyscallFilter.Numeral
import SyscallFilter.Syscall.Table

/-!
System calls by name and by number. A number means something only relative to an architecture, so
carrying a number from one architecture to another goes through the name.
-/

namespace SyscallFilter

/-- Why a system call could not be resolved. -/
inductive SyscallError
  | unknownName (name : String) (arch : Arch)
  | negative (number : Int32)
  | unknownNumber (number : Int32) (arch : Arch)
  deriving DecidableEq, Repr

/-- What was asked for and why it is refused. -/
def SyscallError.text : SyscallError → String
  | unknownName name arch => name ++ " is not known on " ++ arch.name
  | negative number => signedDecimal number.toInt ++ " is negative"
  | unknownNumber number arch => signedDecimal number.toInt ++ " is not known on " ++ arch.name

/-- A system call number, which names a call only relative to an architecture. -/
structure Syscall where
  number : Int32
  deriving DecidableEq, Repr

namespace Syscall

/-- The number an architecture gives to a row of the table. -/
def Row.number? (row : Row) (arch : Arch) : Option Nat :=
  row.numbers.get arch

/-- The call that a name means on an architecture. -/
def ofName? (arch : Arch) (name : String) : Option Syscall :=
  (table.find? fun row => row.name == name).bind fun row =>
    (row.number? arch).map fun number => ⟨Int32.ofNat number⟩

/-- The name of a call on an architecture; negative numbers name nothing. -/
def name? (arch : Arch) (call : Syscall) : Option String :=
  if call.number < 0 then none
  else
    (table.find? fun row => row.number? arch == some call.number.toNatClampNeg).map (·.name)

/-- The call that a name means on an architecture, or the reason why there is none. -/
def resolve (arch : Arch) (name : String) : Except SyscallError Syscall :=
  match ofName? arch name with
  | some call => .ok call
  | none => .error (.unknownName name arch)

/-- The name of a call on an architecture, or the reason why there is none. -/
def nameOn (arch : Arch) (call : Syscall) : Except SyscallError String :=
  if call.number < 0 then .error (.negative call.number)
  else
    match name? arch call with
    | some name => .ok name
    | none => .error (.unknownNumber call.number arch)

/-- The same call on another architecture, found by its name. On its own architecture a number
stands for itself, whether or not it names a call. -/
def counterpart? (source target : Arch) (call : Syscall) : Option Syscall :=
  if source = target then some call
  else (name? source call).bind (ofName? target)

/-- A number with its native name in front, or the bare number where it has none. -/
def text (call : Syscall) : String :=
  match name? .native call with
  | some name => name ++ "(" ++ signedDecimal call.number.toInt ++ ")"
  | none => signedDecimal call.number.toInt

end Syscall

end SyscallFilter
