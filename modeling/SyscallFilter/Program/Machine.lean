import SyscallFilter.Program.Instruction
import SyscallFilter.Rule

/-!
The machine that runs filter programs: one 32-bit accumulator, loads of aligned words of the call
data, and jumps that only go forward. A run that leaves the program, loads outside the data or
meets an unknown code has no result.
-/

namespace SyscallFilter

/-- The lower half of a 64-bit word. -/
def lowHalf (word : UInt64) : UInt32 :=
  word.toUInt32

/-- The upper half of a 64-bit word. -/
def highHalf (word : UInt64) : UInt32 :=
  (word >>> 32).toUInt32

namespace CallData

/-- The call data as the machine sees it: the number, the audit word, and then the instruction
pointer and the arguments with the lower half of each first. -/
def words (data : CallData) : List UInt32 :=
  data.number.toUInt32 :: data.arch ::
    (data.pointer :: data.args.toList).flatMap fun word => [lowHalf word, highHalf word]

/-- The word at a byte offset; an offset inside a word has none. -/
def load? (data : CallData) (offset : UInt32) : Option UInt32 :=
  if offset.toNat % 4 = 0 then data.words[offset.toNat / 4]? else none

/-- The byte offset of the number. -/
def numberOffset : UInt32 := 0

/-- The byte offset of the audit word. -/
def archOffset : UInt32 := 4

/-- The byte offset of the lower half of an argument. -/
def lowOffset (arg : Fin argCount) : UInt32 :=
  16 + 8 * UInt32.ofNat arg

/-- The byte offset of the upper half of an argument. -/
def highOffset (arg : Fin argCount) : UInt32 :=
  lowOffset arg + 4

end CallData

namespace Program

/-- Passes over `skip` instructions and then runs, starting from the given accumulator. -/
def runFrom (data : CallData) : Program → (skip : Nat) → (acc : UInt32) → Option UInt32
  | [], _, _ => none
  | _ :: rest, skip + 1, acc => runFrom data rest skip acc
  | instruction :: rest, 0, acc =>
    match instruction.operation? with
    | none => none
    | some (.load offset) =>
      match data.load? offset with
      | none => none
      | some word => runFrom data rest 0 word
    | some (.mask k) => runFrom data rest 0 (acc &&& k)
    | some (.jump distance) => runFrom data rest distance acc
    | some (.branch relation k ifTrue ifFalse) =>
      runFrom data rest (if relation.holds acc k then ifTrue else ifFalse) acc
    | some (.ret word) => some word

/-- The word that a program returns for a call. -/
def run (program : Program) (data : CallData) : Option UInt32 :=
  runFrom data program 0 0

end Program

end SyscallFilter
