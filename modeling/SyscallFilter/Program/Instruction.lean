/-!
Instructions of the kernel's packet-filter machine. An operation says what an instruction does; an
instruction is the fixed record that the kernel reads, eight bytes long in little-endian order.
-/

namespace SyscallFilter

/-- The comparisons of the accumulator with a constant. -/
inductive Relation
  | eq
  | gt
  | ge
  deriving DecidableEq, Repr

/-- Whether a relation holds of an accumulator and a constant, as unsigned numbers. -/
def Relation.holds : Relation → UInt32 → UInt32 → Bool
  | eq, acc, k => acc == k
  | gt, acc, k => k < acc
  | ge, acc, k => k ≤ acc

/-- The operations that filter programs use. Jumps count the operations they pass over. -/
inductive Operation
  | load (offset : UInt32)
  | mask (k : UInt32)
  | jump (distance : Nat)
  | branch (relation : Relation) (k : UInt32) (ifTrue ifFalse : Nat)
  | ret (word : UInt32)
  deriving DecidableEq, Repr

/-- One instruction record. -/
structure Instruction where
  code : UInt16
  jt : UInt8
  jf : UInt8
  k : UInt32
  deriving DecidableEq, Repr

/-- A filter program, as the kernel takes it. -/
abbrev Program := List Instruction

/-- The most instructions that the kernel takes. -/
def Program.maxLength : Nat := 4096

namespace Opcode

/-- Loads a word from a fixed place: class 0x00, size 0x00, mode 0x20. -/
def load : UInt16 := 0x20

/-- Masks the accumulator with the constant: class 0x04, operation 0x50, source 0x00. -/
def mask : UInt16 := 0x54

/-- Jumps by the constant: class 0x05, operation 0x00. -/
def jump : UInt16 := 0x05

/-- Branches on a relation to the constant: class 0x05, operation 0x10, 0x20 or 0x30. -/
def branch : Relation → UInt16
  | .eq => 0x15
  | .gt => 0x25
  | .ge => 0x35

/-- Returns the constant: class 0x06, source 0x00. -/
def ret : UInt16 := 0x06

end Opcode

namespace Instruction

/-- What a record does, if its code is one that filter programs use. -/
def operation? (instruction : Instruction) : Option Operation :=
  let branch relation :=
    Operation.branch relation instruction.k instruction.jt.toNat instruction.jf.toNat
  if instruction.code = Opcode.load then some (.load instruction.k)
  else if instruction.code = Opcode.mask then some (.mask instruction.k)
  else if instruction.code = Opcode.jump then some (.jump instruction.k.toNat)
  else if instruction.code = Opcode.branch .eq then some (branch .eq)
  else if instruction.code = Opcode.branch .gt then some (branch .gt)
  else if instruction.code = Opcode.branch .ge then some (branch .ge)
  else if instruction.code = Opcode.ret then some (.ret instruction.k)
  else none

/-- The eight bytes of a record, least significant byte first in each field. -/
def toBytes (instruction : Instruction) : List UInt8 :=
  [instruction.code.toUInt8, (instruction.code >>> 8).toUInt8, instruction.jt, instruction.jf,
    instruction.k.toUInt8, (instruction.k >>> 8).toUInt8, (instruction.k >>> 16).toUInt8,
    (instruction.k >>> 24).toUInt8]

/-- Reads a byte string as records; its length has to be a multiple of eight. -/
def ofBytes? : List UInt8 → Option (List Instruction)
  | [] => some []
  | c₀ :: c₁ :: jt :: jf :: k₀ :: k₁ :: k₂ :: k₃ :: rest =>
    (ofBytes? rest).map fun instructions =>
      ⟨c₀.toUInt16 ||| c₁.toUInt16 <<< 8, jt, jf,
        k₀.toUInt32 ||| k₁.toUInt32 <<< 8 ||| k₂.toUInt32 <<< 16 ||| k₃.toUInt32 <<< 24⟩ ::
        instructions
  | _ => none

end Instruction

end SyscallFilter
