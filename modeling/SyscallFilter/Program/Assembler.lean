import SyscallFilter.Action
import SyscallFilter.Error
import SyscallFilter.Program.Instruction

/-!
Assembling programs whose jumps name labels. A label is created before the code that jumps to it and
bound behind that code, so the distances of the jumps are filled in when all code stands.
-/

namespace SyscallFilter

/-- A place in the code that jumps can name before it is known. -/
structure Label where
  index : Nat
  deriving DecidableEq, Repr

/-- Where a branch goes on: with the next instruction or at a label. -/
inductive Target
  | next
  | label (label : Label)
  deriving DecidableEq, Repr

/-- An instruction whose distances are open. The label of an unconditional jump stands apart, since
its distance goes into the constant. -/
structure Pending where
  instruction : Instruction
  ifTrue : Target
  ifFalse : Target
  jump : Option Label
  deriving DecidableEq, Repr

namespace Pending

/-- An instruction that goes on with the next one. -/
def statement (code : UInt16) (k : UInt32) : Pending :=
  ⟨⟨code, 0, 0, k⟩, .next, .next, none⟩

/-- Loads the word at an offset of the call data. -/
def load (offset : UInt32) : Pending :=
  statement Opcode.load offset

/-- Masks the accumulator. -/
def mask (k : UInt32) : Pending :=
  statement Opcode.mask k

/-- Ends the run with a word. -/
def ret (word : UInt32) : Pending :=
  statement Opcode.ret word

/-- Goes on at one of two targets. -/
def branch (relation : Relation) (k : UInt32) (ifTrue ifFalse : Target) : Pending :=
  ⟨⟨Opcode.branch relation, 0, 0, k⟩, ifTrue, ifFalse, none⟩

/-- Goes on at a label. -/
def goto (label : Label) : Pending :=
  ⟨⟨Opcode.jump, 0, 0, 0⟩, .next, .next, some label⟩

end Pending

/-- The code so far and, for each label in order of creation, its place once it is bound. -/
structure Assembler where
  code : Array Pending
  labels : Array (Option Nat)

namespace Assembler

/-- No code and no labels. -/
def empty : Assembler :=
  ⟨#[], #[]⟩

/-- Creates a label. -/
def label (asm : Assembler) : Label × Assembler :=
  (⟨asm.labels.size⟩, { asm with labels := asm.labels.push none })

/-- Creates so many labels. -/
def createLabels (asm : Assembler) : Nat → List Label × Assembler
  | 0 => ([], asm)
  | count + 1 =>
    let (first, asm) := asm.label
    let (rest, asm) := asm.createLabels count
    (first :: rest, asm)

/-- Binds a label to the end of the code. -/
def bind (asm : Assembler) (label : Label) : Assembler :=
  { asm with labels := asm.labels.setIfInBounds label.index (some asm.code.size) }

/-- Puts instructions behind the code. -/
def emit (asm : Assembler) (pending : List Pending) : Assembler :=
  { asm with code := asm.code ++ pending }

/-- Puts the end of a run behind the code, if the action has a word. -/
def emitRet (asm : Assembler) (action : Action) : Except Error Assembler :=
  match action.toWord? with
  | some word => .ok (asm.emit [.ret word])
  | none => .error .invalidAction

/-- The place of a label, if it is bound. -/
def place? (asm : Assembler) (label : Label) : Option Nat :=
  asm.labels[label.index]?.join

/-- How many instructions a jump passes over on its way to a label. The label has to be bound, and
behind the jump. -/
def distance (asm : Assembler) (pc : Nat) (label : Label) : Except Error Nat :=
  match asm.place? label with
  | none => .error .filterReleased
  | some place => if place < pc + 1 then .error .filterReleased else .ok (place - (pc + 1))

/-- The distance to a target of a branch, which has eight bits. -/
def shortDistance (asm : Assembler) (pc : Nat) : Target → Except Error UInt8
  | .next => .ok 0
  | .label label => do
    let distance ← asm.distance pc label
    if distance < 256 then .ok (UInt8.ofNat distance)
    else .error (.programTooLarge asm.code.size Program.maxLength)

/-- Fills in the distances of the instruction at a place. -/
def resolve (asm : Assembler) (pc : Nat) (pending : Pending) : Except Error Instruction := do
  let jt ← asm.shortDistance pc pending.ifTrue
  let jf ← asm.shortDistance pc pending.ifFalse
  match pending.jump with
  | none => pure { pending.instruction with jt, jf }
  | some label =>
    let distance ← asm.distance pc label
    pure { pending.instruction with jt, jf, k := UInt32.ofNat distance }

/-- Fills in the distances of the instructions from a place on. -/
def resolveFrom (asm : Assembler) (pc : Nat) : List Pending → Except Error Program
  | [] => .ok []
  | pending :: rest => do
    let instruction ← asm.resolve pc pending
    let program ← asm.resolveFrom (pc + 1) rest
    pure (instruction :: program)

/-- The program, unless it is longer than the kernel takes. -/
def finish (asm : Assembler) : Except Error Program :=
  if Program.maxLength < asm.code.size then
    .error (.programTooLarge asm.code.size Program.maxLength)
  else asm.resolveFrom 0 asm.code.toList

end Assembler

end SyscallFilter
