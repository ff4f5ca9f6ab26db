import SyscallFilter.Proofs.Execution

/-!
Runs of a program as steps of a machine with a program counter. Running the rest of the program is
the same as stepping on from its first instruction.
-/

namespace SyscallFilter

namespace Instruction

/-- The fields of a record that does what an operation says. -/
def Encodes (instruction : Instruction) : Operation → Prop
  | .load offset => instruction.code = Opcode.load ∧ instruction.k = offset
  | .mask k => instruction.code = Opcode.mask ∧ instruction.k = k
  | .jump distance => instruction.code = Opcode.jump ∧ instruction.k.toNat = distance
  | .branch relation k ifTrue ifFalse => instruction.code = Opcode.branch relation ∧
      instruction.k = k ∧ instruction.jt.toNat = ifTrue ∧ instruction.jf.toNat = ifFalse
  | .ret word => instruction.code = Opcode.ret ∧ instruction.k = word

theorem operation?_eq_some_iff {instruction : Instruction} {operation : Operation} :
    instruction.operation? = some operation ↔ instruction.Encodes operation := by
  obtain ⟨code, jt, jf, k⟩ := instruction
  constructor
  · intro h
    rw [operation?] at h
    split_ifs at h with hl hm hj he hg hge hr <;> obtain rfl := Option.some.inj h
    · exact ⟨hl, rfl⟩
    · exact ⟨hm, rfl⟩
    · exact ⟨hj, rfl⟩
    · exact ⟨he, rfl, rfl, rfl⟩
    · exact ⟨hg, rfl, rfl, rfl⟩
    · exact ⟨hge, rfl, rfl, rfl⟩
    · exact ⟨hr, rfl⟩
  · intro h
    cases operation with
    | branch relation _ _ _ =>
      obtain ⟨rfl, rfl, rfl, rfl⟩ := h
      cases relation <;> rfl
    | _ =>
      obtain ⟨rfl, rfl⟩ := h
      rfl

/-- An instruction does one thing only. -/
theorem Encodes.unique {instruction : Instruction} {a b : Operation}
    (ha : instruction.Encodes a) (hb : instruction.Encodes b) : a = b := by
  rw [← operation?_eq_some_iff] at ha hb
  exact Option.some.inj (ha.symm.trans hb)

end Instruction

/-- The place of the next instruction, and the accumulator. -/
structure MachineState where
  pc : Nat
  acc : UInt32
  deriving DecidableEq, Repr

namespace Program

/-- What the instruction at a place does. -/
def operationAt? (program : Program) (pc : Nat) : Option Operation :=
  program[pc]?.bind Instruction.operation?

/-- The word with which a run ends that stands at a return. -/
def returned? (program : Program) (state : MachineState) : Option UInt32 :=
  match program.operationAt? state.pc with
  | some (.ret word) => some word
  | _ => none

/-- The state after one instruction that does not end the run. -/
def next? (program : Program) (data : CallData) (state : MachineState) : Option MachineState :=
  match program.operationAt? state.pc with
  | some (.load offset) => (data.load? offset).map fun word => ⟨state.pc + 1, word⟩
  | some (.mask k) => some ⟨state.pc + 1, state.acc &&& k⟩
  | some (.jump distance) => some ⟨state.pc + 1 + distance, state.acc⟩
  | some (.branch relation k ifTrue ifFalse) =>
    some ⟨state.pc + 1 + (if relation.holds state.acc k then ifTrue else ifFalse), state.acc⟩
  | _ => none

/-- The states that a run for a call passes through. -/
inductive Reaches (program : Program) (data : CallData) : MachineState → Prop
  | start : Reaches program data ⟨0, 0⟩
  | step {state next : MachineState} : Reaches program data state →
      program.next? data state = some next → Reaches program data next

/-- The word that a run returns from a state on. -/
def resume (program : Program) (data : CallData) (state : MachineState) : Option UInt32 :=
  runFrom data (program.drop state.pc) 0 state.acc

variable {program : Program} {data : CallData}

/-- Passing over instructions is dropping them. -/
theorem runFrom_eq_drop (program : Program) (skip : Nat) (acc : UInt32) :
    runFrom data program skip acc = runFrom data (program.drop skip) 0 acc := by
  induction program generalizing skip with
  | nil => simp [runFrom]
  | cons instruction rest ih =>
    cases skip with
    | zero => rfl
    | succ skip => exact ih skip

/-- The rest of the program from a known place on starts with the instruction there. -/
theorem exists_drop_eq_cons {pc : Nat} {operation : Operation}
    (h : program.operationAt? pc = some operation) :
    ∃ instruction, instruction.operation? = some operation ∧
      program.drop pc = instruction :: program.drop (pc + 1) := by
  obtain ⟨instruction, hi, ho⟩ := Option.bind_eq_some_iff.mp h
  obtain ⟨hl, rfl⟩ := List.getElem?_eq_some_iff.mp hi
  exact ⟨_, ho, List.drop_eq_getElem_cons hl⟩

theorem returned?_eq_some_iff {state : MachineState} {word : UInt32} :
    program.returned? state = some word ↔ program.operationAt? state.pc = some (.ret word) := by
  rw [returned?]
  cases program.operationAt? state.pc with
  | none => simp
  | some operation => cases operation <;> simp

theorem resume_of_returned? {state : MachineState} {word : UInt32}
    (h : program.returned? state = some word) : program.resume data state = some word := by
  obtain ⟨instruction, hi, hd⟩ := exists_drop_eq_cons (returned?_eq_some_iff.mp h)
  simp only [resume, hd, runFrom, hi]

/-- A run goes no further than a return. -/
theorem next?_of_returned? {state : MachineState} {word : UInt32}
    (h : program.returned? state = some word) : program.next? data state = none := by
  simp only [next?, returned?_eq_some_iff.mp h]

/-- A step changes nothing about the word that a run returns in the end. -/
theorem resume_of_next? {state next : MachineState} (h : program.next? data state = some next) :
    program.resume data state = program.resume data next := by
  cases ho : program.operationAt? state.pc with
  | none => simp [next?, ho] at h
  | some operation =>
    obtain ⟨instruction, hi, hd⟩ := exists_drop_eq_cons ho
    cases operation with
    | ret word => simp [next?, ho] at h
    | load offset =>
      obtain ⟨word, hw, rfl⟩ : ∃ word, data.load? offset = some word ∧
          ⟨state.pc + 1, word⟩ = next := by simpa [next?, ho] using h
      simp only [resume, hd, runFrom, hi, hw]
    | mask k =>
      obtain rfl : ⟨state.pc + 1, state.acc &&& k⟩ = next := by simpa [next?, ho] using h
      simp only [resume, hd, runFrom, hi]
    | jump distance =>
      obtain rfl : ⟨state.pc + 1 + distance, state.acc⟩ = next := by simpa [next?, ho] using h
      simp only [resume, hd, runFrom, hi]
      rw [runFrom_eq_drop, List.drop_drop]
    | branch relation k ifTrue ifFalse =>
      obtain rfl : ⟨state.pc + 1 + (if relation.holds state.acc k then ifTrue else ifFalse),
          state.acc⟩ = next := by simpa [next?, ho] using h
      simp only [resume, hd, runFrom, hi]
      rw [runFrom_eq_drop, List.drop_drop]

/-- Every state that a run reaches resumes to the word of the whole run. -/
theorem run_eq_resume {state : MachineState} (hs : program.Reaches data state) :
    program.run data = program.resume data state := by
  induction hs with
  | start => rfl
  | step _ hn ih => rw [ih, resume_of_next? hn]

/-- A run that stands at a return has returned its word. -/
theorem run_of_reaches {state : MachineState} {word : UInt32} (hs : program.Reaches data state)
    (hr : program.returned? state = some word) : program.run data = some word := by
  rw [run_eq_resume hs, resume_of_returned? hr]

end Program

end SyscallFilter
