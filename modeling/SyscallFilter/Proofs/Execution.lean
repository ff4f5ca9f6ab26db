import SyscallFilter.Proofs.Compiled

/-!
Running the operations of a program, and the two halves in which the machine sees the arguments of a
call.
-/

namespace SyscallFilter

/-- Passes over `skip` operations and then runs, starting from the given accumulator. -/
def Operation.runFrom (data : CallData) :
    List Operation → (skip : Nat) → (acc : UInt32) → Option UInt32
  | [], _, _ => none
  | _ :: rest, skip + 1, acc => runFrom data rest skip acc
  | .load offset :: rest, 0, _ => (data.load? offset).bind fun word => runFrom data rest 0 word
  | .mask k :: rest, 0, acc => runFrom data rest 0 (acc &&& k)
  | .jump distance :: rest, 0, acc => runFrom data rest distance acc
  | .branch relation k ifTrue ifFalse :: rest, 0, acc =>
    runFrom data rest (if relation.holds acc k then ifTrue else ifFalse) acc
  | .ret word :: _, 0, _ => some word

namespace Relation

@[simp] theorem holds_eq (acc k : UInt32) : Relation.eq.holds acc k ↔ acc = k := beq_iff_eq

@[simp] theorem holds_gt (acc k : UInt32) : Relation.gt.holds acc k ↔ k < acc := decide_eq_true_iff

@[simp] theorem holds_ge (acc k : UInt32) : Relation.ge.holds acc k ↔ k ≤ acc := decide_eq_true_iff

end Relation

/-- A program runs like the operations it performs. -/
theorem Program.Performs.runFrom_eq {program : Program} {operations : List Operation}
    (h : program.Performs operations) (data : CallData) (skip : Nat) (acc : UInt32) :
    program.runFrom data skip acc = Operation.runFrom data operations skip acc := by
  induction program generalizing operations skip acc with
  | nil =>
    obtain rfl : operations = [] := by simpa [Program.Performs] using h.symm
    rfl
  | cons instruction rest ih =>
    cases operations with
    | nil => simp [Program.Performs] at h
    | cons operation operations =>
      obtain ⟨hi, hr⟩ : instruction.operation? = some operation ∧
          Program.Performs rest operations := by simpa [Program.Performs] using h
      cases skip with
      | succ skip => exact ih hr skip acc
      | zero =>
        -- Each operation goes on with the rest, which performs the remaining operations.
        cases operation with
        | load offset =>
          simp only [Program.runFrom, Operation.runFrom, hi]
          cases data.load? offset with
          | none => rfl
          | some word => exact ih hr 0 word
        | mask k => simpa only [Program.runFrom, Operation.runFrom, hi] using ih hr 0 _
        | jump distance =>
          simpa only [Program.runFrom, Operation.runFrom, hi] using ih hr distance acc
        | branch relation k ifTrue ifFalse =>
          simpa only [Program.runFrom, Operation.runFrom, hi] using ih hr _ acc
        | ret word => simp only [Program.runFrom, Operation.runFrom, hi]

namespace Operation

variable {data : CallData}

theorem runFrom_skip (skipped rest : List Operation) (more : Nat) (acc : UInt32) :
    runFrom data (skipped ++ rest) (skipped.length + more) acc = runFrom data rest more acc := by
  induction skipped with
  | nil => simp
  | cons operation skipped ih =>
    rw [List.length_cons, Nat.add_right_comm]
    exact ih

@[simp] theorem runFrom_cons_succ (operation : Operation) (rest : List Operation) (skip : Nat)
    (acc : UInt32) : runFrom data (operation :: rest) (skip + 1) acc = runFrom data rest skip acc :=
  rfl

@[simp] theorem runFrom_mask (k : UInt32) (rest : List Operation) (acc : UInt32) :
    runFrom data (.mask k :: rest) 0 acc = runFrom data rest 0 (acc &&& k) := rfl

@[simp] theorem runFrom_jump (distance : Nat) (rest : List Operation) (acc : UInt32) :
    runFrom data (.jump distance :: rest) 0 acc = runFrom data rest distance acc := rfl

@[simp] theorem runFrom_branch (relation : Relation) (k : UInt32) (ifTrue ifFalse : Nat)
    (rest : List Operation) (acc : UInt32) :
    runFrom data (.branch relation k ifTrue ifFalse :: rest) 0 acc =
      runFrom data rest (if relation.holds acc k then ifTrue else ifFalse) acc := rfl

@[simp] theorem runFrom_ret (word : UInt32) (rest : List Operation) (acc : UInt32) :
    runFrom data (.ret word :: rest) 0 acc = some word := rfl

@[simp] theorem runFrom_load_number (rest : List Operation) (acc : UInt32) :
    runFrom data (.load CallData.numberOffset :: rest) 0 acc =
      runFrom data rest 0 data.number.toUInt32 := rfl

@[simp] theorem runFrom_load_arch (rest : List Operation) (acc : UInt32) :
    runFrom data (.load CallData.archOffset :: rest) 0 acc = runFrom data rest 0 data.arch := rfl

end Operation

namespace CallData

theorem words_eq (data : CallData) : data.words =
    [data.number.toUInt32, data.arch, lowHalf data.pointer, highHalf data.pointer,
      lowHalf data.args[0], highHalf data.args[0], lowHalf data.args[1], highHalf data.args[1],
      lowHalf data.args[2], highHalf data.args[2], lowHalf data.args[3], highHalf data.args[3],
      lowHalf data.args[4], highHalf data.args[4], lowHalf data.args[5],
      highHalf data.args[5]] := by
  -- A vector of six is the list of its six entries.
  have hargs : data.args.toList = [data.args[0], data.args[1], data.args[2], data.args[3],
      data.args[4], data.args[5]] := by
    apply List.ext_getElem
    · simp
    · intro i hi _
      simp only [Vector.length_toList] at hi
      interval_cases i <;> simp
  rw [words, hargs]
  rfl

/-- An argument of a call. -/
def argument (data : CallData) (arg : Fin argCount) : UInt64 :=
  data.args[arg]

/-- The two halves of an argument are loaded from the two words in which it travels. -/
theorem load?_offset (data : CallData) (arg : Fin argCount) :
    data.load? (lowOffset arg) = some (lowHalf (data.argument arg)) ∧
      data.load? (highOffset arg) = some (highHalf (data.argument arg)) := by
  simp only [load?, words_eq]
  fin_cases arg <;> exact ⟨rfl, rfl⟩

end CallData

namespace Operation

variable {data : CallData}

@[simp] theorem runFrom_load_low (arg : Fin argCount) (rest : List Operation) (acc : UInt32) :
    runFrom data (.load (CallData.lowOffset arg) :: rest) 0 acc =
      runFrom data rest 0 (lowHalf (data.argument arg)) := by
  rw [runFrom, (data.load?_offset arg).1]
  rfl

@[simp] theorem runFrom_load_high (arg : Fin argCount) (rest : List Operation) (acc : UInt32) :
    runFrom data (.load (CallData.highOffset arg) :: rest) 0 acc =
      runFrom data rest 0 (highHalf (data.argument arg)) := by
  rw [runFrom, (data.load?_offset arg).2]
  rfl

end Operation

theorem highHalf_toNat (word : UInt64) : (highHalf word).toNat = word.toNat / 2 ^ 32 := by
  have hw : word.toNat < 2 ^ 64 := word.toNat_lt
  simp only [highHalf, UInt64.toNat_toUInt32, UInt64.toNat_shiftRight, UInt64.reduceToNat,
    Nat.reduceMod, Nat.shiftRight_eq_div_pow]
  omega

theorem lowHalf_toNat (word : UInt64) : (lowHalf word).toNat = word.toNat % 2 ^ 32 :=
  UInt64.toNat_toUInt32 word

theorem eq_iff_halves (a b : UInt64) :
    a = b ↔ highHalf a = highHalf b ∧ lowHalf a = lowHalf b := by
  simp only [← UInt64.toNat_inj, ← UInt32.toNat_inj, highHalf_toNat, lowHalf_toNat]
  omega

/-- The lower halves decide an order only between equal upper halves. -/
theorem lt_iff_halves (a b : UInt64) :
    a < b ↔ highHalf a < highHalf b ∨ highHalf b = highHalf a ∧ lowHalf a < lowHalf b := by
  simp only [UInt64.lt_iff_toNat_lt, UInt32.lt_iff_toNat_lt, ← UInt32.toNat_inj, highHalf_toNat,
    lowHalf_toNat]
  omega

theorem le_iff_halves (a b : UInt64) :
    a ≤ b ↔ highHalf a < highHalf b ∨ highHalf b = highHalf a ∧ lowHalf a ≤ lowHalf b := by
  simp only [UInt64.le_iff_toNat_le, UInt32.lt_iff_toNat_lt, UInt32.le_iff_toNat_le,
    ← UInt32.toNat_inj, highHalf_toNat, lowHalf_toNat]
  omega

theorem highHalf_and (a b : UInt64) : highHalf (a &&& b) = highHalf a &&& highHalf b := by
  rw [highHalf, UInt64.shiftRight_and, UInt64.toUInt32_and]
  rfl

theorem lowHalf_and (a b : UInt64) : lowHalf (a &&& b) = lowHalf a &&& lowHalf b :=
  UInt64.toUInt32_and a b

end SyscallFilter
