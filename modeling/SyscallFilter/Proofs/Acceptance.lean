import SyscallFilter.Filter.Basic
import SyscallFilter.Proofs.Steps

/-!
The checks that the kernel makes before it takes a program. A program that passes them runs forward
to a return on every call; every program that comes out of a filter passes them.
-/

namespace SyscallFilter

namespace Opcode

/-- The codes that filter programs use. -/
def all : List UInt16 :=
  [load, mask, jump, branch .eq, branch .gt, branch .ge, ret]

theorem branch_mem_all (relation : Relation) : branch relation ∈ all := by
  cases relation <;> decide

end Opcode

/-- An instruction in its place passes the checks of a program with so many instructions: its code
is known, words are loaded where they start, and jumps stay inside. -/
structure Instruction.Accepted (length pc : Nat) (instruction : Instruction) : Prop where
  code_mem : instruction.code ∈ Opcode.all
  load_aligned : instruction.code = Opcode.load →
    instruction.k.toNat % 4 = 0 ∧ instruction.k.toNat ≤ 60
  jump_inside : instruction.code = Opcode.jump → pc + 1 + instruction.k.toNat < length
  branch_inside : ∀ relation, instruction.code = Opcode.branch relation →
    pc + 1 + instruction.jt.toNat < length ∧ pc + 1 + instruction.jf.toNat < length

/-- The checks of a whole program. -/
structure Program.Accepted (program : Program) : Prop where
  length_pos : 1 ≤ program.length
  length_le : program.length ≤ 4096
  instructions : ∀ pc (instruction : Instruction), program[pc]? = some instruction →
    instruction.Accepted program.length pc
  last_ret : ∃ last, program.getLast? = some last ∧ last.code = Opcode.ret

/-- Every word of the call data can be loaded. -/
theorem CallData.exists_load? (data : CallData) {offset : UInt32} (h : Aligned offset) :
    ∃ word, data.load? offset = some word := by
  obtain ⟨hm, hle⟩ := h
  have hl : data.words.length = 16 := by rw [words_eq]; rfl
  have hi : offset.toNat / 4 < data.words.length := by omega
  exact ⟨data.words[offset.toNat / 4], by rw [load?, if_pos hm, List.getElem?_eq_getElem hi]⟩

namespace Program.Accepted

variable {program : Program} {data : CallData} (h : program.Accepted)
include h

/-- Only a return can be the last instruction. -/
theorem succ_lt {pc : Nat} {instruction : Instruction} (hp : program[pc]? = some instruction)
    (hc : instruction.code ≠ Opcode.ret) : pc + 1 < program.length := by
  obtain ⟨hlt, hi⟩ := List.getElem?_eq_some_iff.mp hp
  by_contra hge
  obtain ⟨last, hl, hr⟩ := h.last_ret
  have he : program.length - 1 = pc := by omega
  rw [List.getLast?_eq_getElem?, he, hp] at hl
  obtain rfl := Option.some.inj hl
  exact hc hr

/-- From a place inside an accepted program, a run ends or moves to a later place inside. -/
theorem progress (data : CallData) {state : MachineState} (hs : state.pc < program.length) :
    (∃ word, program.returned? state = some word) ∨
      ∃ next, program.next? data state = some next ∧ state.pc < next.pc ∧
        next.pc < program.length := by
  -- The checks are about codes, the machine about operations; `hat` leads from one to the other.
  let instruction := program[state.pc]
  have hp : program[state.pc]? = some instruction := List.getElem?_eq_getElem hs
  have hat (operation : Operation) (he : instruction.Encodes operation) :
      program.operationAt? state.pc = some operation := by
    rw [operationAt?, hp]
    exact Instruction.operation?_eq_some_iff.mpr he
  have ha := h.instructions state.pc instruction hp
  -- The three relations differ in their codes alone.
  have hbranch (relation : Relation) (hc : instruction.code = Opcode.branch relation) :
      ∃ next, program.next? data state = some next ∧ state.pc < next.pc ∧
        next.pc < program.length := by
    obtain ⟨ht, hf⟩ := ha.branch_inside relation hc
    have ho := hat (.branch relation instruction.k instruction.jt.toNat instruction.jf.toNat)
      ⟨hc, rfl, rfl, rfl⟩
    let distance := if relation.holds state.acc instruction.k then instruction.jt.toNat
      else instruction.jf.toNat
    have hd : state.pc + 1 + distance < program.length := by
      simp only [distance]
      split_ifs
      · exact ht
      · exact hf
    exact ⟨⟨state.pc + 1 + distance, state.acc⟩, by simp only [next?, ho, distance],
      by dsimp only; omega, hd⟩
  have hm := ha.code_mem
  simp only [Opcode.all, List.mem_cons, List.not_mem_nil, or_false] at hm
  rcases hm with hc | hc | hc | hc | hc | hc | hc
  · obtain ⟨word, hw⟩ := data.exists_load? (ha.load_aligned hc)
    have ho := hat (.load instruction.k) ⟨hc, rfl⟩
    have hn := h.succ_lt hp (by rw [hc]; decide)
    exact .inr ⟨⟨state.pc + 1, word⟩, by simp only [next?, ho, hw, Option.map_some],
      Nat.lt_succ_self _, hn⟩
  · have ho := hat (.mask instruction.k) ⟨hc, rfl⟩
    have hn := h.succ_lt hp (by rw [hc]; decide)
    exact .inr ⟨⟨state.pc + 1, state.acc &&& instruction.k⟩, by simp only [next?, ho],
      Nat.lt_succ_self _, hn⟩
  · have ho := hat (.jump instruction.k.toNat) ⟨hc, rfl⟩
    have hn := ha.jump_inside hc
    exact .inr ⟨⟨state.pc + 1 + instruction.k.toNat, state.acc⟩, by simp only [next?, ho],
      by dsimp only; omega, hn⟩
  · exact .inr (hbranch .eq hc)
  · exact .inr (hbranch .gt hc)
  · exact .inr (hbranch .ge hc)
  · have ho := hat (.ret instruction.k) ⟨hc, rfl⟩
    exact .inl ⟨instruction.k, by simp only [returned?, ho]⟩

/-- No run of an accepted program leaves it. -/
theorem lt_length_of_reaches {state : MachineState} (hr : program.Reaches data state) :
    state.pc < program.length := by
  induction hr with
  | start => exact h.length_pos
  | step _ hn ih =>
    rcases h.progress data ih with ⟨word, hw⟩ | ⟨next, hs, -, hlt⟩
    · -- A run that stands at a return takes no step.
      rw [Program.next?_of_returned? hw] at hn
      nomatch hn
    · rw [hn] at hs
      obtain rfl := Option.some.inj hs
      exact hlt

/-- From every state that a run reaches, it goes on to a return. -/
theorem exists_returned {state : MachineState} (hr : program.Reaches data state) :
    ∃ last word, program.Reaches data last ∧ program.returned? last = some word := by
  -- The places between here and the end of the program are used up.
  induction hd : program.length - state.pc using Nat.strong_induction_on generalizing state with
  | _ left ih =>
    rcases h.progress data (h.lt_length_of_reaches hr) with
      ⟨word, hw⟩ | ⟨next, hn, hlt, hin⟩
    · exact ⟨state, word, hr, hw⟩
    · exact ih (program.length - next.pc) (by omega) (hr.step hn) rfl

end Program.Accepted

/-- An instruction in its place is accepted for what it does: aligned loads, and jumps to operations
behind it. -/
theorem Instruction.Encodes.accepted {instruction : Instruction} {operation : Operation}
    {length pc : Nat} (h : instruction.Encodes operation) (ha : operation.Aligned)
    (hc : operation.Continues (length - (pc + 1))) : instruction.Accepted length pc where
  code_mem := by
    cases operation with
    | branch relation _ _ _ =>
      rw [h.1]
      exact Opcode.branch_mem_all relation
    | _ =>
      rw [h.1]
      decide
  load_aligned hcode := by
    have he : instruction.Encodes (.load instruction.k) := ⟨hcode, rfl⟩
    obtain rfl := h.unique he
    exact ha
  jump_inside hcode := by
    have he : instruction.Encodes (.jump instruction.k.toNat) := ⟨hcode, rfl⟩
    obtain rfl := h.unique he
    have hd : instruction.k.toNat < length - (pc + 1) := hc
    omega
  branch_inside relation hcode := by
    have he : instruction.Encodes
        (.branch relation instruction.k instruction.jt.toNat instruction.jf.toNat) :=
      ⟨hcode, rfl, rfl, rfl⟩
    obtain rfl := h.unique he
    obtain ⟨ht, hf⟩ : instruction.jt.toNat < length - (pc + 1) ∧
      instruction.jf.toNat < length - (pc + 1) := hc
    omega

namespace Program

variable {program : Program} {operations : List Operation}

theorem Performs.length_eq (h : program.Performs operations) :
    program.length = operations.length := by
  simpa using congrArg List.length h

theorem Performs.encodes (h : program.Performs operations) {pc : Nat} {instruction : Instruction}
    (hi : program[pc]? = some instruction) :
    ∃ operation, operations[pc]? = some operation ∧ instruction.Encodes operation := by
  have hpc : (program.map Instruction.operation?)[pc]? = (operations.map some)[pc]? := by
    rw [show program.map Instruction.operation? = operations.map some from h]
  simp only [List.getElem?_map, hi, Option.map_some] at hpc
  obtain ⟨operation, ho, hs⟩ := Option.map_eq_some_iff.mp hpc.symm
  exact ⟨operation, ho, Instruction.operation?_eq_some_iff.mp hs.symm⟩

/-- The kernel takes the program of a layout that only moves forward and is not too long. -/
theorem Performs.accepted (h : program.Performs operations) (hne : operations ≠ [])
    (hl : operations.length ≤ maxLength) (ha : ∀ operation ∈ operations, operation.Aligned)
    (hf : Forward 0 operations) : program.Accepted where
  length_pos := by
    rw [h.length_eq]
    exact List.length_pos_of_ne_nil hne
  length_le := by
    rw [h.length_eq]
    exact hl
  instructions pc instruction hi := by
    obtain ⟨operation, ho, he⟩ := h.encodes hi
    rw [h.length_eq]
    exact he.accepted (ha operation (List.mem_of_getElem? ho)) (hf.continues ho)
  last_ret := by
    -- The last operation is a return, and the last instruction performs it.
    obtain ⟨word, hw⟩ := hf.exists_getLast hne
    have hp : 0 < program.length := by
      rw [h.length_eq]
      exact List.length_pos_of_ne_nil hne
    have hi : program[program.length - 1]? = some program[program.length - 1] :=
      List.getElem?_eq_getElem (by omega)
    obtain ⟨operation, ho, he⟩ := h.encodes hi
    rw [h.length_eq, ← List.getLast?_eq_getElem?, hw] at ho
    obtain rfl := Option.some.inj ho
    exact ⟨_, by rw [List.getLast?_eq_getElem?, hi], he.1⟩

end Program

/-- A program that comes out of a filter passes the kernel's checks, and its length fits the
16 bits in which the kernel is told. On every call it moves forward inside the program until it
reaches a return, and returns the word there. -/
theorem Filter.program_accepted {filter : Filter} {program : Program}
    (h : filter.program = .ok program) :
    program.Accepted ∧ (UInt16.ofNat program.length).toNat = program.length ∧
      ∀ data,
        (∀ state, program.Reaches data state → state.pc < program.length ∧
          ((∃ word, program.returned? state = some word) ∨
            ∃ next, program.next? data state = some next ∧ state.pc < next.pc)) ∧
        ∃ last word, program.Reaches data last ∧ program.returned? last = some word ∧
          program.run data = some word := by
  obtain ⟨state, -, hc⟩ := exists_of_program_eq_ok h
  obtain ⟨hl, hp⟩ := Ruleset.performs_of_compile hc
  have ha : program.Accepted :=
    hp.accepted (List.cons_ne_nil _ _) hl state.ruleset.aligned_layout state.ruleset.forward_layout
  have hle := ha.length_le
  have hfit : program.length < UInt16.size := lt_of_le_of_lt hle (by decide)
  refine ⟨ha, UInt16.toNat_ofNat_of_lt hfit, fun data => ⟨fun state hr => ?_, ?_⟩⟩
  · have hin := ha.lt_length_of_reaches hr
    refine ⟨hin, ?_⟩
    rcases ha.progress data hin with hw | ⟨next, hn, hlt, -⟩
    · exact .inl hw
    · exact .inr ⟨next, hn, hlt⟩
  · have hstart : program.Reaches data ⟨0, 0⟩ := .start
    obtain ⟨last, word, hr, hw⟩ := ha.exists_returned hstart
    exact ⟨last, word, hr, hw, Program.run_of_reaches hr hw⟩

/-- A filter that refuses one call under a condition. -/
theorem Filter.program_accepted_close :
    let built := Filter.make .allow ⟨6, none⟩ >>= fun filter =>
      filter.addRule ⟨3⟩ (.errno 9) [⟨0, .compare .le 2⟩]
    ∃ filter program, built = .ok filter ∧ filter.program = .ok program ∧ program.Accepted := by
  intro built
  obtain ⟨program, h⟩ : ∃ program, built >>= Filter.program = .ok program :=
    exists_ok_of_isOk (by decide +kernel)
  obtain ⟨filter, hf, hp⟩ := exists_of_bind_eq_ok h
  exact ⟨filter, program, hf, hp, (program_accepted hp).1⟩

end SyscallFilter
