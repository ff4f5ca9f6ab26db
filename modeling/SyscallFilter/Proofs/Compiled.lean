import SyscallFilter.Proofs.Forward

/-!
A rule set is assembled exactly where its actions are valid, and its program performs the layout.
What every operation of a layout satisfies is checked on the few operations outside the rules and on
the tests of each rule.
-/

namespace SyscallFilter

/-- An offset is that of a word of the call data. -/
def CallData.Aligned (offset : UInt32) : Prop :=
  offset.toNat % 4 = 0 ∧ offset.toNat ≤ 60

/-- Words are loaded where they start. -/
def Operation.Aligned : Operation → Prop
  | .load offset => CallData.Aligned offset
  | _ => True

theorem CallData.aligned_offset (arg : Fin argCount) :
    Aligned (lowOffset arg) ∧ Aligned (highOffset arg) := by
  simp only [Aligned]
  revert arg
  decide

theorem Condition.aligned_layout (condition : Condition) (after : Nat) :
    ∀ operation ∈ condition.layout after, operation.Aligned := by
  obtain ⟨arg, test⟩ := condition
  obtain ⟨hlow, hhigh⟩ := CallData.aligned_offset arg
  cases test with
  | masked mask value =>
    simp only [layout, List.forall_mem_cons]
    exact ⟨hhigh, trivial, trivial, hlow, trivial, trivial, by simp⟩
  | compare comparison value =>
    cases comparison <;> simp [layout, Operation.Aligned, hlow, hhigh]

theorem Condition.aligned_layoutAll (conditions : List Condition) (after : Nat) :
    ∀ operation ∈ layoutAll conditions after, operation.Aligned := by
  induction conditions with
  | nil => simp [layoutAll]
  | cons condition rest ih =>
    exact List.forall_mem_append.mpr ⟨condition.aligned_layout _, ih⟩

theorem Assembler.exists_emitRet_iff {asm : Assembler} {action : Action} :
    (∃ after, asm.emitRet action = .ok after) ↔ action.isValid := by
  rw [emitRet_eq]
  split_ifs with hv <;> simp [hv]

namespace Rule

theorem exists_lower_iff {rule : Rule} {reload : Bool} {asm : Assembler} :
    (∃ after, rule.lower reload asm = .ok after) ↔ rule.action.isValid := by
  rw [lower_eq, exists_bind_eq_ok_iff]
  simp [Assembler.exists_emitRet_iff]

theorem exists_lowerAll_iff {rules : List Rule} {reload : Bool} {asm : Assembler} :
    (∃ after, lowerAll rules reload asm = .ok after) ↔ ∀ rule ∈ rules, rule.action.isValid := by
  induction rules generalizing reload asm with
  | nil => simp [lowerAll]
  | cons rule rest ih =>
    rw [lowerAll, exists_bind_eq_ok_iff, List.forall_mem_cons, ← exists_lower_iff]
    constructor
    · rintro ⟨mid, hm, h⟩
      exact ⟨⟨mid, hm⟩, ih.mp h⟩
    · rintro ⟨⟨mid, hm⟩, h⟩
      exact ⟨mid, hm, ih.mpr h⟩

/-- The operations of rules are those of their tests, loads of the number, and returns. -/
theorem forall_layoutAll {P : Operation → Prop} {rules : List Rule}
    (hload : P (.load CallData.numberOffset)) (hret : ∀ word, P (.ret word))
    (htest : ∀ rule ∈ rules, ∀ operation ∈ rule.testLayout, P operation) (reload : Bool) :
    ∀ operation ∈ layoutAll rules reload, P operation := by
  induction rules generalizing reload with
  | nil => simp [layoutAll]
  | cons rule rest ih =>
    obtain ⟨hrule, hrest⟩ := List.forall_mem_cons.mp htest
    have hbody : ∀ operation ∈ rule.layout reload, P operation := by
      refine List.forall_mem_append.mpr ⟨?_, List.forall_mem_append.mpr ⟨hrule, by simp [hret]⟩⟩
      cases reload <;> simp [hload]
    exact List.forall_mem_append.mpr ⟨hbody, ih hrest _⟩

end Rule

namespace Ruleset

variable {set : Ruleset}

theorem exists_lowerGuard_iff {arch : Arch} {asm : Assembler} :
    (∃ after, set.lowerGuard arch asm = .ok after) ↔
      (arch = .x8664 → set.badArchAction.isValid) := by
  rw [lowerGuard_eq]
  split_ifs with ha
  · rw [exists_bind_eq_ok_iff]
    simp [ha, Assembler.exists_emitRet_iff]
  · simp [ha]

/-- A block can be lowered exactly where the actions it returns are valid. -/
theorem exists_lowerBlock_iff {block : Arch × List Rule} {label : Label} {asm : Assembler} :
    (∃ after, set.lowerBlock block.1 block.2 label asm = .ok after) ↔
      (block.1 = .x8664 → set.badArchAction.isValid) ∧
        (∀ rule ∈ block.2, rule.action.isValid) ∧ set.defaultAction.isValid := by
  rw [lowerBlock, exists_bind_eq_ok_iff]
  constructor
  · rintro ⟨guarded, hg, h⟩
    obtain ⟨ruled, hr, h⟩ := exists_bind_eq_ok_iff.mp h
    exact ⟨exists_lowerGuard_iff.mp ⟨_, hg⟩, Rule.exists_lowerAll_iff.mp ⟨_, hr⟩,
      Assembler.exists_emitRet_iff.mp h⟩
  · rintro ⟨hg, hr, hd⟩
    obtain ⟨guarded, hg⟩ := exists_lowerGuard_iff.mpr hg
    obtain ⟨ruled, hr⟩ := Rule.exists_lowerAll_iff.mpr hr
    exact ⟨guarded, hg, exists_bind_eq_ok_iff.mpr ⟨ruled, hr, Assembler.exists_emitRet_iff.mpr hd⟩⟩

theorem exists_lowerBlocks_iff {pairs : List ((Arch × List Rule) × Label)} {asm : Assembler} :
    (∃ after, set.lowerBlocks pairs asm = .ok after) ↔
      ∀ block ∈ pairs.map (·.1), (block.1 = .x8664 → set.badArchAction.isValid) ∧
        (∀ rule ∈ block.2, rule.action.isValid) ∧ set.defaultAction.isValid := by
  induction pairs generalizing asm with
  | nil => simp [lowerBlocks]
  | cons pair rest ih =>
    rw [List.map_cons, List.forall_mem_cons]
    constructor
    · intro h
      obtain ⟨mid, hm, h⟩ := exists_bind_eq_ok_iff.mp h
      exact ⟨exists_lowerBlock_iff.mp ⟨mid, hm⟩, ih.mp h⟩
    · rintro ⟨hb, h⟩
      obtain ⟨mid, hm⟩ := exists_lowerBlock_iff.mpr hb
      exact exists_bind_eq_ok_iff.mpr ⟨mid, hm, ih.mpr h⟩

/-- Every action that a rule set can return is one that may stand in a filter. -/
structure ActionsValid (set : Ruleset) : Prop where
  bad : set.badArchAction.isValid
  default : ∀ block ∈ set.blocks, set.defaultAction.isValid
  rule : ∀ block ∈ set.blocks, ∀ rule ∈ block.2, rule.action.isValid

/-- A rule set can be assembled exactly where the actions that it can return are valid. -/
theorem exists_assemble_iff : (∃ asm, set.assemble = .ok asm) ↔ set.ActionsValid := by
  let labels := (Assembler.empty.createLabels set.blocks.length).1
  -- There is a label for every block, so zipping with labels loses none.
  have hb : (set.blocks.zip labels).map (·.1) = set.blocks :=
    List.map_fst_zip (by simp [labels])
  constructor
  · intro h
    obtain ⟨bad, hm, h⟩ := exists_bind_eq_ok_iff.mp h
    have hall := exists_lowerBlocks_iff.mp h
    rw [hb] at hall
    exact ⟨Assembler.exists_emitRet_iff.mp ⟨bad, hm⟩, fun block hm => (hall block hm).2.2,
      fun block hm => (hall block hm).2.1⟩
  · rintro ⟨hbad, hdefault, hrule⟩
    obtain ⟨bad, hm⟩ := Assembler.exists_emitRet_iff.mpr hbad
    refine exists_bind_eq_ok_iff.mpr ⟨bad, hm, exists_lowerBlocks_iff.mpr ?_⟩
    rw [hb]
    exact fun block hm => ⟨fun _ => hbad, hrule block hm, hdefault block hm⟩

theorem forall_dispatchLayout {P : Operation → Prop} (hjump : ∀ distance, P (.jump distance))
    (hskip : ∀ relation k, P (.branch relation k 0 1)) (blocks : List (Arch × List Rule))
    (before : Nat) : ∀ operation ∈ set.dispatchLayout blocks before, P operation := by
  induction blocks generalizing before with
  | nil => simp [dispatchLayout]
  | cons block rest ih =>
    exact List.forall_mem_cons.mpr ⟨hskip _ _, List.forall_mem_cons.mpr ⟨hjump _, ih _⟩⟩

/-- Outside the tests of the rules there are loads of the number and of the audit word, jumps,
branches over one operation, and returns. -/
theorem forall_layout {P : Operation → Prop} (harch : P (.load CallData.archOffset))
    (hload : P (.load CallData.numberOffset)) (hjump : ∀ distance, P (.jump distance))
    (hskip : ∀ relation k, P (.branch relation k 0 1)) (hret : ∀ word, P (.ret word))
    (htest : ∀ block ∈ set.blocks, ∀ rule ∈ block.2, ∀ operation ∈ rule.testLayout, P operation) :
    ∀ operation ∈ set.layout, P operation := by
  have hblock : ∀ block ∈ set.blocks, ∀ operation ∈ set.blockLayout block, P operation := by
    intro block hb
    have hguard : ∀ operation ∈ set.guardLayout block.1, P operation := by
      rw [guardLayout]
      split_ifs <;> simp [hskip, hret]
    have hrules := Rule.forall_layoutAll hload hret (htest block hb) false
    exact List.forall_mem_cons.mpr ⟨hload, List.forall_mem_append.mpr
      ⟨hguard, List.forall_mem_append.mpr ⟨hrules, by simp [hret]⟩⟩⟩
  refine List.forall_mem_cons.mpr ⟨harch, List.forall_mem_append.mpr
    ⟨forall_dispatchLayout hjump hskip _ _, List.forall_mem_cons.mpr ⟨hret _, ?_⟩⟩⟩
  intro operation ho
  obtain ⟨block, hb, hm⟩ := List.mem_flatMap.mp ho
  exact hblock block hb operation hm

theorem aligned_layout (set : Ruleset) : ∀ operation ∈ set.layout, operation.Aligned := by
  refine forall_layout ⟨rfl, by decide⟩ ⟨rfl, by decide⟩ (fun _ => trivial) (fun _ _ => trivial)
    (fun _ => trivial) fun block _ rule _ => ?_
  exact List.forall_mem_cons.mpr ⟨trivial, Condition.aligned_layoutAll _ _⟩

theorem size_of_assemble {asm : Assembler} (h : set.assemble = .ok asm) :
    asm.code.size = set.layout.length := by
  rw [← (represents_assemble h).length_eq, Array.length_toList]

/-- A program that comes out of a rule set is no longer than the kernel takes, and performs the
layout. -/
theorem performs_of_compile {program : Program} (h : set.compile = .ok program) :
    set.layout.length ≤ Program.maxLength ∧ program.Performs set.layout := by
  obtain ⟨asm, ha, hf⟩ := exists_of_bind_eq_ok h
  rw [Assembler.finish] at hf
  split_ifs at hf with hm
  have hl : set.layout.length ≤ Program.maxLength := by
    rw [← size_of_assemble ha]
    omega
  refine ⟨hl, Assembler.performs_of_resolveFrom (represents_assemble ha) ?_ hf⟩
  -- Jumps stay inside the program, so their distances have 32 bits.
  intro operation ho
  obtain ⟨pc, hpc⟩ := List.mem_iff_getElem?.mp ho
  exact (set.forward_layout.continues hpc).near (by
    simp only [Program.maxLength] at hl
    omega)

end Ruleset

end SyscallFilter
