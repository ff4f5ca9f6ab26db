import SyscallFilter.Proofs.Lowering

/-!
Control in a compiled program only moves forward and stays inside: each operation that does not end
the run goes on with one of the operations behind it. A piece of a program is forward up to a slack,
the number of operations that stand behind the piece.
-/

namespace SyscallFilter

/-- An operation goes on within so many operations behind it, unless it ends the run. -/
def Operation.Continues (behind : Nat) : Operation → Prop
  | .load _ => 0 < behind
  | .mask _ => 0 < behind
  | .jump distance => distance < behind
  | .branch _ _ ifTrue ifFalse => ifTrue < behind ∧ ifFalse < behind
  | .ret _ => True

/-- Every operation goes on within the operations behind it, of which `slack` stand behind the
list. -/
def Forward (slack : Nat) : List Operation → Prop
  | [] => True
  | operation :: rest => operation.Continues (rest.length + slack) ∧ Forward slack rest

theorem Forward.append {xs ys : List Operation} {slack : Nat}
    (hx : Forward (ys.length + slack) xs) (hy : Forward slack ys) : Forward slack (xs ++ ys) := by
  induction xs with
  | nil => exact hy
  | cons operation rest ih =>
    have hc : operation.Continues ((rest ++ ys).length + slack) := by
      rw [List.length_append, Nat.add_assoc]
      exact hx.1
    exact ⟨hc, ih hx.2⟩

theorem Forward.continues {operations : List Operation} {slack pc : Nat} {operation : Operation}
    (h : Forward slack operations) (hp : operations[pc]? = some operation) :
    operation.Continues (operations.length - (pc + 1) + slack) := by
  induction operations generalizing pc with
  | nil => simp at hp
  | cons first rest ih =>
    cases pc with
    | zero =>
      obtain rfl : first = operation := by simpa using hp
      simpa using h.1
    | succ pc =>
      have hc := ih h.2 (by simpa using hp)
      simpa using hc

/-- A list that is forward without slack ends with a return. -/
theorem Forward.exists_getLast {operations : List Operation} (h : Forward 0 operations)
    (hne : operations ≠ []) : ∃ word, operations.getLast? = some (.ret word) := by
  obtain ⟨init, last, rfl⟩ := operations.eq_nil_or_concat'.resolve_left hne
  -- Nothing stands behind the last operation that it could go on with.
  have hp : (init ++ [last])[init.length]? = some last := by simp
  have hc := h.continues hp
  cases last with
  | ret word => exact ⟨word, by simp⟩
  | load _ => simp [Operation.Continues] at hc
  | mask _ => simp [Operation.Continues] at hc
  | jump _ => simp [Operation.Continues] at hc
  | branch _ _ _ _ => simp [Operation.Continues] at hc

theorem Operation.Continues.short {operation : Operation} {behind : Nat}
    (h : operation.Continues behind) (hb : behind ≤ 256) : operation.Short := by
  cases operation with
  | branch relation k ifTrue ifFalse => exact ⟨lt_of_lt_of_le h.1 hb, lt_of_lt_of_le h.2 hb⟩
  | _ => trivial

/-- In a piece of code that has at most 256 operations up to its slack, every branch is short. -/
theorem Forward.short {operations : List Operation} {slack : Nat} (h : Forward slack operations)
    (hl : operations.length + slack ≤ 256) : ∀ operation ∈ operations, operation.Short := by
  intro operation ho
  obtain ⟨pc, hp⟩ := List.mem_iff_getElem?.mp ho
  exact (h.continues hp).short (by omega)

theorem Operation.Continues.near {operation : Operation} {behind : Nat}
    (h : operation.Continues behind) (hb : behind < 2 ^ 32) : operation.Near := by
  cases operation with
  | jump distance => exact lt_trans h hb
  | _ => trivial

namespace Condition

theorem forward_layout (condition : Condition) {after slack : Nat} (h : after < slack) :
    Forward slack (condition.layout after) := by
  obtain ⟨arg, test⟩ := condition
  cases test with
  | masked mask value =>
    simp only [layout, Forward, Operation.Continues, List.length_cons, List.length_nil, and_true]
    omega
  | compare comparison value =>
    cases comparison <;>
      simp only [layout, Forward, Operation.Continues, List.length_cons, List.length_nil,
        and_true] <;> omega

theorem forward_layoutAll (conditions : List Condition) {after slack : Nat} (h : after < slack) :
    Forward slack (layoutAll conditions after) := by
  induction conditions with
  | nil => trivial
  | cons condition rest ih => exact (condition.forward_layout (by omega)).append ih

end Condition

namespace Rule

/-- The tests of a rule are forward when its return and one operation more stand behind them. -/
theorem forward_testLayout (rule : Rule) {slack : Nat} (h : 0 < slack) :
    Forward (1 + slack) rule.testLayout := by
  have htests : Forward (1 + slack) (Condition.layoutAll rule.conditions 1) :=
    Condition.forward_layoutAll rule.conditions (by omega)
  refine ⟨⟨?_, ?_⟩, htests⟩ <;> omega

theorem forward_layout (rule : Rule) (reload : Bool) {slack : Nat} (h : 0 < slack) :
    Forward slack (rule.layout reload) := by
  have htest : Forward (1 + slack) rule.testLayout := rule.forward_testLayout h
  have hret : Forward slack [.ret rule.action.word] := ⟨trivial, trivial⟩
  have hbody : Forward slack (rule.testLayout ++ [.ret rule.action.word]) := htest.append hret
  -- A load of the number goes on with the test.
  cases reload with
  | false => exact hbody
  | true => exact ⟨by simp [Operation.Continues, h], hbody⟩

theorem forward_layoutAll (rules : List Rule) (reload : Bool) {slack : Nat} (h : 0 < slack) :
    Forward slack (layoutAll rules reload) := by
  induction rules generalizing reload with
  | nil => trivial
  | cons rule rest ih => exact (rule.forward_layout reload (by omega)).append (ih _)

end Rule

namespace Ruleset

variable (set : Ruleset)

theorem forward_guardLayout (arch : Arch) {slack : Nat} (h : 0 < slack) :
    Forward slack (set.guardLayout arch) := by
  rw [guardLayout]
  split_ifs
  · exact ⟨⟨by simp, by simpa using h⟩, trivial, trivial⟩
  · trivial

theorem forward_blockLayout (block : Arch × List Rule) (slack : Nat) :
    Forward slack (set.blockLayout block) := by
  have hret : Forward slack [.ret set.defaultAction.word] := ⟨trivial, trivial⟩
  have hrules : Forward slack (Rule.layoutAll block.2 false ++ [.ret set.defaultAction.word]) :=
    (Rule.forward_layoutAll block.2 false (by simp)).append hret
  refine ⟨by simp [Operation.Continues], (set.forward_guardLayout block.1 ?_).append hrules⟩
  simp

theorem forward_flatMap_blockLayout (blocks : List (Arch × List Rule)) (slack : Nat) :
    Forward slack (blocks.flatMap set.blockLayout) := by
  induction blocks with
  | nil => trivial
  | cons block rest ih => exact (set.forward_blockLayout block _).append ih

theorem length_blockLayout_pos (block : Arch × List Rule) : 0 < (set.blockLayout block).length :=
  Nat.succ_pos _

theorem length_dispatchLayout (blocks : List (Arch × List Rule)) (before : Nat) :
    (set.dispatchLayout blocks before).length = 2 * blocks.length := by
  induction blocks generalizing before with
  | nil => rfl
  | cons block rest ih =>
    simp only [dispatchLayout, List.length_cons, ih]
    omega

/-- The dispatch is forward when the return for bad architectures, the blocks passed over and its
own blocks stand behind it. -/
theorem forward_dispatchLayout (blocks : List (Arch × List Rule)) {before slack : Nat}
    (h : 1 + before + (blocks.flatMap set.blockLayout).length ≤ slack) :
    Forward slack (set.dispatchLayout blocks before) := by
  induction blocks generalizing before with
  | nil => trivial
  | cons block rest ih =>
    have hb := set.length_blockLayout_pos block
    rw [List.flatMap_cons, List.length_append] at h
    refine ⟨⟨?_, ?_⟩, ?_, ih (by omega)⟩
    · simp only [List.length_cons]
      omega
    · simp only [List.length_cons]
      omega
    · simp only [Operation.Continues, length_dispatchLayout]
      omega

/-- In the layout of a rule set, control only moves forward and never leaves. -/
theorem forward_layout : Forward 0 set.layout := by
  have hblocks := set.forward_flatMap_blockLayout set.blocks 0
  have hbad : Forward 0 (.ret set.badArchAction.word :: set.blocks.flatMap set.blockLayout) :=
    ⟨trivial, hblocks⟩
  have hdispatch : Forward (set.blocks.flatMap set.blockLayout).length.succ
      (set.dispatchLayout set.blocks 0) := set.forward_dispatchLayout set.blocks (by omega)
  have hall := hdispatch.append hbad
  exact ⟨by simp [Operation.Continues], hall⟩

end Ruleset

end SyscallFilter
