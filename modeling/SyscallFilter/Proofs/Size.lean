import SyscallFilter.Proofs.Acceptance
import SyscallFilter.Proofs.Invariant

/-!
The exact size of compiled programs. The programs of sound filters have at most six conditions a
rule, so every branch fits its eight bits, and only the limit on the whole length can be exceeded.
-/

namespace SyscallFilter

namespace Condition

theorem cost_le (condition : Condition) : condition.cost ≤ 6 := by
  rw [cost]
  split <;> omega

theorem length_layoutAll (conditions : List Condition) (after : Nat) :
    (layoutAll conditions after).length = (conditions.map cost).sum := by
  induction conditions with
  | nil => rfl
  | cons condition rest ih =>
    rw [layoutAll, List.length_append, length_layout, ih, List.map_cons, List.sum_cons]

theorem sum_cost_le (conditions : List Condition) :
    (conditions.map cost).sum ≤ 6 * conditions.length := by
  induction conditions with
  | nil => exact le_rfl
  | cons condition rest ih =>
    have hc := condition.cost_le
    rw [List.map_cons, List.sum_cons, List.length_cons]
    omega

end Condition

namespace Rule

/-- The instructions of a rule: the test of the number, the conditions and the return, and a load of
the number if the rule directly before has conditions. -/
def sizeBehind (previous? : Option Rule) (rule : Rule) : Nat :=
  2 + (rule.conditions.map Condition.cost).sum +
    if previous?.any fun previous => !previous.conditions.isEmpty then 1 else 0

/-- The instructions of a list of rules, each together with the rule before it. -/
def sizeAll (rules : List Rule) : Nat :=
  (List.zipWith sizeBehind (none :: rules.map some) rules).sum

theorem length_layout (rule : Rule) (reload : Bool) :
    (rule.layout reload).length =
      2 + (rule.conditions.map Condition.cost).sum + if reload then 1 else 0 := by
  rw [layout, testLayout, List.length_append, List.length_append, List.length_cons,
    Condition.length_layoutAll]
  cases reload with
  | true =>
    simp only [if_true, List.length_singleton]
    omega
  | false =>
    simp only [if_false, List.length_singleton, List.length_nil, Bool.false_eq_true]
    omega

theorem length_layoutAll (rules : List Rule) (previous? : Option Rule) :
    (layoutAll rules (previous?.any fun previous => !previous.conditions.isEmpty)).length =
      (List.zipWith sizeBehind (previous? :: rules.map some) rules).sum := by
  induction rules generalizing previous? with
  | nil => rfl
  | cons rule rest ih =>
    let reload := previous?.any fun previous => !previous.conditions.isEmpty
    have hrest : (layoutAll rest (!rule.conditions.isEmpty)).length =
        (List.zipWith sizeBehind (some rule :: rest.map some) rest).sum := ih (some rule)
    calc
      (layoutAll (rule :: rest) reload).length
          = (rule.layout reload).length + (layoutAll rest (!rule.conditions.isEmpty)).length := by
            rw [layoutAll, List.length_append]
      _ = rule.sizeBehind previous? +
            (List.zipWith sizeBehind (some rule :: rest.map some) rest).sum := by
            rw [length_layout, hrest, sizeBehind]
      _ = (List.zipWith sizeBehind (previous? :: (rule :: rest).map some) (rule :: rest)).sum := by
            rw [List.map_cons, List.zipWith_cons_cons, List.sum_cons]

/-- Conditions on distinct arguments are at most six. -/
theorem Sound.length_conditions_le {arch : Arch} {rule : Rule} (h : rule.Sound arch) :
    rule.conditions.length ≤ 6 :=
  Condition.length_le_of_nodup h.distinct

/-- The longest tests of a rule are those of six masked conditions. -/
theorem Sound.short_testLayout {arch : Arch} {rule : Rule} (h : rule.Sound arch) :
    ∀ operation ∈ rule.testLayout, operation.Short := by
  have hconditions := h.length_conditions_le
  have hcost := Condition.sum_cost_le rule.conditions
  have hforward : Forward (1 + 1) rule.testLayout := rule.forward_testLayout Nat.one_pos
  -- One operation for the number, 36 at most for the conditions, and two behind.
  apply hforward.short
  rw [testLayout, List.length_cons, Condition.length_layoutAll]
  omega

end Rule

namespace Ruleset

variable {set : Ruleset}

/-- The instructions of the block of an architecture: the load of the number, the guard on x86_64,
the rules, and the default action. -/
def blockSize (block : Arch × List Rule) : Nat :=
  2 + (if block.1 = .x8664 then 2 else 0) + Rule.sizeAll block.2

/-- The instructions of a rule set: the load of the audit word, two for each architecture, the
return for bad architectures, and the blocks. -/
def size (set : Ruleset) : Nat :=
  2 + 2 * set.arches.length + (set.blocks.map blockSize).sum

theorem length_blockLayout (set : Ruleset) (block : Arch × List Rule) :
    (set.blockLayout block).length = blockSize block := by
  have hg : (set.guardLayout block.1).length = if block.1 = .x8664 then 2 else 0 := by
    rw [guardLayout]
    split_ifs <;> rfl
  have hr : (Rule.layoutAll block.2 false).length = Rule.sizeAll block.2 :=
    Rule.length_layoutAll block.2 none
  rw [blockLayout, List.length_cons, List.length_append, List.length_append, hg, hr, blockSize,
    List.length_singleton]
  omega

theorem length_layout (set : Ruleset) : set.layout.length = set.size := by
  have hb : (set.blocks.flatMap set.blockLayout).length = (set.blocks.map blockSize).sum := by
    rw [List.length_flatMap]
    congr 2
    funext block
    exact set.length_blockLayout block
  rw [layout, List.length_cons, List.length_append, length_dispatchLayout, List.length_cons, hb,
    size, ← map_fst_blocks, List.length_map]
  omega

end Ruleset

namespace Assembler

variable {asm : Assembler} {pc : Nat}

/-- The labels of an instruction are bound behind it, those of a branch within its eight bits. -/
structure Resolves (asm : Assembler) (pc : Nat) (pending : Pending) : Prop where
  branch : ∀ label, pending.ifTrue = .label label ∨ pending.ifFalse = .label label →
    ∃ place, asm.place? label = some place ∧ pc < place ∧ place - (pc + 1) < 256
  jump : ∀ label, pending.jump = some label → ∃ place, asm.place? label = some place ∧ pc < place

theorem exists_of_lands {target : Target} {distance : Nat}
    (h : target.Lands asm.place? pc distance) (hd : distance < 256) (label : Label)
    (ht : target = .label label) :
    ∃ place, asm.place? label = some place ∧ pc < place ∧ place - (pc + 1) < 256 := by
  rw [ht] at h
  exact ⟨pc + 1 + distance, h, by omega, by omega⟩

theorem resolves_of_represents {pending : Pending} {operation : Operation}
    (h : pending.Represents asm.place? pc operation) (hs : operation.Short) :
    asm.Resolves pc pending := by
  cases operation with
  | jump distance =>
    obtain ⟨label, rfl, hp⟩ := h
    constructor
    · intro _ ht
      rcases ht with ht | ht <;> nomatch ht
    · intro other ho
      obtain rfl := Option.some.inj ho
      exact ⟨pc + 1 + distance, hp, by omega⟩
  | branch relation k ifTrue ifFalse =>
    obtain ⟨onTrue, onFalse, rfl, ht, hf⟩ := h
    constructor
    · intro label hl
      rcases hl with hl | hl
      · exact exists_of_lands ht hs.1 label hl
      · exact exists_of_lands hf hs.2 label hl
    · intro _ hj
      nomatch hj
  | _ =>
    obtain rfl := h
    constructor
    · intro _ ht
      rcases ht with ht | ht <;> nomatch ht
    · intro _ hj
      nomatch hj

end Assembler

theorem Pending.RepresentAll.represents {places : Label → Option Nat} {pc i : Nat}
    {pendings : List Pending} {operations : List Operation} {pending : Pending}
    (h : RepresentAll places pc pendings operations) (hp : pendings[i]? = some pending) :
    ∃ operation ∈ operations, pending.Represents places (pc + i) operation := by
  induction pendings generalizing pc i operations with
  | nil => simp at hp
  | cons first rest ih =>
    cases operations with
    | nil => exact False.elim h
    | cons operation operations =>
      cases i with
      | zero =>
        obtain rfl : first = pending := by simpa using hp
        exact ⟨operation, List.mem_cons_self, h.1⟩
      | succ i =>
        obtain ⟨found, hm, hr⟩ := ih h.2 (by simpa using hp)
        rw [Nat.add_right_comm] at hr
        exact ⟨found, List.mem_cons_of_mem _ hm, hr⟩

namespace FilterState

variable {capabilities : Capabilities} {state : FilterState}

theorem Sound.actionsValid (h : state.Sound capabilities) : state.ruleset.ActionsValid :=
  ⟨h.bad_valid, fun _ _ => h.default_valid,
    fun block hb rule hr => (h.rule_sound block hb rule hr).action_valid⟩

theorem Sound.short_layout (h : state.Sound capabilities) :
    ∀ operation ∈ state.ruleset.layout, operation.Short := by
  refine Ruleset.forall_layout trivial trivial (fun _ => trivial)
    (fun _ _ => ⟨by decide, by decide⟩) (fun _ => trivial) ?_
  intro block hb rule hr
  exact (h.rule_sound block hb rule hr).short_testLayout

/-- What a sound filter holds is assembled into code of the known size in which every label is
bound behind its jumps. -/
theorem Sound.exists_assemble (h : state.Sound capabilities) :
    ∃ asm, state.ruleset.assemble = .ok asm ∧ asm.code.size = state.ruleset.size ∧
      ∀ pc pending, asm.code[pc]? = some pending → asm.Resolves pc pending := by
  obtain ⟨asm, ha⟩ := Ruleset.exists_assemble_iff.mpr h.actionsValid
  refine ⟨asm, ha, ?_, fun pc pending hp => ?_⟩
  · rw [Ruleset.size_of_assemble ha, Ruleset.length_layout]
  · rw [← Array.getElem?_toList] at hp
    obtain ⟨operation, hm, hr⟩ := (Ruleset.represents_assemble ha).represents hp
    rw [Nat.zero_add] at hr
    exact Assembler.resolves_of_represents hr (h.short_layout operation hm)

/-- The limit on the length decides alone whether what a sound filter holds compiles. -/
theorem Sound.compile_eq (h : state.Sound capabilities) :
    (state.ruleset.size ≤ Program.maxLength →
      ∃ program, state.ruleset.compile = .ok program ∧ program.length = state.ruleset.size) ∧
    (Program.maxLength < state.ruleset.size →
      state.ruleset.compile =
        .error (.programTooLarge state.ruleset.size Program.maxLength)) := by
  obtain ⟨asm, ha, hs, -⟩ := h.exists_assemble
  -- Since there is code to resolve, only the last stage is left to fail.
  have hc : state.ruleset.compile = asm.finish := by
    rw [Ruleset.compile, ha]
    rfl
  rw [hc, Assembler.finish, hs]
  constructor
  · intro hl
    rw [if_neg (by omega)]
    obtain ⟨program, hp⟩ :=
      Assembler.exists_resolveFrom (Ruleset.represents_assemble ha) h.short_layout
    -- The program performs the layout, so it is as long as the layout.
    have hok : state.ruleset.compile = .ok program := by
      rw [hc, Assembler.finish, hs, if_neg (by omega), hp]
    refine ⟨program, hp, ?_⟩
    rw [(Ruleset.performs_of_compile hok).2.length_eq, Ruleset.length_layout]
  · intro hl
    rw [if_pos hl]

end FilterState

/-- Compiling a filter that some run of requests has left behind fails only for its size, and then
exactly where the size is above the limit. No branch is too far for its eight bits, and no label is
unbound or behind its jump. -/
theorem Filter.program_size {requests : List (String × Request)} {name : String} {filter : Filter}
    {state : FilterState} (hf : (Session.empty.run requests).filter? name = some filter)
    (hs : filter.state? = some state) :
    (state.ruleset.size ≤ 4096 →
      ∃ program, filter.program = .ok program ∧ program.length = state.ruleset.size) ∧
    (4096 < state.ruleset.size →
      filter.program = .error (.programTooLarge state.ruleset.size 4096)) ∧
    ∃ asm, state.ruleset.assemble = .ok asm ∧ asm.code.size = state.ruleset.size ∧
      ∀ pc pending, asm.code[pc]? = some pending → asm.Resolves pc pending := by
  have hsound : state.Sound filter.capabilities :=
    Session.sound_empty.run requests name filter hf state hs
  have hp : filter.program = state.ruleset.compile := program_eq_compile hs
  obtain ⟨hok, herror⟩ := hsound.compile_eq
  rw [hp]
  exact ⟨hok, herror, hsound.exists_assemble⟩

/-- One rule with a masked condition makes a program of sixteen instructions. -/
theorem Filter.program_size_open :
    let requests : List (String × Request) :=
      [("a", .make .allow ⟨6, none⟩), ("a", .change (.addRule ⟨2⟩ (.errno 13) [⟨1, .masked 3 1⟩]))]
    ∃ filter state program, (Session.empty.run requests).filter? "a" = some filter ∧
      filter.state? = some state ∧ filter.program = .ok program ∧ program.length = 16 := by
  intro requests
  have h : (((Session.empty.run requests).filter? "a").bind Filter.state?).map
      (fun state => state.ruleset.size) = some 16 := by decide +kernel
  obtain ⟨state, hb, hsize⟩ := Option.map_eq_some_iff.mp h
  obtain ⟨filter, hf, hs⟩ := Option.bind_eq_some_iff.mp hb
  obtain ⟨program, hp, hl⟩ := (program_size hf hs).1 (by omega)
  exact ⟨filter, state, program, hf, hs, hp, by rw [hl, hsize]⟩

end SyscallFilter
