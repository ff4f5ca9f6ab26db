import SyscallFilter.Proofs.Execution

/-!
What a compiled program decides. A piece of code is described by the operations behind it: it ends
the run, or goes on with them, according to what its condition, rule or block means.
-/

namespace SyscallFilter

open Operation

variable (data : CallData)

section Conditions

variable (arg : Fin argCount) (high low : UInt32) (ifTrue ifFalse : Nat) (rest : List Operation)
  (acc : UInt32)

/-- Comparing an argument for equality half by half. -/
theorem runFrom_equality :
    ∃ left, runFrom data ([load (CallData.highOffset arg), branch .eq high 0 (2 + ifFalse),
        load (CallData.lowOffset arg), branch .eq low ifTrue ifFalse] ++ rest) 0 acc =
      runFrom data rest
        (if highHalf (data.argument arg) = high ∧ lowHalf (data.argument arg) = low then ifTrue
          else ifFalse) left := by
  by_cases hh : highHalf (data.argument arg) = high
  · -- The lower half decides, and is left in the accumulator.
    refine ⟨lowHalf (data.argument arg), ?_⟩
    simp [hh]
  · refine ⟨highHalf (data.argument arg), ?_⟩
    simp [hh, Nat.add_comm 2 ifFalse]

/-- Comparing the masked halves of an argument for equality. -/
theorem runFrom_maskedEquality (highMask lowMask : UInt32) :
    ∃ left, runFrom data ([load (CallData.highOffset arg), .mask highMask,
        branch .eq high 0 (3 + ifFalse), load (CallData.lowOffset arg), .mask lowMask,
        branch .eq low ifTrue ifFalse] ++ rest) 0 acc =
      runFrom data rest
        (if highHalf (data.argument arg) &&& highMask = high ∧
            lowHalf (data.argument arg) &&& lowMask = low
          then ifTrue else ifFalse) left := by
  by_cases hh : highHalf (data.argument arg) &&& highMask = high
  · refine ⟨lowHalf (data.argument arg) &&& lowMask, ?_⟩
    simp [hh]
  · refine ⟨highHalf (data.argument arg) &&& highMask, ?_⟩
    simp [hh, Nat.add_comm 3 ifFalse]

/-- Ordering an argument half by half: the lower halves count only between equal upper halves. -/
theorem runFrom_order (relation : Relation) :
    ∃ left, runFrom data ([load (CallData.highOffset arg), branch .gt high (3 + ifTrue) 0,
        branch .eq high 0 (2 + ifFalse), load (CallData.lowOffset arg),
        branch relation low ifTrue ifFalse] ++ rest) 0 acc =
      runFrom data rest
        (if high < highHalf (data.argument arg) ∨
            highHalf (data.argument arg) = high ∧ relation.holds (lowHalf (data.argument arg)) low
          then ifTrue else ifFalse) left := by
  by_cases hlt : high < highHalf (data.argument arg)
  · refine ⟨highHalf (data.argument arg), ?_⟩
    simp [hlt, Nat.add_comm 3 ifTrue]
  · by_cases hh : highHalf (data.argument arg) = high
    · refine ⟨lowHalf (data.argument arg), ?_⟩
      simp [hh]
    · refine ⟨highHalf (data.argument arg), ?_⟩
      simp [hlt, hh, Nat.add_comm 2 ifFalse]

end Conditions

/-- A condition goes on behind its code where it holds, and `after` operations further where not. -/
theorem Condition.runFrom_layout (condition : Condition) (after : Nat) (rest : List Operation)
    (acc : UInt32) :
    ∃ left, runFrom data (condition.layout after ++ rest) 0 acc =
      runFrom data rest (if condition.holds data.args then 0 else after) left := by
  obtain ⟨arg, test⟩ := condition
  rw [show holds ⟨arg, test⟩ data.args = test.holds (data.argument arg) from rfl]
  cases test with
  | masked mask value =>
    obtain ⟨left, h⟩ := runFrom_maskedEquality data arg (highHalf value) (lowHalf value) 0 after
      rest acc (highHalf mask) (lowHalf mask)
    refine ⟨left, h.trans ?_⟩
    simp only [Test.holds, beq_iff_eq, eq_iff_halves, highHalf_and, lowHalf_and]
  | compare comparison value =>
    cases comparison with
    | eq =>
      obtain ⟨left, h⟩ :=
        runFrom_equality data arg (highHalf value) (lowHalf value) 0 after rest acc
      refine ⟨left, h.trans ?_⟩
      simp only [Test.holds, Comparison.holds, beq_iff_eq, eq_iff_halves]
    | ne =>
      obtain ⟨left, h⟩ :=
        runFrom_equality data arg (highHalf value) (lowHalf value) after 0 rest acc
      refine ⟨left, h.trans ?_⟩
      simp only [Test.holds, Comparison.holds, bne_iff_ne, ne_eq, eq_iff_halves, ite_not]
    | gt =>
      obtain ⟨left, h⟩ :=
        runFrom_order data arg (highHalf value) (lowHalf value) 0 after rest acc .gt
      refine ⟨left, h.trans ?_⟩
      simp only [Test.holds, Comparison.holds, decide_eq_true_eq, lt_iff_halves,
        Relation.holds_gt]
    | ge =>
      obtain ⟨left, h⟩ :=
        runFrom_order data arg (highHalf value) (lowHalf value) 0 after rest acc .ge
      refine ⟨left, h.trans ?_⟩
      simp only [Test.holds, Comparison.holds, decide_eq_true_eq, le_iff_halves,
        Relation.holds_ge]
    -- The two that are left are taken as the negations of `ge` and `gt`.
    | lt =>
      obtain ⟨left, h⟩ :=
        runFrom_order data arg (highHalf value) (lowHalf value) after 0 rest acc .ge
      refine ⟨left, h.trans ?_⟩
      simp only [Test.holds, Comparison.holds, decide_eq_true_eq, ← UInt64.not_le,
        le_iff_halves, Relation.holds_ge, ite_not]
    | le =>
      obtain ⟨left, h⟩ :=
        runFrom_order data arg (highHalf value) (lowHalf value) after 0 rest acc .gt
      refine ⟨left, h.trans ?_⟩
      simp only [Test.holds, Comparison.holds, decide_eq_true_eq, ← UInt64.not_lt,
        lt_iff_halves, Relation.holds_gt, ite_not]

/-- Conditions go on behind their code where all hold, and `after` operations further where not. -/
theorem Condition.runFrom_layoutAll (conditions : List Condition) (after : Nat)
    (rest : List Operation) (acc : UInt32) :
    ∃ left, runFrom data (layoutAll conditions after ++ rest) 0 acc =
      runFrom data rest (if conditions.all (·.holds data.args) then 0 else after) left := by
  induction conditions generalizing acc with
  | nil => exact ⟨acc, by simp [layoutAll]⟩
  | cons condition conditions ih =>
    rw [layoutAll, List.append_assoc]
    obtain ⟨left, h⟩ := condition.runFrom_layout data _ (layoutAll conditions after ++ rest) acc
    rw [h]
    cases hc : condition.holds data.args with
    | true =>
      obtain ⟨last, hl⟩ := ih left
      exact ⟨last, by simpa [hc] using hl⟩
    | false =>
      -- The remaining conditions are passed over.
      refine ⟨left, ?_⟩
      simpa [hc] using runFrom_skip (layoutAll conditions after) rest after left

theorem toUInt32_inj (a b : Int32) : a.toUInt32 = b.toUInt32 ↔ a = b := by
  constructor
  · intro h
    cases a
    cases b
    exact congrArg Int32.ofUInt32 h
  · rintro rfl
    rfl

/-- A rule ends the run where it applies. Where it does not, the number is still in the accumulator
unless the rule has conditions. -/
theorem Rule.runFrom_layout (rule : Rule) (reload : Bool) (rest : List Operation) (acc : UInt32)
    (ha : reload = false → acc = data.number.toUInt32) :
    ∃ left, (rule.conditions = [] → left = data.number.toUInt32) ∧
      runFrom data (rule.layout reload ++ rest) 0 acc =
        if rule.applies data then some rule.action.word else runFrom data rest 0 left := by
  let tests := Condition.layoutAll rule.conditions 1
  let body := tests ++ (.ret rule.action.word :: rest)
  -- With or without the load, the accumulator holds the number at the test.
  have hstart : runFrom data (rule.layout reload ++ rest) 0 acc =
      runFrom data body
        (if data.number = rule.call.number then 0 else tests.length + 1) data.number.toUInt32 := by
    cases reload with
    | true => simp [layout, testLayout, tests, body, toUInt32_inj]
    | false => simp [layout, testLayout, tests, body, ha rfl, toUInt32_inj]
  rw [hstart]
  by_cases hn : data.number = rule.call.number
  · obtain ⟨left, h⟩ := Condition.runFrom_layoutAll data rule.conditions 1
      (.ret rule.action.word :: rest) data.number.toUInt32
    rw [if_pos hn, h]
    cases hc : rule.conditions.all (·.holds data.args) with
    | true => exact ⟨data.number.toUInt32, fun _ => rfl, by simp [applies, hn, hc]⟩
    | false =>
      refine ⟨left, fun he => ?_, by simp [applies, hn, hc]⟩
      simp [he] at hc
  · refine ⟨data.number.toUInt32, fun _ => rfl, ?_⟩
    rw [if_neg hn, runFrom_skip tests, runFrom_cons_succ, if_neg]
    simp [applies, Ne.symm hn]

/-- The first rule that applies ends the run. -/
theorem Rule.runFrom_layoutAll (rules : List Rule) (reload : Bool) (rest : List Operation)
    (acc : UInt32) (ha : reload = false → acc = data.number.toUInt32) :
    ∃ left, runFrom data (layoutAll rules reload ++ rest) 0 acc =
      match rules.find? fun rule => rule.applies data with
      | some rule => some rule.action.word
      | none => runFrom data rest 0 left := by
  induction rules generalizing reload acc with
  | nil => exact ⟨acc, rfl⟩
  | cons rule rules ih =>
    rw [layoutAll, List.append_assoc]
    obtain ⟨left, hl, h⟩ := rule.runFrom_layout data reload
      (layoutAll rules (!rule.conditions.isEmpty) ++ rest) acc ha
    rw [h, List.find?_cons]
    cases rule.applies data with
    | true => exact ⟨acc, rfl⟩
    | false => exact ih _ left fun he => hl (by simpa using he)

namespace Ruleset

variable (set : Ruleset)

/-- The action that the block of an architecture takes. -/
def blockVerdict (block : Arch × List Rule) : Action :=
  if block.1 = .x8664 ∧ x32Bit ≤ data.number.toUInt32 then set.badArchAction
  else
    match block.2.find? fun rule => rule.applies data with
    | some rule => rule.action
    | none => set.defaultAction

/-- The guard ends the run of a call of the second convention, and lets every other call through. -/
theorem runFrom_guardLayout (arch : Arch) (rest : List Operation) :
    runFrom data (set.guardLayout arch ++ rest) 0 data.number.toUInt32 =
      if arch = .x8664 ∧ x32Bit ≤ data.number.toUInt32 then some set.badArchAction.word
      else runFrom data rest 0 data.number.toUInt32 := by
  rw [guardLayout]
  by_cases ha : arch = .x8664
  · by_cases hn : x32Bit ≤ data.number.toUInt32
    · simp [ha, hn]
    · simp [ha, hn]
  · simp [ha]

theorem runFrom_blockLayout (block : Arch × List Rule) (rest : List Operation) (acc : UInt32) :
    runFrom data (set.blockLayout block ++ rest) 0 acc =
      some (set.blockVerdict data block).word := by
  obtain ⟨left, h⟩ := Rule.runFrom_layoutAll data block.2 false
    (.ret set.defaultAction.word :: rest) data.number.toUInt32 fun _ => rfl
  rw [blockLayout, List.cons_append, runFrom_load_number, List.append_assoc, runFrom_guardLayout,
    blockVerdict]
  split_ifs with hg
  · rfl
  · rw [List.append_assoc, List.singleton_append, h]
    cases block.2.find? fun rule => rule.applies data with
    | some rule => rfl
    | none => rfl

/-- The dispatch sends a call to the first block with its audit word. In front of the blocks stand
the operations that the dispatch has passed by. -/
theorem runFrom_dispatchLayout (blocks : List (Arch × List Rule)) (passed : List Operation) :
    runFrom data (set.dispatchLayout blocks passed.length ++
        (.ret set.badArchAction.word :: (passed ++ blocks.flatMap set.blockLayout))) 0 data.arch =
      match blocks.find? fun block => block.1.auditWord == data.arch with
      | some block => some (set.blockVerdict data block).word
      | none => some set.badArchAction.word := by
  induction blocks generalizing passed with
  | nil => rfl
  | cons block rest ih =>
    let tests := set.dispatchLayout rest (passed.length + (set.blockLayout block).length)
    let behind := rest.flatMap set.blockLayout
    have htests : tests.length = 2 * rest.length := set.length_dispatchLayout rest _
    rw [dispatchLayout, List.flatMap_cons, List.find?_cons]
    by_cases hw : block.1.auditWord = data.arch
    · -- The jump passes over the other tests, the bad-architecture return and the blocks passed by.
      have hskip : runFrom data ((tests ++ .ret set.badArchAction.word :: passed) ++
          (set.blockLayout block ++ behind))
            ((tests ++ .ret set.badArchAction.word :: passed).length + 0) data.arch = _ :=
        runFrom_skip _ _ 0 _
      rw [runFrom_blockLayout, List.append_assoc] at hskip
      have hd : (tests ++ .ret set.badArchAction.word :: passed).length + 0 =
          2 * rest.length + 1 + passed.length := by
        simp only [List.length_append, List.length_cons, htests]
        omega
      rw [hd] at hskip
      simpa [hw] using hskip
    · -- Past a block that is not meant, one more block counts as passed by.
      have hb : (block.1.auditWord == data.arch) = false := by simpa using hw
      have hrest := ih (passed ++ set.blockLayout block)
      rw [List.length_append, List.append_assoc] at hrest
      rw [hb]
      simpa [Ne.symm hw] using hrest

/-- The block with the audit word of a call is that of the architecture behind the word. -/
theorem find?_blocks (word : UInt32) :
    (set.blocks.find? fun block => block.1.auditWord == word) =
      (Arch.ofAuditWord? word).bind fun arch =>
        (set.rules.get arch).map fun rules => (arch, rules) := by
  have hp (arch : Arch) : (((set.rules.get arch).map fun rules => (arch, rules)).any
      fun block => block.1.auditWord == word) =
        ((set.rules.get arch).isSome && arch.auditWord == word) := by
    cases set.rules.get arch <;> rfl
  rw [blocks, List.find?_filterMap]
  simp only [hp]
  cases ho : Arch.ofAuditWord? word with
  | none =>
    -- No architecture at all has the word, so no covered one has.
    have hn := List.find?_eq_none.mp ho
    have hf : Arch.all.find? (fun arch => (set.rules.get arch).isSome && arch.auditWord == word) =
        none := by
      refine List.find?_eq_none.mpr fun arch hm hb => hn arch hm ?_
      exact (Bool.and_eq_true_iff.mp hb).2
    rw [hf]
  | some arch =>
    obtain rfl : arch.auditWord = word := by simpa using List.find?_some ho
    -- No other architecture shares the word.
    have he (other : Arch) : (other.auditWord == arch.auditWord) = (other == arch) := by
      rw [Bool.eq_iff_iff, beq_iff_eq, beq_iff_eq, Arch.auditWord_inj]
    simp only [he]
    cases hr : set.rules.get arch with
    | none => cases arch <;> simp [Arch.all, hr]
    | some rules => cases arch <;> simp [Arch.all, hr]

/-- The layout of a rule set returns the word of the action that the rule set prescribes. -/
theorem runFrom_layout (acc : UInt32) :
    runFrom data set.layout 0 acc = some (set.verdict data).word := by
  have hd := set.runFrom_dispatchLayout data set.blocks []
  rw [List.length_nil, List.nil_append, find?_blocks] at hd
  rw [layout, runFrom_load_arch, hd, verdict, rulesFor?]
  -- The word belongs to no architecture, to one that is not covered, or to one with a block.
  cases Arch.ofAuditWord? data.arch with
  | none => rfl
  | some arch =>
    cases hr : set.rules.get arch with
    | none => simp [hr]
    | some rules =>
      simp only [hr, Option.bind_some, Option.map_some, blockVerdict]
      split_ifs
      · rfl
      · cases hf : rules.find? fun rule => rule.applies data with
        | none => simp [hf]
        | some rule => simp [hf]

variable {set}

/-- The rules a call is measured against are those of a block. -/
theorem exists_block_of_rulesFor? {rules : List Rule} (h : set.rulesFor? data = some rules) :
    ∃ block ∈ set.blocks, block.2 = rules := by
  rw [rulesFor?] at h
  split at h
  · nomatch h
  · next arch ha =>
    split_ifs at h
    exact ⟨(arch, rules), List.mem_filterMap.mpr ⟨arch, Arch.mem_all arch, by rw [h]; rfl⟩, rfl⟩

/-- A call without rules to measure it against gets the action for bad architectures; any other gets
the default action or that of a rule of its block. -/
theorem verdict_cases (set : Ruleset) (data : CallData) :
    (set.rulesFor? data = none ∧ set.verdict data = set.badArchAction) ∨
      ∃ block ∈ set.blocks, set.rulesFor? data = some block.2 ∧
        (set.verdict data = set.defaultAction ∨
          ∃ rule ∈ block.2, set.verdict data = rule.action) := by
  rw [verdict]
  cases hr : set.rulesFor? data with
  | none => exact .inl ⟨rfl, rfl⟩
  | some rules =>
    obtain ⟨block, hb, rfl⟩ := exists_block_of_rulesFor? data hr
    refine .inr ⟨block, hb, rfl, ?_⟩
    dsimp only
    cases hf : block.2.find? fun rule => rule.applies data with
    | none => exact .inl rfl
    | some rule => exact .inr ⟨rule, List.mem_of_find?_eq_some hf, rfl⟩

/-- The action that a rule set prescribes is one that its program can return. -/
theorem ActionsValid.verdict (h : set.ActionsValid) : (set.verdict data).isValid := by
  rcases set.verdict_cases data with ⟨-, hv⟩ | ⟨block, hb, -, hv | ⟨rule, hr, hv⟩⟩
  · rw [hv]
    exact h.bad
  · rw [hv]
    exact h.default block hb
  · rw [hv]
    exact h.rule block hb rule hr

/-- Compiling preserves the decision of a rule set, whose action has a word. -/
theorem run_of_compile {program : Program} (h : set.compile = .ok program) :
    program.run data = some (set.verdict data).word ∧
      (set.verdict data).toWord? = some (set.verdict data).word := by
  obtain ⟨asm, ha, -⟩ := exists_of_bind_eq_ok h
  have hv : set.ActionsValid := exists_assemble_iff.mp ⟨asm, ha⟩
  obtain ⟨-, hp⟩ := performs_of_compile h
  have hr : program.run data = some (set.verdict data).word :=
    calc
      program.run data = runFrom data set.layout 0 0 := hp.runFrom_eq data 0 0
      _ = some (set.verdict data).word := runFrom_layout data set 0
  exact ⟨hr, Action.toWord?_eq (hv.verdict data)⟩

/-- A program that comes out of a rule set ends every run at a return, and the word it returns is
that of the action which the rule set prescribes for the call. -/
theorem compile_returns_verdict {program : Program} (h : set.compile = .ok program)
    (data : CallData) :
    ∃ word, program.run data = some word ∧ (set.verdict data).toWord? = some word :=
  ⟨(set.verdict data).word, run_of_compile data h⟩

/-- The set refuses to open files for writing, and covers two architectures. -/
theorem compile_returns_verdict_open :
    let refused : Rule := ⟨⟨2⟩, .errno 13, [⟨1, .masked 3 1⟩]⟩
    let set : Ruleset := ⟨.allow, .killThread, ⟨some [], some [refused], none, none, none⟩⟩
    let call : CallData := ⟨2, 0xc000003e, 0, #v[0, 0x8000000000000041, 0, 0, 0, 0]⟩
    ∃ program, set.compile = .ok program ∧ program.run call = some 0x5000d := by
  intro refused set call
  obtain ⟨program, hp⟩ : ∃ program, set.compile = .ok program :=
    exists_ok_of_isOk (by decide +kernel)
  have hv : (set.verdict call).toWord? = some 0x5000d := by decide +kernel
  obtain ⟨word, hr, hw⟩ := compile_returns_verdict hp call
  exact ⟨program, hp, by rw [hr, ← hw, hv]⟩

end Ruleset

end SyscallFilter
