import Mathlib.Tactic
import SyscallFilter.Proofs.ActionWord
import SyscallFilter.Proofs.Decision
import SyscallFilter.Proofs.ListingOutline
import SyscallFilter.Proofs.Requests

/-!
What the listing of a filter says against what its program does. The two agree on every call but
those that the program sends away from the block of x86_64: the listing has no line for the second
convention behind that audit word, and shows the default action for its calls.
-/

namespace SyscallFilter

open PseudoCode

section Entries

variable {data : CallData}

theorem relates_toNat (comparison : Comparison) (arg value : UInt64) :
    relates comparison arg.toNat value.toNat = comparison.holds arg value := by
  cases comparison with
  | ne | eq =>
    rw [relates, Comparison.holds, Bool.eq_iff_iff]
    simp [UInt64.toNat_inj]
  | lt | gt =>
    rw [relates, Comparison.holds]
    exact decide_eq_decide.mpr UInt64.lt_iff_toNat_lt.symm
  | le | ge =>
    rw [relates, Comparison.holds]
    exact decide_eq_decide.mpr UInt64.le_iff_toNat_le.symm

theorem Condition.holds_ofCondition (condition : Condition) (args : Args) :
    (ArgTest.ofCondition condition).holds args = condition.holds args := by
  obtain ⟨arg, test⟩ := condition
  have harg : args[arg.val]? = some args[arg] := Vector.getElem?_eq_getElem arg.isLt
  cases test with
  | compare comparison value =>
    rw [ArgTest.holds, ArgTest.ofCondition, harg]
    exact relates_toNat comparison args[arg] value
  | masked mask value =>
    rw [ArgTest.holds, ArgTest.ofCondition, harg]
    dsimp only
    rw [← UInt64.toNat_and]
    exact relates_toNat .eq (args[arg] &&& mask) value

theorem Rule.applies_entry (rule : Rule) : rule.entry.applies data = rule.applies data := by
  have hnumber : (rule.call.number.toInt == data.number.toInt) =
      (rule.call.number == data.number) := by
    rw [Bool.eq_iff_iff, beq_iff_eq, beq_iff_eq, Int32.toInt_inj]
  have htests : (rule.entry.tests.all fun test => test.holds data.args) =
      rule.conditions.all fun condition => condition.holds data.args := by
    rw [entry, List.all_map]
    congr 1
    funext condition
    exact condition.holds_ofCondition data.args
  rw [Entry.applies, htests, applies, ← hnumber]
  rfl

/-- Named calls do not have numbers of the second convention. -/
theorem Rule.Sound.number_lt {rule : Rule} {arch : Arch} (h : rule.Sound arch) :
    rule.call.number.toUInt32 < Ruleset.x32Bit := by
  obtain ⟨name, hname⟩ := Option.isSome_iff_exists.mp h.named
  obtain ⟨hpos, row, hrow, -, hn⟩ := Syscall.exists_of_name? hname
  have hlt : rule.call.number.toNatClampNeg < 2 ^ 30 := Syscall.number_lt hrow hn
  rw [UInt32.lt_iff_toNat_lt, Int32.toNat_toUInt32_of_le hpos]
  exact hlt

end Entries

namespace Ruleset

variable {set : Ruleset} {data : CallData}

/-- A call of the second convention behind the audit word of x86_64, where x86_64 is covered. -/
def Guarded (set : Ruleset) (data : CallData) : Prop :=
  data.arch = Arch.x8664.auditWord ∧ x32Bit ≤ data.number.toUInt32 ∧
    (set.rules.get .x8664).isSome

instance : Decidable (set.Guarded data) :=
  inferInstanceAs (Decidable (_ ∧ _ ∧ _))

/-- The outline takes the block of the audit word, whatever the number. -/
theorem verdict_outline (set : Ruleset) (data : CallData) :
    set.outline.verdict data =
      match (Arch.ofAuditWord? data.arch).bind set.rules.get with
      | none => set.badArchAction
      | some rules =>
        match rules.find? fun rule => rule.applies data with
        | some rule => rule.action
        | none => set.defaultAction := by
  -- The words of the outline are those of the architectures.
  have hblock : (set.outline.blocks.find? fun block => block.word == data.arch.toNat) =
      ((Arch.ofAuditWord? data.arch).bind fun arch =>
        (set.rules.get arch).map fun rules => (arch, rules)).map set.outlineBlock := by
    rw [← find?_blocks, outline, List.find?_map]
    congr 2
    funext block
    rw [Bool.eq_iff_iff]
    simp [outlineBlock, UInt32.toNat_inj]
  rw [PseudoCode.verdict, hblock]
  cases Arch.ofAuditWord? data.arch with
  | none => rfl
  | some arch =>
    rw [Option.bind_some, Option.bind_some]
    cases set.rules.get arch with
    | none => rfl
    | some rules =>
      -- The first entry that applies stands for the first rule that does.
      have hentry : ((rules.map Rule.entry).find? fun entry => entry.applies data) =
          (rules.find? fun rule => rule.applies data).map Rule.entry := by
        rw [List.find?_map]
        congr 2
        funext rule
        exact rule.applies_entry
      simp only [Option.map_some, outlineBlock, hentry]
      cases rules.find? fun rule => rule.applies data with
      | none => rfl
      | some rule => rfl

/-- The outline decides as the rule set does where no guard stands in between. -/
theorem verdict_outline_of_not_guarded (h : ¬ set.Guarded data) :
    set.outline.verdict data = set.verdict data := by
  -- Without the guard the rules to measure against are all that the word gives.
  have hrules : set.rulesFor? data = (Arch.ofAuditWord? data.arch).bind set.rules.get := by
    rw [rulesFor?]
    cases ho : Arch.ofAuditWord? data.arch with
    | none => rfl
    | some arch =>
      have harch : arch.auditWord = data.arch := by simpa using List.find?_some ho
      dsimp only [Option.bind_some]
      split_ifs with hx
      · obtain ⟨rfl, hnumber⟩ := hx
        by_contra hne
        have hcovered : (set.rules.get .x8664).isSome :=
          Option.isSome_iff_ne_none.mpr fun hnone => hne hnone.symm
        exact h ⟨harch.symm, hnumber, hcovered⟩
      · rfl
  rw [verdict_outline, ← hrules]
  rfl

/-- Where the guard sends a call away, the outline shows the default action. -/
theorem verdict_of_guarded (h : set.Guarded data)
    (hr : ∀ rules, set.rules.get .x8664 = some rules → ∀ rule ∈ rules, rule.Sound .x8664) :
    set.outline.verdict data = set.defaultAction ∧ set.verdict data = set.badArchAction := by
  obtain ⟨harch, hnumber, hcovered⟩ := h
  obtain ⟨rules, hrules⟩ := Option.isSome_iff_exists.mp hcovered
  -- The numbers of the rules are too small for any of them to apply.
  have hfind : rules.find? (fun rule => rule.applies data) = none := by
    refine List.find?_eq_none.mpr fun rule hm ha => ?_
    have hlt := (hr rules hrules rule hm).number_lt
    have hsame : rule.call.number = data.number := by
      rw [Rule.applies, Bool.and_eq_true] at ha
      simpa using ha.1
    rw [hsame] at hlt
    exact absurd hnumber (UInt32.not_le.mpr hlt)
  constructor
  · rw [verdict_outline, harch, Arch.ofAuditWord?_auditWord, Option.bind_some, hrules]
    dsimp only
    rw [hfind]
  · rw [verdict, rulesFor?, harch, Arch.ofAuditWord?_auditWord]
    dsimp only
    rw [if_pos ⟨rfl, hnumber⟩]

end Ruleset

namespace Filter

/-- A filter that some run of requests has left behind and that compiles is listed as pseudo code
that decides as its program does, but for the calls that the program's guard sends away. The program
returns the action for bad architectures there, where the listing shows the default action. -/
theorem listing_shows_program {requests : List (String × Request)} {name : String}
    {filter : Filter} {state : FilterState} {program : Program}
    (hf : (Session.empty.run requests).filter? name = some filter)
    (hs : filter.state? = some state) (hp : filter.program = .ok program) :
    ∃ text code, filter.exportListing none = ⟨text.toUTF8.data.toList, .ok ()⟩ ∧
      read? text = some code ∧
      ∀ data, ∃ action, (program.run data).map Action.ofWord = some action ∧
        (¬ state.ruleset.Guarded data → code.verdict data = action) ∧
        (state.ruleset.Guarded data → code.verdict data = state.ruleset.defaultAction ∧
          action = state.ruleset.badArchAction) := by
  have hsound : state.Sound filter.capabilities :=
    Session.sound_empty.run requests name filter hf state hs
  have hcompiled : state.ruleset.compile = .ok program := by rw [← program_eq_compile hs, hp]
  refine ⟨state.ruleset.listingText, state.ruleset.outline, exportListing_none hs,
    hsound.read?_listingText, fun data => ⟨state.ruleset.verdict data, ?_, ?_, ?_⟩⟩
  · obtain ⟨hrun, hword⟩ := Ruleset.run_of_compile data hcompiled
    rw [hrun, Option.map_some, Action.ofWord_of_toWord? hword]
  · intro h
    exact Ruleset.verdict_outline_of_not_guarded h
  · intro h
    exact Ruleset.verdict_of_guarded h (hsound.rules .x8664)

/-- A rule of two conditions, one of them masked, is shown and carried out alike. -/
theorem listing_shows_program_write :
    let requests : List (String × Request) :=
      [("a", .make .allow ⟨6, none⟩),
        ("a", .change (.addRule ⟨1⟩ (.errno 1) [⟨0, .compare .eq 2⟩, ⟨2, .masked 0xff 0x10⟩]))]
    let data : CallData := ⟨1, 0xc000003e, 0, #v[2, 0, 0x110, 0, 0, 0]⟩
    ∃ filter program text code, (Session.empty.run requests).filter? "a" = some filter ∧
      filter.program = .ok program ∧
      filter.exportListing none = ⟨text.toUTF8.data.toList, .ok ()⟩ ∧ read? text = some code ∧
      program.run data = some 0x50001 ∧ code.verdict data = .errno 1 := by
  intro requests data
  obtain ⟨filter, state, program, hf, hs, hp, hrun, hguarded⟩ :
      ∃ filter state program, (Session.empty.run requests).filter? "a" = some filter ∧
        filter.state? = some state ∧ filter.program = .ok program ∧
        program.run data = some 0x50001 ∧ ¬ state.ruleset.Guarded data :=
    Session.exists_of_evaluated (by decide +kernel)
  obtain ⟨text, code, htext, hread, hall⟩ := listing_shows_program hf hs hp
  obtain ⟨action, haction, hshown, -⟩ := hall data
  have herrno : Action.errno 1 = action := by
    rw [hrun] at haction
    exact Option.some.inj haction
  exact ⟨filter, program, text, code, hf, hp, htext, hread, hrun, by rw [hshown hguarded, herrno]⟩

/-- A filter without rules kills threads for the first call of the second convention, and its listing
shows the call as allowed. -/
theorem listing_misses_guard :
    let requests : List (String × Request) := [("a", .make .allow ⟨6, none⟩)]
    let data : CallData := ⟨0x40000000, 0xc000003e, 0, #v[0, 0, 0, 0, 0, 0]⟩
    ∃ filter program text code, (Session.empty.run requests).filter? "a" = some filter ∧
      filter.program = .ok program ∧
      filter.exportListing none = ⟨text.toUTF8.data.toList, .ok ()⟩ ∧ read? text = some code ∧
      (program.run data).map Action.ofWord = some .killThread ∧ code.verdict data = .allow := by
  intro requests data
  obtain ⟨filter, state, program, hf, hs, hp, hrun, hshown⟩ :
      ∃ filter state program, (Session.empty.run requests).filter? "a" = some filter ∧
        filter.state? = some state ∧ filter.program = .ok program ∧
        (program.run data).map Action.ofWord = some .killThread ∧
        state.ruleset.outline.verdict data = .allow :=
    Session.exists_of_evaluated (by decide +kernel)
  have hsound : state.Sound filter.capabilities :=
    Session.sound_empty.run requests "a" filter hf state hs
  exact ⟨filter, program, state.ruleset.listingText, state.ruleset.outline, hf, hp,
    exportListing_none hs, hsound.read?_listingText, hrun, hshown⟩

end Filter

end SyscallFilter
