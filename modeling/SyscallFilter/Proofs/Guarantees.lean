import Mathlib.Tactic
import SyscallFilter.Proofs.ListingOutline
import SyscallFilter.Proofs.Requests
import SyscallFilter.Proofs.Size

/-!
What every filter guarantees that a run of requests leaves behind. The guarantees are stated without
the checks that uphold them, on the actions, the numbers, the conditions and the level themselves.
-/

namespace SyscallFilter

namespace Condition

/-- The operands that a condition is asked for with. -/
def operands (condition : Condition) : List UInt64 :=
  match condition.test with
  | .compare _ value => [value]
  | .masked mask value => [mask, value]

/-- What a condition guarantees: it is the one that its argument, operator and operands ask for. -/
structure Guarantees (condition : Condition) : Prop where
  arg_lt : condition.arg.val < 6
  operator : condition.test.operator ≠ .invalid
  operand2 : condition.test.operator ≠ .maskedEq → condition.test.operand2 = 0
  asked : make condition.arg condition.test.operator condition.operands = .ok condition

theorem guarantees (condition : Condition) : condition.Guarantees := by
  obtain ⟨arg, test⟩ := condition
  have hmake (operator : Operator) (operands : List UInt64)
      (h : testOf operator operands = .ok test) : make arg operator operands = .ok ⟨arg, test⟩ := by
    rw [make, dif_pos arg.isLt, h]
    rfl
  -- Only a masked test has two operands, and only its second one may be other than zero.
  cases test with
  | compare comparison value =>
    have hoperator : comparison.operator ≠ .invalid := by cases comparison <;> decide
    have htest : testOf comparison.operator [value] = .ok (.compare comparison value) := by
      cases comparison <;> rfl
    exact ⟨arg.isLt, hoperator, fun _ => rfl, hmake comparison.operator [value] htest⟩
  | masked mask value =>
    exact ⟨arg.isLt, Operator.noConfusion, fun h => absurd rfl h,
      hmake .maskedEq [mask, value] rfl⟩

end Condition

/-- What a rule under an architecture guarantees. -/
structure Rule.Guarantees (arch : Arch) (rule : Rule) : Prop where
  action : rule.action ≠ .invalid
  number : 0 ≤ rule.call.number
  named : ∃ row ∈ Syscall.table, row.number? arch = some rule.call.number.toNatClampNeg ∧
    rule.call.name? arch = some row.name
  few : rule.conditions.length ≤ 6
  distinct : (rule.conditions.map fun condition => condition.arg).Nodup
  conditions : ∀ condition ∈ rule.conditions, condition.Guarantees

/-- What a filter that has not been released guarantees at its level. -/
structure FilterState.Guarantees (level : Nat) (state : FilterState) : Prop where
  covers : state.ruleset.arches ≠ []
  default_action : state.ruleset.defaultAction ≠ .invalid
  bad_arch_action : state.ruleset.badArchAction ≠ .invalid
  rules : ∀ arch rules, state.ruleset.rules.get arch = some rules →
    ∀ rule ∈ rules, rule.Guarantees arch
  log : state.attributes.log = true → 3 ≤ level
  speculation : state.attributes.speculation = true → 4 ≤ level
  threadSync : state.attributes.threadSync = true → 2 ≤ level

theorem Action.ne_invalid {action : Action} (h : action.isValid) : action ≠ .invalid := by
  simpa [isValid] using h

theorem Rule.Sound.guarantees {arch : Arch} {rule : Rule} (h : rule.Sound arch) :
    rule.Guarantees arch := by
  obtain ⟨name, hname⟩ := Option.isSome_iff_exists.mp h.named
  obtain ⟨hpos, row, hrow, rfl, hnumber⟩ := Syscall.exists_of_name? hname
  exact ⟨Action.ne_invalid h.action_valid, hpos, ⟨row, hrow, hnumber, hname⟩,
    h.length_conditions_le, h.distinct, fun condition _ => condition.guarantees⟩

theorem FilterState.Sound.guarantees {capabilities : Capabilities} {state : FilterState}
    (h : state.Sound capabilities) : state.Guarantees capabilities.level where
  covers := by
    obtain ⟨arch, rules, hr⟩ := h.covers
    have hmem : arch ∈ state.ruleset.arches :=
      List.mem_filter.mpr ⟨arch.mem_all, by rw [hr]; rfl⟩
    exact List.ne_nil_of_mem hmem
  default_action := Action.ne_invalid h.default_valid
  bad_arch_action := Action.ne_invalid h.bad_valid
  rules arch rules hr rule hm := (h.rules arch rules hr rule hm).guarantees
  log hl := of_decide_eq_true (h.log hl)
  speculation hs := of_decide_eq_true (h.speculation hs)
  threadSync ht := of_decide_eq_true (h.threadSync ht)

/-- What arrives is always the beginning of what was to be delivered. -/
theorem Delivery.ofPieces_prefix (room : Option Nat) (pieces : List (List UInt8)) :
    (ofPieces room pieces).bytes <+: pieces.flatten := by
  induction pieces generalizing room with
  | nil => exact List.nil_prefix
  | cons piece rest ih =>
    rw [List.flatten_cons]
    cases room with
    | none => exact (List.prefix_append_right_inj piece).mpr (ih none)
    | some room =>
      rw [ofPieces]
      -- Either the piece fits and the rest has less room, or it fills the room up.
      split_ifs
      · exact (List.prefix_append_right_inj piece).mpr (ih _)
      · exact (List.take_prefix room piece).trans (List.prefix_append piece rest.flatten)

namespace Filter

/-- Every filter that some run of requests has left behind and that has not been released gives the
guarantees of its own level. Its listing, whatever room there is for it, is the beginning of a text
without question marks, so no call in it is left without a name. -/
theorem keeps_guarantees {requests : List (String × Request)} {name : String} {filter : Filter}
    {state : FilterState} (hf : (Session.empty.run requests).filter? name = some filter)
    (hs : filter.state? = some state) :
    state.Guarantees filter.capabilities.level ∧
      ∃ text : String, '?' ∉ text.toList ∧
        filter.exportListing none = ⟨text.toUTF8.data.toList, .ok ()⟩ ∧
        ∀ room, (filter.exportListing room).bytes <+: text.toUTF8.data.toList := by
  have hsound : state.Sound filter.capabilities :=
    Session.sound_empty.run requests name filter hf state hs
  refine ⟨hsound.guarantees, state.ruleset.listingText, hsound.not_mem_listingText,
    exportListing_none hs, fun room => ?_⟩
  rw [exportListing_eq hs, Ruleset.bytes_listingText]
  exact Delivery.ofPieces_prefix room _

/-- A filter of level 4 that has taken over the rules of one of level 6 and has been loaded. -/
theorem keeps_guarantees_merged :
    let requests : List (String × Request) :=
      [("a", .make .allow ⟨4, none⟩), ("a", .change (.setSpeculation true)),
        ("a", .change (.addArch .arm)), ("a", .change (.removeArch .x8664)),
        ("a", .change (.addRule ⟨2⟩ .trap [])), ("b", .make .allow ⟨6, none⟩),
        ("b", .change (.setSpeculation true)), ("b", .change (.setDefaultAction .invalid)),
        ("b", .change (.addRule ⟨-1⟩ .trap [])),
        ("b", .change (.addRule ⟨2⟩ (.errno 13) [⟨1, .masked 3 1⟩, ⟨0, .compare .ne 0⟩])),
        ("a", .merge "b"), ("a", .change (.removeArch .x86)),
        ("a", .load ⟨.ok (), fun _ _ => 0⟩)]
    ∃ filter state, (Session.empty.run requests).filter? "a" = some filter ∧
      filter.state? = some state ∧ state.attributes.speculation = true ∧ state.loaded = true ∧
      state.ruleset.rules.get .arm = some [⟨⟨5⟩, .trap, []⟩] ∧
      state.ruleset.rules.get .x8664 =
        some [⟨⟨2⟩, .errno 13, [⟨1, .masked 3 1⟩, ⟨0, .compare .ne 0⟩]⟩] ∧
      state.Guarantees 4 ∧ ∃ text : String, '?' ∉ text.toList ∧
        filter.exportListing none = ⟨text.toUTF8.data.toList, .ok ()⟩ := by
  intro requests
  obtain ⟨filter, state, -, hf, hs, -, hlevel, hspeculation, hloaded, harm, hnative⟩ :
      ∃ filter state program, (Session.empty.run requests).filter? "a" = some filter ∧
        filter.state? = some state ∧ filter.program = .ok program ∧
        filter.capabilities.level = 4 ∧ state.attributes.speculation = true ∧
        state.loaded = true ∧ state.ruleset.rules.get .arm = some [⟨⟨5⟩, .trap, []⟩] ∧
        state.ruleset.rules.get .x8664 =
          some [⟨⟨2⟩, .errno 13, [⟨1, .masked 3 1⟩, ⟨0, .compare .ne 0⟩]⟩] :=
    Session.exists_of_evaluated (by decide +kernel)
  obtain ⟨hguarantees, text, hplain, htext, -⟩ := keeps_guarantees hf hs
  rw [hlevel] at hguarantees
  exact ⟨filter, state, hf, hs, hspeculation, hloaded, harm, hnative, hguarantees, text, hplain,
    htext⟩

end Filter

end SyscallFilter
