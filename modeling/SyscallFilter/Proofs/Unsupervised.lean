import Mathlib.Tactic
import SyscallFilter.CommandLine.Run
import SyscallFilter.Proofs.ActionWord
import SyscallFilter.Proofs.DeclaredVerdict
import SyscallFilter.Proofs.Installation

/-!
Filters for programs that run without a supervisor. A policy is turned down where its default action
or a rule needs a supervisor, and what is installed for any other policy hands no call over by
either. The action for bad architectures is not looked at: with that action, and with it alone, the
installed program hands over the calls that the policy does not cover, to nobody.
-/

namespace SyscallFilter

namespace Policy

/-- A call that a policy covers by no rule and no default: one through an architecture that is not
covered, or one of the second convention behind the x86_64 word. -/
def Foreign (policy : Policy) (data : CallData) : Prop :=
  ∀ arch, Arch.ofAuditWord? data.arch = some arch → policy.covers arch = true →
    arch = .x8664 ∧ Ruleset.x32Bit ≤ data.number.toUInt32

variable {policy : Policy} {data : CallData}

/-- Foreign calls get the action for bad architectures. -/
theorem verdict_of_foreign (h : policy.Foreign data) :
    policy.verdict data = policy.badArchAction.getD .killThread := by
  rw [verdict]
  cases ha : Arch.ofAuditWord? data.arch with
  | none => rfl
  | some arch =>
    dsimp only
    cases hc : policy.covers arch with
    | false => rfl
    | true => rw [Bool.not_true, if_neg Bool.false_ne_true, if_pos (h arch ha hc)]

/-- Every other call gets the default action or that of a rule. -/
theorem verdict_of_not_foreign (h : ¬ policy.Foreign data) :
    policy.verdict data = policy.defaultAction ∨
      ∃ clause ∈ policy.rules, policy.verdict data = clause.action := by
  rw [Foreign] at h
  push Not at h
  obtain ⟨arch, ha, hc, hconvention⟩ := h
  have hx : ¬ (arch = .x8664 ∧ Ruleset.x32Bit ≤ data.number.toUInt32) := fun hx =>
    hconvention hx.1 hx.2
  rw [verdict, ha]
  dsimp only
  rw [hc, Bool.not_true, if_neg Bool.false_ne_true, if_neg hx]
  cases hf : policy.rules.find? fun clause => clause.applies arch data with
  | none => exact .inl rfl
  | some clause => exact .inr ⟨clause, List.mem_of_find?_eq_some hf, rfl⟩

end Policy

namespace CommandLine

variable {policy : Policy} {filter : Filter} {kernel : ProbeKernel} {path : String}
  {content : Except Errno (List UInt8)}

/-- A policy that is not turned down hands over calls by the action for bad architectures, if at
all. -/
theorem verdict_eq_notify_iff (h : needsSupervisor policy = false) (data : CallData) :
    policy.verdict data = .notify ↔
      policy.badArchAction = some .notify ∧ policy.Foreign data := by
  rw [needsSupervisor, Bool.or_eq_false_iff] at h
  obtain ⟨hdefault, hrules⟩ := h
  constructor
  · intro hv
    by_cases hf : policy.Foreign data
    · rw [Policy.verdict_of_foreign hf] at hv
      cases hb : policy.badArchAction with
      | none =>
        rw [hb] at hv
        nomatch hv
      | some action =>
        rw [hb, Option.getD_some] at hv
        exact ⟨by rw [hv], hf⟩
    · -- The default action and the rules have been looked at.
      rcases Policy.verdict_of_not_foreign hf with hd | ⟨clause, hm, hc⟩
      · rw [← hd, hv] at hdefault
        nomatch hdefault
      · have hclause := List.any_eq_false.mp hrules clause hm
        rw [← hc, hv] at hclause
        exact absurd rfl hclause
  · intro ⟨hb, hf⟩
    rw [Policy.verdict_of_foreign hf, hb]
    rfl

/-- A program is run under a filter that was built from the policy in the file, and the policy was
not turned down. -/
theorem of_filterToRun (h : filterToRun kernel path content = .ok filter) :
    ∃ policy available, policyIn path content = .ok policy ∧ needsSupervisor policy = false ∧
      policy.build available = .ok filter := by
  obtain ⟨policy, hp, h⟩ := exists_of_bind_eq_ok h
  cases hn : needsSupervisor policy with
  | true =>
    rw [hn] at h
    nomatch h
  | false =>
    rw [hn] at h
    have hbuild : ((KernelView.fresh kernel).detect).2.bind policy.build = .ok filter :=
      mapError_eq_ok h
    obtain ⟨available, -, hb⟩ := exists_of_bind_eq_ok hbuild
    exact ⟨policy, available, hp, hn, hb⟩

/-- Nothing but the policy decides which filter a program is run under. -/
theorem filterToRun_eq_build (hp : policyIn path content = .ok policy)
    (hn : needsSupervisor policy = false) :
    filterToRun kernel path content = build kernel path policy := by
  rw [filterToRun, hp]
  show (if needsSupervisor policy then throw _ else build kernel path policy) = _
  rw [hn, if_neg Bool.false_ne_true]

/-- A filter is built where nothing is left open, to look at it and at its program. -/
theorem exists_of_evaluated {P : Filter → Program → Prop}
    [∀ filter program, Decidable (P filter program)]
    (h : ((build kernel path policy).toOption.any fun filter =>
      filter.program.toOption.any fun program => decide (P filter program)) = true) :
    ∃ filter program, build kernel path policy = .ok filter ∧ filter.program = .ok program ∧
      P filter program := by
  obtain ⟨filter, hf, h⟩ := exists_ok_of_any h
  obtain ⟨program, hp, h⟩ := exists_ok_of_any h
  exact ⟨filter, program, hf, hp, of_decide_eq_true h⟩

end CommandLine

namespace CommandLine

variable {filter : Filter} {kernel : ProbeKernel} {path : String}
  {content : Except Errno (List UInt8)}

/-- What is installed for a program that runs without a supervisor hands a call to a supervisor
exactly where the call is foreign to the policy and the policy wants such calls handed over. -/
theorem installed_hands_over_iff (hf : filterToRun kernel path content = .ok filter)
    {load : LoadKernel} {flags : InstallFlags} {program : Program}
    (hi : .install flags program ∈ (filter.load load).calls) (data : CallData) :
    ∃ policy word, policyIn path content = .ok policy ∧ program.run data = some word ∧
      (Action.ofWord word = .notify ↔
        policy.badArchAction = some .notify ∧ policy.Foreign data) := by
  obtain ⟨policy, available, hp, hn, hb⟩ := of_filterToRun hf
  have hprogram : filter.program = .ok program := Filter.program_of_installed hi
  obtain ⟨word, hw, hr⟩ := Policy.program_returns_verdict hb hprogram data
  refine ⟨policy, word, hp, hr, ?_⟩
  rw [Action.ofWord_of_toWord? hw]
  exact verdict_eq_notify_iff hn data

/-- The calls of the second convention are handed over, although those of the first are not. -/
theorem installed_hands_over_iff_mkdir :
    let text := "\x7b\"default_action\":\"allow\",\"bad_arch_action\":\"notify\"," ++
      "\"rules\":[[\"mkdir\",\x7b\"errno\":1\x7d]]\x7d"
    let kernel : ProbeKernel := ⟨"6.1.0-13-amd64".toUTF8.toList, fun _ => true⟩
    let load : LoadKernel := ⟨.ok (), fun _ _ => 0⟩
    let args : Args := #v[0, 0, 0, 0, 0, 0]
    ∃ filter flags program, filterToRun kernel "p.json" (.ok text.toUTF8.toList) = .ok filter ∧
      .install flags program ∈ (filter.load load).calls ∧
      (program.run ⟨83, 0xc000003e, 0, args⟩).map Action.ofWord ≠ some .notify ∧
      (program.run ⟨0x40000053, 0xc000003e, 0, args⟩).map Action.ofWord = some .notify := by
  intro text kernel load args
  let policy : Policy := ⟨.allow, some .notify, [], .empty, none, [⟨"mkdir", .errno 1, []⟩]⟩
  have hp : policyIn "p.json" (.ok text.toUTF8.toList) = .ok policy := by decide +kernel
  obtain ⟨filter, program, hb, -, hcalls⟩ :
      ∃ filter program, build kernel "p.json" policy = .ok filter ∧
        filter.program = .ok program ∧ (filter.load load).calls =
          [.noNewPrivs, .install ⟨false, false, false, false, false⟩ program] :=
    exists_of_evaluated (by decide +kernel)
  have hf : filterToRun kernel "p.json" (.ok text.toUTF8.toList) = .ok filter :=
    (filterToRun_eq_build hp (by decide)).trans hb
  have hi : .install ⟨false, false, false, false, false⟩ program ∈ (filter.load load).calls := by
    rw [hcalls]
    exact List.mem_cons_of_mem _ (List.mem_singleton_self _)
  refine ⟨filter, _, program, hf, hi, ?_, ?_⟩
  · obtain ⟨found, word, hfound, hr, hiff⟩ :=
      installed_hands_over_iff hf hi ⟨83, 0xc000003e, 0, args⟩
    obtain rfl : policy = found := Except.ok.inj (hp.symm.trans hfound)
    rw [hr, Option.map_some, Ne, Option.some.injEq, hiff]
    -- The call is covered, and of the first convention.
    intro hboth
    exact absurd (hboth.2 .x8664 rfl rfl).2 (by decide)
  · obtain ⟨found, word, hfound, hr, hiff⟩ :=
      installed_hands_over_iff hf hi ⟨0x40000053, 0xc000003e, 0, args⟩
    obtain rfl : policy = found := Except.ok.inj (hp.symm.trans hfound)
    rw [hr, Option.map_some, Option.some.injEq, hiff]
    refine ⟨rfl, fun arch ha _ => ?_⟩
    obtain rfl : Arch.x8664 = arch := Option.some.inj ha
    exact ⟨rfl, by decide⟩

/-- A policy without rules that wants foreign calls handed over is not turned down. What is
installed for it comes with no listener, and hands over every call of a second architecture. -/
theorem installed_without_supervisor :
    let text := "\x7b\"default_action\":\"allow\",\"bad_arch_action\":\"notify\"\x7d"
    let kernel : ProbeKernel := ⟨"6.1.0-13-amd64".toUTF8.toList, fun _ => true⟩
    let load : LoadKernel := ⟨.ok (), fun _ _ => 0⟩
    let call : CallData := ⟨0, 0x40000028, 0, #v[0, 0, 0, 0, 0, 0]⟩
    let flags : InstallFlags := ⟨false, false, false, false, false⟩
    ∃ filter program, filterToRun kernel "p.json" (.ok text.toUTF8.toList) = .ok filter ∧
      filter.program = .ok program ∧
      (filter.load load).calls = [.noNewPrivs, .install flags program] ∧
      (program.run call).map Action.ofWord = some .notify := by
  intro text kernel load call flags
  let policy : Policy := ⟨.allow, some .notify, [], .empty, none, []⟩
  have hp : policyIn "p.json" (.ok text.toUTF8.toList) = .ok policy := by decide +kernel
  rw [filterToRun_eq_build hp (by decide)]
  exact exists_of_evaluated (by decide +kernel)

end CommandLine

end SyscallFilter
