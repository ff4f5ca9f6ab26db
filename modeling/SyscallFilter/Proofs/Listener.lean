import Mathlib.Tactic
import SyscallFilter.Filter.Load
import SyscallFilter.Proofs.ActionWord
import SyscallFilter.Proofs.Decision
import SyscallFilter.Proofs.Requests

/-!
When a load asks for a listener. Wherever the default action or a rule hands a call to a supervisor,
the first load of a filter asks for the listener that the supervisor needs. The action for bad
architectures is not looked at: a filter that hands over calls by that action alone is loaded without
a listener.
-/

namespace SyscallFilter

/-- The word of an installation has the bit of a new listener where one is asked for. -/
theorem InstallFlags.word_and_newListener (flags : InstallFlags) :
    flags.word &&& 8 = if flags.newListener then 8 else 0 := by
  obtain ⟨threadSync, log, speculation, newListener, threadSyncError⟩ := flags
  revert threadSync log speculation newListener threadSyncError
  decide

/-- A call that is measured against rules and handed to a supervisor is handed over by a rule or by
the default action. -/
theorem FilterState.mayNotify_of_verdict {state : FilterState} {data : CallData}
    (hr : state.ruleset.rulesFor? data ≠ none) (hv : state.ruleset.verdict data = .notify) :
    state.mayNotify := by
  rw [mayNotify, Bool.or_eq_true]
  rcases state.ruleset.verdict_cases data with ⟨hnone, -⟩ | ⟨block, hb, -, hd | ⟨rule, hm, ha⟩⟩
  · exact absurd hnone hr
  · left
    rw [← hd, hv]
    rfl
  · right
    have hrule : rule.action = .notify := by rw [← ha, hv]
    have hblock : (block.2.any fun rule => rule.action == .notify) = true :=
      List.any_eq_true.mpr ⟨rule, hm, by rw [hrule]; rfl⟩
    exact List.any_eq_true.mpr ⟨block, hb, hblock⟩

namespace Filter

variable {filter : Filter} {state : FilterState} {program : Program}

/-- The installation of a load is the last of its calls, and it is made unless the ban on new
privileges fails before. -/
theorem load_calls (hs : filter.state? = some state) (hp : filter.program = .ok program)
    (kernel : LoadKernel) :
    (filter.load kernel).calls =
      match state.attributes.noNewPrivs, kernel.noNewPrivs with
      | true, .error _ => [.noNewPrivs]
      | true, .ok _ => [.noNewPrivs, .install (state.installFlags filter.capabilities) program]
      | false, _ => [.install (state.installFlags filter.capabilities) program] := by
  have hstate : filter.state = .ok state := by rw [Filter.state, hs]
  rw [load, hstate, hp]
  dsimp only
  cases state.attributes.noNewPrivs with
  | false => rfl
  | true => cases kernel.noNewPrivs <;> rfl

/-- Where the program of a filter without a listener hands a call to a supervisor, and not as a call
for bad architectures, every installation at level 6 asks for a listener, and there is one unless the
ban on new privileges fails before. -/
theorem install_asks_listener {data : CallData} (hs : filter.state? = some state)
    (hlevel : 6 ≤ filter.capabilities.level) (hlistener : state.listener = none)
    (hp : filter.program = .ok program)
    (hv : (program.run data).map Action.ofWord = some .notify)
    (hbad : state.ruleset.badArchAction = .notify → state.ruleset.rulesFor? data ≠ none)
    (kernel : LoadKernel) :
    (∀ flags installed, .install flags installed ∈ (filter.load kernel).calls →
      installed = program ∧ flags.newListener = true ∧ flags.word &&& 8 = 8) ∧
    ((state.attributes.noNewPrivs = true → kernel.noNewPrivs = .ok ()) →
      ∃ flags, .install flags program ∈ (filter.load kernel).calls) := by
  have hcompiled : state.ruleset.compile = .ok program := by rw [← program_eq_compile hs, hp]
  -- The word that is returned stands for the verdict, so the verdict is read off it.
  obtain ⟨hrun, hword⟩ := Ruleset.run_of_compile data hcompiled
  have hverdict : state.ruleset.verdict data = .notify := by
    rw [hrun, Option.map_some, Action.ofWord_of_toWord? hword] at hv
    exact Option.some.inj hv
  have hmeasured : state.ruleset.rulesFor? data ≠ none := by
    rcases state.ruleset.verdict_cases data with ⟨-, hb⟩ | ⟨block, -, hrules, -⟩
    · exact hbad (by rw [← hb, hverdict])
    · rw [hrules]
      exact Option.some_ne_none _
  have hnotify : state.mayNotify = true := state.mayNotify_of_verdict hmeasured hverdict
  have hsupports : filter.capabilities.supports .notification = true := by
    rw [Capabilities.supports, decide_eq_true_eq]
    exact hlevel
  have hasked : (state.installFlags filter.capabilities).newListener = true := by
    simp only [FilterState.installFlags, hsupports, hnotify, hlistener, Option.isNone_none,
      Bool.and_self]
  have hbit : (state.installFlags filter.capabilities).word &&& 8 = 8 := by
    rw [InstallFlags.word_and_newListener, if_pos hasked]
  have hcalls := load_calls hs hp kernel
  constructor
  · intro flags installed hi
    -- Whichever calls there are, only the last one installs anything.
    have hsame : flags = state.installFlags filter.capabilities ∧ installed = program := by
      rw [hcalls] at hi
      split at hi
      · simp at hi
      · simpa using hi
      · simpa using hi
    rw [hsame.1]
    exact ⟨hsame.2, hasked, hbit⟩
  · intro hfirst
    refine ⟨state.installFlags filter.capabilities, ?_⟩
    rw [hcalls]
    cases hban : state.attributes.noNewPrivs with
    | false => exact List.mem_singleton_self _
    | true =>
      rw [hfirst hban]
      exact List.mem_cons_of_mem _ (List.mem_singleton_self _)

/-- A rule hands calls over under a condition, and so does the action for bad architectures. -/
theorem install_asks_listener_mkdir :
    let requests : List (String × Request) :=
      [("a", .make .allow ⟨6, none⟩), ("a", .change (.setBadArchAction .notify)),
        ("a", .change (.addRule ⟨83⟩ .notify [⟨1, .compare .ge 8⟩]))]
    let kernel : LoadKernel := ⟨.ok (), fun _ _ => 3⟩
    ∃ filter flags program, (Session.empty.run requests).filter? "a" = some filter ∧
      .install flags program ∈ (filter.load kernel).calls ∧ flags.word &&& 8 = 8 := by
  intro requests kernel
  let data : CallData := ⟨83, 0xc000003e, 0, #v[0, 9, 0, 0, 0, 0]⟩
  obtain ⟨filter, state, program, hf, hs, hp, hlevel, hlistener, hv, hr⟩ :
      ∃ filter state program, (Session.empty.run requests).filter? "a" = some filter ∧
        filter.state? = some state ∧ filter.program = .ok program ∧
        6 ≤ filter.capabilities.level ∧ state.listener = none ∧
        (program.run data).map Action.ofWord = some .notify ∧
        state.ruleset.rulesFor? data ≠ none :=
    Session.exists_of_evaluated (by decide +kernel)
  obtain ⟨hall, hone⟩ := install_asks_listener hs hlevel hlistener hp hv (fun _ => hr) kernel
  obtain ⟨flags, hi⟩ := hone fun _ => rfl
  exact ⟨filter, flags, program, hf, hi, (hall flags program hi).2.2⟩

/-- A filter that allows every call it knows and hands over every other is loaded without a
listener, although its program hands over the calls of every architecture but the native one. -/
theorem install_misses_listener :
    let requests : List (String × Request) :=
      [("a", .make .allow ⟨6, none⟩), ("a", .change (.setBadArchAction .notify))]
    let kernel : LoadKernel := ⟨.ok (), fun _ _ => 0⟩
    let data : CallData := ⟨0, 0x40000028, 0, #v[0, 0, 0, 0, 0, 0]⟩
    let flags : InstallFlags := ⟨false, false, false, false, false⟩
    ∃ filter state program, (Session.empty.run requests).filter? "a" = some filter ∧
      filter.state? = some state ∧ filter.program = .ok program ∧
      6 ≤ filter.capabilities.level ∧ state.listener = none ∧
      (program.run data).map Action.ofWord = some .notify ∧
      (filter.load kernel).calls = [.noNewPrivs, .install flags program] ∧
      flags.word &&& 8 = 0 := by
  intro requests kernel data flags
  exact Session.exists_of_evaluated (by decide +kernel)

end Filter

end SyscallFilter
