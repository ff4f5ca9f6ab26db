import Mathlib.Tactic
import SyscallFilter.Proofs.Decision
import SyscallFilter.Proofs.History
import SyscallFilter.Proofs.Size

/-!
When two filters merge and what the merged filter decides. A merge succeeds where the two agree in
everything but their architectures, of which they have none in common; it is refused for the first
thing that stands against it. The merged filter decides each call as the one of the two did that had
the architecture of the call.
-/

namespace SyscallFilter

namespace Arch

/-- Searching the listing finds the first architecture of those looked for. -/
theorem find?_all_eq_some_iff {p : Arch → Bool} {arch : Arch} :
    all.find? p = some arch ↔
      p arch = true ∧ ∀ other, p other = true → all.idxOf arch ≤ all.idxOf other := by
  have hleast {found : Arch} (hf : all.find? p = some found) (other : Arch) (ho : p other = true) :
      all.idxOf found ≤ all.idxOf other := by
    obtain ⟨-, before, behind, hall, hbefore⟩ := List.find?_eq_some_iff_append.mp hf
    -- Nothing that is looked for stands in front of what is found.
    have hbehind (sought : Arch) (hs : p sought = true) : sought ∉ before :=
      fun hm => by simpa [hs] using hbefore sought hm
    rw [hall, List.idxOf_append_of_notMem (hbehind found (List.find?_some hf)),
      List.idxOf_append_of_notMem (hbehind other ho), List.idxOf_cons_self]
    omega
  constructor
  · intro hf
    exact ⟨List.find?_some hf, hleast hf⟩
  · rintro ⟨hp, hl⟩
    obtain ⟨found, hf⟩ := Option.isSome_iff_exists.mp
      (List.find?_isSome.mpr ⟨arch, arch.mem_all, hp⟩)
    have hidx : all.idxOf found = all.idxOf arch :=
      Nat.le_antisymm (hleast hf arch hp) (hl found (List.find?_some hf))
    rw [hf, (List.idxOf_inj found.mem_all).mp hidx]

end Arch

namespace Ruleset

variable {set other : Ruleset}

/-- A call is decided by the actions for other calls and the rules of the architecture it came
through. -/
theorem verdict_congr {data : CallData} (hd : set.defaultAction = other.defaultAction)
    (hb : set.badArchAction = other.badArchAction)
    (hr : ∀ arch, arch.auditWord = data.arch → set.rules.get arch = other.rules.get arch) :
    set.verdict data = other.verdict data := by
  have hrules : set.rulesFor? data = other.rulesFor? data := by
    rw [rulesFor?, rulesFor?]
    cases ho : Arch.ofAuditWord? data.arch with
    | none => rfl
    | some arch =>
      have hword : arch.auditWord = data.arch := by simpa using List.find?_some ho
      simp only [hr arch hword]
  rw [verdict, verdict, hrules, hd, hb]

/-- The blocks of a rule set stand in the same order in one that holds its lists. -/
theorem blocks_sublist
    (h : ∀ arch rules, set.rules.get arch = some rules → other.rules.get arch = some rules) :
    set.blocks.Sublist other.blocks := by
  have hfilter : set.blocks = other.blocks.filter fun block => (set.rules.get block.1).isSome := by
    rw [blocks, blocks, List.filter_filterMap]
    congr 1
    funext arch
    cases hr : set.rules.get arch with
    | none => cases other.rules.get arch <;> simp [hr, Option.filter]
    | some rules => simp [h arch rules hr, hr, Option.filter]
  rw [hfilter]
  exact List.filter_sublist

/-- A rule set is no larger than one that holds its lists. -/
theorem size_le
    (h : ∀ arch rules, set.rules.get arch = some rules → other.rules.get arch = some rules) :
    set.size ≤ other.size := by
  have hblocks : set.blocks.Sublist other.blocks := blocks_sublist h
  have hcount : set.blocks.length ≤ other.blocks.length := hblocks.length_le
  have hsum : (set.blocks.map blockSize).sum ≤ (other.blocks.map blockSize).sum :=
    (hblocks.map blockSize).sum_le_sum fun _ _ => Nat.zero_le _
  rw [size, size, ← map_fst_blocks, ← map_fst_blocks, List.length_map, List.length_map]
  omega

end Ruleset

namespace FilterState

variable {target source : FilterState}

/-- Whether an architecture is in both filters. -/
def Shares (target source : FilterState) (arch : Arch) : Prop :=
  (target.ruleset.rules.get arch).isSome ∧ (source.ruleset.rules.get arch).isSome

/-- Filters go together that agree in everything but their architectures and share none of those. -/
structure Joinable (target source : FilterState) : Prop where
  default_action : target.ruleset.defaultAction = source.ruleset.defaultAction
  bad_arch_action : target.ruleset.badArchAction = source.ruleset.badArchAction
  attributes : target.attributes = source.attributes
  apart : ∀ arch, ¬ target.Shares source arch

/-- A respect in which two filters do not go together, where nothing that comes before it stands
against them. The first of several shared architectures is the first one in the listing. -/
inductive PartsFirst (target source : FilterState) : MergeConflict → Prop
  | defaultAction
      (differ : target.ruleset.defaultAction ≠ source.ruleset.defaultAction) :
      PartsFirst target source .defaultAction
  | badArchAction
      (default_action : target.ruleset.defaultAction = source.ruleset.defaultAction)
      (differ : target.ruleset.badArchAction ≠ source.ruleset.badArchAction) :
      PartsFirst target source .badArchAction
  | attributes
      (default_action : target.ruleset.defaultAction = source.ruleset.defaultAction)
      (bad_arch_action : target.ruleset.badArchAction = source.ruleset.badArchAction)
      (differ : target.attributes ≠ source.attributes) :
      PartsFirst target source .attributes
  | sharedArch {arch : Arch}
      (default_action : target.ruleset.defaultAction = source.ruleset.defaultAction)
      (bad_arch_action : target.ruleset.badArchAction = source.ruleset.badArchAction)
      (attributes : target.attributes = source.attributes) (shared : target.Shares source arch)
      (first : ∀ other, target.Shares source other → Arch.all.idxOf arch ≤ Arch.all.idxOf other) :
      PartsFirst target source (.sharedArch arch)

theorem PartsFirst.not_joinable {conflict : MergeConflict} (h : target.PartsFirst source conflict) :
    ¬ target.Joinable source := by
  intro hj
  cases h with
  | defaultAction differ => exact differ hj.default_action
  | badArchAction _ differ => exact differ hj.bad_arch_action
  | attributes _ _ differ => exact differ hj.attributes
  | sharedArch _ _ _ shared _ => exact hj.apart _ shared

/-- Looking through the source's architectures for one of the target's finds the shared ones. -/
theorem find?_shared (target source : FilterState) :
    (source.ruleset.arches.find? fun arch => (target.ruleset.rules.get arch).isSome) =
      Arch.all.find? fun arch =>
        (source.ruleset.rules.get arch).isSome && (target.ruleset.rules.get arch).isSome := by
  rw [Ruleset.arches, List.find?_filter]
  congr 1
  funext arch
  simp

/-- The check of a merge finds what parts two filters first, and nothing where they go together. -/
theorem conflict?_cases (target source : FilterState) :
    (target.conflict? source = none ∧ target.Joinable source) ∨
      ∃ conflict, target.conflict? source = some conflict ∧ target.PartsFirst source conflict := by
  rw [conflict?, find?_shared]
  split_ifs with hd hb ha
  · exact .inr ⟨_, rfl, .defaultAction hd⟩
  · exact .inr ⟨_, rfl, .badArchAction (not_not.mp hd) hb⟩
  · exact .inr ⟨_, rfl, .attributes (not_not.mp hd) (not_not.mp hb) ha⟩
  · have hshares (arch : Arch) : target.Shares source arch ↔
        ((source.ruleset.rules.get arch).isSome && (target.ruleset.rules.get arch).isSome) =
          true := by
      rw [Shares, Bool.and_eq_true, and_comm]
    cases hf : Arch.all.find? fun arch =>
        (source.ruleset.rules.get arch).isSome && (target.ruleset.rules.get arch).isSome with
    | none =>
      refine .inl ⟨rfl, not_not.mp hd, not_not.mp hb, not_not.mp ha, fun arch hs => ?_⟩
      exact List.find?_eq_none.mp hf arch arch.mem_all ((hshares arch).mp hs)
    | some arch =>
      obtain ⟨hshared, hfirst⟩ := Arch.find?_all_eq_some_iff.mp hf
      exact .inr ⟨_, rfl, .sharedArch (not_not.mp hd) (not_not.mp hb) (not_not.mp ha)
        ((hshares arch).mpr hshared) fun other ho => hfirst other ((hshares other).mp ho)⟩

namespace Joinable

variable (h : target.Joinable source)

include h

theorem get_eq_none {arch : Arch} (ht : (target.ruleset.rules.get arch).isSome) :
    source.ruleset.rules.get arch = none := by
  by_contra hs
  exact h.apart arch ⟨ht, Option.isSome_iff_ne_none.mpr hs⟩

/-- The target's lists are among those of the merged filter. -/
theorem get_absorb_of_target {arch : Arch} {rules : List Rule}
    (hr : target.ruleset.rules.get arch = some rules) :
    (target.absorb source).ruleset.rules.get arch = some rules := by
  rw [absorb, PerArch.get_ofFn, h.get_eq_none (by rw [hr]; rfl), hr, Option.none_or]

omit h in
/-- So are the source's. -/
theorem get_absorb_of_source {arch : Arch} {rules : List Rule}
    (hr : source.ruleset.rules.get arch = some rules) :
    (target.absorb source).ruleset.rules.get arch = some rules := by
  rw [absorb, PerArch.get_ofFn, hr, Option.some_or]

/-- The merged filter decides a call through one of the target's architectures as the target does. -/
theorem verdict_absorb_of_target {data : CallData} {arch : Arch} (hw : arch.auditWord = data.arch)
    (hc : (target.ruleset.rules.get arch).isSome) :
    (target.absorb source).ruleset.verdict data = target.ruleset.verdict data := by
  refine Ruleset.verdict_congr rfl rfl fun other ho => ?_
  obtain rfl : other = arch := Arch.auditWord_inj.mp (ho.trans hw.symm)
  rw [absorb, PerArch.get_ofFn, h.get_eq_none hc, Option.none_or]

/-- It decides any other call as the source does, also one through an architecture of neither. -/
theorem verdict_absorb_of_source {data : CallData}
    (hc : ∀ arch, arch.auditWord = data.arch → target.ruleset.rules.get arch = none) :
    (target.absorb source).ruleset.verdict data = source.ruleset.verdict data := by
  refine Ruleset.verdict_congr h.default_action h.bad_arch_action fun arch hw => ?_
  rw [absorb, PerArch.get_ofFn, hc arch hw, Option.or_none]

end Joinable

end FilterState

namespace Filter

/-- Whether a filter has the architecture that a call came through. -/
def Serves (filter : Filter) (data : CallData) : Prop :=
  ∃ arch, arch.auditWord = data.arch ∧ filter.hasArch arch = .ok true

/-- What a merge leaves behind: a released source, and a target that has the lists of both and is
otherwise as it was. No architecture had a list in both. -/
structure Joins (target source merged released : Filter) : Prop where
  released : released.isValid = false
  capabilities : merged.capabilities = target.capabilities
  kept : ∃ held rules, target.state? = some held ∧
    merged.state? = some { held with ruleset.rules := rules }
  lists : ∀ arch rules, merged.list? arch = some rules ↔
    target.list? arch = some rules ∨ source.list? arch = some rules
  apart : ∀ arch, target.list? arch = none ∨ source.list? arch = none

/-- How a merge ends. -/
theorem merge_cases (target source : Filter) :
    ((target.state? = none ∨ source.state? = none) ∧
        target.merge source = .error .filterReleased) ∨
      ∃ held given, target.state? = some held ∧ source.state? = some given ∧
        ((∃ conflict, held.PartsFirst given conflict ∧
            target.merge source = .error (.mergeConflict conflict)) ∨
          held.Joinable given ∧ target.merge source =
            .ok (⟨some (held.absorb given), target.capabilities⟩, source.release)) := by
  cases ht : target.state? with
  | none => exact .inl ⟨.inl rfl, by rw [merge, state, ht]; rfl⟩
  | some held =>
    cases hs : source.state? with
    | none => exact .inl ⟨.inr rfl, by rw [merge, state, ht, state, hs]; rfl⟩
    | some given =>
      refine .inr ⟨held, given, rfl, rfl, ?_⟩
      rw [merge, state, ht, state, hs]
      rcases held.conflict?_cases given with ⟨hc, hj⟩ | ⟨conflict, hc, hp⟩
      · exact .inr ⟨hj, by simp only [bind, Except.bind, hc]; rfl⟩
      · exact .inl ⟨conflict, hp, by simp only [bind, Except.bind, hc]; rfl⟩

variable {target source : Filter} {held given : FilterState}

/-- Filters that go together leave behind what a merge promises. -/
theorem joins_of_joinable (ht : target.state? = some held) (hs : source.state? = some given)
    (h : held.Joinable given) :
    target.Joins source ⟨some (held.absorb given), target.capabilities⟩ source.release where
  released := rfl
  capabilities := rfl
  kept := ⟨held, (held.absorb given).ruleset.rules, ht, rfl⟩
  lists arch rules := by
    rw [list?_of_state? ht, list?_of_state? hs, list?_of_state? rfl]
    constructor
    · intro hr
      rw [FilterState.absorb, PerArch.get_ofFn, Option.or_eq_some_iff] at hr
      exact hr.symm.imp And.right id
    · rintro (hr | hr)
      · exact h.get_absorb_of_target hr
      · exact FilterState.Joinable.get_absorb_of_source hr
  apart arch := by
    rw [list?_of_state? ht, list?_of_state? hs]
    by_cases hc : (held.ruleset.rules.get arch).isSome
    · exact .inr (h.get_eq_none hc)
    · exact .inl (Option.not_isSome_iff_eq_none.mp hc)

theorem serves_iff_of_state? {data : CallData} (ht : target.state? = some held) :
    target.Serves data ↔
      ∃ arch, arch.auditWord = data.arch ∧ (held.ruleset.rules.get arch).isSome := by
  simp only [Serves, hasArch_eq_ok_true_iff, list?_of_state? ht]

/-- Where the merged filter compiles, so did both filters before, and its program returns for each
call what the program of the one returned that had the architecture. -/
theorem programs_of_joinable (hsound : held.Sound target.capabilities)
    (hgiven : given.Sound source.capabilities) (ht : target.state? = some held)
    (hs : source.state? = some given) (h : held.Joinable given) {program : Program}
    (hp : (held.absorb given).ruleset.compile = .ok program) :
    ∃ own taken, target.program = .ok own ∧ source.program = .ok taken ∧
      ∀ data, ∃ word, program.run data = some word ∧
        (target.Serves data → own.run data = some word) ∧
        (¬ target.Serves data → taken.run data = some word) := by
  have hsize : (held.absorb given).ruleset.size ≤ Program.maxLength := by
    rw [← Ruleset.length_layout]
    exact (Ruleset.performs_of_compile hp).1
  -- Neither part is larger than the whole, and only its size could keep it from compiling.
  have htarget : held.ruleset.size ≤ (held.absorb given).ruleset.size :=
    Ruleset.size_le fun _ _ => h.get_absorb_of_target
  have hsource : given.ruleset.size ≤ (held.absorb given).ruleset.size :=
    Ruleset.size_le fun _ _ => FilterState.Joinable.get_absorb_of_source
  obtain ⟨own, hown, -⟩ := hsound.compile_eq.1 (htarget.trans hsize)
  obtain ⟨taken, htaken, -⟩ := hgiven.compile_eq.1 (hsource.trans hsize)
  refine ⟨own, taken, by rw [program_eq_compile ht, hown], by rw [program_eq_compile hs, htaken],
    fun data => ⟨_, (Ruleset.run_of_compile data hp).1, fun hserves => ?_, fun hserves => ?_⟩⟩
  · obtain ⟨arch, hw, hc⟩ := (serves_iff_of_state? ht).mp hserves
    rw [h.verdict_absorb_of_target hw hc]
    exact (Ruleset.run_of_compile data hown).1
  · have hc (arch : Arch) (hw : arch.auditWord = data.arch) :
        held.ruleset.rules.get arch = none := by
      by_contra hne
      exact hserves ((serves_iff_of_state? ht).mpr ⟨arch, hw, Option.isSome_iff_ne_none.mpr hne⟩)
    rw [h.verdict_absorb_of_source hc]
    exact (Ruleset.run_of_compile data htaken).1

end Filter

namespace Session

/-- What a request to merge two filters of a session comes to. -/
theorem step_merge {session : Session} {name source : String} {target other : Filter}
    (ht : session.filter? name = some target) (ho : session.filter? source = some other)
    (hne : source ≠ name) :
    session.step name (.merge source) =
      match target.merge other with
      | .ok (merged, released) => ((session.put name merged).put source released, ⟨.ok (), []⟩)
      | .error error => (session, ⟨.error (.refused error), []⟩) := by
  cases hm : target.merge other with
  | error error =>
    rw [step, Session.merge, ht, if_neg hne, ho]
    simp only [hm]
  | ok both =>
    rw [step, Session.merge, ht, if_neg hne, ho]
    simp only [hm]

/-- Two filters of any session merge exactly where both are valid and go together; else the merge is
refused for a released filter, or for the first respect in which they part. Merging releases the
source, and the target decides every call as the one of the two did that had its architecture. -/
theorem merge_joins_filters {requests : List (String × Request)} {name source : String}
    {target other : Filter} {after : Session} {reply : Reply}
    (ht : (Session.empty.run requests).filter? name = some target)
    (ho : (Session.empty.run requests).filter? source = some other) (hne : source ≠ name)
    (hstep : (Session.empty.run requests).step name (.merge source) = (after, reply)) :
    (reply.result = .ok () ↔ ∃ held given, target.state? = some held ∧
      other.state? = some given ∧ held.Joinable given) ∧
    (reply.result ≠ .ok () →
      (target.state? = none ∨ other.state? = none) ∧
        reply.result = .error (.refused .filterReleased) ∨
      ∃ held given conflict, target.state? = some held ∧ other.state? = some given ∧
        held.PartsFirst given conflict ∧
        reply.result = .error (.refused (.mergeConflict conflict))) ∧
    (reply.result = .ok () → ∃ merged released, after.filter? name = some merged ∧
      after.filter? source = some released ∧ target.Joins other merged released ∧
      ∀ program, merged.program = .ok program → ∃ own taken, target.program = .ok own ∧
        other.program = .ok taken ∧ ∀ data, ∃ word, program.run data = some word ∧
          (target.Serves data → own.run data = some word) ∧
          (¬ target.Serves data → taken.run data = some word)) := by
  rw [step_merge ht ho hne] at hstep
  have hsound := Session.sound_empty.run requests
  rcases Filter.merge_cases target other with ⟨hreleased, hm⟩ |
    ⟨held, given, hheld, hgiven, ⟨conflict, hparts, hm⟩ | ⟨hj, hm⟩⟩
  · rw [hm] at hstep
    obtain ⟨rfl, rfl⟩ := Prod.mk.inj hstep
    refine ⟨⟨(nomatch ·), ?_⟩, fun _ => .inl ⟨hreleased, rfl⟩, (nomatch ·)⟩
    rintro ⟨held, given, hheld, hgiven, -⟩
    rw [hheld, hgiven] at hreleased
    simp at hreleased
  · rw [hm] at hstep
    obtain ⟨rfl, rfl⟩ := Prod.mk.inj hstep
    refine ⟨⟨(nomatch ·), ?_⟩,
      fun _ => .inr ⟨held, given, conflict, hheld, hgiven, hparts, rfl⟩, (nomatch ·)⟩
    rintro ⟨held', given', hheld', hgiven', hj⟩
    obtain rfl := Option.some.inj (hheld.symm.trans hheld')
    obtain rfl := Option.some.inj (hgiven.symm.trans hgiven')
    exact absurd hj hparts.not_joinable
  · rw [hm] at hstep
    obtain ⟨rfl, rfl⟩ := Prod.mk.inj hstep
    refine ⟨⟨fun _ => ⟨held, given, hheld, hgiven, hj⟩, fun _ => rfl⟩, fun h => absurd rfl h,
      fun _ => ⟨_, _, ?_, ?_, Filter.joins_of_joinable hheld hgiven hj, fun program hp => ?_⟩⟩
    · rw [filter?_put, if_neg hne.symm, filter?_put, if_pos rfl]
    · rw [filter?_put, if_pos rfl]
    · exact Filter.programs_of_joinable (hsound name target ht held hheld)
        (hsound source other ho given hgiven) hheld hgiven hj hp

/-- A loaded filter for x86_64 takes over the rules of one for arm, and then refuses what that one
refused. -/
theorem merge_joins_filters_arm :
    let requests : List (String × Request) :=
      [("a", .make .allow ⟨6, none⟩), ("a", .change (.addRule ⟨2⟩ (.errno 13) [⟨1, .masked 3 1⟩])),
        ("a", .load ⟨.ok (), fun _ _ => 0⟩), ("b", .make .allow ⟨4, none⟩),
        ("b", .change (.addArch .arm)), ("b", .change (.removeArch .x8664)),
        ("b", .change (.addRule ⟨2⟩ .trap []))]
    let session := Session.empty.run requests
    let opening : CallData := ⟨5, 0x40000028, 0, #v[0, 1, 0, 0, 0, 0]⟩
    ∃ target other merged released program, session.filter? "a" = some target ∧
      session.filter? "b" = some other ∧
      (session.step "a" (.merge "b")).1.filter? "a" = some merged ∧
      (session.step "a" (.merge "b")).1.filter? "b" = some released ∧
      target.Joins other merged released ∧ merged.program = .ok program ∧
      program.run opening = some 0x30000 := by
  intro requests session opening
  obtain ⟨target, ht⟩ : ∃ target, session.filter? "a" = some target :=
    Option.isSome_iff_exists.mp (by decide +kernel)
  obtain ⟨other, held, own, ho, -, hown, hrun⟩ :
      ∃ other held own, session.filter? "b" = some other ∧ other.state? = some held ∧
        other.program = .ok own ∧ own.run opening = some 0x30000 :=
    exists_of_evaluated (by decide +kernel)
  have hok : (session.step "a" (.merge "b")).2.result = .ok () := by decide +kernel
  obtain ⟨-, -, hjoined⟩ := merge_joins_filters ht ho (by decide) Prod.mk.eta.symm
  obtain ⟨merged, released, hm, hr, hjoins, hprograms⟩ := hjoined hok
  have hcompiles : ((session.step "a" (.merge "b")).1.filter? "a").all fun filter =>
      filter.program.isOk := by decide +kernel
  rw [hm] at hcompiles
  obtain ⟨program, hp⟩ := exists_ok_of_isOk hcompiles
  obtain ⟨_, taken, -, htaken, hverdict⟩ := hprograms program hp
  obtain rfl := Except.ok.inj (hown.symm.trans htaken)
  have hserves : ¬ target.Serves opening := by
    rintro ⟨arch, hw, hc⟩
    obtain rfl : arch = .arm := Arch.auditWord_inj.mp (hw.trans rfl)
    have hcovers : session.covers "a" .arm = false := by decide +kernel
    rw [covers, ht, Option.any_some, hc] at hcovers
    cases hcovers
  obtain ⟨word, hword, -, hother⟩ := hverdict opening
  refine ⟨target, other, merged, released, program, ht, ho, hm, hr, hjoins, hp, ?_⟩
  rw [hword, ← hother hserves, hrun]

end Session

end SyscallFilter
