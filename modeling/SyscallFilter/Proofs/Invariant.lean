import Mathlib.Tactic
import SyscallFilter.Session
import SyscallFilter.Proofs.DistinctArgs
import SyscallFilter.Proofs.SyscallTable

/-!
What holds of every filter that a run of requests leaves behind: its actions may stand in a filter,
its rules name calls of their architecture under distinct arguments, it covers an architecture, and
it uses only what its level grants. Each operation preserves this, and so does every run.
-/

namespace SyscallFilter

/-- A rule under an architecture has an action that may stand in a filter, names a call of the
architecture, and puts at most one condition on an argument. -/
structure Rule.Sound (arch : Arch) (rule : Rule) : Prop where
  action_valid : rule.action.isValid
  named : (rule.call.name? arch).isSome
  distinct : (rule.conditions.map (·.arg)).Nodup

/-- What holds of a filter that has not been released, for the capabilities it was made with. -/
structure FilterState.Sound (capabilities : Capabilities) (state : FilterState) : Prop where
  covers : ∃ arch rules, state.ruleset.rules.get arch = some rules
  default_valid : state.ruleset.defaultAction.isValid
  bad_valid : state.ruleset.badArchAction.isValid
  rules : ∀ arch rules, state.ruleset.rules.get arch = some rules → ∀ rule ∈ rules, rule.Sound arch
  log : state.attributes.log → capabilities.supports .log
  speculation : state.attributes.speculation → capabilities.supports .speculation
  threadSync : state.attributes.threadSync → capabilities.supports .threadSync

/-- A filter is sound if it is released or what it holds is sound. -/
def Filter.Sound (filter : Filter) : Prop :=
  ∀ state, filter.state? = some state → state.Sound filter.capabilities

namespace FilterState

variable {capabilities : Capabilities} {state : FilterState}

/-- The lists of a new filter are empty. -/
theorem eq_nil_of_initial {action : Action} {arch : Arch} {rules : List Rule}
    (h : (FilterState.initial action).ruleset.rules.get arch = some rules) : rules = [] := by
  simp only [FilterState.initial, PerArch.get_ofFn] at h
  split_ifs at h
  exact (Option.some.inj h).symm

theorem sound_initial {action : Action} (ha : action.isValid) :
    (FilterState.initial action).Sound capabilities where
  covers := ⟨.native, [], rfl⟩
  default_valid := ha
  bad_valid := rfl
  rules arch rules hr := by
    rw [eq_nil_of_initial hr]
    simp
  log h := nomatch h
  speculation h := nomatch h
  threadSync h := nomatch h

theorem Sound.rule_sound (h : state.Sound capabilities) :
    ∀ block ∈ state.ruleset.blocks, ∀ rule ∈ block.2, rule.Sound block.1 := by
  intro block hb
  obtain ⟨arch, -, hm⟩ := List.mem_filterMap.mp hb
  obtain ⟨rules, hr, rfl⟩ := Option.map_eq_some_iff.mp hm
  exact h.rules arch rules hr

/-- New rules leave everything else sound. -/
theorem Sound.withRules (h : state.Sound capabilities) {rules : PerArch (Option (List Rule))}
    (hc : ∃ arch own, rules.get arch = some own)
    (hr : ∀ arch own, rules.get arch = some own → ∀ rule ∈ own, rule.Sound arch) :
    FilterState.Sound capabilities { state with ruleset.rules := rules } :=
  ⟨hc, h.default_valid, h.bad_valid, hr, h.log, h.speculation, h.threadSync⟩

/-- An architecture other than the only one is covered. -/
theorem Sound.exists_other (h : state.Sound capabilities) {arch : Arch}
    (ha : state.ruleset.arches ≠ [arch]) :
    ∃ other rules, other ≠ arch ∧ state.ruleset.rules.get other = some rules := by
  by_contra hnone
  have hother (other : Arch) (hne : other ≠ arch) : state.ruleset.rules.get other = none := by
    by_contra hsome
    obtain ⟨rules, hr⟩ := Option.ne_none_iff_exists'.mp hsome
    exact hnone ⟨other, rules, hne, hr⟩
  -- What is covered is the one architecture, and so the list of all covered ones is known.
  obtain ⟨covered, rules, hr⟩ := h.covers
  obtain rfl : covered = arch := by
    by_contra hne
    rw [hother covered hne] at hr
    nomatch hr
  have hall : state.ruleset.arches = Arch.all.filter (· == covered) := by
    apply List.filter_congr
    intro other _
    by_cases ho : other = covered
    · simp [ho, hr]
    · simp [ho, hother other ho]
  apply ha
  rw [hall]
  cases covered <;> rfl

end FilterState

theorem Action.isValid_of_check {action : Action} (h : action.check = .ok ()) :
    action.isValid := by
  rw [Action.check] at h
  split_ifs at h with hv
  exact hv

theorem Capabilities.supports_of_require {capabilities : Capabilities} {feature : Feature}
    (h : capabilities.require feature = .ok ()) : capabilities.supports feature := by
  rw [Capabilities.require, Capabilities.requireLevel] at h
  split_ifs at h with hl
  simpa [Capabilities.supports] using hl

namespace Filter

variable {filter after : Filter}

/-- A change of what a filter holds leaves its capabilities alone. -/
theorem of_modify {change : FilterState → FilterState} (h : filter.modify change = .ok after) :
    ∃ state, filter.state? = some state ∧
      after = { filter with state? := some (change state) } := by
  rw [modify] at h
  cases hs : filter.state with
  | error _ => simp [hs, Except.map] at h
  | ok state =>
    rw [hs] at h
    exact ⟨state, state?_of_state hs, (Except.ok.inj h).symm⟩

/-- Only an architecture that is not the only one is dropped. -/
theorem of_removeArch {arch : Arch} (h : filter.removeArch arch = .ok after) :
    ∃ state, filter.state? = some state ∧ state.ruleset.arches ≠ [arch] ∧
      filter.modify (fun state =>
        { state with ruleset.rules := state.ruleset.rules.set arch none }) = .ok after := by
  obtain ⟨state, hs, hm⟩ := exists_of_bind_eq_ok h
  split_ifs at hm with ha
  · nomatch hm
  · exact ⟨state, state?_of_state hs, ha, hm⟩

/-- An architecture is covered with the rules it had, or without any. -/
theorem of_get_set_covered {rules : PerArch (Option (List Rule))} {arch other : Arch}
    {own : List Rule}
    (h : (rules.set arch (some ((rules.get arch).getD []))).get other = some own) :
    own = [] ∨ rules.get other = some own := by
  rw [PerArch.get_set] at h
  split_ifs at h with he
  · obtain rfl := Option.some.inj h
    rw [he]
    cases rules.get arch with
    | none => exact .inl rfl
    | some before => exact .inr rfl
  · exact .inr h

theorem sound_of_held {state : FilterState} (hs : state.Sound filter.capabilities) :
    Filter.Sound { filter with state? := some state } := by
  intro held hh
  obtain rfl := Option.some.inj hh
  exact hs

/-- A change that keeps what is held sound keeps the filter sound. -/
theorem Sound.modify (h : filter.Sound) {change : FilterState → FilterState}
    (hm : filter.modify change = .ok after)
    (hc : ∀ state, state.Sound filter.capabilities → (change state).Sound filter.capabilities) :
    after.Sound := by
  obtain ⟨state, hs, rfl⟩ := of_modify hm
  exact sound_of_held (hc state (h state hs))

/-- A change that a level has to grant may use the feature it asked for. -/
theorem Sound.modify_granted (h : filter.Sound) {feature : Feature}
    {change : FilterState → FilterState}
    (hm : (filter.capabilities.require feature >>= fun _ => filter.modify change) = .ok after)
    (hc : filter.capabilities.supports feature → ∀ state, state.Sound filter.capabilities →
      (change state).Sound filter.capabilities) : after.Sound := by
  obtain ⟨_, hf, hm⟩ := exists_of_bind_eq_ok hm
  exact h.modify hm (hc (Capabilities.supports_of_require hf))

theorem sound_make {action : Action} {capabilities : Capabilities}
    (h : Filter.make action capabilities = .ok after) : after.Sound := by
  obtain ⟨_, ha, hm⟩ := exists_of_bind_eq_ok h
  obtain rfl := Except.ok.inj hm
  intro state hs
  obtain rfl := Option.some.inj hs
  exact FilterState.sound_initial (Action.isValid_of_check ha)

theorem sound_release (filter : Filter) : filter.release.Sound :=
  fun _ hs => nomatch hs

theorem Sound.reset (h : filter.Sound) {action : Action} (hr : filter.reset action = .ok after) :
    after.Sound := by
  obtain ⟨_, ha, hm⟩ := exists_of_bind_eq_ok hr
  exact h.modify hm fun _ _ => FilterState.sound_initial (Action.isValid_of_check ha)

theorem Sound.addArch (h : filter.Sound) {arch : Arch} (ha : filter.addArch arch = .ok after) :
    after.Sound := by
  refine h.modify ha fun state hs =>
    hs.withRules ⟨arch, (state.ruleset.rules.get arch).getD [], ?_⟩ ?_
  · rw [PerArch.get_set, if_pos rfl]
  · intro other own ho
    rcases of_get_set_covered ho with rfl | ho
    · simp
    · exact hs.rules other own ho

theorem Sound.removeArch (h : filter.Sound) {arch : Arch}
    (hr : filter.removeArch arch = .ok after) : after.Sound := by
  obtain ⟨state, hs, ha, hm⟩ := of_removeArch hr
  obtain ⟨held, hh, rfl⟩ := of_modify hm
  obtain rfl : state = held := Option.some.inj (hs.symm.trans hh)
  obtain ⟨other, rules, hne, ho⟩ := (h state hs).exists_other ha
  refine sound_of_held ((h state hs).withRules ⟨other, rules, ?_⟩ ?_)
  · rw [PerArch.get_set, if_neg hne, ho]
  · intro kept own hk
    rw [PerArch.get_set] at hk
    split_ifs at hk
    exact (h state hs).rules kept own hk

theorem Sound.setDefaultAction (h : filter.Sound) {action : Action}
    (ha : filter.setDefaultAction action = .ok after) : after.Sound := by
  obtain ⟨_, hv, hm⟩ := exists_of_bind_eq_ok ha
  exact h.modify hm fun _ hs => { hs with default_valid := Action.isValid_of_check hv }

theorem Sound.setBadArchAction (h : filter.Sound) {action : Action}
    (ha : filter.setBadArchAction action = .ok after) : after.Sound := by
  obtain ⟨_, hv, hm⟩ := exists_of_bind_eq_ok ha
  exact h.modify hm fun _ hs => { hs with bad_valid := Action.isValid_of_check hv }

theorem Sound.setNoNewPrivs (h : filter.Sound) {on : Bool}
    (ha : filter.setNoNewPrivs on = .ok after) : after.Sound :=
  h.modify ha fun _ hs => { hs with }

theorem Sound.setLog (h : filter.Sound) {on : Bool} (ha : filter.setLog on = .ok after) :
    after.Sound :=
  h.modify_granted ha fun hf _ hs => { hs with log := fun _ => hf }

theorem Sound.setSpeculation (h : filter.Sound) {on : Bool}
    (ha : filter.setSpeculation on = .ok after) : after.Sound :=
  h.modify_granted ha fun hf _ hs => { hs with speculation := fun _ => hf }

theorem Sound.setThreadSync (h : filter.Sound) {on : Bool}
    (ha : filter.setThreadSync on = .ok after) : after.Sound :=
  h.modify_granted ha fun hf _ hs => { hs with threadSync := fun _ => hf }

/-- A rule is put behind others under an architecture, as what its call is there. -/
theorem of_get_appendRule {call : Syscall} {action : Action} {conditions : List Condition}
    {rules : PerArch (Option (List Rule))} {arch : Arch} {own : List Rule}
    (h : (appendRule call action conditions rules).get arch = some own) :
    ∃ before, rules.get arch = some before ∧
      ((call.counterpart? .native arch = none ∧ own = before) ∨
        ∃ counterpart, call.counterpart? .native arch = some counterpart ∧
          own = before ++ [⟨counterpart, action, conditions⟩]) := by
  rw [appendRule, PerArch.get_map] at h
  split at h
  · next counterpart hc =>
    obtain ⟨before, hb, rfl⟩ := Option.map_eq_some_iff.mp h
    exact ⟨before, hb, .inr ⟨counterpart, hc, rfl⟩⟩
  · next hc => exact ⟨own, h, .inl ⟨hc, rfl⟩⟩

theorem isSome_get_appendRule (call : Syscall) (action : Action) (conditions : List Condition)
    (rules : PerArch (Option (List Rule))) (arch : Arch) :
    ((appendRule call action conditions rules).get arch).isSome = (rules.get arch).isSome := by
  rw [appendRule, PerArch.get_map]
  split <;> simp

theorem Sound.addRule (h : filter.Sound) {call : Syscall} {action : Action}
    {conditions : List Condition} (ha : filter.addRule call action conditions = .ok after) :
    after.Sound := by
  obtain ⟨_, hv, ha⟩ := exists_of_bind_eq_ok ha
  obtain ⟨name, hn, ha⟩ := exists_of_bind_eq_ok ha
  obtain ⟨_, hd, hm⟩ := exists_of_bind_eq_ok ha
  have hname := Option.isSome_of_eq_some (Syscall.nameOn_eq_ok_iff.mp (mapError_eq_ok hn))
  have hnodup := Condition.checkDistinct_eq_ok_iff.mp (mapError_eq_ok hd)
  refine h.modify hm fun state hs => hs.withRules ?_ ?_
  · -- No architecture comes or goes.
    obtain ⟨arch, rules, hr⟩ := hs.covers
    have hsome := isSome_get_appendRule call action conditions state.ruleset.rules arch
    rw [hr] at hsome
    exact ⟨arch, Option.isSome_iff_exists.mp hsome⟩
  · intro arch own ho
    obtain ⟨before, hb, ⟨-, rfl⟩ | ⟨counterpart, hc, rfl⟩⟩ := of_get_appendRule ho
    · -- An architecture without the call keeps the rules it has.
      exact hs.rules arch own hb
    · have hrule : Rule.Sound arch ⟨counterpart, action, conditions⟩ :=
        ⟨Action.isValid_of_check hv, Syscall.name?_isSome_of_counterpart? hname hc, hnodup⟩
      exact List.forall_mem_append.mpr ⟨hs.rules arch before hb, by simpa using hrule⟩

/-- Each change of one filter keeps it sound. -/
theorem Sound.apply (h : filter.Sound) {change : Change} (ha : filter.apply change = .ok after) :
    after.Sound := by
  cases change with
  | reset action => exact h.reset ha
  | release =>
    obtain rfl := Except.ok.inj ha
    exact sound_release filter
  | addArch arch => exact h.addArch ha
  | removeArch arch => exact h.removeArch ha
  | setDefaultAction action => exact h.setDefaultAction ha
  | setBadArchAction action => exact h.setBadArchAction ha
  | setNoNewPrivs on => exact h.setNoNewPrivs ha
  | setLog on => exact h.setLog ha
  | setSpeculation on => exact h.setSpeculation ha
  | setThreadSync on => exact h.setThreadSync ha
  | addRule call action conditions => exact h.addRule ha

/-- An installation changes neither the rules nor the attributes. -/
theorem of_installed {state next : FilterState} {flags : InstallFlags} {answer : Int}
    (h : state.installed flags answer = .ok next) :
    next.ruleset = state.ruleset ∧ next.attributes = state.attributes := by
  rw [FilterState.installed] at h
  split_ifs at h
  · obtain rfl := Except.ok.inj h
    exact ⟨rfl, rfl⟩
  · obtain rfl := Except.ok.inj h
    exact ⟨rfl, rfl⟩

theorem of_load {kernel : LoadKernel} (h : (filter.load kernel).result = .ok after) :
    ∃ state next, filter.state? = some state ∧ next.ruleset = state.ruleset ∧
      next.attributes = state.attributes ∧ after = { filter with state? := some next } := by
  rw [load] at h
  split at h
  · next state program hs hp =>
    dsimp only at h
    split at h
    · nomatch h
    · cases hi : state.installed (state.installFlags filter.capabilities)
          (kernel.install (state.installFlags filter.capabilities) program) with
      | error _ => simp [hi, Except.map] at h
      | ok next =>
        obtain ⟨hr, ha⟩ := of_installed hi
        rw [hi] at h
        exact ⟨state, next, state?_of_state hs, hr, ha, (Except.ok.inj h).symm⟩
  · nomatch h
  · nomatch h

theorem Sound.load (h : filter.Sound) {kernel : LoadKernel}
    (hl : (filter.load kernel).result = .ok after) : after.Sound := by
  obtain ⟨state, next, hs, hr, ha, rfl⟩ := of_load hl
  obtain ⟨hc, hd, hb, hrules, hlog, hspec, hsync⟩ := h state hs
  rw [← hr] at hc hd hb hrules
  rw [← ha] at hlog hspec hsync
  exact sound_of_held ⟨hc, hd, hb, hrules, hlog, hspec, hsync⟩

/-- A merge that succeeds gives the target the rules of both filters and releases the source. -/
theorem of_merge {source merged released : Filter} (h : filter.merge source = .ok (merged, released)) :
    ∃ held given, filter.state? = some held ∧ source.state? = some given ∧
      merged = { filter with state? := some (held.absorb given) } ∧ released = source.release := by
  obtain ⟨held, ht, h⟩ := exists_of_bind_eq_ok h
  obtain ⟨given, hs, h⟩ := exists_of_bind_eq_ok h
  split at h
  · nomatch h
  obtain ⟨rfl, rfl⟩ := Prod.mk.inj (Except.ok.inj h)
  exact ⟨held, given, state?_of_state ht, state?_of_state hs, rfl, rfl⟩

/-- A merge puts the rules of both filters under the attributes and the level of the target. -/
theorem Sound.merge {source merged released : Filter} (h : filter.Sound) (hs : source.Sound)
    (hm : filter.merge source = .ok (merged, released)) : merged.Sound ∧ released.Sound := by
  obtain ⟨target, other, ht, ho, rfl, rfl⟩ := of_merge hm
  have htarget := h target ht
  have hother := hs other ho
  refine ⟨sound_of_held (htarget.withRules ?_ ?_), sound_release source⟩
  · obtain ⟨arch, rules, hr⟩ := htarget.covers
    refine ⟨arch, (other.ruleset.rules.get arch).getD rules, ?_⟩
    rw [PerArch.get_ofFn, hr]
    cases other.ruleset.rules.get arch <;> rfl
  · intro arch own hown
    rw [PerArch.get_ofFn] at hown
    rcases Option.or_eq_some_iff.mp hown with hown | ⟨-, hown⟩
    · exact hother.rules arch own hown
    · exact htarget.rules arch own hown

end Filter

/-- Every filter of a session is sound. -/
def Session.Sound (session : Session) : Prop :=
  ∀ name filter, session.filter? name = some filter → filter.Sound

namespace Session

variable {session : Session}

theorem sound_empty : Session.empty.Sound :=
  fun _ _ h => nomatch h

theorem Sound.put (h : session.Sound) (name : String) {filter : Filter} (hf : filter.Sound) :
    (session.put name filter).Sound := by
  intro other found ho
  rw [filter?_put] at ho
  split_ifs at ho
  · obtain rfl := Option.some.inj ho
    exact hf
  · exact h other found ho

theorem Sound.keep (h : session.Sound) (name : String) (calls : List LoadCall)
    {result : Except Error Filter} (hr : ∀ filter, result = .ok filter → filter.Sound) :
    (session.keep name calls result).1.Sound := by
  cases result with
  | error _ => exact h
  | ok filter => exact h.put name (hr filter rfl)

theorem Sound.merge (h : session.Sound) (name source : String) :
    (session.merge name source).1.Sound := by
  rw [Session.merge]
  split
  · next target sourceFilter ht hs =>
    have hsource : sourceFilter.Sound := by
      split_ifs at hs
      exact h source sourceFilter hs
    split
    · next merged released hm =>
      obtain ⟨hmerged, hreleased⟩ := (h name target ht).merge hsource hm
      exact (h.put name hmerged).put source hreleased
    · exact h
  · exact h

/-- A request leaves every filter of a session sound. -/
theorem Sound.step (h : session.Sound) (name : String) (request : Request) :
    (session.step name request).1.Sound := by
  cases request with
  | make action capabilities => exact h.keep name [] fun _ hf => Filter.sound_make hf
  | change change =>
    rw [Session.step]
    split
    · next filter hf => exact h.keep name [] fun _ ha => (h name filter hf).apply ha
    · exact h
  | merge source => exact h.merge name source
  | load kernel =>
    rw [Session.step]
    split
    · next filter hf => exact h.keep name _ fun _ hl => (h name filter hf).load hl
    · exact h

/-- So does a run of requests. -/
theorem Sound.run (h : session.Sound) (requests : List (String × Request)) :
    (session.run requests).Sound := by
  induction requests generalizing session with
  | nil => exact h
  | cons request rest ih => exact ih (h.step request.1 request.2)

end Session

end SyscallFilter
