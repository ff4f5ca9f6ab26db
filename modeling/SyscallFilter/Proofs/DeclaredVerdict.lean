import SyscallFilter.Policy.Build
import SyscallFilter.Proofs.Decision
import SyscallFilter.Proofs.Invariant

/-!
What a policy declares, read off its own text: names of architectures and calls, and conditions on
the arguments. The program of a filter that is built from a policy returns what is declared.
-/

namespace SyscallFilter

/-- Whether a stated condition holds of the arguments of a call. -/
def ConditionClause.holds (clause : ConditionClause) (args : Args) : Bool :=
  match args[clause.arg.toNat]? with
  | none => false
  | some arg =>
    match clause.operator, clause.mask with
    | .ne, none => arg != clause.value
    | .lt, none => arg < clause.value
    | .le, none => arg ≤ clause.value
    | .eq, none => arg == clause.value
    | .ge, none => clause.value ≤ arg
    | .gt, none => clause.value < arg
    | .maskedEq, some mask => arg &&& mask == clause.value
    | _, _ => false

/-- Whether a stated rule is about a call: its name has exactly the number of the call in the
architecture's own table, and all its conditions hold. -/
def RuleClause.applies (clause : RuleClause) (arch : Arch) (data : CallData) : Bool :=
  Syscall.ofName? arch clause.syscall == some ⟨data.number⟩ &&
    clause.conditions.all fun condition => condition.holds data.args

namespace Policy

/-- The architectures that a policy names, or the native one alone where it names none. -/
def covers (policy : Policy) (arch : Arch) : Bool :=
  if policy.arches.isEmpty then arch == .native
  else policy.arches.any fun name => Arch.ofName? name == some arch

/-- The action that a policy declares for a call. -/
def verdict (policy : Policy) (data : CallData) : Action :=
  let bad := policy.badArchAction.getD .killThread
  match Arch.ofAuditWord? data.arch with
  | none => bad
  | some arch =>
    if !policy.covers arch then bad
    else if arch = .x8664 ∧ Ruleset.x32Bit ≤ data.number.toUInt32 then bad
    else
      match policy.rules.find? fun clause => clause.applies arch data with
      | some clause => clause.action
      | none => policy.defaultAction

end Policy

namespace ConditionClause

/-- The condition that is built from a clause holds where the clause does. -/
theorem holds_of_condition {clause : ConditionClause} {condition : Condition}
    (h : clause.condition = .ok condition) (args : Args) :
    condition.holds args = clause.holds args := by
  obtain ⟨arg, operator, value, mask⟩ := clause
  rw [ConditionClause.condition, Condition.make] at h
  split_ifs at h with harg
  have hget : args[arg.toNat]? = some args[arg.toNat] := getElem?_pos args arg.toNat harg
  simp only [holds, hget]
  -- A mask goes with the masked operator and with no other.
  cases mask with
  | some mask =>
    cases operator with
    | maskedEq =>
      obtain rfl := Except.ok.inj h
      rfl
    | _ => nomatch h
  | none =>
    cases operator with
    | maskedEq => nomatch h
    | invalid => nomatch h
    | _ =>
      obtain rfl := Except.ok.inj h
      rfl

theorem all_holds_of_conditions {clauses : List ConditionClause} {conditions : List Condition}
    (h : ConditionClause.conditions clauses = .ok conditions) (args : Args) :
    (conditions.all fun condition => condition.holds args) =
      clauses.all fun clause => clause.holds args := by
  induction clauses generalizing conditions with
  | nil =>
    obtain rfl := Except.ok.inj h
    rfl
  | cons clause rest ih =>
    rw [ConditionClause.conditions] at h
    split at h
    · nomatch h
    · next condition hc =>
      cases hr : ConditionClause.conditions rest with
      | error _ =>
        rw [hr] at h
        nomatch h
      | ok others =>
        rw [hr] at h
        obtain rfl := Except.ok.inj h
        rw [List.all_cons, List.all_cons, ih hr, holds_of_condition hc]

end ConditionClause

/-- Rules of an architecture decide every call as a list of stated rules does. -/
def RuleClause.DecidedBy (arch : Arch) (clauses : List RuleClause) (rules : List Rule) : Prop :=
  ∀ data, (rules.find? fun rule => rule.applies data).map Rule.action =
    (clauses.find? fun clause => clause.applies arch data).map RuleClause.action

namespace RuleClause

variable {arch : Arch} {clauses : List RuleClause} {rules : List Rule} {clause : RuleClause}

/-- A clause whose call the architecture lacks decides nothing there. -/
theorem DecidedBy.skip (h : DecidedBy arch clauses rules)
    (hc : Syscall.ofName? arch clause.syscall = none) :
    DecidedBy arch (clauses ++ [clause]) rules := by
  intro data
  have hn : clause.applies arch data = false := by rw [applies, hc]; rfl
  rw [h data, List.find?_append, List.find?_cons, hn, List.find?_nil, Option.or_none]

/-- A clause is decided by the rule with its number on the architecture, behind the rules before. -/
theorem DecidedBy.append (h : DecidedBy arch clauses rules) {call : Syscall}
    {conditions : List Condition} (hc : Syscall.ofName? arch clause.syscall = some call)
    (hs : ConditionClause.conditions clause.conditions = .ok conditions) :
    DecidedBy arch (clauses ++ [clause]) (rules ++ [⟨call, clause.action, conditions⟩]) := by
  intro data
  have ha : Rule.applies ⟨call, clause.action, conditions⟩ data = clause.applies arch data := by
    rw [Rule.applies, applies, ConditionClause.all_holds_of_conditions hs, hc]
    congr 1
    rw [Bool.eq_iff_iff, beq_iff_eq, beq_iff_eq, Option.some.injEq, Syscall.mk.injEq]
  rw [List.find?_append, List.find?_append, Option.map_or, Option.map_or, h data]
  simp only [List.find?_cons, List.find?_nil, ha]
  cases clause.applies arch data <;> rfl

end RuleClause

/-- A rule set that covers certain architectures and decides as stated rules do. -/
structure Ruleset.Declares (set : Ruleset) (default bad : Action) (covers : Arch → Bool)
    (clauses : List RuleClause) : Prop where
  default_eq : set.defaultAction = default
  bad_eq : set.badArchAction = bad
  covered : ∀ arch, (set.rules.get arch).isSome = covers arch
  decided : ∀ arch rules, set.rules.get arch = some rules →
    RuleClause.DecidedBy arch clauses rules

/-- A filter holds a rule set that declares so much. -/
def Filter.Declares (filter : Filter) (default bad : Action) (covers : Arch → Bool)
    (clauses : List RuleClause) : Prop :=
  ∃ state, filter.state? = some state ∧ state.ruleset.Declares default bad covers clauses

namespace Filter

variable {filter after : Filter} {default bad : Action} {covers : Arch → Bool}
  {clauses : List RuleClause}

theorem Declares.modify (h : filter.Declares default bad covers clauses)
    {change : FilterState → FilterState} {default' bad' : Action} {covers' : Arch → Bool}
    {clauses' : List RuleClause} (hm : filter.modify change = .ok after)
    (hc : ∀ state, state.ruleset.Declares default bad covers clauses →
      (change state).ruleset.Declares default' bad' covers' clauses') :
    after.Declares default' bad' covers' clauses' := by
  obtain ⟨state, hs, hd⟩ := h
  obtain ⟨held, hh, rfl⟩ := of_modify hm
  obtain rfl : state = held := Option.some.inj (hs.symm.trans hh)
  exact ⟨change state, rfl, hc state hd⟩

theorem declares_make {action : Action} {capabilities : Capabilities}
    (h : Filter.make action capabilities = .ok after) :
    after.Declares action .killThread (fun arch => arch == .native) [] := by
  obtain ⟨_, -, hm⟩ := exists_of_bind_eq_ok h
  obtain rfl := Except.ok.inj hm
  refine ⟨.initial action, rfl, rfl, rfl, fun arch => ?_, fun arch rules hr data => ?_⟩
  · simp only [FilterState.initial, PerArch.get_ofFn]
    cases arch <;> rfl
  · simp only [FilterState.initial, PerArch.get_ofFn] at hr
    split_ifs at hr
    obtain rfl := Option.some.inj hr
    rfl

theorem Declares.setBadArchAction (h : filter.Declares default bad covers clauses) {action : Action}
    (ha : filter.setBadArchAction action = .ok after) :
    after.Declares default action covers clauses := by
  obtain ⟨_, -, hm⟩ := exists_of_bind_eq_ok ha
  exact h.modify hm fun _ hd => ⟨hd.default_eq, rfl, hd.covered, hd.decided⟩

/-- Before there are rules, an architecture can be added. -/
theorem Declares.addArch (h : filter.Declares default bad covers []) {arch : Arch}
    (ha : filter.addArch arch = .ok after) :
    after.Declares default bad (fun other => other == arch || covers other) [] := by
  refine h.modify ha fun state hd => ⟨hd.default_eq, hd.bad_eq, fun other => ?_, ?_⟩
  · rw [PerArch.get_set, ← hd.covered other]
    split_ifs with he
    · simp [he]
    · simp [he]
  · intro other rules hr
    rcases of_get_set_covered hr with rfl | hr
    · exact fun _ => rfl
    · exact hd.decided other rules hr

theorem Declares.addArches (h : filter.Declares default bad covers []) {arches : List Arch}
    (ha : filter.addArches arches = .ok after) :
    after.Declares default bad (fun other => arches.contains other || covers other) [] := by
  induction arches generalizing filter covers with
  | nil =>
    obtain rfl := Except.ok.inj ha
    exact h
  | cons arch rest ih =>
    obtain ⟨next, hn, ha⟩ := exists_of_bind_eq_ok ha
    have hnext := ih (h.addArch hn) ha
    have hc : (fun other => rest.contains other || (other == arch || covers other)) =
        fun other => (arch :: rest).contains other || covers other := by
      funext other
      rw [List.contains_cons, ← Bool.or_assoc, Bool.or_comm (rest.contains other)]
    rwa [hc] at hnext

theorem Declares.removeArch (h : filter.Declares default bad covers clauses) {arch : Arch}
    (hr : filter.removeArch arch = .ok after) :
    after.Declares default bad (fun other => other != arch && covers other) clauses := by
  obtain ⟨_, -, -, hm⟩ := of_removeArch hr
  refine h.modify hm fun state hd => ⟨hd.default_eq, hd.bad_eq, fun other => ?_, ?_⟩
  · rw [PerArch.get_set, ← hd.covered other]
    split_ifs with he
    · simp [he]
    · simp [he]
  · intro other rules hr
    rw [PerArch.get_set] at hr
    split_ifs at hr
    exact hd.decided other rules hr

/-- A choice that is left open declares nothing new. -/
theorem Declares.choose {choice : Option Bool} {set : Filter → Bool → Except Error Filter}
    (h : filter.Declares default bad covers clauses)
    (hset : ∀ on, set filter on = .ok after → after.Declares default bad covers clauses)
    (hc : filter.choose choice set = .ok after) : after.Declares default bad covers clauses := by
  cases choice with
  | none =>
    obtain rfl := Except.ok.inj hc
    exact h
  | some on => exact hset on hc

/-- The attributes have no part in what a filter decides. -/
theorem Declares.setAttributes (h : filter.Declares default bad covers clauses)
    {clause : AttributeClause} (ha : filter.setAttributes clause = .ok after) :
    after.Declares default bad covers clauses := by
  -- The four choices are made one after the other.
  obtain ⟨first, h₁, ha⟩ := exists_of_bind_eq_ok ha
  obtain ⟨second, h₂, ha⟩ := exists_of_bind_eq_ok ha
  obtain ⟨third, h₃, ha⟩ := exists_of_bind_eq_ok ha
  have hfirst : first.Declares default bad covers clauses := by
    refine h.choose (fun on hs => ?_) h₁
    have hm : filter.modify (fun state => { state with attributes.noNewPrivs := on }) = .ok first :=
      hs
    exact h.modify hm fun _ hd => hd
  have hsecond : second.Declares default bad covers clauses := by
    refine hfirst.choose (fun _ hs => ?_) h₂
    obtain ⟨_, -, hm⟩ := exists_of_bind_eq_ok hs
    exact hfirst.modify hm fun _ hd => hd
  have hthird : third.Declares default bad covers clauses := by
    refine hsecond.choose (fun _ hs => ?_) h₃
    obtain ⟨_, -, hm⟩ := exists_of_bind_eq_ok hs
    exact hsecond.modify hm fun _ hd => hd
  refine hthird.choose (fun _ hs => ?_) ha
  obtain ⟨_, -, hm⟩ := exists_of_bind_eq_ok hs
  exact hthird.modify hm fun _ hd => hd

/-- A stated rule decides behind those before it, on each architecture by its name. -/
theorem Declares.addClause (h : filter.Declares default bad covers clauses) {clause : RuleClause}
    (ha : filter.addClause clause = .ok after) :
    after.Declares default bad covers (clauses ++ [clause]) := by
  obtain ⟨call, hcall, ha⟩ := exists_of_bind_eq_ok ha
  obtain ⟨conditions, hconditions, ha⟩ := exists_of_bind_eq_ok ha
  have hname : Syscall.ofName? .native clause.syscall = some call :=
    Syscall.ofName?_of_resolve (mapError_eq_ok hcall)
  obtain ⟨_, -, ha⟩ := exists_of_bind_eq_ok ha
  obtain ⟨_, -, ha⟩ := exists_of_bind_eq_ok ha
  obtain ⟨_, -, hm⟩ := exists_of_bind_eq_ok ha
  refine h.modify hm fun state hd => ⟨hd.default_eq, hd.bad_eq, fun arch => ?_, ?_⟩
  · rw [isSome_get_appendRule, hd.covered]
  · intro arch rules hr
    -- The counterpart of a call that was found by its native name is found by the same name.
    obtain ⟨before, hb, ⟨hc, rfl⟩ | ⟨own, hc, rfl⟩⟩ := of_get_appendRule hr
    · rw [Syscall.counterpart?_of_ofName? hname] at hc
      exact (hd.decided arch _ hb).skip hc
    · rw [Syscall.counterpart?_of_ofName? hname] at hc
      exact (hd.decided arch before hb).append hc (mapError_eq_ok hconditions)

theorem Declares.addClauses (h : filter.Declares default bad covers clauses)
    {added : List RuleClause} (ha : filter.addClauses added = .ok after) :
    after.Declares default bad covers (clauses ++ added) := by
  induction added generalizing filter clauses with
  | nil =>
    obtain rfl := Except.ok.inj ha
    rwa [List.append_nil]
  | cons clause rest ih =>
    obtain ⟨next, hn, ha⟩ := exists_of_bind_eq_ok ha
    have hnext := ih (h.addClause hn) ha
    rwa [List.append_assoc] at hnext

end Filter

theorem Arch.contains_of_resolveAll {names : List String} {arches : List Arch}
    (h : Arch.resolveAll names = .ok arches) (arch : Arch) :
    arches.contains arch = names.any fun name => Arch.ofName? name == some arch := by
  induction names generalizing arches with
  | nil =>
    obtain rfl := Except.ok.inj h
    rfl
  | cons name rest ih =>
    obtain ⟨first, hf, h⟩ := exists_of_bind_eq_ok h
    obtain ⟨others, ho, h⟩ := exists_of_bind_eq_ok h
    obtain rfl := Except.ok.inj h
    have hname : Arch.ofName? name = some first := by
      rw [Arch.resolve] at hf
      split at hf
      · next found hn => rw [hn, Except.ok.inj hf]
      · nomatch hf
    rw [List.contains_cons, List.any_cons, ih ho, hname]
    congr 1
    rw [Bool.eq_iff_iff, beq_iff_eq, beq_iff_eq, Option.some.injEq, eq_comm]

/-- A filter that is set up for names of architectures covers what they name, and no other. -/
theorem Filter.Declares.coverNamed {filter after : Filter} {default bad : Action}
    {policy : Policy} (h : filter.Declares default bad (fun arch => arch == .native) [])
    (hc : filter.coverNamed policy.arches = .ok after) :
    after.Declares default bad policy.covers [] := by
  rw [Filter.coverNamed] at hc
  split_ifs at hc with he
  · obtain rfl := Except.ok.inj hc
    have hcovers : policy.covers = fun arch => arch == .native := by
      funext arch
      rw [Policy.covers, if_pos he]
    rwa [hcovers]
  · obtain ⟨arches, hr, hc⟩ := exists_of_bind_eq_ok hc
    obtain ⟨next, hn, hc⟩ := exists_of_bind_eq_ok hc
    have hcovers : policy.covers = fun arch => arches.contains arch := by
      funext arch
      rw [Policy.covers, if_neg he, Arch.contains_of_resolveAll (mapError_eq_ok hr)]
    have hnext := h.addArches hn
    rw [hcovers]
    split_ifs at hc with hnative
    · obtain rfl := Except.ok.inj hc
      -- The native architecture was there from the start, and is named as well.
      have hall : (fun arch => arches.contains arch || arch == .native) =
          fun arch => arches.contains arch := by
        funext arch
        by_cases ha : arch = .native
        · rw [ha, hnative]; rfl
        · simp [ha]
      rwa [hall] at hnext
    · -- It was there from the start, but is not named, so it goes.
      have hremoved := hnext.removeArch hc
      have hall : (fun arch => arch != .native && (arches.contains arch || arch == .native)) =
          fun arch => arches.contains arch := by
        funext arch
        by_cases ha : arch = .native
        · simp only [ha, hnative]
          rfl
        · have hb : (arch == .native) = false := by simpa using ha
          rw [bne, hb, Bool.or_false, Bool.not_false, Bool.true_and]
      rwa [hall] at hremoved

/-- A built filter holds what its policy declares. -/
theorem Policy.declares_of_build {policy : Policy} {available : Capabilities} {filter : Filter}
    (h : policy.build available = .ok filter) :
    filter.Declares policy.defaultAction (policy.badArchAction.getD .killThread) policy.covers
      policy.rules := by
  obtain ⟨capabilities, -, h⟩ := exists_of_bind_eq_ok h
  obtain ⟨made, hm, h⟩ := exists_of_bind_eq_ok h
  have hmade := Filter.declares_make hm
  obtain ⟨guarded, hguarded, h⟩ : ∃ guarded : Filter,
      guarded.Declares policy.defaultAction (policy.badArchAction.getD .killThread)
        (fun arch => arch == .native) [] ∧
      (guarded.coverNamed policy.arches >>= fun covering =>
        covering.setAttributes policy.attributes >>= fun chosen =>
          chosen.addClauses policy.rules) = .ok filter := by
    cases hb : policy.badArchAction with
    | none =>
      rw [hb] at h
      exact ⟨made, hmade, h⟩
    | some action =>
      rw [hb] at h
      obtain ⟨guarded, hg, h⟩ := exists_of_bind_eq_ok h
      exact ⟨guarded, hmade.setBadArchAction hg, h⟩
  obtain ⟨covering, hc, h⟩ := exists_of_bind_eq_ok h
  obtain ⟨chosen, ha, h⟩ := exists_of_bind_eq_ok h
  exact ((hguarded.coverNamed hc).setAttributes ha).addClauses h

/-- What a rule set declares for a call is what it prescribes. -/
theorem Ruleset.Declares.verdict_eq {set : Ruleset} {policy : Policy}
    (h : set.Declares policy.defaultAction (policy.badArchAction.getD .killThread) policy.covers
      policy.rules) (data : CallData) : set.verdict data = policy.verdict data := by
  rw [Ruleset.verdict, Ruleset.rulesFor?, Policy.verdict]
  cases Arch.ofAuditWord? data.arch with
  | none => exact h.bad_eq
  | some arch =>
    have hcovered := h.covered arch
    dsimp only
    -- The second convention behind the x86_64 word is refused before coverage is looked at.
    by_cases hx : arch = .x8664 ∧ x32Bit ≤ data.number.toUInt32
    · rw [if_pos hx, if_pos hx, ite_self]
      exact h.bad_eq
    · rw [if_neg hx, if_neg hx, ← hcovered]
      cases hr : set.rules.get arch with
      | none => exact h.bad_eq
      | some rules =>
        have hd := h.decided arch rules hr data
        dsimp only
        -- On both sides the same action is found, or none.
        cases hf : rules.find? fun rule => rule.applies data with
        | none =>
          rw [hf, Option.map_none] at hd
          rw [Option.map_eq_none_iff.mp hd.symm]
          exact h.default_eq
        | some rule =>
          rw [hf, Option.map_some] at hd
          obtain ⟨clause, hc, ha⟩ := Option.map_eq_some_iff.mp hd.symm
          rw [hc]
          exact ha.symm

/-- The program of a filter that is built from a policy returns, on every call, the word of the
action that the policy declares for it. -/
theorem Policy.program_returns_verdict {policy : Policy} {available : Capabilities}
    {filter : Filter} {program : Program} (hb : policy.build available = .ok filter)
    (hp : filter.program = .ok program) (data : CallData) :
    ∃ word, (policy.verdict data).toWord? = some word ∧ program.run data = some word := by
  obtain ⟨state, hs, hd⟩ := declares_of_build hb
  obtain ⟨held, hh, hc⟩ := Filter.exists_of_program_eq_ok hp
  obtain rfl : state = held := Option.some.inj (hs.symm.trans hh)
  obtain ⟨hr, hw⟩ := Ruleset.run_of_compile data hc
  rw [hd.verdict_eq] at hr hw
  exact ⟨_, hw, hr⟩

/-- A call through a second architecture is refused under the number it has there. -/
theorem Policy.program_returns_verdict_accept :
    let policy : Policy := ⟨.allow, none, ["x86_64", "arm"], .empty, none,
      [⟨"accept", .errno 13, [⟨0, .ge, 3, none⟩]⟩]⟩
    let call : CallData := ⟨285, 0x40000028, 0, #v[4, 0, 0, 0, 0, 0]⟩
    ∃ filter program, policy.build ⟨6, none⟩ = .ok filter ∧ filter.program = .ok program ∧
      program.run call = some 0x5000d := by
  intro policy call
  obtain ⟨program, h⟩ : ∃ program, policy.build ⟨6, none⟩ >>= Filter.program = .ok program :=
    exists_ok_of_isOk (by decide +kernel)
  obtain ⟨filter, hb, hp⟩ := exists_of_bind_eq_ok h
  have hv : (policy.verdict call).toWord? = some 0x5000d := by decide +kernel
  obtain ⟨word, hw, hr⟩ := program_returns_verdict hb hp call
  exact ⟨filter, program, hb, hp, by rw [hr, ← hw, hv]⟩

end SyscallFilter
