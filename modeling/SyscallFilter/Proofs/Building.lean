import SyscallFilter.Policy.Build
import SyscallFilter.Proofs.Released

/-!
Which policies a filter can be built from, and what is wrong with the others. A policy is checked
part by part in a fixed order, and the first check that fails gives the error. All that happens
between the checks succeeds; in particular the native architecture can be dropped after the named
ones have been covered.
-/

namespace SyscallFilter

/-- A check, and the error that is given where it fails. -/
structure Check where
  passes : Bool
  error : Error

/-- Some check fails with an error, and those before it are passed. -/
def FirstFailure (checks : List Check) (error : Error) : Prop :=
  ∃ before check after, checks = before ++ check :: after ∧
    (∀ earlier ∈ before, earlier.passes = true) ∧ check.passes = false ∧ check.error = error

section Declared

/-- The checks of a stated condition. -/
def ConditionClause.checks (clause : ConditionClause) : List Check :=
  [⟨clause.arg.toNat < argCount, .condition (.argOutOfRange clause.arg.toNat)⟩,
    ⟨clause.operator ≠ .invalid, .condition .invalidOperator⟩,
    ⟨clause.mask.isSome = (clause.operator == .maskedEq),
      .condition (.operandCount clause.operator (if clause.mask.isSome then 2 else 1))⟩]

/-- The checks that no argument is among earlier ones, for one stated condition after the other. -/
def ConditionClause.distinctChecks (earlier : List UInt32) : List ConditionClause → List Check
  | [] => []
  | clause :: rest =>
    ⟨clause.arg ∉ earlier, .condition (.duplicateArg (Fin.ofNat argCount clause.arg.toNat))⟩ ::
      distinctChecks (clause.arg :: earlier) rest

/-- The checks of a stated rule: its name, its conditions in order, its action, and arguments that
repeat. -/
def RuleClause.checks (clause : RuleClause) : List Check :=
  [⟨(Syscall.ofName? .native clause.syscall).isSome,
      .syscall (.unknownName clause.syscall .native)⟩] ++
    (clause.conditions.flatMap ConditionClause.checks ++
      ([⟨clause.action ≠ .invalid, .invalidAction⟩] ++
        ConditionClause.distinctChecks [] clause.conditions))

/-- The check that a level grants a feature to which a choice was made. -/
def AttributeClause.check (choice : Option Bool) (feature : Feature) (level : Nat) : Check :=
  ⟨choice.isNone || feature.level ≤ level, .notSupported feature.text feature.level level⟩

/-- The level at which a filter is built: the one that a policy asks for, else the available one. -/
def Policy.effectiveLevel (policy : Policy) (available : Capabilities) : Nat :=
  match policy.level with
  | some level => level.toNat
  | none => available.level

/-- The checks of a policy, in their order. -/
def Policy.checks (policy : Policy) (available : Capabilities) : List Check :=
  let level := policy.effectiveLevel available
  [⟨policy.level.all fun level => 1 ≤ level.toNat ∧ level.toNat ≤ available.level,
      .notSupported "api level" level available.level⟩] ++
    ([⟨policy.defaultAction ≠ .invalid, .invalidAction⟩] ++
      ([⟨policy.badArchAction ≠ some .invalid, .invalidAction⟩] ++
        (policy.arches.map (fun name =>
            ⟨(Arch.ofName? name).isSome, .arch (.unknownName name)⟩) ++
          ([AttributeClause.check policy.attributes.log .log level,
              AttributeClause.check policy.attributes.speculation .speculation level,
              AttributeClause.check policy.attributes.threadSync .threadSync level] ++
            policy.rules.flatMap RuleClause.checks))))

/-- A condition can be built as it is stated. -/
structure ConditionClause.Buildable (clause : ConditionClause) : Prop where
  arg : clause.arg.toNat < 6
  operator : clause.operator ≠ .invalid
  mask : clause.mask.isSome ↔ clause.operator = .maskedEq

/-- A rule can be added as it is stated. -/
structure RuleClause.Buildable (clause : RuleClause) : Prop where
  named : ∃ row ∈ Syscall.table, row.name = clause.syscall ∧ (row.number? .native).isSome
  conditions : ∀ condition ∈ clause.conditions, condition.Buildable
  action : clause.action ≠ .invalid
  distinct : (clause.conditions.map (·.arg)).Nodup

/-- A filter can be built as a policy declares it, for a kernel that can do what is available. -/
structure Policy.Buildable (policy : Policy) (available : Capabilities) : Prop where
  level : ∀ level, policy.level = some level → 1 ≤ level.toNat ∧ level.toNat ≤ available.level
  default_action : policy.defaultAction ≠ .invalid
  bad_arch_action : policy.badArchAction ≠ some .invalid
  arches : ∀ name ∈ policy.arches, (Arch.ofName? name).isSome
  log : policy.attributes.log.isSome → 3 ≤ policy.effectiveLevel available
  speculation : policy.attributes.speculation.isSome → 4 ≤ policy.effectiveLevel available
  threadSync : policy.attributes.threadSync.isSome → 2 ≤ policy.effectiveLevel available
  rules : ∀ clause ∈ policy.rules, clause.Buildable

end Declared

namespace Check

/-- What comes of checks made one after the other. -/
def outcome : List Check → Except Error Unit
  | [] => .ok ()
  | check :: rest => if check.passes then outcome rest else .error check.error

theorem outcome_append (checks others : List Check) :
    outcome (checks ++ others) = outcome checks >>= fun _ => outcome others := by
  induction checks with
  | nil => rfl
  | cons check rest ih =>
    rw [List.cons_append, outcome, outcome]
    split_ifs
    · exact ih
    · rfl

theorem outcome_eq_ok_iff {checks : List Check} :
    outcome checks = .ok () ↔ ∀ check ∈ checks, check.passes = true := by
  induction checks with
  | nil => simp [outcome]
  | cons check rest ih =>
    rw [outcome, List.forall_mem_cons, ← ih]
    split_ifs with hpasses
    · exact (and_iff_right hpasses).symm
    · simp [hpasses]

theorem firstFailure_cons {check : Check} {rest : List Check} {error : Error} :
    FirstFailure (check :: rest) error ↔
      check.passes = false ∧ check.error = error ∨
        check.passes = true ∧ FirstFailure rest error := by
  constructor
  · rintro ⟨before, failing, after, hchecks, hbefore, hfails, he⟩
    -- Nothing is before the failing check, or the first check is.
    cases before with
    | nil =>
      obtain ⟨rfl, rfl⟩ := List.cons.inj hchecks
      exact .inl ⟨hfails, he⟩
    | cons first before =>
      obtain ⟨rfl, rfl⟩ := List.cons.inj hchecks
      obtain ⟨hfirst, hbefore⟩ := List.forall_mem_cons.mp hbefore
      exact .inr ⟨hfirst, before, failing, after, rfl, hbefore, hfails, he⟩
  · rintro (⟨hfails, he⟩ | ⟨hpasses, before, failing, after, rfl, hbefore, hfails, he⟩)
    · exact ⟨[], check, rest, rfl, by simp, hfails, he⟩
    · exact ⟨check :: before, failing, after, rfl, List.forall_mem_cons.mpr ⟨hpasses, hbefore⟩,
        hfails, he⟩

theorem outcome_eq_error_iff {checks : List Check} {error : Error} :
    outcome checks = .error error ↔ FirstFailure checks error := by
  induction checks with
  | nil => simp [outcome, FirstFailure]
  | cons check rest ih =>
    rw [outcome, firstFailure_cons, ← ih]
    split_ifs with hpasses
    · simp [hpasses]
    · simp [hpasses]

end Check

/-- A result goes by checks: it is a success where all are passed, and else the error of the first
that fails. What succeeds has a property. -/
structure GoesBy {α : Type} (result : Except Error α) (checks : List Check) (post : α → Prop) :
    Prop where
  outcome : result.map (fun _ => ()) = Check.outcome checks
  post : ∀ a, result = .ok a → post a

section Composing

variable {α β : Type} {result : Except Error α} {checks others : List Check} {post mid : α → Prop}

theorem goesBy_ok {a : α} (h : post a) : GoesBy (.ok a) [] post where
  outcome := rfl
  post := by
    rintro _ ⟨⟩
    exact h

theorem GoesBy.bind {next : α → Except Error β} {final : β → Prop}
    (h : GoesBy result checks mid) (hnext : ∀ a, mid a → GoesBy (next a) others final) :
    GoesBy (result >>= next) (checks ++ others) final := by
  have houtcome := h.outcome
  cases result with
  | error error =>
    constructor
    · rw [Check.outcome_append, ← houtcome]
      rfl
    · rintro b ⟨⟩
  | ok a =>
    have ha : mid a := h.post a rfl
    constructor
    · rw [Check.outcome_append, ← houtcome]
      exact (hnext a ha).outcome
    · exact (hnext a ha).post

/-- What comes next may have no checks. -/
theorem GoesBy.bind_nil {next : α → Except Error β} {final : β → Prop}
    (h : GoesBy result checks mid) (hnext : ∀ a, mid a → GoesBy (next a) [] final) :
    GoesBy (result >>= next) checks final := by
  rw [← List.append_nil checks]
  exact h.bind hnext

theorem GoesBy.mono (h : GoesBy result checks mid) (hpost : ∀ a, mid a → post a) :
    GoesBy result checks post :=
  ⟨h.outcome, fun a ha => hpost a (h.post a ha)⟩

/-- A check that is passed decides nothing. -/
theorem GoesBy.cons {check : Check} (hpasses : check.passes = true)
    (h : GoesBy result checks post) : GoesBy result (check :: checks) post where
  outcome := by rw [Check.outcome, if_pos hpasses, h.outcome]
  post := h.post

/-- A check that fails decides what comes of it and the checks behind it. -/
theorem goesBy_error {passes : Bool} {error : Error} (hfails : passes = false) :
    GoesBy (.error error) (⟨passes, error⟩ :: checks) post where
  outcome := by
    rw [Check.outcome, if_neg (Bool.eq_false_iff.mp hfails)]
    rfl
  post := by rintro _ ⟨⟩

end Composing

section Conditions

/-- An error that is taken over in another form leaves the order of the checks as it is. -/
theorem mapError_bind {ε α β : Type} (wrap : ε → Error) (first : Except ε α)
    (next : α → Except ε β) :
    (first >>= next).mapError wrap = first.mapError wrap >>= fun a => (next a).mapError wrap := by
  cases first with
  | error _ => rfl
  | ok _ => rfl

theorem exists_of_map_eq_ok {ε α β : Type} {f : α → β} {result : Except ε α} {b : β}
    (h : result.map f = .ok b) : ∃ a, result = .ok a ∧ f a = b := by
  cases result with
  | error _ => nomatch h
  | ok a => exact ⟨a, rfl, Except.ok.inj h⟩

namespace ConditionClause

/-- A condition is built where it passes its checks. -/
theorem goesBy_condition (clause : ConditionClause) :
    GoesBy (clause.condition.mapError Error.condition) clause.checks
      fun condition => condition.arg.val = clause.arg.toNat := by
  rw [ConditionClause.condition, Condition.make, checks]
  by_cases harg : clause.arg.toNat < argCount
  · rw [dif_pos harg]
    apply GoesBy.cons (decide_eq_true harg)
    constructor
    · -- A mask goes with the masked operator and with no other.
      obtain ⟨arg, operator, value, mask⟩ := clause
      cases mask with
      | none => cases operator <;> rfl
      | some mask => cases operator <;> rfl
    · intro condition hc
      obtain ⟨test, -, rfl⟩ := exists_of_map_eq_ok (mapError_eq_ok hc)
      rfl
  · rw [dif_neg harg]
    exact goesBy_error (decide_eq_false harg)

theorem conditions_cons (clause : ConditionClause) (rest : List ConditionClause) :
    ConditionClause.conditions (clause :: rest) = clause.condition >>= fun condition =>
      ConditionClause.conditions rest >>= fun others => .ok (condition :: others) := by
  rw [ConditionClause.conditions]
  cases clause.condition with
  | error _ => rfl
  | ok condition =>
    cases ConditionClause.conditions rest with
    | error _ => rfl
    | ok _ => rfl

theorem goesBy_conditions (clauses : List ConditionClause) :
    GoesBy ((ConditionClause.conditions clauses).mapError Error.condition)
      (clauses.flatMap ConditionClause.checks) fun conditions =>
        conditions.map (fun condition => condition.arg.val) =
          clauses.map fun clause => clause.arg.toNat := by
  induction clauses with
  | nil => exact goesBy_ok rfl
  | cons clause rest ih =>
    rw [conditions_cons, mapError_bind, List.flatMap_cons]
    refine clause.goesBy_condition.bind fun condition hcondition => ?_
    rw [mapError_bind]
    refine ih.bind_nil fun others hothers => goesBy_ok ?_
    rw [List.map_cons, List.map_cons, hcondition, hothers]

end ConditionClause

/-- The search for an argument that repeats makes the checks of the arguments in turn. -/
theorem ConditionClause.outcome_distinctChecks {seen : UInt8} {earlier : List UInt32}
    (hseen : Condition.Marks seen (earlier.map UInt32.toNat)) {conditions : List Condition}
    {clauses : List ConditionClause}
    (hargs : conditions.map (fun condition => condition.arg.val) =
      clauses.map fun clause => clause.arg.toNat) :
    Check.outcome (distinctChecks earlier clauses) =
      match Condition.duplicateFrom? seen conditions with
      | none => .ok ()
      | some arg => .error (.condition (.duplicateArg arg)) := by
  induction clauses generalizing seen earlier conditions with
  | nil =>
    obtain rfl := List.map_eq_nil_iff.mp hargs
    rfl
  | cons clause rest ih =>
    obtain ⟨condition, others, rfl, hfirst, hrest⟩ := List.map_eq_cons_iff.mp hargs
    replace hfirst : condition.arg.val = clause.arg.toNat := hfirst
    have hmarked : seen &&& Condition.argBit condition.arg ≠ 0 ↔ clause.arg ∈ earlier := by
      rw [hseen condition.arg, hfirst]
      exact List.mem_map_of_injective fun _ _ => UInt32.toNat_inj.mp
    have hinsert := hseen.insert condition.arg
    rw [hfirst] at hinsert
    rw [distinctChecks, Check.outcome, Condition.duplicateFrom?]
    -- The mask marks the arguments met so far, so the search stops where a check fails.
    by_cases hmem : clause.arg ∈ earlier
    · have hval : Fin.ofNat argCount clause.arg.toNat = condition.arg := by
        rw [← hfirst, Fin.ofNat_val_eq_self]
      rw [if_neg (by simpa using hmem), if_pos (bne_iff_ne.mpr (hmarked.mpr hmem)), hval]
    · rw [if_pos (decide_eq_true hmem), if_neg (by simpa using mt hmarked.mp hmem)]
      exact ih hinsert hrest

theorem Condition.goesBy_checkDistinct {conditions : List Condition}
    {clauses : List ConditionClause}
    (hargs : conditions.map (fun condition => condition.arg.val) =
      clauses.map fun clause => clause.arg.toNat) :
    GoesBy ((checkDistinct conditions).mapError Error.condition)
      (ConditionClause.distinctChecks [] clauses) fun _ => True where
  outcome := by
    rw [ConditionClause.outcome_distinctChecks marks_zero hargs, checkDistinct]
    cases duplicateFrom? 0 conditions with
    | none => rfl
    | some _ => rfl
  post _ _ := trivial

end Conditions

section Stages

variable {level : Nat} {filter : Filter}

/-- One check decides alone. -/
theorem goesBy_single {α : Type} {post : α → Prop} {result : Except Error α} (a : α)
    {condition : Prop} [Decidable condition] {error : Error} (ha : post a)
    (hok : condition → result = .ok a) (herror : ¬ condition → result = .error error) :
    GoesBy result [⟨condition, error⟩] post := by
  by_cases hcondition : condition
  · rw [hok hcondition]
    exact (goesBy_ok ha).cons (decide_eq_true hcondition)
  · rw [herror hcondition]
    exact goesBy_error (decide_eq_false hcondition)

theorem Action.goesBy_check (action : Action) :
    GoesBy action.check [⟨action ≠ .invalid, .invalidAction⟩] fun _ => True := by
  rw [check, isValid]
  exact goesBy_single () trivial (fun hne => if_pos (bne_iff_ne.mpr hne))
    fun he => if_neg (mt bne_iff_ne.mp he)

theorem Capabilities.goesBy_require (capabilities : Capabilities) (feature : Feature) :
    GoesBy (capabilities.require feature)
      [⟨feature.level ≤ capabilities.level,
        .notSupported feature.text feature.level capabilities.level⟩] fun _ => True := by
  rw [require, requireLevel]
  exact goesBy_single () trivial (fun hle => if_neg (Nat.not_lt.mpr hle))
    fun hlow => if_pos (Nat.not_le.mp hlow)

/-- The level that a policy asks for is the one of the capabilities that it makes use of. -/
theorem Policy.goesBy_capabilities (policy : Policy) (available : Capabilities) :
    GoesBy (policy.capabilities available)
      [⟨policy.level.all fun level => 1 ≤ level.toNat ∧ level.toNat ≤ available.level,
        .notSupported "api level" (policy.effectiveLevel available) available.level⟩]
      fun capabilities => capabilities.level = policy.effectiveLevel available := by
  obtain ⟨_, _, _, _, level?, _⟩ := policy
  cases level? with
  | none => exact GoesBy.cons rfl (goesBy_ok rfl)
  | some level =>
    refine goesBy_single { available with level := level.toNat } rfl (fun h => ?_) fun h => ?_
    · refine if_neg ?_
      omega
    · refine if_pos ?_
      omega

/-- A filter that has not been released, at a level. -/
structure Filter.Ready (filter : Filter) (level : Nat) : Prop where
  valid : filter.state?.isSome
  level_eq : filter.capabilities.level = level

namespace Filter

variable {level : Nat} {filter : Filter}

/-- A change without checks of its own succeeds. -/
theorem Ready.modify (h : filter.Ready level) (change : FilterState → FilterState) :
    GoesBy (filter.modify change) [] (Ready · level) := by
  obtain ⟨state, hs⟩ := Option.isSome_iff_exists.mp h.valid
  have hchanged : filter.modify change = .ok { filter with state? := some (change state) } := by
    rw [Filter.modify, Filter.state, hs]
    rfl
  rw [hchanged]
  exact goesBy_ok ⟨rfl, h.level_eq⟩

/-- A change behind a check goes by the check. -/
theorem Ready.modifyAfter (h : filter.Ready level) {check : Except Error Unit}
    {checks : List Check} (hcheck : GoesBy check checks fun _ => True)
    (change : FilterState → FilterState) :
    GoesBy (check >>= fun _ => filter.modify change) checks (Ready · level) :=
  hcheck.bind_nil fun _ _ => h.modify change

theorem goesBy_make (action : Action) (capabilities : Capabilities) :
    GoesBy (make action capabilities) [⟨action ≠ .invalid, .invalidAction⟩]
      (Ready · capabilities.level) :=
  action.goesBy_check.bind_nil fun _ _ => goesBy_ok ⟨rfl, rfl⟩

theorem Ready.addArch (h : filter.Ready level) (arch : Arch) :
    GoesBy (filter.addArch arch) [] fun next => next.Ready level ∧
      (next.list? arch).isSome ∧ ∀ other, (filter.list? other).isSome → (next.list? other).isSome
    where
  outcome := (h.modify _).outcome
  post next hnext := by
    obtain ⟨state, hs, rfl⟩ := of_modify hnext
    refine ⟨(h.modify _).post _ hnext, ?_, fun other ho => ?_⟩
    · rw [list?_of_state? rfl, PerArch.get_set, if_pos rfl]
      rfl
    · rw [list?_of_state? hs] at ho
      rw [list?_of_state? rfl, PerArch.get_set]
      split_ifs
      · rfl
      · exact ho

/-- Architectures are covered without further checks. -/
theorem Ready.addArches (h : filter.Ready level) (arches : List Arch) :
    GoesBy (filter.addArches arches) [] fun next => next.Ready level ∧
      (∀ arch ∈ arches, (next.list? arch).isSome) ∧
      ∀ other, (filter.list? other).isSome → (next.list? other).isSome := by
  induction arches generalizing filter with
  | nil => exact goesBy_ok ⟨h, by simp, fun _ ho => ho⟩
  | cons arch rest ih =>
    refine (h.addArch arch).bind_nil fun next ⟨hready, harch, hkept⟩ => ?_
    refine (ih hready).mono fun last ⟨hlast, hrest, hstays⟩ => ⟨hlast, ?_, ?_⟩
    · exact List.forall_mem_cons.mpr ⟨hstays arch harch, hrest⟩
    · exact fun other ho => hstays other (hkept other ho)

/-- An architecture can be dropped where another one is covered. -/
theorem Ready.removeArch (h : filter.Ready level) {arch other : Arch} (hne : other ≠ arch)
    (hother : (filter.list? other).isSome) :
    GoesBy (filter.removeArch arch) [] (Ready · level) := by
  obtain ⟨state, hs⟩ := Option.isSome_iff_exists.mp h.valid
  rw [list?_of_state? hs] at hother
  have harches : state.ruleset.arches ≠ [arch] := by
    intro hlone
    have hmem : other ∈ state.ruleset.arches := List.mem_filter.mpr ⟨other.mem_all, hother⟩
    rw [hlone] at hmem
    exact hne (List.mem_singleton.mp hmem)
  have hremove : filter.removeArch arch = filter.modify fun state =>
      { state with ruleset.rules := state.ruleset.rules.set arch none } := by
    have hstate : filter.state = .ok state := by rw [Filter.state, hs]
    rw [Filter.removeArch, hstate]
    exact if_neg harches
  rw [hremove]
  exact h.modify _

end Filter

theorem Arch.goesBy_resolve (name : String) :
    GoesBy ((resolve name).mapError Error.arch)
      [⟨(ofName? name).isSome, .arch (.unknownName name)⟩] fun _ => True := by
  rw [resolve]
  cases ofName? name with
  | none => exact goesBy_error rfl
  | some arch => exact (goesBy_ok trivial).cons rfl

theorem Arch.goesBy_resolveAll (names : List String) :
    GoesBy ((resolveAll names).mapError Error.arch)
      (names.map fun name => ⟨(ofName? name).isSome, .arch (.unknownName name)⟩)
      fun arches => arches.length = names.length := by
  induction names with
  | nil => exact goesBy_ok rfl
  | cons name rest ih =>
    rw [resolveAll, mapError_bind]
    refine (goesBy_resolve name).bind fun arch _ => ?_
    rw [mapError_bind]
    refine ih.bind_nil fun arches hlength => goesBy_ok ?_
    rw [List.length_cons, List.length_cons, hlength]

theorem Syscall.goesBy_resolve (name : String) :
    GoesBy ((resolve .native name).mapError Error.syscall)
      [⟨(ofName? .native name).isSome, .syscall (.unknownName name .native)⟩]
      fun call => ofName? .native name = some call := by
  rw [resolve]
  cases ofName? .native name with
  | none => exact goesBy_error rfl
  | some call =>
    refine GoesBy.cons rfl ?_
    exact goesBy_ok rfl

namespace Filter

variable {level : Nat} {filter : Filter}

/-- To cover named architectures asks no more than that the names mean some: where the native one
goes, one that is named stays. -/
theorem Ready.coverNamed (h : filter.Ready level) (names : List String) :
    GoesBy (filter.coverNamed names)
      (names.map fun name => ⟨(Arch.ofName? name).isSome, .arch (.unknownName name)⟩)
      (Ready · level) := by
  rw [Filter.coverNamed]
  by_cases hnames : names = []
  · subst hnames
    exact goesBy_ok h
  · rw [if_neg (by simpa using hnames)]
    refine (Arch.goesBy_resolveAll names).bind_nil fun arches hlength => ?_
    refine (h.addArches arches).bind_nil fun next ⟨hready, hcovered, _⟩ => ?_
    split_ifs with hnative
    · exact goesBy_ok hready
    · -- There is an architecture among the named ones, and it is not the native one.
      have hne : arches ≠ [] := by
        rintro rfl
        exact hnames (List.eq_nil_of_length_eq_zero hlength.symm)
      obtain ⟨arch, harch⟩ := List.exists_mem_of_ne_nil arches hne
      have hother : arch ≠ .native := by
        rintro rfl
        exact hnative (List.contains_iff_mem.mpr harch)
      exact hready.removeArch hother (hcovered arch harch)

/-- A choice that was made goes by the level of its feature. -/
theorem Ready.choose (h : filter.Ready level) (choice : Option Bool) (feature : Feature)
    {set : Filter → Bool → Except Error Filter} {change : Bool → FilterState → FilterState}
    (hset : ∀ on, set filter on =
      filter.capabilities.require feature >>= fun _ => filter.modify (change on)) :
    GoesBy (filter.choose choice set) [AttributeClause.check choice feature level]
      (Ready · level) := by
  cases choice with
  | none => exact GoesBy.cons rfl (goesBy_ok h)
  | some on =>
    have hrequire := filter.capabilities.goesBy_require feature
    rw [h.level_eq] at hrequire
    rw [Filter.choose, hset]
    exact h.modifyAfter hrequire (change on)

theorem Ready.setAttributes (h : filter.Ready level) (clause : AttributeClause) :
    GoesBy (filter.setAttributes clause)
      [AttributeClause.check clause.log .log level,
        AttributeClause.check clause.speculation .speculation level,
        AttributeClause.check clause.threadSync .threadSync level]
      (Ready · level) := by
  have hfirst : GoesBy (filter.choose clause.noNewPrivs setNoNewPrivs) [] (Ready · level) := by
    cases clause.noNewPrivs with
    | none => exact goesBy_ok h
    | some on => exact h.modify _
  refine hfirst.bind fun second hsecond => ?_
  refine (hsecond.choose clause.log .log fun _ => rfl).bind fun third hthird => ?_
  refine (hthird.choose clause.speculation .speculation fun _ => rfl).bind fun fourth hfourth => ?_
  exact hfourth.choose clause.threadSync .threadSync fun _ => rfl

/-- A rule for a call that has a native name goes by its action and its arguments. -/
theorem Ready.addRule (h : filter.Ready level) {call : Syscall}
    (hcall : (call.name? .native).isSome) (action : Action) {conditions : List Condition}
    {clauses : List ConditionClause}
    (hargs : conditions.map (fun condition => condition.arg.val) =
      clauses.map fun clause => clause.arg.toNat) :
    GoesBy (filter.addRule call action conditions)
      ([⟨action ≠ .invalid, .invalidAction⟩] ++ ConditionClause.distinctChecks [] clauses)
      (Ready · level) := by
  obtain ⟨name, hname⟩ := exists_ok_of_isOk ((call.isOk_nameOn .native).mpr hcall)
  refine action.goesBy_check.bind fun _ _ => ?_
  rw [hname]
  exact h.modifyAfter (Condition.goesBy_checkDistinct hargs) _

theorem Ready.addClause (h : filter.Ready level) (clause : RuleClause) :
    GoesBy (filter.addClause clause) clause.checks (Ready · level) := by
  refine (Syscall.goesBy_resolve clause.syscall).bind fun call hcall => ?_
  refine (ConditionClause.goesBy_conditions clause.conditions).bind fun conditions hargs => ?_
  exact h.addRule (Option.isSome_of_eq_some (Syscall.name?_of_ofName? hcall)) clause.action hargs

theorem Ready.addClauses (h : filter.Ready level) (clauses : List RuleClause) :
    GoesBy (filter.addClauses clauses) (clauses.flatMap RuleClause.checks) (Ready · level) := by
  induction clauses generalizing filter with
  | nil => exact goesBy_ok h
  | cons clause rest ih => exact (h.addClause clause).bind fun _ hnext => ih hnext

end Filter

/-- A policy is built in the order of its checks. -/
theorem Policy.goesBy_build (policy : Policy) (available : Capabilities) :
    GoesBy (policy.build available) (policy.checks available)
      (Filter.Ready · (policy.effectiveLevel available)) := by
  refine (policy.goesBy_capabilities available).bind fun capabilities hlevel => ?_
  rw [← hlevel]
  refine (Filter.goesBy_make policy.defaultAction capabilities).bind fun made hmade => ?_
  have hlater {guarded : Filter} (hguarded : guarded.Ready capabilities.level) :=
    (hguarded.coverNamed policy.arches).bind fun _ hcovering =>
      (hcovering.setAttributes policy.attributes).bind fun _ hchosen =>
        hchosen.addClauses policy.rules
  -- An action for other architectures has a check where there is one.
  cases policy.badArchAction with
  | none => exact GoesBy.cons rfl (hlater hmade)
  | some action =>
    have hsome : (some action ≠ some .invalid) = (action ≠ .invalid) := by
      rw [Ne, Option.some.injEq]
    simp only [hsome]
    exact (hmade.modifyAfter action.goesBy_check _).bind fun _ => hlater

end Stages

section Buildable

theorem ConditionClause.buildable_iff (clause : ConditionClause) :
    clause.Buildable ↔ ∀ check ∈ clause.checks, check.passes = true := by
  have hmask : clause.mask.isSome = (clause.operator == .maskedEq) ↔
      (clause.mask.isSome ↔ clause.operator = .maskedEq) := by
    rw [Bool.eq_iff_iff, beq_iff_eq]
  simp only [checks, List.forall_mem_cons, decide_eq_true_eq, hmask]
  constructor
  · rintro ⟨harg, hoperator, hmask⟩
    exact ⟨harg, hoperator, hmask, by simp⟩
  · rintro ⟨harg, hoperator, hmask, -⟩
    exact ⟨harg, hoperator, hmask⟩

theorem ConditionClause.passes_distinctChecks_iff (earlier : List UInt32)
    (clauses : List ConditionClause) :
    (∀ check ∈ distinctChecks earlier clauses, check.passes = true) ↔
      (clauses.map (·.arg)).Nodup ∧ ∀ clause ∈ clauses, clause.arg ∉ earlier := by
  induction clauses generalizing earlier with
  | nil => simp [distinctChecks]
  | cons clause rest ih =>
    rw [distinctChecks, List.forall_mem_cons, ih, List.map_cons, List.nodup_cons,
      List.forall_mem_cons]
    simp only [decide_eq_true_eq, List.mem_cons, List.mem_map, not_or, not_exists, not_and]
    constructor
    · rintro ⟨hnew, hnodup, hrest⟩
      exact ⟨⟨fun other ho => (hrest other ho).1, hnodup⟩, hnew, fun other ho => (hrest other ho).2⟩
    · rintro ⟨⟨hfirst, hnodup⟩, hnew, hrest⟩
      exact ⟨hnew, hnodup, fun other ho => ⟨hfirst other ho, hrest other ho⟩⟩

/-- A native name is known where a row of the table has it and has a native number. -/
theorem Syscall.isSome_ofName?_iff {arch : Arch} {name : String} :
    (ofName? arch name).isSome ↔ ∃ row ∈ table, row.name = name ∧ (row.number? arch).isSome := by
  constructor
  · intro h
    obtain ⟨call, hcall⟩ := Option.isSome_iff_exists.mp h
    obtain ⟨row, hrow, hname, number, hnumber, -⟩ := exists_of_ofName? hcall
    exact ⟨row, hrow, hname, by rw [hnumber]; rfl⟩
  · rintro ⟨row, hrow, rfl, hnumber⟩
    obtain ⟨number, hnumber⟩ := Option.isSome_iff_exists.mp hnumber
    rw [ofName?, find?_name hrow, Option.bind_some, hnumber]
    rfl

theorem RuleClause.buildable_iff (clause : RuleClause) :
    clause.Buildable ↔ ∀ check ∈ clause.checks, check.passes = true := by
  simp only [checks, List.forall_mem_append, List.forall_mem_singleton, List.forall_mem_flatMap,
    ← ConditionClause.buildable_iff, ConditionClause.passes_distinctChecks_iff,
    Syscall.isSome_ofName?_iff, decide_eq_true_eq]
  constructor
  · rintro ⟨hnamed, hconditions, haction, hdistinct⟩
    exact ⟨hnamed, hconditions, haction, hdistinct, by simp⟩
  · rintro ⟨hnamed, hconditions, haction, hdistinct, -⟩
    exact ⟨hnamed, hconditions, haction, hdistinct⟩

theorem AttributeClause.passes_check_iff (choice : Option Bool) (feature : Feature) (level : Nat) :
    (check choice feature level).passes = true ↔ (choice.isSome → feature.level ≤ level) := by
  rw [check]
  cases choice with
  | none => simp
  | some _ => simp

theorem Policy.buildable_iff (policy : Policy) (available : Capabilities) :
    policy.Buildable available ↔
      ∀ check ∈ policy.checks available, check.passes = true := by
  simp only [checks, List.forall_mem_append, List.forall_mem_cons, List.forall_mem_flatMap,
    List.forall_mem_map, ← RuleClause.buildable_iff, AttributeClause.passes_check_iff,
    decide_eq_true_eq, Option.all_eq_true, List.not_mem_nil, IsEmpty.forall_iff, implies_true,
    and_true]
  constructor
  · rintro ⟨hlevel, hdefault, hbad, harches, hlog, hspeculation, hthreadSync, hrules⟩
    exact ⟨hlevel, hdefault, hbad, harches, ⟨hlog, hspeculation, hthreadSync⟩, hrules⟩
  · rintro ⟨hlevel, hdefault, hbad, harches, ⟨hlog, hspeculation, hthreadSync⟩, hrules⟩
    exact ⟨hlevel, hdefault, hbad, harches, hlog, hspeculation, hthreadSync, hrules⟩

theorem ConditionClause.exists_error_distinctChecks {earlier : List UInt32}
    {clauses : List ConditionClause} :
    ∀ check ∈ distinctChecks earlier clauses,
      ∃ arg, check.error = .condition (.duplicateArg arg) := by
  induction clauses generalizing earlier with
  | nil => simp [distinctChecks]
  | cons clause rest ih => exact List.forall_mem_cons.mpr ⟨⟨_, rfl⟩, ih⟩

/-- No check is about the last architecture of a filter. -/
theorem Policy.error_ne_lastOne (policy : Policy) (available : Capabilities) (arch : Arch) :
    ∀ check ∈ policy.checks available, check.error ≠ .arch (.lastOne arch) := by
  have hrules : ∀ clause ∈ policy.rules, ∀ check ∈ clause.checks,
      check.error ≠ .arch (.lastOne arch) := by
    intro clause _
    rw [RuleClause.checks]
    simp only [List.forall_mem_append, List.forall_mem_flatMap, ConditionClause.checks]
    refine ⟨by simp, by simp, by simp, fun check hcheck => ?_⟩
    obtain ⟨arg, he⟩ := ConditionClause.exists_error_distinctChecks check hcheck
    rw [he]
    simp
  simp only [checks, List.forall_mem_append, List.forall_mem_map, List.forall_mem_flatMap]
  exact ⟨by simp, by simp, by simp, by simp, by simp [AttributeClause.check], hrules⟩

end Buildable

/-- A filter is built just from the policies that can be built as they are stated. From any other
one comes the error of the first check that fails, and dropping the native architecture is never
what fails. -/
theorem Policy.build_goes_by_checks (policy : Policy) (available : Capabilities) :
    ((∃ filter, policy.build available = .ok filter) ↔ policy.Buildable available) ∧
      (∀ error, policy.build available = .error error ↔
        FirstFailure (policy.checks available) error) ∧
      ∀ arch, policy.build available ≠ .error (.arch (.lastOne arch)) := by
  have houtcome := (policy.goesBy_build available).outcome
  have herror (error : Error) : policy.build available = .error error ↔
      FirstFailure (policy.checks available) error := by
    rw [← Check.outcome_eq_error_iff, ← houtcome]
    cases policy.build available with
    | error found => simp [Except.map]
    | ok filter => simp [Except.map]
  refine ⟨?_, herror, fun arch hlast => ?_⟩
  · rw [policy.buildable_iff, ← Check.outcome_eq_ok_iff, ← houtcome]
    cases policy.build available with
    | error _ => simp [Except.map]
    | ok filter => simp [Except.map]
  · obtain ⟨before, check, after, hchecks, -, -, he⟩ := (herror _).mp hlast
    have hmem : check ∈ policy.checks available := by
      rw [hchecks]
      exact List.mem_append_right before List.mem_cons_self
    exact policy.error_ne_lastOne available arch check hmem he

/-- The level is looked at before the action. -/
example : Policy.build ⟨.invalid, none, [], .empty, some 7, []⟩ ⟨6, none⟩ =
    .error (.notSupported "api level" 7 6) := by
  rfl

end SyscallFilter
