import SyscallFilter.Policy.Basic

/-!
Building the filter that a policy declares. The parts of a policy are taken in a fixed order, and
the first that cannot be met decides the failure.
-/

namespace SyscallFilter

/-- The condition that is asked for; a mask comes before the value. -/
def ConditionClause.condition (clause : ConditionClause) : Except ConditionError Condition :=
  let operands := match clause.mask with
    | some mask => [mask, clause.value]
    | none => [clause.value]
  Condition.make clause.arg.toNat clause.operator operands

/-- The conditions that are asked for, in order. -/
def ConditionClause.conditions : List ConditionClause → Except ConditionError (List Condition)
  | [] => .ok []
  | clause :: rest =>
    match clause.condition with
    | .error error => .error error
    | .ok condition => (conditions rest).map (condition :: ·)

/-- Adds the rule that is asked for. -/
def Filter.addClause (filter : Filter) (clause : RuleClause) : Except Error Filter := do
  let call ← (Syscall.resolve .native clause.syscall).mapError Error.syscall
  let conditions ← (ConditionClause.conditions clause.conditions).mapError Error.condition
  filter.addRule call clause.action conditions

/-- Adds rules in order. -/
def Filter.addClauses (filter : Filter) : List RuleClause → Except Error Filter
  | [] => .ok filter
  | clause :: rest => do
    let next ← filter.addClause clause
    next.addClauses rest

/-- The architectures that names mean, in order. -/
def Arch.resolveAll : List String → Except ArchError (List Arch)
  | [] => .ok []
  | name :: rest => do
    let arch ← resolve name
    let arches ← resolveAll rest
    pure (arch :: arches)

/-- Covers architectures. -/
def Filter.addArches (filter : Filter) : List Arch → Except Error Filter
  | [] => .ok filter
  | arch :: rest => do
    let next ← filter.addArch arch
    next.addArches rest

/-- Covers exactly the named architectures, or leaves the native one where none is named. -/
def Filter.coverNamed (filter : Filter) (names : List String) : Except Error Filter :=
  if names.isEmpty then .ok filter
  else do
    let arches ← (Arch.resolveAll names).mapError Error.arch
    let next ← filter.addArches arches
    if arches.contains .native then pure next else next.removeArch .native

/-- Makes a choice that may be left open. -/
def Filter.choose (filter : Filter) (choice : Option Bool)
    (set : Filter → Bool → Except Error Filter) : Except Error Filter :=
  match choice with
  | some on => set filter on
  | none => .ok filter

/-- Sets the attributes that are chosen, each of them subject to the level. -/
def Filter.setAttributes (filter : Filter) (clause : AttributeClause) : Except Error Filter := do
  let filter ← filter.choose clause.noNewPrivs setNoNewPrivs
  let filter ← filter.choose clause.log setLog
  let filter ← filter.choose clause.speculation setSpeculation
  filter.choose clause.threadSync setThreadSync

/-- The capabilities that a policy makes use of. -/
def Policy.capabilities (policy : Policy) (available : Capabilities) :
    Except Error Capabilities :=
  match policy.level with
  | some level => available.request level.toNat
  | none => .ok available

/-- The filter that a policy declares, for a kernel that can do what is available. -/
def Policy.build (policy : Policy) (available : Capabilities) : Except Error Filter := do
  let capabilities ← policy.capabilities available
  let filter ← Filter.make policy.defaultAction capabilities
  let filter ← match policy.badArchAction with
    | some action => filter.setBadArchAction action
    | none => pure filter
  let filter ← filter.coverNamed policy.arches
  let filter ← filter.setAttributes policy.attributes
  filter.addClauses policy.rules

end SyscallFilter
