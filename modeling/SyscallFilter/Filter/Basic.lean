import SyscallFilter.Capability
import SyscallFilter.Program.Compile

/-!
Filters under construction. A filter holds a rule set and attributes until it is released; a
released filter fails every operation. An operation that fails gives no new filter, so the old one
stands as it was.
-/

namespace SyscallFilter

/-- The choices that accompany a filter when it is loaded. -/
structure Attributes where
  noNewPrivs : Bool
  log : Bool
  speculation : Bool
  threadSync : Bool
  deriving DecidableEq, Repr

/-- A new filter forbids new privileges and asks for nothing else. -/
def Attributes.initial : Attributes := ⟨true, false, false, false⟩

/-- What a filter holds until it is released. The listener is the descriptor that a load handed out
for notifications. -/
structure FilterState where
  ruleset : Ruleset
  attributes : Attributes
  loaded : Bool
  listener : Option Nat
  deriving DecidableEq, Repr

/-- A new filter covers the native architecture without rules and kills threads that call through
another one. -/
def FilterState.initial (defaultAction : Action) : FilterState where
  ruleset :=
    { defaultAction
      badArchAction := .killThread
      rules := .ofFn fun arch => if arch = .native then some [] else none }
  attributes := .initial
  loaded := false
  listener := none

/-- A filter and what its kernel can do for it; a released filter holds no state. -/
structure Filter where
  state? : Option FilterState
  capabilities : Capabilities
  deriving DecidableEq, Repr

/-- Refuses the action that cannot stand in a filter. -/
def Action.check (action : Action) : Except Error Unit :=
  if action.isValid then .ok () else .error .invalidAction

namespace Filter

/-- What the filter holds, unless it has been released. -/
def state (filter : Filter) : Except Error FilterState :=
  match filter.state? with
  | some state => .ok state
  | none => .error .filterReleased

theorem state?_of_state {filter : Filter} {state : FilterState} (h : filter.state = .ok state) :
    filter.state? = some state := by
  rw [Filter.state] at h
  split at h
  · next held hs => rw [hs, Except.ok.inj h]
  · nomatch h

/-- Changes what the filter holds, unless it has been released. -/
def modify (filter : Filter) (change : FilterState → FilterState) : Except Error Filter :=
  filter.state.map fun state => { filter with state? := some (change state) }

/-- A new filter with a default action. -/
def make (defaultAction : Action) (capabilities : Capabilities) : Except Error Filter := do
  defaultAction.check
  pure ⟨some (.initial defaultAction), capabilities⟩

/-- Returns a filter to its initial state with another default action. -/
def reset (filter : Filter) (defaultAction : Action) : Except Error Filter := do
  defaultAction.check
  filter.modify fun _ => .initial defaultAction

/-- Gives up all that the filter holds. -/
def release (filter : Filter) : Filter :=
  { filter with state? := none }

/-- A filter is valid until it is released. -/
def isValid (filter : Filter) : Bool :=
  filter.state?.isSome

/-- Whether a load has succeeded; never so for a released filter. -/
def isLoaded (filter : Filter) : Bool :=
  filter.state?.any (·.loaded)

/-- The covered architectures in listing order. -/
def arches (filter : Filter) : Except Error (List Arch) :=
  filter.state.map fun state => state.ruleset.arches

/-- Whether an architecture is covered. -/
def hasArch (filter : Filter) (arch : Arch) : Except Error Bool :=
  filter.state.map fun state => (state.ruleset.rules.get arch).isSome

/-- Covers an architecture, at first without rules; one that is covered keeps its rules. -/
def addArch (filter : Filter) (arch : Arch) : Except Error Filter :=
  filter.modify fun state =>
    { state with
      ruleset.rules :=
        state.ruleset.rules.set arch (some ((state.ruleset.rules.get arch).getD [])) }

/-- Drops an architecture with its rules. The last one stays, and one that is not covered is no
loss. -/
def removeArch (filter : Filter) (arch : Arch) : Except Error Filter := do
  let state ← filter.state
  if state.ruleset.arches = [arch] then throw (.arch (.lastOne arch))
  filter.modify fun state =>
    { state with ruleset.rules := state.ruleset.rules.set arch none }

/-- The action for calls that no rule decides. -/
def defaultAction (filter : Filter) : Except Error Action :=
  filter.state.map fun state => state.ruleset.defaultAction

/-- Replaces the action for calls that no rule decides. -/
def setDefaultAction (filter : Filter) (action : Action) : Except Error Filter := do
  action.check
  filter.modify fun state => { state with ruleset.defaultAction := action }

/-- The action for calls through an architecture that is not covered. -/
def badArchAction (filter : Filter) : Except Error Action :=
  filter.state.map fun state => state.ruleset.badArchAction

/-- Replaces the action for calls through an architecture that is not covered. -/
def setBadArchAction (filter : Filter) (action : Action) : Except Error Filter := do
  action.check
  filter.modify fun state => { state with ruleset.badArchAction := action }

/-- All attributes at once, whatever the level. -/
def attributes (filter : Filter) : Except Error Attributes :=
  filter.state.map (·.attributes)

/-- Whether loading forbids new privileges first. -/
def noNewPrivs (filter : Filter) : Except Error Bool :=
  filter.state.map (·.attributes.noNewPrivs)

/-- Chooses whether loading forbids new privileges first. -/
def setNoNewPrivs (filter : Filter) (on : Bool) : Except Error Filter :=
  filter.modify fun state => { state with attributes.noNewPrivs := on }

/-- Whether actions are logged. -/
def log (filter : Filter) : Except Error Bool := do
  filter.capabilities.require .log
  filter.state.map (·.attributes.log)

/-- Chooses whether actions are logged. -/
def setLog (filter : Filter) (on : Bool) : Except Error Filter := do
  filter.capabilities.require .log
  filter.modify fun state => { state with attributes.log := on }

/-- Whether speculative store bypass stays permitted. -/
def speculation (filter : Filter) : Except Error Bool := do
  filter.capabilities.require .speculation
  filter.state.map (·.attributes.speculation)

/-- Chooses whether speculative store bypass stays permitted. -/
def setSpeculation (filter : Filter) (on : Bool) : Except Error Filter := do
  filter.capabilities.require .speculation
  filter.modify fun state => { state with attributes.speculation := on }

/-- Whether a load reaches every thread of the process. -/
def threadSync (filter : Filter) : Except Error Bool := do
  filter.capabilities.require .threadSync
  filter.state.map (·.attributes.threadSync)

/-- Chooses whether a load reaches every thread of the process. -/
def setThreadSync (filter : Filter) (on : Bool) : Except Error Filter := do
  filter.capabilities.require .threadSync
  filter.modify fun state => { state with attributes.threadSync := on }

/-- The rules of a covered architecture in order of precedence. -/
def rules (filter : Filter) (arch : Arch) : Except Error (List Rule) := do
  let state ← filter.state
  match state.ruleset.rules.get arch with
  | some rules => pure rules
  | none => throw (.arch (.absent arch))

/-- Puts a rule for a native call behind the rules of every covered architecture that has the call,
under the number that architecture gives it. -/
def appendRule (call : Syscall) (action : Action) (conditions : List Condition)
    (rules : PerArch (Option (List Rule))) : PerArch (Option (List Rule)) :=
  rules.map fun arch rules? =>
    match call.counterpart? .native arch with
    | some own => rules?.map fun rules => rules ++ [⟨own, action, conditions⟩]
    | none => rules?

/-- Adds a rule for a native call. The action is checked first, then the call, then the
conditions. -/
def addRule (filter : Filter) (call : Syscall) (action : Action) (conditions : List Condition) :
    Except Error Filter := do
  action.check
  let _ ← (call.nameOn .native).mapError Error.syscall
  (Condition.checkDistinct conditions).mapError Error.condition
  filter.modify fun state =>
    { state with ruleset.rules := appendRule call action conditions state.ruleset.rules }

/-- The program that the filter's rules compile to. -/
def program (filter : Filter) : Except Error Program := do
  let state ← filter.state
  state.ruleset.compile

/-- The program of a filter is the compiled form of its rule set. -/
theorem program_eq_compile {filter : Filter} {held : FilterState}
    (h : filter.state? = some held) : filter.program = held.ruleset.compile := by
  rw [program, state, h]
  rfl

theorem exists_of_program_eq_ok {filter : Filter} {program : Program}
    (h : filter.program = .ok program) :
    ∃ held, filter.state? = some held ∧ held.ruleset.compile = .ok program := by
  obtain ⟨held, hs, hc⟩ := exists_of_bind_eq_ok h
  exact ⟨held, state?_of_state hs, hc⟩

end Filter

end SyscallFilter
