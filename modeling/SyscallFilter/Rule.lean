import SyscallFilter.Action
import SyscallFilter.Condition
import SyscallFilter.Syscall

/-!
Rules and rule sets, and the decision that a rule set prescribes for a call. The decision is stated
directly on the rules, without regard to how they are compiled.
-/

namespace SyscallFilter

/-- What a filter is told of a call: its number, the audit word of the architecture it came
through, the address of the instruction, and the arguments. -/
structure CallData where
  number : Int32
  arch : UInt32
  pointer : UInt64
  args : Args
  deriving DecidableEq, Repr

/-- An action for one system call, taken when every condition holds. The number is the one that the
rule's own architecture gives the call. -/
structure Rule where
  call : Syscall
  action : Action
  conditions : List Condition
  deriving DecidableEq, Repr

/-- Whether a rule is about a call and all its conditions hold of the arguments. -/
def Rule.applies (rule : Rule) (data : CallData) : Bool :=
  rule.call.number == data.number && rule.conditions.all fun condition => condition.holds data.args

/-- Rules in order of precedence for each architecture that a filter covers, the action for calls
that no rule decides, and the action for calls through any other architecture. -/
structure Ruleset where
  defaultAction : Action
  badArchAction : Action
  rules : PerArch (Option (List Rule))
  deriving DecidableEq, Repr

namespace Ruleset

/-- The covered architectures with their rules, in listing order. -/
def blocks (set : Ruleset) : List (Arch × List Rule) :=
  Arch.all.filterMap fun arch => (set.rules.get arch).map fun rules => (arch, rules)

/-- The covered architectures in listing order. -/
def arches (set : Ruleset) : List Arch :=
  Arch.all.filter fun arch => (set.rules.get arch).isSome

/-- Numbers from this one on, read without sign, are calls of a second convention that reports the
same audit word as x86_64. -/
def x32Bit : UInt32 := 0x40000000

/-- The rules a call is measured against: those of its architecture, if it is covered and the call
does not belong to the second convention behind the x86_64 audit word. -/
def rulesFor? (set : Ruleset) (data : CallData) : Option (List Rule) :=
  match Arch.ofAuditWord? data.arch with
  | none => none
  | some arch =>
    if arch = .x8664 ∧ x32Bit ≤ data.number.toUInt32 then none else set.rules.get arch

/-- The first rule that applies decides, else the default action; a call without rules to measure
it against gets the action for bad architectures. -/
def verdict (set : Ruleset) (data : CallData) : Action :=
  match set.rulesFor? data with
  | none => set.badArchAction
  | some rules =>
    match rules.find? fun rule => rule.applies data with
    | some rule => rule.action
    | none => set.defaultAction

end Ruleset

end SyscallFilter
