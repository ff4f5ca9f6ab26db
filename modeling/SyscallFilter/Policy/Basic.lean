import SyscallFilter.Filter.Basic

/-!
Policies: what a filter should be, in terms of names. A policy leaves open what it does not mention.
-/

namespace SyscallFilter

/-- A condition as a policy states it. Only a masked comparison goes with a mask. -/
structure ConditionClause where
  arg : UInt32
  operator : Operator
  value : UInt64
  mask : Option UInt64
  deriving DecidableEq, Repr

/-- A rule for a system call named as on the native architecture. -/
structure RuleClause where
  syscall : String
  action : Action
  conditions : List ConditionClause
  deriving DecidableEq, Repr

/-- The attributes that a policy chooses. -/
structure AttributeClause where
  noNewPrivs : Option Bool
  log : Option Bool
  speculation : Option Bool
  threadSync : Option Bool
  deriving DecidableEq, Repr

/-- Chooses nothing. -/
def AttributeClause.empty : AttributeClause := ⟨none, none, none, none⟩

/-- A declared filter. Without architectures it covers the native one, and without a level it uses
the highest that the kernel has. -/
structure Policy where
  defaultAction : Action
  badArchAction : Option Action
  arches : List String
  attributes : AttributeClause
  level : Option UInt32
  rules : List RuleClause
  deriving DecidableEq, Repr

end SyscallFilter
