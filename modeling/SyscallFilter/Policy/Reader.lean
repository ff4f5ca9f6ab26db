import SyscallFilter.Error
import SyscallFilter.Json.Reader
import SyscallFilter.Policy.Basic

/-!
Reading policies from JSON. Every record may be given as an object or as the sequence of its fields'
values, and what a policy may leave open may be left out.
-/

namespace SyscallFilter

open Json Json.Reader

/-- The actions that a policy may name. -/
def Action.variants : List (String × Payload Action) :=
  [("kill_process", .unit killProcess), ("kill_thread", .unit killThread),
    ("allow", .unit allow), ("trap", .unit trap), ("errno", .code errno),
    ("trace", .code trace), ("log", .unit log), ("notify", .unit notify)]

/-- Reads an action. -/
def Action.reader : Reader Action :=
  variant variants

/-- The operators that a policy may name. -/
def Operator.variants : List (String × Payload Operator) :=
  [("ne", .unit ne), ("lt", .unit lt), ("le", .unit le), ("eq", .unit eq), ("ge", .unit ge),
    ("gt", .unit gt), ("masked_eq", .unit maskedEq)]

/-- The fields of a condition that have been read. -/
structure ConditionDraft where
  arg : Option UInt32
  operator : Option Operator
  value : Option UInt64
  mask : Option (Option UInt64)

namespace ConditionDraft

/-- The fields of a condition, in order. -/
def fields : List (FieldReader ConditionDraft) :=
  [.of "arg" true uint32 arg fun draft value => { draft with arg := value },
    .of "op" true (variant Operator.variants) operator
      fun draft value => { draft with operator := value },
    .of "value" true uint64 value fun draft value => { draft with value },
    .of "mask" false (optional uint64) mask fun draft value => { draft with mask := value }]

/-- The condition, if all that it needs has been read. -/
def complete? (draft : ConditionDraft) : Option ConditionClause :=
  match draft with
  | ⟨some arg, some operator, some value, mask⟩ => some ⟨arg, operator, value, mask.join⟩
  | _ => none

end ConditionDraft

/-- Takes the result of a draft that the reader of its record has found complete. -/
def finish {α : Type} : Option α → Reader α
  | some value => pure value
  | none => malformed

/-- Reads a condition. -/
def ConditionClause.reader : Reader ConditionClause := do
  finish (← record "ConditionSpec" ConditionDraft.fields ⟨none, none, none, none⟩).complete?

/-- The fields of a rule that have been read. -/
structure RuleDraft where
  syscall : Option String
  action : Option Action
  conditions : Option (List ConditionClause)

namespace RuleDraft

/-- The fields of a rule, in order. -/
def fields : List (FieldReader RuleDraft) :=
  [.of "syscall" true string syscall fun draft value => { draft with syscall := value },
    .of "action" true Action.reader action fun draft value => { draft with action := value },
    .of "conditions" false (sequence ConditionClause.reader) conditions
      fun draft value => { draft with conditions := value }]

/-- The rule, if all that it needs has been read. -/
def complete? (draft : RuleDraft) : Option RuleClause :=
  match draft with
  | ⟨some syscall, some action, conditions⟩ => some ⟨syscall, action, conditions.getD []⟩
  | _ => none

end RuleDraft

/-- Reads a rule. -/
def RuleClause.reader : Reader RuleClause := do
  finish (← record "RuleSpec" RuleDraft.fields ⟨none, none, none⟩).complete?

/-- The attributes that have been read. -/
structure AttributeDraft where
  noNewPrivs : Option (Option Bool)
  log : Option (Option Bool)
  speculation : Option (Option Bool)
  threadSync : Option (Option Bool)

namespace AttributeDraft

/-- The attributes, in order. -/
def fields : List (FieldReader AttributeDraft) :=
  [.of "no_new_privs" false (optional boolean) noNewPrivs
      fun draft value => { draft with noNewPrivs := value },
    .of "log" false (optional boolean) log fun draft value => { draft with log := value },
    .of "ssb" false (optional boolean) speculation
      fun draft value => { draft with speculation := value },
    .of "tsync" false (optional boolean) threadSync
      fun draft value => { draft with threadSync := value }]

/-- The choices that have been read. -/
def complete (draft : AttributeDraft) : AttributeClause :=
  ⟨draft.noNewPrivs.join, draft.log.join, draft.speculation.join, draft.threadSync.join⟩

end AttributeDraft

/-- Reads attributes. -/
def AttributeClause.reader : Reader AttributeClause := do
  return (← record "PolicyAttributes" AttributeDraft.fields ⟨none, none, none, none⟩).complete

/-- The fields of a policy that have been read. -/
structure PolicyDraft where
  defaultAction : Option Action
  badArchAction : Option (Option Action)
  arches : Option (List String)
  attributes : Option AttributeClause
  level : Option (Option UInt32)
  rules : Option (List RuleClause)

namespace PolicyDraft

/-- The fields of a policy, in order. -/
def fields : List (FieldReader PolicyDraft) :=
  [.of "default_action" true Action.reader defaultAction
      fun draft value => { draft with defaultAction := value },
    .of "bad_arch_action" false (optional Action.reader) badArchAction
      fun draft value => { draft with badArchAction := value },
    .of "arches" false (sequence string) arches fun draft value => { draft with arches := value },
    .of "attributes" false AttributeClause.reader attributes
      fun draft value => { draft with attributes := value },
    .of "api_level" false (optional uint32) level
      fun draft value => { draft with level := value },
    .of "rules" false (sequence RuleClause.reader) rules
      fun draft value => { draft with rules := value }]

/-- The policy, if all that it needs has been read. -/
def complete? (draft : PolicyDraft) : Option Policy :=
  draft.defaultAction.map fun defaultAction =>
    { defaultAction
      badArchAction := draft.badArchAction.join
      arches := draft.arches.getD []
      attributes := draft.attributes.getD .empty
      level := draft.level.join
      rules := draft.rules.getD [] }

end PolicyDraft

namespace Policy

/-- Reads a policy. -/
def reader : Reader Policy := do
  finish (← record "Policy" PolicyDraft.fields ⟨none, none, none, none, none, none⟩).complete?

/-- The policy that a JSON text states. -/
def ofJson (text : String) : Except Error Policy :=
  (readAll reader text.toList).mapError (Error.policy none)

/-- The policy in the bytes of a file, which have to be UTF-8. Failures name the file. -/
def ofFile (path : String) (bytes : List UInt8) : Except Error Policy :=
  match String.fromUTF8? (ByteArray.mk bytes.toArray) with
  | none => .error (.transfer .invalidFile)
  | some text => (readAll reader text.toList).mapError (Error.policy (some path))

end Policy

/-- The action that a JSON text states. -/
def Action.ofJson (text : String) : Except ReadError Action :=
  readAll reader text.toList

end SyscallFilter
