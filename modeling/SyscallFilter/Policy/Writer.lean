import SyscallFilter.Json.StringLiteral
import SyscallFilter.Numeral
import SyscallFilter.Policy.Basic

/-!
Writing policies as compact JSON: no blanks, the fields in their order, and what is left open left
out. An invalid action or operator has no written form.
-/

namespace SyscallFilter

namespace Json

/-- Texts with commas between them. -/
def commaSeparated : List (List Char) → List Char
  | [] => []
  | [text] => text
  | text :: rest => text ++ ',' :: commaSeparated rest

/-- A sequence of written values. -/
def array (values : List (List Char)) : List Char :=
  '[' :: commaSeparated values ++ [']']

/-- An object of named written values. -/
def object (members : List (String × List Char)) : List Char :=
  let text (member : String × List Char) := quote member.1.toList ++ ':' :: member.2
  '{' :: commaSeparated (members.map text) ++ ['}']

/-- A number in decimal digits. -/
def number (n : Nat) : List Char :=
  Nat.toDigits 10 n

/-- A truth value. -/
def boolean : Bool → List Char
  | true => ['t', 'r', 'u', 'e']
  | false => ['f', 'a', 'l', 's', 'e']

/-- A member that is left out where it has no value. -/
def optionalMember {α : Type} (name : String) (write : α → List Char) :
    Option α → List (String × List Char)
  | some value => [(name, write value)]
  | none => []

/-- A member that is left out where it is an empty sequence. -/
def sequenceMember (name : String) (values : List (List Char)) : List (String × List Char) :=
  if values.isEmpty then [] else [(name, array values)]

end Json

open Json

/-- An action by its name, with its payload where it has one. -/
def Action.write? : Action → Option (List Char)
  | killProcess => some (quote "kill_process".toList)
  | killThread => some (quote "kill_thread".toList)
  | allow => some (quote "allow".toList)
  | trap => some (quote "trap".toList)
  | errno code => some (object [("errno", number code.toNat)])
  | trace code => some (object [("trace", number code.toNat)])
  | log => some (quote "log".toList)
  | notify => some (quote "notify".toList)
  | invalid => none

/-- The name of an operator. -/
def Operator.write? : Operator → Option (List Char)
  | ne => some (quote "ne".toList)
  | lt => some (quote "lt".toList)
  | le => some (quote "le".toList)
  | eq => some (quote "eq".toList)
  | ge => some (quote "ge".toList)
  | gt => some (quote "gt".toList)
  | maskedEq => some (quote "masked_eq".toList)
  | invalid => none

/-- A condition. -/
def ConditionClause.write? (clause : ConditionClause) : Option (List Char) :=
  clause.operator.write?.map fun operator =>
    object <| [("arg", number clause.arg.toNat), ("op", operator),
      ("value", number clause.value.toNat)] ++
      optionalMember "mask" (fun mask => number mask.toNat) clause.mask

/-- A rule. -/
def RuleClause.write? (clause : RuleClause) : Option (List Char) :=
  match clause.action.write?, clause.conditions.mapM ConditionClause.write? with
  | some action, some conditions =>
    some <| object <| [("syscall", quote clause.syscall.toList), ("action", action)] ++
      sequenceMember "conditions" conditions
  | _, _ => none

/-- The chosen attributes. -/
def AttributeClause.write (clause : AttributeClause) : List Char :=
  object <| optionalMember "no_new_privs" boolean clause.noNewPrivs ++
    optionalMember "log" boolean clause.log ++ optionalMember "ssb" boolean clause.speculation ++
    optionalMember "tsync" boolean clause.threadSync

/-- A policy. -/
def Policy.write? (policy : Policy) : Option (List Char) :=
  match policy.defaultAction.write?, policy.badArchAction.mapM Action.write?,
    policy.rules.mapM RuleClause.write? with
  | some defaultAction, some badArchAction, some rules =>
    some <| object <| ("default_action", defaultAction) ::
      optionalMember "bad_arch_action" id badArchAction ++
      sequenceMember "arches" (policy.arches.map fun arch => quote arch.toList) ++
      ("attributes", policy.attributes.write) ::
      optionalMember "api_level" (fun level => number level.toNat) policy.level ++
      [("rules", array rules)]
  | _, _, _ => none

end SyscallFilter
