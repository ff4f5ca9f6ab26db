import SyscallFilter.Rule

/-!
The readable listing of a rule set: one block for each covered architecture, its rules in order of
precedence, the default action behind them, and last the action for other architectures.
-/

namespace SyscallFilter

/-- A number as listings show it, with its sign. -/
def Syscall.numeral (call : Syscall) : String :=
  signedDecimal call.number.toInt

/-- The line that takes an action. -/
def Action.listing (action : Action) : String :=
  "action " ++ action.text ++ ";"

/-- The lines of a rule: which call it is about, its conditions if it has any, and its action. -/
def Rule.listing (rule : Rule) (arch : Arch) : List String :=
  let number := rule.call.numeral
  let name := (rule.call.name? arch).getD "?"
  let head :=
    ["  # filter for syscall \"" ++ name ++ "\" (" ++ number ++ ")",
      "  if ($syscall == " ++ number ++ ")"]
  match rule.conditions with
  | [] => head ++ ["    " ++ rule.action.listing]
  | conditions =>
    head ++ ["    if (" ++ String.intercalate " && " (conditions.map Condition.text) ++ ")",
      "      " ++ rule.action.listing]

namespace Ruleset

/-- The lines of an architecture's block. -/
def blockListing (set : Ruleset) (arch : Arch) (rules : List Rule) : List String :=
  let word := decimal arch.auditWord.toNat
  ["# filter for arch " ++ arch.name ++ " (" ++ word ++ ")", "if ($arch == " ++ word ++ ")"] ++
    rules.flatMap (fun rule => rule.listing arch) ++
    ["  # default action", "  " ++ set.defaultAction.listing]

/-- The lines of a rule set's listing. -/
def listing (set : Ruleset) : List String :=
  ["#", "# pseudo filter code start", "#"] ++
    set.blocks.flatMap (fun block => set.blockListing block.1 block.2) ++
    ["# invalid architecture action", set.badArchAction.listing, "#", "# pseudo filter code end",
      "#"]

end Ruleset

end SyscallFilter
