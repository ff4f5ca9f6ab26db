import SyscallFilter.Filter.Basic

/-!
Merging two filters: the architectures of one move into the other with their rules, provided that
everything else agrees and no architecture is in both.
-/

namespace SyscallFilter

namespace FilterState

/-- The first respect in which two filters do not go together. -/
def conflict? (target source : FilterState) : Option MergeConflict :=
  if target.ruleset.defaultAction ≠ source.ruleset.defaultAction then some .defaultAction
  else if target.ruleset.badArchAction ≠ source.ruleset.badArchAction then some .badArchAction
  else if target.attributes ≠ source.attributes then some .attributes
  else
    (source.ruleset.arches.find? fun arch => (target.ruleset.rules.get arch).isSome).map
      .sharedArch

/-- The rules of both filters, each under its architecture. -/
def absorb (target source : FilterState) : FilterState :=
  { target with
    ruleset.rules := .ofFn fun arch =>
      (source.ruleset.rules.get arch).or (target.ruleset.rules.get arch) }

end FilterState

namespace Filter

/-- Moves the architectures of a source into a target. The target is returned first; the source is
released. -/
def merge (target source : Filter) : Except Error (Filter × Filter) := do
  let targetState ← target.state
  let sourceState ← source.state
  match targetState.conflict? sourceState with
  | some conflict => throw (.mergeConflict conflict)
  | none =>
    pure ({ target with state? := some (targetState.absorb sourceState) }, source.release)

end Filter

end SyscallFilter
