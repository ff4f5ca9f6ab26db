import SyscallFilter.Program.Compile

/-!
The layout of a compiled program: the operations that each piece of a rule set becomes, with every
distance a number. A piece is laid out knowing only how far behind its own end a failed test goes
on, so no piece depends on where it stands. The lengths of the pieces are counted beside them.
-/

namespace SyscallFilter

/-- The word of an action; the invalid action, which has none, is given zero. -/
def Action.word (action : Action) : UInt32 :=
  action.toWord?.getD 0

theorem Action.toWord?_eq {action : Action} (h : action.isValid) :
    action.toWord? = some action.word := by
  cases action with
  | invalid => nomatch h
  | _ => rfl

/-- Falls through where a condition holds, and passes over `after` operations more where it does
not. -/
def Condition.layout (condition : Condition) (after : Nat) : List Operation :=
  let loadHigh := Operation.load (CallData.highOffset condition.arg)
  let loadLow := Operation.load (CallData.lowOffset condition.arg)
  match condition.test with
  | .compare comparison value =>
    let high := highHalf value
    let low := lowHalf value
    match comparison with
    | .eq => [loadHigh, .branch .eq high 0 (2 + after), loadLow, .branch .eq low 0 after]
    | .ne => [loadHigh, .branch .eq high 0 2, loadLow, .branch .eq low after 0]
    | .gt =>
      [loadHigh, .branch .gt high 3 0, .branch .eq high 0 (2 + after),
        loadLow, .branch .gt low 0 after]
    | .ge =>
      [loadHigh, .branch .gt high 3 0, .branch .eq high 0 (2 + after),
        loadLow, .branch .ge low 0 after]
    | .lt =>
      [loadHigh, .branch .gt high (3 + after) 0, .branch .eq high 0 2,
        loadLow, .branch .ge low after 0]
    | .le =>
      [loadHigh, .branch .gt high (3 + after) 0, .branch .eq high 0 2,
        loadLow, .branch .gt low after 0]
  | .masked mask value =>
    [loadHigh, .mask (highHalf mask), .branch .eq (highHalf value) 0 (3 + after),
      loadLow, .mask (lowHalf mask), .branch .eq (lowHalf value) 0 after]

/-- The number of operations that a condition becomes. -/
def Condition.cost (condition : Condition) : Nat :=
  match condition.test with
  | .compare .eq _ => 4
  | .compare .ne _ => 4
  | .compare _ _ => 5
  | .masked _ _ => 6

/-- Falls through where all conditions hold, and passes over `after` operations more where one does
not. -/
def Condition.layoutAll : List Condition → (after : Nat) → List Operation
  | [], _ => []
  | condition :: rest, after =>
    condition.layout ((layoutAll rest after).length + after) ++ layoutAll rest after

/-- Falls through where a rule applies, and passes over its return where it does not. -/
def Rule.testLayout (rule : Rule) : List Operation :=
  let tests := Condition.layoutAll rule.conditions 1
  .branch .eq rule.call.number.toUInt32 0 (tests.length + 1) :: tests

/-- Returns the action where the rule applies, and falls through where it does not. -/
def Rule.layout (rule : Rule) (reload : Bool) : List Operation :=
  (if reload then [.load CallData.numberOffset] else []) ++
    (rule.testLayout ++ [.ret rule.action.word])

/-- The rules in order, where `reload` tells whether the first has to load the number. -/
def Rule.layoutAll : List Rule → (reload : Bool) → List Operation
  | [], _ => []
  | rule :: rest, reload => rule.layout reload ++ layoutAll rest (!rule.conditions.isEmpty)

namespace Ruleset

/-- On x86_64, returns the action for bad architectures where the number belongs to the second
convention. -/
def guardLayout (set : Ruleset) (arch : Arch) : List Operation :=
  if arch = .x8664 then [.branch .ge x32Bit 0 1, .ret set.badArchAction.word] else []

/-- The block of one architecture. -/
def blockLayout (set : Ruleset) (block : Arch × List Rule) : List Operation :=
  .load CallData.numberOffset ::
    (set.guardLayout block.1 ++ (Rule.layoutAll block.2 false ++ [.ret set.defaultAction.word]))

/-- The tests of the audit word. Between a jump and its block stand the remaining tests, the return
for bad architectures, and the `before` operations of the blocks of earlier architectures. -/
def dispatchLayout (set : Ruleset) : List (Arch × List Rule) → (before : Nat) → List Operation
  | [], _ => []
  | block :: rest, before =>
    .branch .eq block.1.auditWord 0 1 :: .jump (2 * rest.length + 1 + before) ::
      set.dispatchLayout rest (before + (set.blockLayout block).length)

/-- The operations of a rule set's program. -/
def layout (set : Ruleset) : List Operation :=
  .load CallData.archOffset :: (set.dispatchLayout set.blocks 0 ++
    (.ret set.badArchAction.word :: set.blocks.flatMap set.blockLayout))

end Ruleset

end SyscallFilter
