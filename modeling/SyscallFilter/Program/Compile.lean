import SyscallFilter.Program.Assembler
import SyscallFilter.Program.Machine

/-!
Compiling a rule set into a filter program. The program starts with one test of the audit word for
each covered architecture and a jump to that architecture's block; a block tests its rules in order.
Branches stay inside one rule, and only the jumps to the blocks go further.
-/

namespace SyscallFilter

/-- The code of a condition, which goes on at `pass` where the condition holds and at `fail` where it
does not. A 64-bit comparison looks at the upper halves first. -/
def Condition.code (condition : Condition) (pass fail : Target) : List Pending :=
  let loadHigh := Pending.load (CallData.highOffset condition.arg)
  let loadLow := Pending.load (CallData.lowOffset condition.arg)
  match condition.test with
  | .compare comparison value =>
    let high := highHalf value
    let low := lowHalf value
    match comparison with
    | .eq => [loadHigh, .branch .eq high .next fail, loadLow, .branch .eq low pass fail]
    | .ne => [loadHigh, .branch .eq high .next pass, loadLow, .branch .eq low fail pass]
    | .gt =>
      [loadHigh, .branch .gt high pass .next, .branch .eq high .next fail,
        loadLow, .branch .gt low pass fail]
    | .ge =>
      [loadHigh, .branch .gt high pass .next, .branch .eq high .next fail,
        loadLow, .branch .ge low pass fail]
    | .lt =>
      [loadHigh, .branch .gt high fail .next, .branch .eq high .next pass,
        loadLow, .branch .ge low fail pass]
    | .le =>
      [loadHigh, .branch .gt high fail .next, .branch .eq high .next pass,
        loadLow, .branch .gt low fail pass]
  | .masked mask value =>
    [loadHigh, .mask (highHalf mask), .branch .eq (highHalf value) .next fail,
      loadLow, .mask (lowHalf mask), .branch .eq (lowHalf value) pass fail]

/-- Falls through where a condition holds, and jumps to `fail` where it does not. -/
def Condition.lower (condition : Condition) (fail : Label) (asm : Assembler) : Assembler :=
  let (ok, asm) := asm.label
  (asm.emit (condition.code (.label ok) (.label fail))).bind ok

/-- Falls through where all conditions hold, and jumps to `fail` where one does not. -/
def Condition.lowerAll : List Condition → (fail : Label) → Assembler → Assembler
  | [], _, asm => asm
  | condition :: rest, fail, asm => lowerAll rest fail (condition.lower fail asm)

/-- Returns the action where the rule applies, and falls through where it does not. The number of
the call is loaded first where the accumulator no longer holds it. -/
def Rule.lower (rule : Rule) (reload : Bool) (asm : Assembler) : Except Error Assembler := do
  let (next, asm) := asm.label
  let asm := if reload then asm.emit [.load CallData.numberOffset] else asm
  let asm := asm.emit [.branch .eq rule.call.number.toUInt32 .next (.label next)]
  let asm ← (Condition.lowerAll rule.conditions next asm).emitRet rule.action
  pure (asm.bind next)

/-- The rules in order. A rule with conditions leaves an argument in the accumulator, so the rule
behind it has to load the number again. -/
def Rule.lowerAll : List Rule → (reload : Bool) → Assembler → Except Error Assembler
  | [], _, asm => .ok asm
  | rule :: rest, reload, asm => do
    let asm ← rule.lower reload asm
    lowerAll rest (!rule.conditions.isEmpty) asm

namespace Ruleset

/-- On x86_64, sends the calls of the second convention behind its audit word away. -/
def lowerGuard (set : Ruleset) (arch : Arch) (asm : Assembler) : Except Error Assembler :=
  if arch = .x8664 then do
    let (native, asm) := asm.label
    let asm := asm.emit [.branch .ge x32Bit .next (.label native)]
    let asm ← asm.emitRet set.badArchAction
    pure (asm.bind native)
  else .ok asm

/-- The block of one architecture, at its label. -/
def lowerBlock (set : Ruleset) (arch : Arch) (rules : List Rule) (label : Label)
    (asm : Assembler) : Except Error Assembler := do
  let asm ← set.lowerGuard arch ((asm.bind label).emit [.load CallData.numberOffset])
  let asm ← Rule.lowerAll rules false asm
  asm.emitRet set.defaultAction

/-- The blocks in order, each at its label. -/
def lowerBlocks (set : Ruleset) :
    List ((Arch × List Rule) × Label) → Assembler → Except Error Assembler
  | [], asm => .ok asm
  | ((arch, rules), label) :: rest, asm => do
    let asm ← set.lowerBlock arch rules label asm
    set.lowerBlocks rest asm

/-- Tests the audit word against each architecture in turn and jumps to its block. -/
def lowerDispatch : List (Arch × Label) → Assembler → Assembler
  | [], asm => asm
  | (arch, block) :: rest, asm =>
    let (skip, asm) := asm.label
    let asm := asm.emit [.branch .eq arch.auditWord .next (.label skip), .goto block]
    lowerDispatch rest (asm.bind skip)

/-- The code of a rule set, with labels. -/
def assemble (set : Ruleset) : Except Error Assembler := do
  let (labels, asm) := Assembler.empty.createLabels set.blocks.length
  let asm := lowerDispatch (set.arches.zip labels) (asm.emit [.load CallData.archOffset])
  let asm ← asm.emitRet set.badArchAction
  set.lowerBlocks (set.blocks.zip labels) asm

/-- The program of a rule set. It fails where an action has no word, where the program is longer than
the kernel takes, and where a branch is too far for its field. -/
def compile (set : Ruleset) : Except Error Program := do
  let asm ← set.assemble
  asm.finish

end Ruleset

end SyscallFilter
