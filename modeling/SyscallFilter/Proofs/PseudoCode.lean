import Mathlib.Tactic
import SyscallFilter.Rule

/-!
Listings read as pseudo code. A text is cut into lines, the comments are dropped, and each other line
is an indentation and a statement. The statements are put together into blocks, and a block into
entries, by their indentation. What such code decides of a call is stated on numbers, without regard
to rule sets or programs.
-/

namespace SyscallFilter.PseudoCode

/-- A comparison of an argument, or of an argument under a mask, with a constant. -/
structure ArgTest where
  arg : Nat
  mask? : Option Nat
  comparison : Comparison
  value : Nat
  deriving DecidableEq, Repr

/-- What is done for one system call where all tests of its arguments hold. -/
structure Entry where
  number : Int
  tests : List ArgTest
  action : Action
  deriving DecidableEq, Repr

/-- What is done for the calls of one architecture. -/
structure Block where
  word : Nat
  entries : List Entry
  otherwise : Action
  deriving DecidableEq, Repr

end PseudoCode

/-- Blocks for architectures, and the action for calls of any other architecture. -/
structure PseudoCode where
  blocks : List PseudoCode.Block
  otherwise : Action
  deriving DecidableEq, Repr

namespace PseudoCode

/-- Whether a comparison holds of two numbers. -/
def relates : Comparison → Nat → Nat → Bool
  | .ne, left, right => left != right
  | .lt, left, right => left < right
  | .le, left, right => left ≤ right
  | .eq, left, right => left == right
  | .ge, left, right => right ≤ left
  | .gt, left, right => right < left

/-- Whether a test holds of the arguments of a call, read as unsigned numbers. -/
def ArgTest.holds (test : ArgTest) (args : Args) : Bool :=
  match args[test.arg]? with
  | none => false
  | some arg =>
    match test.mask? with
    | none => relates test.comparison arg.toNat test.value
    | some mask => relates test.comparison (arg.toNat &&& mask) test.value

/-- Whether an entry is for a call and all its tests hold. -/
def Entry.applies (entry : Entry) (data : CallData) : Bool :=
  entry.number == data.number.toInt && entry.tests.all fun test => test.holds data.args

/-- The block for the audit word decides, in it the first entry that applies, else its last action.
Without such a block the last action of all is taken. -/
def verdict (code : PseudoCode) (data : CallData) : Action :=
  match code.blocks.find? fun block => block.word == data.arch.toNat with
  | none => code.otherwise
  | some block =>
    match block.entries.find? fun entry => entry.applies data with
    | none => block.otherwise
    | some entry => entry.action

section Numerals

/-- The value of a digit, if it is one to the base. -/
def digit? (base : Nat) (c : Char) : Option Nat :=
  ("0123456789abcdef".toList.take base).idxOf? c

/-- The number whose digits continue those of a number. -/
def continueNatural? (base : Nat) : Nat → List Char → Option Nat
  | n, [] => some n
  | n, c :: rest =>
    match digit? base c with
    | none => none
    | some d => continueNatural? base (base * n + d) rest

/-- Reads a number without sign; there has to be a digit. -/
def natural? (base : Nat) : List Char → Option Nat
  | [] => none
  | c :: rest => continueNatural? base 0 (c :: rest)

/-- Reads a decimal number, perhaps behind a minus sign. -/
def integer? : List Char → Option Int
  | '-' :: rest => (natural? 10 rest).map fun n => -Int.ofNat n
  | text => (natural? 10 text).map Int.ofNat

/-- Reads a hexadecimal number behind its mark. -/
def constant? : List Char → Option Nat
  | '0' :: 'x' :: rest => natural? 16 rest
  | _ => none

end Numerals

/-- What stands between the start and the end of a text, if it has both. -/
def between? (start stop text : List Char) : Option (List Char) :=
  (text.dropPrefix? start).bind fun rest => rest.dropSuffix? stop

/-- The comparison behind a sign. -/
def comparison? (sign : List Char) : Option Comparison :=
  [("!=", Comparison.ne), ("<", .lt), ("<=", .le), ("==", .eq), (">=", .ge), (">", .gt)].lookup
    (String.ofList sign)

/-- The number of an argument behind its mark. -/
def argument? : List Char → Option Nat
  | '$' :: 'a' :: rest => natural? 10 rest
  | _ => none

/-- Reads a test from its words. -/
def test? : List (List Char) → Option ArgTest
  | [arg, sign, value] => do
    pure ⟨← argument? arg, none, ← comparison? sign, ← constant? value⟩
  | [arg, ['&'], mask, sign, value] => do
    pure ⟨← argument? arg, some (← constant? mask), ← comparison? sign, ← constant? value⟩
  | _ => none

/-- Reads tests that are joined by a double ampersand. Words are divided by spaces. -/
def tests? (text : List Char) : Option (List ArgTest) :=
  ((text.splitOn ' ').splitOn ['&', '&']).mapM test?

/-- Reads a number of sixteen bits. -/
def payload? (text : List Char) : Option UInt16 :=
  (natural? 10 text).bind fun n => if n < 65536 then some (UInt16.ofNat n) else none

/-- Reads the name of an action, with its payload in parentheses if it has one. -/
def action? (text : List Char) : Option Action :=
  match between? "ERRNO(".toList [')'] text with
  | some code => (payload? code).map .errno
  | none =>
    match between? "TRACE(".toList [')'] text with
    | some code => (payload? code).map .trace
    | none =>
      [("KILL_PROCESS", Action.killProcess), ("KILL", .killThread), ("ALLOW", .allow),
        ("TRAP", .trap), ("LOG", .log), ("NOTIFY", .notify)].lookup (String.ofList text)

/-- What a line says. -/
inductive Statement
  | ifArch (word : Nat)
  | ifSyscall (number : Int)
  | ifArgs (tests : List ArgTest)
  | act (action : Action)
  deriving DecidableEq, Repr

/-- Reads a statement. -/
def statement? (text : List Char) : Option Statement :=
  match between? "if ($arch == ".toList [')'] text with
  | some word => (natural? 10 word).map .ifArch
  | none =>
    match between? "if ($syscall == ".toList [')'] text with
    | some number => (integer? number).map .ifSyscall
    | none =>
      match between? "if (".toList [')'] text with
      | some tests => (tests? tests).map .ifArgs
      | none => ((between? "action ".toList [';'] text).bind action?).map .act

/-- A statement behind so many spaces. -/
structure Line where
  indentation : Nat
  statement : Statement
  deriving DecidableEq, Repr

/-- A line without its leading spaces. -/
def unindented (text : List Char) : List Char :=
  text.dropWhile (· == ' ')

/-- Reads a line that is not a comment. -/
def line? (text : List Char) : Option Line :=
  (statement? (unindented text)).map fun statement =>
    ⟨text.length - (unindented text).length, statement⟩

/-- Whether a line holds a statement; empty lines and lines that start with a hash do not. -/
def isStatement (text : List Char) : Bool :=
  match unindented text with
  | [] => false
  | c :: _ => c != '#'

/-- Reads the lines that hold statements. -/
def lines? : List (List Char) → Option (List Line)
  | [] => some []
  | text :: rest =>
    if isStatement text then
      match line? text, lines? rest with
      | some line, some lines => some (line :: lines)
      | _, _ => none
    else lines? rest

/-- Puts lines together, behind finished blocks and perhaps an unfinished one: its word and its
entries so far. -/
def assemble? (blocks : List Block) : Option (Nat × List Entry) → List Line → Option PseudoCode
  | none, [⟨0, .act action⟩] => some ⟨blocks, action⟩
  | none, ⟨0, .ifArch word⟩ :: rest => assemble? blocks (some (word, [])) rest
  | some (word, entries), ⟨2, .ifSyscall number⟩ :: ⟨4, .ifArgs tests⟩ :: ⟨6, .act action⟩ :: rest =>
    assemble? blocks (some (word, entries ++ [⟨number, tests, action⟩])) rest
  | some (word, entries), ⟨2, .ifSyscall number⟩ :: ⟨4, .act action⟩ :: rest =>
    assemble? blocks (some (word, entries ++ [⟨number, [], action⟩])) rest
  | some (word, entries), ⟨2, .act action⟩ :: rest =>
    assemble? (blocks ++ [⟨word, entries, action⟩]) none rest
  | _, _ => none

/-- Reads a text as pseudo code. -/
def read? (text : String) : Option PseudoCode :=
  (lines? (text.toList.splitOn '\n')).bind fun lines => assemble? [] none lines

end PseudoCode

end SyscallFilter
