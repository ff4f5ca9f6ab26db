import SyscallFilter.Error

/-!
Failures as the program reports them: what failed, and below it the causes, the outermost first.
-/

namespace SyscallFilter.CommandLine

/-- What failed, and why. -/
structure Failure where
  text : String
  causes : List String
  deriving DecidableEq, Repr

namespace Failure

/-- A failure of the library. -/
def ofError (error : Error) : Failure :=
  ⟨error.text, error.causeText?.toList⟩

/-- A failure of the library while doing something. -/
def during (activity : String) (error : Error) : Failure :=
  ⟨activity, error.text :: error.causeText?.toList⟩

/-- A failure of the operating system while doing something. -/
def system (activity : String) (number : Errno) : Failure :=
  ⟨activity, [Errno.text number]⟩

/-- The lines of a text, in which a line feed ends a line. -/
def linesOf (text : String) : List String :=
  (text.toList.splitOn '\n').map String.ofList

/-- A cause with its mark before the first line and the other lines moved in as far. -/
def block (mark space text : String) : String :=
  match linesOf text with
  | [] => mark
  | first :: rest => mark ++ first ++ String.join (rest.map fun line => "\n" ++ space ++ line)

/-- The causes one below another, numbered from a number on. -/
def numbered (n : Nat) : List String → String
  | [] => ""
  | cause :: rest =>
    let digits := decimal n
    let mark := "".pushn ' ' (5 - digits.length) ++ digits ++ ": "
    "\n" ++ block mark "       " cause ++ numbered (n + 1) rest

/-- The report of a failure. Several causes are numbered, a single one is not. -/
def report (failure : Failure) : String :=
  "Error: " ++ failure.text ++
    match failure.causes with
    | [] => ""
    | [cause] => "\n\nCaused by:\n" ++ block "    " "    " cause
    | causes => "\n\nCaused by:" ++ numbered 0 causes

end Failure

end SyscallFilter.CommandLine
