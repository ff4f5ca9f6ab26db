/-!
The commands of the program and the words that ask for them. Words that begin with a hyphen are
options, up to a word of two hyphens; behind it every word is taken as it is.
-/

namespace SyscallFilter.CommandLine

/-- The forms in which a filter can be written out. -/
inductive Format
  | program
  | listing
  deriving DecidableEq, Repr

/-- What the program can be asked to do. -/
inductive Command
  | version
  | check
  | export (policy : String) (format : Format) (output : Option String)
  | run (policy : String) (program : String) (args : List String)
  deriving DecidableEq, Repr

/-- The two options of `export`. -/
inductive OptionName
  | format
  | output
  deriving DecidableEq, Repr

/-- How a word is taken: as the word behind which none is an option, as a known option with the
value attached to it, as an unknown option, or as it stands. -/
inductive Token
  | separator
  | option (name : OptionName) (attached : Option String)
  | unknown
  | plain (word : String)
  deriving DecidableEq, Repr

/-- The value attached to a long option by an equals sign. -/
def attachedLong (text : List Char) : Option String :=
  match text.dropWhile (· != '=') with
  | [] => none
  | _ :: value => some (String.ofList value)

/-- The value attached to a short option, with or without an equals sign between. -/
def attachedShort : List Char → Option String
  | [] => none
  | '=' :: value => some (String.ofList value)
  | value => some (String.ofList value)

/-- How a word is taken. A single hyphen is no option. -/
def tokenOf (word : String) : Token :=
  match word.toList with
  | ['-'] => .plain word
  | ['-', '-'] => .separator
  | '-' :: '-' :: text =>
    match String.ofList (text.takeWhile (· != '=')) with
    | "format" => .option .format (attachedLong text)
    | "output" => .option .output (attachedLong text)
    | _ => .unknown
  | '-' :: 'f' :: text => .option .format (attachedShort text)
  | '-' :: 'o' :: text => .option .output (attachedShort text)
  | '-' :: _ => .unknown
  | _ => .plain word

/-- What has been said of an export. -/
structure ExportDraft where
  policy : Option String
  format : Option Format
  output : Option String

namespace ExportDraft

/-- Names the policy, once and not with an empty word. -/
def setPolicy (draft : ExportDraft) (word : String) : Option ExportDraft :=
  if draft.policy.isSome || word.isEmpty then none else some { draft with policy := some word }

/-- Sets an option, once and to a value that it can have. -/
def setOption (draft : ExportDraft) (name : OptionName) (value : String) : Option ExportDraft :=
  match name with
  | .format =>
    if draft.format.isSome then none
    else if value = "bpf" then some { draft with format := some .program }
    else if value = "pfc" then some { draft with format := some .listing }
    else none
  | .output =>
    if draft.output.isSome || value.isEmpty then none else some { draft with output := some value }

/-- Takes words as they are. -/
def takePlain (draft : ExportDraft) : List String → Option ExportDraft
  | [] => some draft
  | word :: rest => (draft.setPolicy word).bind fun draft => draft.takePlain rest

/-- Takes words in order. An option without an attached value takes the next word, which must not be
an option itself. -/
def take (draft : ExportDraft) : List String → Option ExportDraft
  | [] => some draft
  | word :: rest =>
    match tokenOf word with
    | .separator => draft.takePlain rest
    | .unknown => none
    | .plain word => (draft.setPolicy word).bind fun draft => draft.take rest
    | .option name (some value) => (draft.setOption name value).bind fun draft => draft.take rest
    | .option name none =>
      match rest with
      | [] => none
      | value :: rest =>
        match tokenOf value with
        | .plain value => (draft.setOption name value).bind fun draft => draft.take rest
        | _ => none

/-- The command, if a policy has been named. A listing is written unless asked otherwise. -/
def command? (draft : ExportDraft) : Option Command :=
  draft.policy.map fun policy => .export policy (draft.format.getD .listing) draft.output

end ExportDraft

/-- The command to run a program: one word for the policy, two hyphens, and the program with its
arguments. -/
def runCommand? : List String → Option Command
  | policy :: "--" :: program :: args =>
    match tokenOf policy with
    | .plain policy => if policy.isEmpty then none else some (.run policy program args)
    | _ => none
  | _ => none

/-- The command that words ask for, if they make one. The first word decides which it may be. -/
def Command.ofWords? : List String → Option Command
  | "--version" :: _ => some .version
  | ["check"] => some .check
  | ["check", "--"] => some .check
  | "export" :: rest => (ExportDraft.take ⟨none, none, none⟩ rest).bind ExportDraft.command?
  | "run" :: rest => runCommand? rest
  | word :: _ => if ['-', 'V'].isPrefixOf word.toList then some .version else none
  | [] => none

end SyscallFilter.CommandLine
