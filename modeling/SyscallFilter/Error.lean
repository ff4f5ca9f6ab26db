import SyscallFilter.Arch
import SyscallFilter.Condition
import SyscallFilter.Errno
import SyscallFilter.Json.ReadError
import SyscallFilter.Release
import SyscallFilter.Syscall

/-!
The causes for which an operation can fail, and the sentence that states each of them.
-/

namespace SyscallFilter

/-- Why an architecture is refused. -/
inductive ArchError
  | unknownName (name : String)
  | lastOne (arch : Arch)
  | absent (arch : Arch)
  deriving DecidableEq, Repr

/-- What was asked for and, where it names an architecture, why it is refused. -/
def ArchError.text : ArchError → String
  | unknownName name => name
  | lastOne arch => "cannot remove " ++ arch.name ++ ", the last architecture of the filter"
  | absent arch => arch.name ++ " is not in the filter"

/-- The architecture that a name means, or the reason why there is none. -/
def Arch.resolve (name : String) : Except ArchError Arch :=
  match ofName? name with
  | some arch => .ok arch
  | none => .error (.unknownName name)

/-- A kernel release below the one that is needed. -/
structure ReleaseError where
  detected : String
  detail : Option String
  minimum : Option String
  deriving DecidableEq, Repr

namespace ReleaseError

/-- The first release with filter mode. -/
def baseline : Release := ⟨3, 5, 0⟩

/-- An error that tells only the release that was found. -/
def ofDetected (detected : String) : ReleaseError :=
  ⟨detected, none, none⟩

/-- States what is lacking; an empty text states nothing. -/
def withDetail (error : ReleaseError) (detail : String) : ReleaseError :=
  { error with detail := if detail.isEmpty then none else some detail }

/-- States the release that is needed; an empty text stands for the first with filter mode. -/
def withMinimum (error : ReleaseError) (minimum : String) : ReleaseError :=
  { error with minimum := if minimum.isEmpty then none else some minimum }

/-- The detail if there is one, the release that is needed, and the release that was found. -/
def text (error : ReleaseError) : String :=
  let detail := match error.detail with
    | some detail => detail ++ ": "
    | none => ""
  "seccomp version too low: " ++ detail ++ "minimum supported is " ++
    error.minimum.getD baseline.text ++ ": detected " ++ error.detected

end ReleaseError

/-- Why a kernel cannot run filters at all. -/
inductive ProbeError
  | tooOld (found : Release)
  | notAvailable
  | unreadableRelease
  deriving DecidableEq, Repr

/-- What the probe of the kernel met. -/
def ProbeError.text : ProbeError → String
  | tooOld found =>
    "kernel " ++ found.text ++ " predates seccomp filter mode (" ++ ReleaseError.baseline.text ++ ")"
  | notAvailable => "seccomp is disabled in this kernel"
  | unreadableRelease => "kernel release string is unreadable"

/-- The first respect in which two filters do not go together. -/
inductive MergeConflict
  | defaultAction
  | badArchAction
  | attributes
  | sharedArch (arch : Arch)
  deriving DecidableEq, Repr

/-- The respect in which the filters do not go together. -/
def MergeConflict.text : MergeConflict → String
  | defaultAction => "default actions differ"
  | badArchAction => "bad architecture actions differ"
  | attributes => "filter attributes differ"
  | sharedArch arch => "both filters contain architecture " ++ arch.name

/-- Why reading or writing failed: the system's error number, or what is wrong with the data. -/
inductive TransferError
  | errno (number : Errno)
  | incompleteWrite
  | unterminatedString
  | invalidString
  | invalidFile
  deriving DecidableEq, Repr

/-- The system's sentence for its error numbers, and what is wrong with the data. -/
def TransferError.text : TransferError → String
  | errno number => Errno.text number
  | incompleteWrite => "failed to write whole buffer"
  | unterminatedString => "unterminated string in target memory"
  | invalidString => "invalid UTF-8"
  | invalidFile => "stream did not contain valid UTF-8"

/-- Every cause for which an operation of the library can fail. -/
inductive Error
  | invalidAction
  | arch (cause : ArchError)
  | syscall (cause : SyscallError)
  | condition (cause : ConditionError)
  | releaseTooLow (cause : ReleaseError)
  | notSupported (feature : String) (required current : Nat)
  | unavailable (cause : ProbeError)
  | filterReleased
  | mergeConflict (conflict : MergeConflict)
  | channelClosed
  | staleRequest (id : UInt64)
  | programTooLarge (length limit : Nat)
  | policy (path : Option String) (cause : Json.ReadError)
  | transfer (cause : TransferError)
  | os (number : Errno)
  deriving DecidableEq, Repr

namespace Error

/-- The sentence that states a failure. -/
def text : Error → String
  | invalidAction => "invalid action"
  | arch cause => "invalid architecture: " ++ cause.text
  | syscall cause => "invalid syscall: " ++ cause.text
  | condition cause => "invalid condition: " ++ cause.text
  | releaseTooLow cause => cause.text
  | notSupported feature required current =>
    feature ++ " requires API level " ++ decimal required ++ ", current level is " ++
      decimal current
  | unavailable cause => "seccomp unavailable: " ++ cause.text
  | filterReleased => "filter is invalid or has been released"
  | mergeConflict conflict => "filters cannot be merged: " ++ conflict.text
  | channelClosed => "notification channel closed"
  | staleRequest id => "notification " ++ hexadecimal id.toNat ++ " is no longer valid"
  | programTooLarge length limit =>
    "program has " ++ decimal length ++ " instructions, kernel limit is " ++ decimal limit
  | policy none cause => "policy: " ++ cause.text?.getD "malformed JSON"
  | policy (some path) cause => "policy: " ++ path ++ ": " ++ cause.text?.getD "malformed JSON"
  | transfer cause => "io: " ++ cause.text
  | os number => "os: " ++ Errno.text number

/-- The failure that a failure stems from, where it wraps one that has a sentence of its own. -/
def causeText? : Error → Option String
  | condition cause => some cause.text
  | unavailable cause => some cause.text
  | transfer cause => some cause.text
  | os number => some (Errno.text number)
  | _ => none

end Error

theorem exists_ok_of_isOk {ε α : Type} {result : Except ε α} (h : result.isOk) :
    ∃ a, result = .ok a := by
  cases result with
  | error _ => nomatch h
  | ok a => exact ⟨a, rfl⟩

theorem exists_ok_of_any {ε α : Type} {result : Except ε α} {p : α → Bool}
    (h : result.toOption.any p = true) : ∃ a, result = .ok a ∧ p a = true := by
  cases result with
  | error _ => nomatch h
  | ok a => exact ⟨a, rfl, h⟩

theorem mapError_eq_ok {ε ε' α : Type} {f : ε → ε'} {result : Except ε α} {a : α}
    (h : result.mapError f = .ok a) : result = .ok a := by
  cases result with
  | error _ => nomatch h
  | ok b => rw [Except.ok.inj h]

/-- Two steps that succeed in a row both succeed. -/
theorem exists_of_bind_eq_ok {ε α β : Type} {first : Except ε α} {second : α → Except ε β} {b : β}
    (h : first >>= second = .ok b) : ∃ a, first = .ok a ∧ second a = .ok b := by
  cases first with
  | error _ => nomatch h
  | ok a => exact ⟨a, rfl, h⟩

theorem exists_bind_eq_ok_iff {ε α β : Type} {first : Except ε α} {second : α → Except ε β} :
    (∃ b, first >>= second = .ok b) ↔ ∃ a, first = .ok a ∧ ∃ b, second a = .ok b := by
  constructor
  · rintro ⟨b, h⟩
    obtain ⟨a, hf, hs⟩ := exists_of_bind_eq_ok h
    exact ⟨a, hf, b, hs⟩
  · rintro ⟨a, rfl, hb⟩
    exact hb

end SyscallFilter
