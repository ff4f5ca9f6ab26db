import SyscallFilter.CommandLine.Run

/-!
The program on a real host. It can see files and what the kernel says of itself under `/proc`, but it
has no way to install a filter or to hand over to another program; both fail as calls that do not
exist.
-/

namespace SyscallFilter.CommandLine

/-- An error number, which file operations may also report negated. -/
def magnitude (number : UInt32) : Errno :=
  min number.toNat (-number).toNat

/-- The error number of a failed file operation. -/
def errnoOf : IO.Error → Errno
  | .noFileOrDirectory _ number _ => magnitude number
  | .permissionDenied _ number _ => magnitude number
  | .inappropriateType _ number _ => magnitude number
  | .invalidArgument _ number _ => magnitude number
  | .alreadyExists _ number _ => magnitude number
  | .resourceExhausted _ number _ => magnitude number
  | .unsupportedOperation number _ => magnitude number
  | .otherError number _ => magnitude number
  | _ => Errno.inputOutput

/-- The result of a file operation, with the error number if it failed. -/
def attempt {α : Type} (operation : IO α) : IO (Except Errno α) := do
  match ← operation.toBaseIO with
  | .ok value => return .ok value
  | .error error => return .error (errnoOf error)

/-- The bytes of a file. -/
def bytesOfFile (path : String) : IO (List UInt8) := do
  return (← IO.FS.readBinFile path).data.toList

/-- The words under which the kernel lists an action that it knows. -/
def actionNames : List (UInt32 × String) :=
  [(0x80000000, "kill_process"), (0x7ffc0000, "log"), (0x7fc00000, "user_notif")]

/-- The release in which an installation flag appeared. -/
def flagReleases : List (UInt32 × Release) :=
  [(1, ⟨3, 17, 0⟩), (2, ⟨4, 14, 0⟩), (4, ⟨4, 17, 0⟩), (8, ⟨5, 0, 0⟩), (16, ⟨5, 7, 0⟩)]

/-- A kernel that knows the actions it lists, and the flags that its release has. -/
def kernelOf (release : List UInt8) (known : Option (List String)) : ProbeKernel where
  release
  answer
    | .filterMode => known.isSome
    | .action word =>
      match actionNames.lookup word with
      | some name => (known.getD []).contains name
      | none => false
    | .flag word =>
      match flagReleases.lookup word, Release.ofBytes? release with
      | some first, some release => !release.precedes first
      | _, _ => false

/-- The kernel that the program runs on. -/
def hostKernel : IO ProbeKernel := do
  let release ← attempt (bytesOfFile "/proc/sys/kernel/osrelease")
  let actions ← attempt (bytesOfFile "/proc/sys/kernel/seccomp/actions_avail")
  let known := actions.toOption.map fun bytes =>
    let text := String.ofList (bytes.map fun byte => Char.ofNat byte.toNat)
    (text.split Char.isWhitespace).toStringList
  return kernelOf ((release.toOption.getD []).filter (· != 10)) known

/-- The program's surroundings. -/
def host (kernel : ProbeKernel) : Host IO where
  kernel
  contentsOf path := attempt (bytesOfFile path)
  create path := attempt (IO.FS.writeBinFile path ByteArray.empty)
  write path bytes := attempt (IO.FS.writeBinFile path (ByteArray.mk bytes.toArray))
  load := ⟨.ok (), fun _ _ => -(Errno.noSystemCall : Int)⟩
  execute _ _ := return .error Errno.noSystemCall

end SyscallFilter.CommandLine

open SyscallFilter.CommandLine in
/-- Carries out the command that the words ask for, and reports how it ended. -/
def main (words : List String) : IO UInt32 := do
  let outcome ← carryOut (host (← hostKernel)) words
  let output ← IO.getStdout
  output.write (ByteArray.mk outcome.output.toArray)
  output.flush
  if let some failure := outcome.failure then IO.eprintln failure.report
  return UInt32.ofNat outcome.code
