import SyscallFilter.CommandLine.Command
import SyscallFilter.CommandLine.Failure
import SyscallFilter.Filter.Export
import SyscallFilter.Filter.Load
import SyscallFilter.Policy.Reader
import SyscallFilter.Probe

/-!
Carrying out the program's commands on a host. What can be decided without the host is decided by
plain functions; only files, the kernel and the program that is run are met through it.
-/

namespace SyscallFilter.CommandLine

/-- What becomes of a program that takes the place of this one. -/
structure Execution where
  code : Nat
  output : List UInt8
  deriving Inhabited

/-- The surroundings of the program. -/
structure Host (m : Type → Type) where
  kernel : ProbeKernel
  contentsOf : String → m (Except Errno (List UInt8))
  create : String → m (Except Errno Unit)
  write : String → List UInt8 → m (Except Errno Unit)
  load : LoadKernel
  execute : String → List String → m (Except Errno Execution)

/-- How the program ends: its code, what it wrote to standard output, and its failure if it
failed. -/
structure Outcome where
  code : Nat
  output : List UInt8
  failure : Option Failure

namespace Outcome

/-- The program has done what it was asked for. -/
def success (output : List UInt8) : Outcome := ⟨0, output, none⟩

/-- The program has failed after writing something. -/
def failed (output : List UInt8) (failure : Failure) : Outcome := ⟨1, output, some failure⟩

/-- The words made no command. -/
def misused : Outcome := ⟨2, [], none⟩

end Outcome

/-- The name of the program and its version. -/
def versionLine : String := "sysfence 0.1.0"

/-- Whether a feature is there. -/
def yesNo (on : Bool) : String :=
  if on then "yes" else "no"

/-- The lines that tell what a kernel can do. -/
def capabilityLines (capabilities : Capabilities) : List String :=
  let kernel := match capabilities.kernel with
    | some release => " (kernel " ++ release.text ++ ")"
    | none => ""
  ["seccomp API level " ++ decimal capabilities.level ++ kernel,
    "  thread sync  " ++ yesNo (capabilities.supports .threadSync),
    "  log          " ++ yesNo (capabilities.supports .log),
    "  ssb          " ++ yesNo (capabilities.supports .speculation),
    "  notify       " ++ yesNo (capabilities.supports .notification)]

/-- Tells what the kernel can do. -/
def check (kernel : ProbeKernel) : Outcome :=
  match ((KernelView.fresh kernel).detect).2 with
  | .ok capabilities => .success ((capabilityLines capabilities).flatMap lineBytes)
  | .error error => .failed [] (.during "seccomp filter mode unavailable" error)

/-- The policy in a file that may not be readable. -/
def policyIn (path : String) (content : Except Errno (List UInt8)) : Except Failure Policy :=
  match content with
  | .ok bytes => (Policy.ofFile path bytes).mapError Failure.ofError
  | .error number => .error (.ofError (.transfer (.errno number)))

/-- The filter that a policy declares on this kernel. -/
def build (kernel : ProbeKernel) (path : String) (policy : Policy) : Except Failure Filter :=
  (((KernelView.fresh kernel).buildPolicy policy).2).mapError (Failure.during ("building " ++ path))

/-- Whether a rule of the policy, or its default action, needs a supervisor. -/
def needsSupervisor (policy : Policy) : Bool :=
  policy.defaultAction == .notify || policy.rules.any fun rule => rule.action == .notify

/-- The filter under which a program is run. There is no supervisor for it. -/
def filterToRun (kernel : ProbeKernel) (path : String) (content : Except Errno (List UInt8)) :
    Except Failure Filter := do
  let policy ← policyIn path content
  if needsSupervisor policy then
    throw ⟨path ++ ": notify rules need a supervisor, which run does not provide", []⟩
  build kernel path policy

/-- A filter in the form that is asked for. -/
def exported (filter : Filter) : Format → Delivery
  | .program => filter.exportProgram none
  | .listing => filter.exportListing none

variable {m : Type → Type} [Monad m]

/-- Writes a filter out. A file is created before it is known whether there is anything to write. -/
def exportFilter (host : Host m) (filter : Filter) (format : Format) (output : Option String) :
    m Outcome := do
  let delivery := exported filter format
  match output with
  | none =>
    match delivery.result with
    | .ok () => return .success delivery.bytes
    | .error error => return .failed delivery.bytes (.ofError error)
  | some path =>
    match ← host.create path with
    | .error number => return .failed [] (.system ("creating " ++ path) number)
    | .ok () =>
      match delivery.result with
      | .error error => return .failed [] (.ofError error)
      | .ok () =>
        match ← host.write path delivery.bytes with
        | .ok () => return .success []
        | .error number => return .failed [] (.ofError (.transfer (.errno number)))

/-- Loads a filter and hands over to a program. -/
def execute (host : Host m) (filter : Filter) (program : String) (args : List String) :
    m Outcome := do
  match (filter.load host.load).result with
  | .error error => return .failed [] (.during "loading filter" error)
  | .ok _ =>
    match ← host.execute program args with
    | .error number => return .failed [] (.system ("executing " ++ program) number)
    | .ok execution => return ⟨execution.code, execution.output, none⟩

/-- Carries out a command. -/
def Command.carryOut (host : Host m) : Command → m Outcome
  | .version => return .success (lineBytes versionLine)
  | .check => return CommandLine.check host.kernel
  | .export path format output => do
    let content ← host.contentsOf path
    match (policyIn path content).bind (build host.kernel path) with
    | .error failure => return .failed [] failure
    | .ok filter => exportFilter host filter format output
  | .run path program args => do
    let content ← host.contentsOf path
    match filterToRun host.kernel path content with
    | .error failure => return .failed [] failure
    | .ok filter => execute host filter program args

/-- Carries out the command that words ask for. -/
def carryOut (host : Host m) (words : List String) : m Outcome :=
  match Command.ofWords? words with
  | some command => command.carryOut host
  | none => return .misused

end SyscallFilter.CommandLine
