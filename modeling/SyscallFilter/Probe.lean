import SyscallFilter.Capability
import SyscallFilter.Policy.Build

/-!
Finding out what a kernel can do. The kernel is asked no question before its release is known to be
recent enough; then the levels are probed from the lowest up, and the first question answered with
no ends the climb. The outcome is remembered, so that a process asks each question at most once.
-/

namespace SyscallFilter

/-- What a probe asks a kernel: whether filter mode is built in, whether it knows an installation
flag, whether it knows an action. -/
inductive Question
  | filterMode
  | flag (word : UInt32)
  | action (word : UInt32)
  deriving DecidableEq, Repr

/-- The questions of the levels above the first, in rising order. -/
def Question.levels : List (List Question) :=
  [[flag 1],
    [action 0x7ffc0000, action 0x80000000, flag 2],
    [flag 4],
    [action 0x7fc00000, flag 8],
    [flag 16]]

/-- A kernel as a probe meets it: the bytes of its release, and its answers. -/
structure ProbeKernel where
  release : List UInt8
  answer : Question → Bool

namespace ProbeKernel

/-- Asks questions up to the first that is answered with no. Returns whether all were answered with
yes, and the questions asked. -/
def askAll (kernel : ProbeKernel) : List Question → Bool × List Question
  | [] => (true, [])
  | question :: rest =>
    if kernel.answer question then
      let (passed, asked) := kernel.askAll rest
      (passed, question :: asked)
    else (false, [question])

/-- Counts the levels whose questions are all answered with yes, up to the first that fails, with
the questions asked. -/
def climb (kernel : ProbeKernel) : List (List Question) → Nat × List Question
  | [] => (0, [])
  | level :: rest =>
    match kernel.askAll level with
    | (true, asked) =>
      let (count, more) := kernel.climb rest
      (count + 1, asked ++ more)
    | (false, asked) => (0, asked)

/-- The kernel's release, if it can be read. -/
def checkRelease (kernel : ProbeKernel) : Except ProbeError Release :=
  match Release.ofBytes? kernel.release with
  | some release => .ok release
  | none => .error .unreadableRelease

/-- Probes the kernel. Returns what it can do, and the questions asked. -/
def probe (kernel : ProbeKernel) : Except ProbeError Capabilities × List Question :=
  match kernel.checkRelease with
  | .error error => (.error error, [])
  | .ok release =>
    if release.precedes ReleaseError.baseline then (.error (.tooOld release), [])
    else if kernel.answer .filterMode then
      let (count, asked) := kernel.climb Question.levels
      (.ok ⟨1 + count, some release⟩, .filterMode :: asked)
    else (.error .notAvailable, [.filterMode])

end ProbeKernel

/-- How a failed probe appears as a failure of the library. -/
def ProbeError.toError : ProbeError → Error
  | tooOld found =>
    .releaseTooLow <| ((ReleaseError.ofDetected found.text).withDetail
      "kernel lacks seccomp filter mode").withMinimum ReleaseError.baseline.text
  | error => .unavailable error

/-- What a process knows of its kernel: the outcome of its probe once there is one, and the questions it has
asked in order. -/
structure KernelView where
  kernel : ProbeKernel
  outcome? : Option (Except ProbeError Capabilities)
  asked : List Question

namespace KernelView

/-- A process that has not probed its kernel. -/
def fresh (kernel : ProbeKernel) : KernelView :=
  ⟨kernel, none, []⟩

/-- The outcome of the probe, which is made where none has been made before. -/
def check (view : KernelView) : KernelView × Except ProbeError Capabilities :=
  match view.outcome? with
  | some outcome => (view, outcome)
  | none =>
    let (outcome, asked) := view.kernel.probe
    ({ view with outcome? := some outcome, asked := view.asked ++ asked }, outcome)

/-- What the kernel can do. -/
def detect (view : KernelView) : KernelView × Except Error Capabilities :=
  let (next, outcome) := view.check
  (next, outcome.mapError ProbeError.toError)

/-- A new filter for the kernel. -/
def makeFilter (view : KernelView) (defaultAction : Action) : KernelView × Except Error Filter :=
  let (next, capabilities) := view.detect
  (next, capabilities.bind (Filter.make defaultAction))

/-- The filter that a policy declares, for the kernel. -/
def buildPolicy (view : KernelView) (policy : Policy) : KernelView × Except Error Filter :=
  let (next, capabilities) := view.detect
  (next, capabilities.bind policy.build)

end KernelView

end SyscallFilter
