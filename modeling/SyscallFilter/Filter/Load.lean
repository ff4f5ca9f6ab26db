import SyscallFilter.Filter.Basic

/-!
Loading a filter into the kernel. The kernel is met through two calls whose answers are given from
outside, and a load tells which calls it made whether it succeeds or not.
-/

namespace SyscallFilter

/-- The choices that accompany the installation of a program. -/
structure InstallFlags where
  threadSync : Bool
  log : Bool
  speculation : Bool
  newListener : Bool
  threadSyncError : Bool
  deriving DecidableEq, Repr

/-- The word in which the kernel takes the choices, one bit each. -/
def InstallFlags.word (flags : InstallFlags) : UInt32 :=
  (if flags.threadSync then 1 else 0) ||| (if flags.log then 2 else 0) |||
    (if flags.speculation then 4 else 0) ||| (if flags.newListener then 8 else 0) |||
    (if flags.threadSyncError then 16 else 0)

/-- What a load asks of the kernel. -/
inductive LoadCall
  | noNewPrivs
  | install (flags : InstallFlags) (program : Program)
  deriving DecidableEq, Repr

/-- The kernel's answers to a load. An installation is answered with a negative error number, or
with zero or more. -/
structure LoadKernel where
  noNewPrivs : Except Errno Unit
  install : InstallFlags → Program → Int

/-- What became of a load, and the calls it made in order. -/
structure LoadReport where
  result : Except Error Filter
  calls : List LoadCall

namespace FilterState

/-- Whether a rule or the default action hands calls to a supervisor. -/
def mayNotify (state : FilterState) : Bool :=
  state.ruleset.defaultAction == .notify ||
    state.ruleset.blocks.any fun block => block.2.any fun rule => rule.action == .notify

/-- The choices for an installation. A listener is asked for where calls may go to a supervisor,
the kernel knows how, and no listener has been handed out before. -/
def installFlags (state : FilterState) (capabilities : Capabilities) : InstallFlags :=
  let listen :=
    capabilities.supports .notification && state.mayNotify && state.listener.isNone
  { threadSync := state.attributes.threadSync
    log := state.attributes.log
    speculation := state.attributes.speculation
    newListener := listen
    threadSyncError := state.attributes.threadSync && listen }

/-- What an installation leaves behind. An answer above zero is the listener where one was asked
for; elsewhere it names a thread that could not be reached. -/
def installed (state : FilterState) (flags : InstallFlags) (answer : Int) :
    Except Error FilterState :=
  if answer < 0 then .error (.os answer.natAbs)
  else if flags.newListener then
    .ok { state with loaded := true, listener := some answer.toNat }
  else if 0 < answer then .error (.os Errno.noProcess)
  else .ok { state with loaded := true }

end FilterState

namespace Filter

/-- Compiles a filter and installs the program, after forbidding new privileges where the filter
says so. -/
def load (filter : Filter) (kernel : LoadKernel) : LoadReport :=
  match filter.state, filter.program with
  | .ok state, .ok program =>
    let flags := state.installFlags filter.capabilities
    let first := if state.attributes.noNewPrivs then [LoadCall.noNewPrivs] else []
    match state.attributes.noNewPrivs, kernel.noNewPrivs with
    | true, .error number => ⟨.error (.os number), first⟩
    | _, _ =>
      let result := (state.installed flags (kernel.install flags program)).map fun state =>
        { filter with state? := some state }
      ⟨result, first ++ [.install flags program]⟩
  | .error error, _ => ⟨.error error, []⟩
  | _, .error error => ⟨.error error, []⟩

/-- The listener for the calls that the filter hands to a supervisor. -/
def listener (filter : Filter) : Except Error Nat := do
  filter.capabilities.require .notification
  let state ← filter.state
  match state.listener with
  | some listener => pure listener
  | none =>
    throw (.notSupported "notification without a loaded notify rule" Feature.notification.level
      filter.capabilities.level)

end Filter

end SyscallFilter
