import SyscallFilter.Notify.Channel

/-!
The operations on a channel as data, and runs of them one after the other before one kernel.
-/

namespace SyscallFilter

namespace Exchange

variable {σ : Type}

/-- An operation on a channel. A receive is given with the sleeps and the fetches that it meets. -/
inductive Operation
  | receive (events : List ChannelEvent)
  | checkValid (id : UInt64)
  | respond (response : Response)
  | close

/-- What an operation was asked and what it hands back. -/
inductive Outcome
  | received (result : Except Error PendingCall)
  | checked (id : UInt64) (result : Except Error Unit)
  | responded (response : Response) (result : Except Error Unit)
  | closed

/-- A channel that has just been opened. -/
def opened (memory : σ) : Exchange σ := ⟨.opened, memory, []⟩

/-- Carries out an operation. -/
def carryOut (kernel : ListenerKernel σ) (exchange : Exchange σ) :
    Operation → Exchange σ × Outcome
  | .receive events =>
    let (after, result) := exchange.receive kernel events
    (after, .received result)
  | .checkValid id =>
    let (after, result) := exchange.checkValid kernel id
    (after, .checked id result)
  | .respond response =>
    let (after, result) := exchange.respond kernel response
    (after, .responded response result)
  | .close => (exchange.close, .closed)

/-- Carries out operations one after the other. -/
def run (kernel : ListenerKernel σ) (exchange : Exchange σ) (operations : List Operation) :
    Exchange σ :=
  operations.foldl (fun before operation => (before.carryOut kernel operation).1) exchange

end Exchange

end SyscallFilter
