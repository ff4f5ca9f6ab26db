import Std.Data.HashSet
import SyscallFilter.Notify.Channel

/-!
A kernel that knows which calls wait and nothing else. It can be told to refuse the next response.
-/

namespace SyscallFilter

/-- The ids of the waiting calls, and the error for the next response if it is to be refused. -/
structure WaitingCalls where
  ids : Std.HashSet UInt64
  refusal : Option Errno

namespace WaitingCalls

/-- No call waits. -/
def none : WaitingCalls := ⟨∅, Option.none⟩

/-- A call waits from its delivery on. -/
def deliver (calls : WaitingCalls) (notification : Notification) : WaitingCalls :=
  { calls with ids := calls.ids.insert notification.id }

/-- The calls with ids that fail a test are gone. -/
def keepIf (calls : WaitingCalls) (test : UInt64 → Bool) : WaitingCalls :=
  { calls with ids := calls.ids.filter test }

/-- Takes a response to a waiting call, which then waits no more. A refusal leaves the call
waiting and is not repeated. -/
def send (calls : WaitingCalls) (response : WireResponse) : WaitingCalls × Except Errno Unit :=
  match calls.refusal with
  | some number => ({ calls with refusal := Option.none }, .error number)
  | Option.none =>
    if calls.ids.contains response.id then
      ({ calls with ids := calls.ids.erase response.id }, .ok ())
    else (calls, .error Errno.noEntry)

/-- The answers of this kernel. -/
def kernel : ListenerKernel WaitingCalls where
  send := send
  isWaiting := fun calls id => (calls, calls.ids.contains id)
  deliver := deliver

end WaitingCalls

end SyscallFilter
