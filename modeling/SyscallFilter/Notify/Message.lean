import SyscallFilter.Arch
import SyscallFilter.Rule

/-!
What passes between the kernel and a supervisor: notifications of calls that wait for a decision,
and the responses that decide them.
-/

namespace SyscallFilter

/-- A waiting call as the kernel reports it. -/
structure Notification where
  id : UInt64
  pid : UInt32
  flags : UInt32
  data : CallData
  deriving DecidableEq, Repr

/-- A waiting call as a supervisor gets it, with its architecture known. -/
structure PendingCall where
  id : UInt64
  pid : UInt32
  flags : UInt32
  call : Syscall
  arch : Arch
  pointer : UInt64
  args : Args
  deriving DecidableEq, Repr

/-- The request for a notification, if its audit word is that of an architecture. -/
def Notification.request? (notification : Notification) : Option PendingCall :=
  (Arch.ofAuditWord? notification.data.arch).map fun arch =>
    { id := notification.id
      pid := notification.pid
      flags := notification.flags
      call := ⟨notification.data.number⟩
      arch
      pointer := notification.data.pointer
      args := notification.data.args }

/-- A request has the id of its notification. -/
theorem Notification.id_of_request? {notification : Notification} {request : PendingCall}
    (h : notification.request? = some request) : request.id = notification.id := by
  obtain ⟨arch, -, rfl⟩ := Option.map_eq_some_iff.mp h
  rfl

/-- A supervisor's decision. The error is positive, and zero lets the call return the value. -/
structure Response where
  id : UInt64
  error : Int32
  value : UInt64
  flags : UInt32
  deriving DecidableEq, Repr

namespace Response

/-- Lets the call run as it was made. -/
def proceed (id : UInt64) : Response := ⟨id, 0, 0, 1⟩

/-- Fails the call with an error. -/
def fail (id : UInt64) (error : Int32) : Response := ⟨id, error, 0, 0⟩

/-- Lets the call return a value without running. -/
def give (id value : UInt64) : Response := ⟨id, 0, value, 0⟩

end Response

/-- A response as the kernel takes it: the value is signed and the error negated. -/
structure WireResponse where
  id : UInt64
  value : Int64
  error : Int32
  flags : UInt32
  deriving DecidableEq, Repr

/-- Puts a response into the kernel's form. -/
def Response.wire (response : Response) : WireResponse :=
  ⟨response.id, response.value.toInt64, -response.error, response.flags⟩

end SyscallFilter
