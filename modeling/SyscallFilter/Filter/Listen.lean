import SyscallFilter.Filter.Load
import SyscallFilter.Notify.Channel

/-!
Opening a channel on the listener of a loaded filter.
-/

namespace SyscallFilter

/-- A channel on the filter's listener. -/
def Filter.openChannel (filter : Filter) : Except Error Channel :=
  filter.listener.map fun _ => .opened

end SyscallFilter
