import SyscallFilter.Notify.Operation

/-!
A channel that several threads use at once. Each operation is cut into the steps that no other
thread can come between: a read of the flag that closes the channel, a call to the kernel, a change of
the ids under their lock. Threads take such steps in any order, and the kernel may answer anything.

Only pruning keeps the lock for longer than a step. It asks the kernel about one id after the other,
in any order, while the other threads may do whatever needs no id.
-/

namespace SyscallFilter

/-- What a thread has learned from the kernel, or handed back. -/
inductive Fact
  | polled (answer : Except Errno (UInt16 × UInt16))
  | fetched (answer : Except Errno Notification)
  | refused (notification : Notification) (answer : Except Errno Unit)
  | asked (id : UInt64) (waiting : Bool)
  | sent (response : Response) (answer : Except Errno Unit)
  | ended (outcome : Exchange.Outcome)

/-- What threads share: a channel, and whether one of them keeps its ids locked. -/
structure Shared where
  channel : Channel
  locked : Bool

namespace Shared

/-- Remembers an id. -/
def insert (shared : Shared) (id : UInt64) : Shared :=
  { shared with channel := shared.channel.insert id }

/-- Forgets an id. -/
def erase (shared : Shared) (id : UInt64) : Shared :=
  { shared with channel := shared.channel.erase id }

@[simp] theorem channel_insert (shared : Shared) (id : UInt64) :
    (shared.insert id).channel = shared.channel.insert id := rfl

@[simp] theorem channel_erase (shared : Shared) (id : UInt64) :
    (shared.erase id).channel = shared.channel.erase id := rfl

end Shared

/-- Where a thread stands between two steps. -/
inductive Stage
  /-- Between two operations. -/
  | idle
  /-- At the head of the loop of a receive. -/
  | receiving
  /-- In a sleep. -/
  | sleeping
  /-- Woken with what was seen on the listener and on the descriptor for closing. -/
  | woken (listener wake : UInt16)
  /-- About to fetch a notification. -/
  | fetching
  /-- About to refuse a call through an unknown architecture. -/
  | refusing (notification : Notification)
  /-- About to remember a request that was fetched. -/
  | keeping (request : PendingCall)
  /-- About to prune, since there were too many ids. -/
  | crowded (request : PendingCall)
  /-- Pruning, with the lock held and the ids that have not been asked about. -/
  | pruning (request : PendingCall) (left : List UInt64)
  /-- About to ask whether a call still waits. -/
  | asking (id : UInt64)
  /-- About to forget an id that the kernel denied. -/
  | forgetting (id : UInt64)
  /-- About to give up the id of a response. -/
  | answering (response : Response)
  /-- About to send a response whose id was given up. -/
  | sending (response : Response)
  /-- About to take back the id of a response that the kernel rejected. -/
  | restoring (response : Response) (number : Errno)

namespace Stage

open Exchange (readable broken)

/-- The steps of one thread, each with the facts that it adds, the latest first. -/
inductive Step : Shared → Stage → List Fact → Shared → Stage → Prop
  -- A receive sleeps until there is something to read, and looks at the flag before and after.
  | receive {shared} : Step shared idle [] shared receiving
  | findsClosed {shared} (closed : shared.channel.closed = true) :
      Step shared receiving [.ended (.received (.error .channelClosed))] shared idle
  | sleeps {shared} (isOpen : shared.channel.closed = false) :
      Step shared receiving [] shared sleeping
  | interrupted {shared} :
      Step shared sleeping [.polled (.error Errno.interrupted)] shared receiving
  | sleepFails {shared number} (other : number ≠ Errno.interrupted) :
      Step shared sleeping
        [.ended (.received (.error (.transfer (.errno number)))), .polled (.error number)]
        shared idle
  | wakes {shared listener wake} :
      Step shared sleeping [.polled (.ok (listener, wake))] shared (woken listener wake)
  | wokenClosed {shared listener wake} (closed : shared.channel.closed = true ∨ wake ≠ 0) :
      Step shared (woken listener wake) [.ended (.received (.error .channelClosed))] shared idle
  | wokenIdly {shared listener wake} (isOpen : shared.channel.closed = false) (still : wake = 0)
      (empty : listener &&& readable = 0) (whole : listener &&& broken = 0) :
      Step shared (woken listener wake) [] shared receiving
  | hungUp {shared listener wake} (isOpen : shared.channel.closed = false) (still : wake = 0)
      (empty : listener &&& readable = 0) (failed : listener &&& broken ≠ 0) :
      Step shared (woken listener wake) [.ended (.received (.error .channelClosed))] shared idle
  | wokenReadable {shared listener wake} (isOpen : shared.channel.closed = false)
      (still : wake = 0) (full : listener &&& readable ≠ 0) :
      Step shared (woken listener wake) [] shared fetching
  -- It fetches a notification, refuses one that it does not understand, and keeps the others.
  | misses {shared number} (passing : number = Errno.noEntry ∨ number = Errno.interrupted) :
      Step shared fetching [.fetched (.error number)] shared receiving
  | fetchFails {shared number} (other : ¬ (number = Errno.noEntry ∨ number = Errno.interrupted)) :
      Step shared fetching
        [.ended (.received (.error (.os number))), .fetched (.error number)] shared idle
  | fetchesUnknown {shared notification} (unknown : notification.request? = none) :
      Step shared fetching [.fetched (.ok notification)] shared (refusing notification)
  | refuses {shared notification answer} :
      Step shared (refusing notification) [.refused notification answer] shared receiving
  | fetches {shared notification request} (known : notification.request? = some request) :
      Step shared fetching [.fetched (.ok notification)] shared (keeping request)
  -- Keeping and counting are one step under the lock. Pruning locks again.
  | keeps {shared request} (free : shared.locked = false)
      (few : (shared.insert request.id).channel.outstanding.length ≤ Channel.pruneLimit) :
      Step shared (keeping request) [.ended (.received (.ok request))]
        (shared.insert request.id) idle
  | keepsCrowded {shared request} (free : shared.locked = false)
      (many : Channel.pruneLimit < (shared.insert request.id).channel.outstanding.length) :
      Step shared (keeping request) [] (shared.insert request.id) (crowded request)
  | locks {shared request left} (free : shared.locked = false)
      (order : left.Perm shared.channel.outstanding) :
      Step shared (crowded request) [] { shared with locked := true } (pruning request left)
  | confirms {shared request id left} :
      Step shared (pruning request (id :: left)) [.asked id true] shared (pruning request left)
  | drops {shared request id left} :
      Step shared (pruning request (id :: left)) [.asked id false] (shared.erase id)
        (pruning request left)
  | unlocks {shared request} :
      Step shared (pruning request []) [.ended (.received (.ok request))]
        { shared with locked := false } idle
  -- A check asks without the lock, and takes it to forget.
  | checkClosed {shared id} (closed : shared.channel.closed = true) :
      Step shared idle [.ended (.checked id (.error .channelClosed))] shared idle
  | check {shared id} (isOpen : shared.channel.closed = false) :
      Step shared idle [] shared (asking id)
  | valid {shared id} :
      Step shared (asking id) [.ended (.checked id (.ok ())), .asked id true] shared idle
  | invalid {shared id} :
      Step shared (asking id) [.asked id false] shared (forgetting id)
  | forgets {shared id} (free : shared.locked = false) :
      Step shared (forgetting id) [.ended (.checked id (.error (.staleRequest id)))]
        (shared.erase id) idle
  -- A respond gives the id up under the lock, sends without it, and locks again to restore.
  | respondClosed {shared response} (closed : shared.channel.closed = true) :
      Step shared idle [.ended (.responded response (.error .channelClosed))] shared idle
  | respond {shared response} (isOpen : shared.channel.closed = false) :
      Step shared idle [] shared (answering response)
  | stale {shared response} (free : shared.locked = false)
      (absent : shared.channel.holds response.id = false) :
      Step shared (answering response)
        [.ended (.responded response (.error (.staleRequest response.id)))] shared idle
  | takes {shared response} (free : shared.locked = false)
      (present : shared.channel.holds response.id = true) :
      Step shared (answering response) [] (shared.erase response.id) (sending response)
  | accepted {shared response} :
      Step shared (sending response)
        [.ended (.responded response (.ok ())), .sent response (.ok ())] shared idle
  | late {shared response} :
      Step shared (sending response)
        [.ended (.responded response (.error (.staleRequest response.id))),
          .sent response (.error Errno.noEntry)] shared idle
  | rejected {shared response number} (other : number ≠ Errno.noEntry) :
      Step shared (sending response) [.sent response (.error number)] shared
        (restoring response number)
  | restores {shared response number} (free : shared.locked = false) :
      Step shared (restoring response number)
        [.ended (.responded response (.error (.os number)))] (shared.insert response.id) idle
  | close {shared} :
      Step shared idle [.ended .closed] { shared with channel := shared.channel.close } idle

end Stage

/-- Threads and what they share. -/
structure Supervision where
  shared : Shared
  stages : List Stage

namespace Supervision

/-- A new channel and threads that have not begun to use it. -/
def fresh (threads : Nat) : Supervision :=
  ⟨⟨.opened, false⟩, List.replicate threads .idle⟩

/-- One of the threads takes a step. -/
inductive Step : Supervision → List Fact → Supervision → Prop
  | of {shared shared' stage stage' facts} (earlier later : List Stage)
      (step : stage.Step shared facts shared' stage') :
      Step ⟨shared, earlier ++ stage :: later⟩ facts ⟨shared', earlier ++ stage' :: later⟩

/-- Steps one after the other, with all facts, the latest first. -/
inductive Run (start : Supervision) : List Fact → Supervision → Prop
  | refl : Run start [] start
  | step {past facts state next} (run : Run start past state) (step : state.Step facts next) :
      Run start (facts ++ past) next

variable {start : Supervision} {past facts : List Fact} {shared shared' : Shared}
  {stage stage' other : Stage} {others : List Stage}

/-- The first thread takes a step. -/
theorem Run.first (run : Run start past ⟨shared, stage :: others⟩)
    (step : stage.Step shared facts shared' stage') :
    Run start (facts ++ past) ⟨shared', stage' :: others⟩ :=
  run.step (.of [] others step)

/-- The second thread takes a step. -/
theorem Run.second (run : Run start past ⟨shared, other :: stage :: others⟩)
    (step : stage.Step shared facts shared' stage') :
    Run start (facts ++ past) ⟨shared', other :: stage' :: others⟩ :=
  run.step (.of [other] others step)

end Supervision

end SyscallFilter
