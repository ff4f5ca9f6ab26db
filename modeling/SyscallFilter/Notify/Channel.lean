import SyscallFilter.Error
import SyscallFilter.Notify.Message

/-!
The channel on which a supervisor receives waiting calls and answers them. A channel remembers the
ids it has handed out and not yet seen answered; an id leaves when a response to it is sent, when
the kernel says that its call is gone, and never otherwise.

Waiting for the kernel is met as a list of events, one for each time the channel sleeps or fetches a
notification. Questions that the kernel answers at once go to a `ListenerKernel`.
-/

namespace SyscallFilter

/-- What a channel remembers. -/
structure Channel where
  closed : Bool
  outstanding : List UInt64
  deriving DecidableEq, Repr

namespace Channel

/-- A channel that has just been opened. -/
def opened : Channel := ⟨false, []⟩

/-- Beyond this many ids a receive looks for those whose calls are gone. -/
def pruneLimit : Nat := 256

/-- Closing is final and may be repeated. -/
def close (channel : Channel) : Channel :=
  { channel with closed := true }

/-- Remembers an id. -/
def insert (channel : Channel) (id : UInt64) : Channel :=
  { channel with outstanding := channel.outstanding.insert id }

/-- Forgets an id. -/
def erase (channel : Channel) (id : UInt64) : Channel :=
  { channel with outstanding := channel.outstanding.filter (· != id) }

/-- Whether an id is remembered. -/
def holds (channel : Channel) (id : UInt64) : Bool :=
  channel.outstanding.contains id

variable {channel : Channel} {id other : UInt64}

@[simp] theorem holds_opened : opened.holds id = false := rfl

@[simp] theorem holds_insert :
    (channel.insert other).holds id = true ↔ id = other ∨ channel.holds id = true := by
  simp [holds, insert]

@[simp] theorem holds_erase :
    (channel.erase other).holds id = true ↔ channel.holds id = true ∧ id ≠ other := by
  simp [holds, erase]

@[simp] theorem holds_close : channel.close.holds id = channel.holds id := rfl

end Channel

/-- The kernel behind a channel, which may remember anything between its answers. -/
structure ListenerKernel (σ : Type) where
  send : σ → WireResponse → σ × Except Errno Unit
  isWaiting : σ → UInt64 → σ × Bool
  deliver : σ → Notification → σ

/-- One sleep of a channel, during which another thread may close it, or one attempt to fetch a
notification. A sleep that does not fail tells what it saw on the listener and on the descriptor by
which a closing thread wakes it. -/
inductive ChannelEvent
  | poll (closing : Bool) (answer : Except Errno (UInt16 × UInt16))
  | fetch (answer : Except Errno Notification)

/-- The calls that a channel makes to the kernel. -/
inductive ChannelCall
  | poll
  | fetch
  | isWaiting (id : UInt64)
  | send (response : WireResponse)
  deriving DecidableEq, Repr

/-- A channel, what its kernel remembers, and the calls made so far, the latest first. -/
structure Exchange (σ : Type) where
  channel : Channel
  kernel : σ
  calls : List ChannelCall

namespace Exchange

variable {σ : Type}

/-- Notes a call. -/
def note (exchange : Exchange σ) (call : ChannelCall) : Exchange σ :=
  { exchange with calls := call :: exchange.calls }

/-- Sends a response. -/
def send (kernel : ListenerKernel σ) (exchange : Exchange σ) (response : Response) :
    Exchange σ × Except Errno Unit :=
  let (memory, answer) := kernel.send exchange.kernel response.wire
  ({ exchange with kernel := memory }.note (.send response.wire), answer)

/-- Asks whether a call still waits. -/
def isWaiting (kernel : ListenerKernel σ) (exchange : Exchange σ) (id : UInt64) :
    Exchange σ × Bool :=
  let (memory, answer) := kernel.isWaiting exchange.kernel id
  ({ exchange with kernel := memory }.note (.isWaiting id), answer)

/-- Asks for each of a list of ids whether its call still waits, and forgets those of which the
kernel denies it. -/
def pruneIds (kernel : ListenerKernel σ) (exchange : Exchange σ) : List UInt64 → Exchange σ
  | [] => exchange
  | id :: rest =>
    match exchange.isWaiting kernel id with
    | (next, true) => next.pruneIds kernel rest
    | (next, false) => { next with channel := next.channel.erase id }.pruneIds kernel rest

/-- Looks through all ids where there are more than the threshold. -/
def prune (kernel : ListenerKernel σ) (exchange : Exchange σ) : Exchange σ :=
  if Channel.pruneLimit < exchange.channel.outstanding.length then
    exchange.pruneIds kernel exchange.channel.outstanding
  else exchange

/-- There is something to read. -/
def readable : UInt16 := 1

/-- The listener has failed, was hung up, or is no descriptor. -/
def broken : UInt16 := 8 ||| 16 ||| 32

/-- Waits for a call. Interrupted sleeps, wake-ups without cause and calls that are gone before
they are fetched are passed over; a call through an unknown architecture is answered at once, as one
that does not exist. Where the events run out, or one is of the wrong kind, the call it stands for
fails. -/
def receive (kernel : ListenerKernel σ) (exchange : Exchange σ) :
    List ChannelEvent → Exchange σ × Except Error PendingCall
  | .poll closing answer :: events =>
    if exchange.channel.closed then (exchange, .error .channelClosed)
    else
      let woken :=
        if closing then { exchange with channel := exchange.channel.close } else exchange
      let polled := woken.note .poll
      match answer with
      | .error number =>
        if number = Errno.interrupted then polled.receive kernel events
        else (polled, .error (.transfer (.errno number)))
      | .ok (listener, wake) =>
        if polled.channel.closed || wake != 0 then (polled, .error .channelClosed)
        else if listener &&& readable = 0 then
          if listener &&& broken = 0 then polled.receive kernel events
          else (polled, .error .channelClosed)
        else
          let fetched := polled.note .fetch
          match events with
          | .fetch (.error number) :: events =>
            if number = Errno.noEntry ∨ number = Errno.interrupted then
              fetched.receive kernel events
            else (fetched, .error (.os number))
          | .fetch (.ok notification) :: events =>
            let taken := { fetched with kernel := kernel.deliver fetched.kernel notification }
            match notification.request? with
            | none =>
              let refusal := Response.fail notification.id (Int32.ofNat Errno.noSystemCall)
              (taken.send kernel refusal).1.receive kernel events
            | some request =>
              let kept := { taken with channel := taken.channel.insert request.id }
              (kept.prune kernel, .ok request)
          | _ => (fetched, .error (.os Errno.inputOutput))
  | _ =>
    if exchange.channel.closed then (exchange, .error .channelClosed)
    else (exchange.note .poll, .error (.transfer (.errno Errno.inputOutput)))

/-- Asks whether a call still waits, and forgets it where the kernel denies it. -/
def checkValid (kernel : ListenerKernel σ) (exchange : Exchange σ) (id : UInt64) :
    Exchange σ × Except Error Unit :=
  if exchange.channel.closed then (exchange, .error .channelClosed)
  else
    match exchange.isWaiting kernel id with
    | (next, true) => (next, .ok ())
    | (next, false) =>
      ({ next with channel := next.channel.erase id }, .error (.staleRequest id))

/-- Answers a call that was received and not answered. The id is given up before the response is
sent, and taken back where the kernel refuses the response for a reason other than that the call is
gone. -/
def respond (kernel : ListenerKernel σ) (exchange : Exchange σ) (response : Response) :
    Exchange σ × Except Error Unit :=
  if exchange.channel.closed then (exchange, .error .channelClosed)
  else if exchange.channel.holds response.id then
    let given := { exchange with channel := exchange.channel.erase response.id }
    match given.send kernel response with
    | (sent, .ok ()) => (sent, .ok ())
    | (sent, .error number) =>
      if number = Errno.noEntry then (sent, .error (.staleRequest response.id))
      else
        ({ sent with channel := sent.channel.insert response.id }, .error (.os number))
  else (exchange, .error (.staleRequest response.id))

/-- Closes the channel. -/
def close (exchange : Exchange σ) : Exchange σ :=
  { exchange with channel := exchange.channel.close }

end Exchange

end SyscallFilter
