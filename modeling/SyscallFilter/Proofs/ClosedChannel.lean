import Mathlib.Tactic
import SyscallFilter.Proofs.AnsweredOnce
import SyscallFilter.Proofs.Reception

/-!
Closing is final. Whatever is begun on a closed channel is refused before the kernel is called, and
changes nothing. A receive that is asleep when the channel is closed does not fetch any more: it
ends with its sleep. This holds of operations one after the other, and of threads none of which is
between a fetch or a change of the ids and the end of its operation when the channel is closed.
-/

namespace SyscallFilter

/-- Closing a closed channel changes nothing. -/
theorem Channel.close_of_closed {channel : Channel} (h : channel.closed = true) :
    channel.close = channel := by
  rw [close, ← h]

namespace Exchange

open ChannelEvent (Passed Decides)

variable {σ : Type} {kernel : ListenerKernel σ} {exchange : Exchange σ}

/-- How an operation on a closed channel ends. -/
def Operation.refusal : Operation → Outcome
  | receive _ => .received (.error .channelClosed)
  | checkValid id => .checked id (.error .channelClosed)
  | respond response => .responded response (.error .channelClosed)
  | close => .closed

/-- Every operation on a closed channel is refused, makes no call and changes nothing. -/
theorem carryOut_of_closed (hclosed : exchange.channel.closed = true) (operation : Operation) :
    exchange.carryOut kernel operation = (exchange, operation.refusal) := by
  cases operation with
  | receive events =>
    rw [carryOut, receive_of_closed hclosed]
    rfl
  | checkValid id =>
    rw [carryOut, checkValid, if_pos hclosed]
    rfl
  | respond response =>
    rw [carryOut, respond, if_pos hclosed]
    rfl
  | close =>
    rw [carryOut, Exchange.close, Channel.close_of_closed hclosed]
    rfl

theorem run_of_closed (hclosed : exchange.channel.closed = true) (operations : List Operation) :
    exchange.run kernel operations = exchange := by
  induction operations with
  | nil => rfl
  | cons operation rest ih =>
    rw [run, List.foldl_cons, carryOut_of_closed hclosed]
    exact ih

/-- A channel is closed for good: after any operations the next one is still refused, and the
channel, what its kernel remembers and the calls that were made are as they were. -/
def Rests (kernel : ListenerKernel σ) (exchange : Exchange σ) : Prop :=
  ∀ operations operation, (exchange.run kernel operations).carryOut kernel operation =
    (exchange, operation.refusal)

theorem rests_of_closed (hclosed : exchange.channel.closed = true) : exchange.Rests kernel := by
  intro operations operation
  rw [run_of_closed hclosed, carryOut_of_closed hclosed]

/-- The operations in which a channel is closed, with the channel that they leave behind and what
they hand back. A receive is asleep when it happens, and its sleep is the last call that it
makes. -/
inductive ClosedIn (kernel : ListenerKernel σ) (before : Exchange σ) :
    Operation → Exchange σ × Outcome → Prop
  | close : ClosedIn kernel before .close (before.close, .closed)
  /-- The sleep ends as it should, or is interrupted. -/
  | asleep {events refused answer later} (passed : Passed events refused)
      (ended : ∀ number, answer = .error number → number = Errno.interrupted) :
      ClosedIn kernel before (.receive (events ++ .poll true answer :: later))
        ((events.foldl (met kernel) before).slept true, .received (.error .channelClosed))
  /-- The sleep fails. -/
  | sleepFails {events refused number later} (passed : Passed events refused)
      (other : number ≠ Errno.interrupted) :
      ClosedIn kernel before (.receive (events ++ .poll true (.error number) :: later))
        ((events.foldl (met kernel) before).slept true,
          .received (.error (.transfer (.errno number))))

/-- The operations in which a channel is closed do what they are said to. -/
theorem ClosedIn.carryOut_eq {operation : Operation} {ended : Exchange σ × Outcome}
    (h : ClosedIn kernel exchange operation ended) (hopen : exchange.channel.closed = false) :
    exchange.carryOut kernel operation = ended ∧ ended.1.channel = exchange.channel.close := by
  have hasleep {events later : List ChannelEvent} {refused : List Notification}
      {answer : Except Errno (UInt16 × UInt16)} {result : Except Error PendingCall}
      (passed : Passed events refused) (decides : Decides [.poll true answer] none result) :
      exchange.receive kernel (events ++ .poll true answer :: later) =
          ((events.foldl (met kernel) exchange).slept true, result) ∧
        ((events.foldl (met kernel) exchange).slept true).channel = exchange.channel.close := by
    have hchannel := channel_of_passed kernel exchange passed
    rw [receive_of_passed passed hopen]
    refine ⟨receive_of_decides decides (hchannel ▸ hopen) later, ?_⟩
    exact congrArg Channel.close hchannel
  cases h with
  | close => exact ⟨rfl, rfl⟩
  | asleep passed ended =>
    obtain ⟨hreceive, hchannel⟩ := hasleep passed (.closing ended)
    rw [carryOut, hreceive]
    exact ⟨rfl, hchannel⟩
  | sleepFails passed other =>
    obtain ⟨hreceive, hchannel⟩ := hasleep passed (.sleepFails other)
    rw [carryOut, hreceive]
    exact ⟨rfl, hchannel⟩

/-- What the kernel says of ids leaves the flag as it is. -/
theorem closed_confirm (kernel : ListenerKernel σ) (exchange : Exchange σ) (id : UInt64) :
    (exchange.confirm kernel id).channel.closed = exchange.channel.closed := by
  rw [channel_confirm]
  split
  · rfl
  · rfl

theorem closed_prune (kernel : ListenerKernel σ) (exchange : Exchange σ) :
    (exchange.prune kernel).channel.closed = exchange.channel.closed := by
  have hfold (before : Exchange σ) (ids : List UInt64) :
      (ids.foldl (confirm kernel) before).channel.closed = before.channel.closed := by
    induction ids generalizing before with
    | nil => rfl
    | cons id rest ih => rw [List.foldl_cons, ih, closed_confirm]
  rw [prune]
  split
  · rw [pruneIds_eq_foldl, hfold]
  · rfl

/-- A check does not close a channel, and a respond does not. -/
theorem closed_checkValid (kernel : ListenerKernel σ) (exchange : Exchange σ) (id : UInt64) :
    (exchange.checkValid kernel id).1.channel.closed = exchange.channel.closed := by
  by_cases hclosed : exchange.channel.closed = true
  · rw [checkValid, if_pos hclosed]
  · rw [checkValid_of_open hclosed]
    exact closed_confirm kernel exchange id

theorem closed_respond (kernel : ListenerKernel σ) (exchange : Exchange σ) (response : Response) :
    (exchange.respond kernel response).1.channel.closed = exchange.channel.closed := by
  cases hclosed : exchange.channel.closed with
  | true => rw [respond, if_pos hclosed, hclosed]
  | false =>
    by_cases hholds : exchange.channel.holds response.id = true
    · rw [respond_of_holds hclosed hholds]
      dsimp only
      split
      · exact hclosed
      · split
        · exact hclosed
        · exact hclosed
    · rw [respond_of_not_holds hclosed hholds, hclosed]

/-- A receive closes a channel only by a sleep during which that is done. -/
theorem exists_closedIn_receive {events : List ChannelEvent}
    (hopen : exchange.channel.closed = false)
    (hclosed : (exchange.receive kernel events).1.channel.closed = true) :
    ∃ ended, ClosedIn kernel exchange (.receive events) ended := by
  obtain hruns | ⟨passed, refused, decisive, delivered, result, rest, rfl, hpassed, hdecides⟩ :=
    ChannelEvent.runsOut_or_concludes events
  · rw [(receive_of_runsOut kernel hruns hopen).1, hopen] at hclosed
    exact absurd hclosed Bool.false_ne_true
  · let blocked : Exchange σ := passed.foldl (met kernel) exchange
    have hblocked : blocked.channel.closed = false :=
      (congrArg Channel.closed (channel_of_passed kernel exchange hpassed)).trans hopen
    rw [receive_of_passed hpassed hopen, receive_of_decides hdecides hblocked] at hclosed
    have hnot (hsame : (blocked.concluded kernel decisive delivered).channel.closed =
        blocked.channel.closed) : False :=
      Bool.false_ne_true (hblocked.symm.trans (hsame.symm.trans hclosed))
    cases hdecides with
    | closing ended => exact ⟨_, .asleep hpassed ended⟩
    | @sleepFails closing number other =>
      cases closing with
      | true => exact ⟨_, .sleepFails hpassed other⟩
      | false => exact (hnot rfl).elim
    | delivers full tells =>
      refine (hnot ?_).elim
      rw [concluded, closed_prune, List.foldl_cons, List.foldl_cons, List.foldl_nil,
        met_of_tells tells]
      rfl
    | _ => exact (hnot rfl).elim

/-- No other operation closes a channel. -/
theorem exists_closedIn {operation : Operation} (hopen : exchange.channel.closed = false)
    (hclosed : (exchange.carryOut kernel operation).1.channel.closed = true) :
    ∃ ended, ClosedIn kernel exchange operation ended := by
  cases operation with
  | receive events => exact exists_closedIn_receive hopen hclosed
  | checkValid id =>
    change (exchange.checkValid kernel id).1.channel.closed = true at hclosed
    rw [closed_checkValid, hopen] at hclosed
    exact absurd hclosed Bool.false_ne_true
  | respond response =>
    change (exchange.respond kernel response).1.channel.closed = true at hclosed
    rw [closed_respond, hopen] at hclosed
    exact absurd hclosed Bool.false_ne_true
  | close => exact ⟨_, .close⟩

end Exchange

namespace Fact

/-- The kernel ends a sleep. -/
def endsSleep : Fact → Bool
  | polled _ => true
  | _ => false

end Fact

namespace Stage

/-- A thread is between two operations, or in a receive that has not turned to a notification. -/
def atRest : Stage → Bool
  | idle => true
  | receiving => true
  | sleeping => true
  | woken _ _ => true
  | _ => false

/-- A thread is asleep. -/
def isAsleep : Stage → Bool
  | sleeping => true
  | _ => false

/-- All that a thread can still do with a closed channel. -/
inductive Withdraws : Stage → List Fact → Stage → Prop
  | receive : Withdraws idle [] receiving
  | checkClosed {id} : Withdraws idle [.ended (.checked id (.error .channelClosed))] idle
  | respondClosed {response} :
      Withdraws idle [.ended (.responded response (.error .channelClosed))] idle
  | closesAgain : Withdraws idle [.ended .closed] idle
  | findsClosed : Withdraws receiving [.ended (.received (.error .channelClosed))] idle
  | interrupted : Withdraws sleeping [.polled (.error Errno.interrupted)] receiving
  | sleepFails {number} (other : number ≠ Errno.interrupted) :
      Withdraws sleeping
        [.ended (.received (.error (.transfer (.errno number)))), .polled (.error number)] idle
  | wakes {listener wake} :
      Withdraws sleeping [.polled (.ok (listener, wake))] (woken listener wake)
  | wokenClosed {listener wake} :
      Withdraws (woken listener wake) [.ended (.received (.error .channelClosed))] idle

variable {shared shared' : Shared} {stage stage' : Stage} {facts : List Fact}

/-- A thread that is at rest when the channel is closed withdraws, and changes nothing. -/
theorem Step.withdraws (h : stage.Step shared facts shared' stage')
    (hclosed : shared.channel.closed = true) (hrest : stage.atRest = true) :
    shared' = shared ∧ stage.Withdraws facts stage' := by
  have hopen (isOpen : shared.channel.closed = false) : False :=
    Bool.false_ne_true (isOpen.symm.trans hclosed)
  cases h with
  | receive => exact ⟨rfl, .receive⟩
  | findsClosed => exact ⟨rfl, .findsClosed⟩
  | interrupted => exact ⟨rfl, .interrupted⟩
  | sleepFails other => exact ⟨rfl, .sleepFails other⟩
  | wakes => exact ⟨rfl, .wakes⟩
  | wokenClosed => exact ⟨rfl, .wokenClosed⟩
  | checkClosed => exact ⟨rfl, .checkClosed⟩
  | respondClosed => exact ⟨rfl, .respondClosed⟩
  | close => exact ⟨by rw [Channel.close_of_closed hclosed], .closesAgain⟩
  | sleeps isOpen | wokenIdly isOpen | hungUp isOpen | wokenReadable isOpen | check isOpen
  | respond isOpen => exact (hopen isOpen).elim
  | _ => nomatch hrest

/-- It stays at rest. -/
theorem Withdraws.atRest (h : stage.Withdraws facts stage') : stage'.atRest = true := by
  cases h <;> rfl

/-- It learns how a sleep ended, or ends an operation, and nothing else. -/
theorem Withdraws.silent (h : stage.Withdraws facts stage') {fact : Fact} (hmem : fact ∈ facts) :
    (∃ answer, fact = .polled answer) ∨ ∃ outcome, fact = .ended outcome := by
  cases h with
  | receive => nomatch hmem
  | interrupted | wakes =>
    rw [List.mem_singleton] at hmem
    exact .inl ⟨_, hmem⟩
  | sleepFails other =>
    obtain rfl | hmem := List.mem_cons.mp hmem
    · exact .inr ⟨_, rfl⟩
    · exact .inl ⟨_, List.mem_singleton.mp hmem⟩
  | _ =>
    rw [List.mem_singleton] at hmem
    exact .inr ⟨_, hmem⟩

/-- It never falls asleep, and wakes up once if it was. -/
theorem Withdraws.asleep (h : stage.Withdraws facts stage') :
    facts.countP Fact.endsSleep + (if stage'.isAsleep then 1 else 0) =
      if stage.isAsleep then 1 else 0 := by
  cases h <;> rfl

/-- Its operation is refused, or was a receive whose sleep failed. -/
theorem Withdraws.refused (h : stage.Withdraws facts stage') {outcome : Exchange.Outcome}
    (hmem : .ended outcome ∈ facts) :
    (∃ operation : Exchange.Operation, outcome = operation.refusal) ∨
      ∃ number, number ≠ Errno.interrupted ∧
        outcome = .received (.error (.transfer (.errno number))) ∧
        .polled (.error number) ∈ facts := by
  cases h with
  | receive | interrupted | wakes => simp at hmem
  | findsClosed | wokenClosed =>
    rw [List.mem_singleton] at hmem
    injection hmem with hmem
    exact .inl ⟨.receive [], hmem⟩
  | @checkClosed id =>
    rw [List.mem_singleton] at hmem
    injection hmem with hmem
    exact .inl ⟨.checkValid id, hmem⟩
  | @respondClosed response =>
    rw [List.mem_singleton] at hmem
    injection hmem with hmem
    exact .inl ⟨.respond response, hmem⟩
  | closesAgain =>
    rw [List.mem_singleton] at hmem
    injection hmem with hmem
    exact .inl ⟨.close, hmem⟩
  | @sleepFails number other =>
    obtain hended | hpolled := List.mem_cons.mp hmem
    · injection hended with hended
      exact .inr ⟨number, other, hended, List.mem_cons_of_mem _ List.mem_cons_self⟩
    · exact absurd (List.mem_singleton.mp hpolled) (by rintro ⟨⟩)

end Stage

namespace Supervision

variable {before closed final next : Supervision} {later facts : List Fact}

/-- What comes of a channel that was closed: it stays as it is, and the kernel is called neither for
a notification nor about an id. The sleeps that end were begun before. Every operation that ends is
refused, if it is not a receive whose sleep failed. All that a thread can do next is to withdraw,
and a receive that is not asleep can do so at once. -/
structure Finished (closed : Supervision) (later : List Fact) (final : Supervision) : Prop where
  unchanged : final.shared = closed.shared
  silent : ∀ fact ∈ later, (∃ answer, fact = .polled answer) ∨ ∃ outcome, fact = .ended outcome
  asleep : later.countP Fact.endsSleep + final.stages.countP Stage.isAsleep =
    closed.stages.countP Stage.isAsleep
  refused : ∀ outcome, .ended outcome ∈ later →
    (∃ operation : Exchange.Operation, outcome = operation.refusal) ∨
      ∃ number, number ≠ Errno.interrupted ∧
        outcome = .received (.error (.transfer (.errno number))) ∧
        .polled (.error number) ∈ later
  withdraws : ∀ facts next, final.Step facts next →
    ∃ (earlier : List Stage) (stage stage' : Stage) (others : List Stage),
      final.stages = earlier ++ stage :: others ∧
      next = ⟨final.shared, earlier ++ stage' :: others⟩ ∧ stage.Withdraws facts stage'
  returns : ∀ (earlier : List Stage) (stage : Stage) (others : List Stage),
    final.stages = earlier ++ stage :: others →
    (stage = .receiving ∨ ∃ listener wake, stage = .woken listener wake) →
    final.Step [.ended (.received (.error .channelClosed))]
      ⟨final.shared, earlier ++ .idle :: others⟩

/-- Where the channel is closed and all threads are at rest, a step is that of a thread which
withdraws. -/
theorem Step.withdraws (h : final.Step facts next) (hclosed : final.shared.channel.closed = true)
    (hrest : ∀ stage ∈ final.stages, stage.atRest = true) :
    ∃ (earlier : List Stage) (stage stage' : Stage) (others : List Stage),
      final.stages = earlier ++ stage :: others ∧
      next = ⟨final.shared, earlier ++ stage' :: others⟩ ∧ stage.Withdraws facts stage' := by
  obtain @⟨shared, shared', stage, stage', facts, earlier, others, hstep⟩ := h
  have hstage : stage.atRest = true := hrest stage (List.mem_append_right _ List.mem_cons_self)
  obtain ⟨rfl, hwithdraws⟩ := hstep.withdraws hclosed hstage
  exact ⟨earlier, stage, stage', others, rfl, rfl, hwithdraws⟩

/-- The threads stay at rest on a channel that stays closed. -/
theorem Run.finished (run : Run closed later final)
    (hclosed : closed.shared.channel.closed = true)
    (hrest : ∀ stage ∈ closed.stages, stage.atRest = true) :
    (∀ stage ∈ final.stages, stage.atRest = true) ∧ Finished closed later final := by
  have hends {state : Supervision} (hshared : state.shared = closed.shared)
      (earlier : List Stage) (stage : Stage) (others : List Stage)
      (hstages : state.stages = earlier ++ stage :: others)
      (hstage : stage = .receiving ∨ ∃ listener wake, stage = .woken listener wake) :
      state.Step [.ended (.received (.error .channelClosed))]
        ⟨state.shared, earlier ++ .idle :: others⟩ := by
    obtain ⟨shared, stages⟩ := state
    obtain rfl : shared = closed.shared := hshared
    obtain rfl : stages = earlier ++ stage :: others := hstages
    obtain rfl | ⟨listener, wake, rfl⟩ := hstage
    · exact .of earlier others (.findsClosed hclosed)
    · exact .of earlier others (.wokenClosed (.inl hclosed))
  induction run with
  | refl =>
    refine ⟨hrest, rfl, by simp, by simp, by simp, ?_, hends rfl⟩
    intro facts next hstep
    exact hstep.withdraws hclosed hrest
  | @step past facts state next run step ih =>
    obtain ⟨hstill, hfinished⟩ := ih
    have hstate : state.shared.channel.closed = true := by rw [hfinished.unchanged, hclosed]
    obtain ⟨earlier, stage, stage', others, hstages, rfl, hwithdraws⟩ :=
      step.withdraws hstate hstill
    have hnext : ∀ other ∈ earlier ++ stage' :: others, other.atRest = true := by
      intro other hmem
      obtain hmem | hmem := List.mem_append.mp hmem
      · exact hstill other (hstages ▸ List.mem_append_left _ hmem)
      · obtain rfl | hmem := List.mem_cons.mp hmem
        · exact hwithdraws.atRest
        · exact hstill other (hstages ▸ List.mem_append_right _ (List.mem_cons_of_mem _ hmem))
    refine ⟨hnext, hfinished.unchanged, ?_, ?_, ?_, ?_, hends hfinished.unchanged⟩
    · intro fact hmem
      obtain hmem | hmem := List.mem_append.mp hmem
      · exact hwithdraws.silent hmem
      · exact hfinished.silent fact hmem
    · have hthread := hwithdraws.asleep
      have hbefore := hfinished.asleep
      rw [hstages] at hbefore
      simp only [List.countP_append, List.countP_cons] at hbefore ⊢
      omega
    · intro outcome hmem
      obtain hmem | hmem := List.mem_append.mp hmem
      · obtain hrefused | ⟨number, other, houtcome, hpolled⟩ := hwithdraws.refused hmem
        · exact .inl hrefused
        · exact .inr ⟨number, other, houtcome, List.mem_append_left _ hpolled⟩
      · obtain hrefused | ⟨number, other, houtcome, hpolled⟩ := hfinished.refused outcome hmem
        · exact .inl hrefused
        · exact .inr ⟨number, other, houtcome, List.mem_append_right _ hpolled⟩
    · intro facts next hstep
      exact hstep.withdraws hstate hnext

/-- Closing is final. Once a channel is closed while all threads are at rest, it stays as it is in
every later run, and the threads can only withdraw. Of operations one after the other exactly those
that close the channel leave it closed: `close`, and a receive that is asleep meanwhile and ends
with its sleep. From then on every operation is refused. -/
theorem closing_is_final :
    (∀ (before closed final : Supervision) (later : List Fact),
      (∀ stage ∈ before.stages, stage.atRest = true) → before.Step [.ended .closed] closed →
      Run closed later final →
      closed.shared.channel = before.shared.channel.close ∧ Finished closed later final) ∧
    ∀ (σ : Type) (kernel : ListenerKernel σ) (before : Exchange σ) (operation : Exchange.Operation),
      before.channel.closed = false →
      ((before.carryOut kernel operation).1.channel.closed = true ↔
        ∃ ended, Exchange.ClosedIn kernel before operation ended) ∧
      ∀ ended, Exchange.ClosedIn kernel before operation ended →
        before.carryOut kernel operation = ended ∧ ended.1.channel = before.channel.close ∧
        ended.1.Rests kernel := by
  constructor
  · rintro before closed final later hrest hcloses run
    obtain @⟨shared, shared', stage, stage', facts, earlier, others, hstep⟩ := hcloses
    cases hstep with
    | close => exact ⟨rfl, (run.finished rfl hrest).2⟩
  · intro σ kernel before operation hopen
    have hended (ended : Exchange σ × Exchange.Outcome)
        (h : Exchange.ClosedIn kernel before operation ended) :
        before.carryOut kernel operation = ended ∧ ended.1.channel = before.channel.close :=
      h.carryOut_eq hopen
    refine ⟨⟨Exchange.exists_closedIn hopen, ?_⟩, ?_⟩
    · rintro ⟨ended, h⟩
      obtain ⟨heq, hchannel⟩ := hended ended h
      rw [heq, hchannel]
      rfl
    · intro ended h
      obtain ⟨heq, hchannel⟩ := hended ended h
      refine ⟨heq, hchannel, Exchange.rests_of_closed ?_⟩
      rw [hchannel]
      rfl

/-- One thread has received a request and sleeps again when another one closes the channel. It wakes
up to a second request and does not fetch it, and the first one can no longer be answered. The same
happens to operations one after the other. -/
theorem closing_is_final_asleep :
    let before : Supervision := ⟨⟨⟨false, [7]⟩, false⟩, [.sleeping, .idle]⟩
    let closed : Supervision := ⟨⟨⟨true, [7]⟩, false⟩, [.sleeping, .idle]⟩
    let final : Supervision := ⟨⟨⟨true, [7]⟩, false⟩, [.idle, .idle]⟩
    let later : List Fact :=
      [.ended (.responded (.proceed 7) (.error .channelClosed)),
        .ended (.received (.error .channelClosed)), .polled (.ok (Exchange.readable, 1))]
    let channel := (Exchange.opened []).run Exchange.scripted
      [Exchange.delivery 7 Arch.x8664.auditWord]
    let operation : Exchange.Operation :=
      .receive [.poll false (.error 4), .poll true (.ok (Exchange.readable, 1)),
        .fetch (.ok waitingCall)]
    (∃ past, Run (fresh 2) past before) ∧ before.Step [.ended .closed] closed ∧
      Run closed later final ∧ Finished closed later final ∧
      channel.channel.closed = false ∧
      (channel.carryOut Exchange.scripted operation).2 = .received (.error .channelClosed) ∧
      (channel.carryOut Exchange.scripted operation).1.calls = .poll :: .poll :: channel.calls ∧
      (channel.carryOut Exchange.scripted operation).1.Rests Exchange.scripted := by
  intro before closed final later channel operation
  have hreached : Run (fresh 2) _ before := (run_received.first .receive).first (.sleeps rfl)
  have hcloses : before.Step [.ended .closed] closed := .of [.sleeping] [] .close
  have hwoken : Run closed _ ⟨_, [.woken Exchange.readable 1, .idle]⟩ := Run.refl.first .wakes
  have hrun : Run closed later final :=
    (hwoken.first (.wokenClosed (.inl rfl))).second (.respondClosed rfl)
  have hrest : ∀ stage ∈ before.stages, stage.atRest = true := by decide
  have hpassed : ChannelEvent.Passed [.poll false (.error 4)] [] := .interrupted .nil
  have hclosed : Exchange.ClosedIn Exchange.scripted channel operation _ :=
    .asleep hpassed (by rintro _ ⟨⟩)
  obtain ⟨hthreads, hoperations⟩ := closing_is_final
  obtain ⟨heq, -, hrests⟩ := (hoperations _ Exchange.scripted channel operation rfl).2 _ hclosed
  rw [heq]
  exact ⟨⟨_, hreached⟩, hcloses, hrun, (hthreads before closed final later hrest hcloses hrun).2,
    rfl, rfl, rfl, hrests⟩

end Supervision

end SyscallFilter
