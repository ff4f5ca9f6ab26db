import Mathlib.Tactic
import SyscallFilter.Notify.Supervision
import SyscallFilter.Proofs.ChannelHistory

/-!
A whole operation is a run of steps. Where no other thread comes between the steps of an operation
but to close the channel during a sleep, they change the ids, call the kernel and end as the operation
does.
-/

namespace SyscallFilter

namespace Fact

/-- The response by which a receive refuses a notification. -/
def refusal (notification : Notification) : Response :=
  .fail notification.id (Int32.ofNat Errno.noSystemCall)

/-- The call that a fact is the answer to. -/
def call? : Fact → Option ChannelCall
  | polled _ => some .poll
  | fetched _ => some .fetch
  | refused notification _ => some (.send (refusal notification).wire)
  | asked id _ => some (.isWaiting id)
  | sent response _ => some (.send response.wire)
  | ended _ => none

/-- The answer that a fact tells, of those that the kernel gives at once. -/
def answer? : Fact → Option KernelAnswer
  | refused notification answer => some (.sent (refusal notification).wire answer)
  | asked id waiting => some (.asked id waiting)
  | sent response answer => some (.sent response.wire answer)
  | _ => none

end Fact

namespace Supervision

open Exchange (confirm)

variable {σ : Type} {kernel : ListenerKernel σ} {start : Supervision} {past facts : List Fact}
  {exchange after : Exchange (σ × List KernelAnswer)} {locked locked' : Bool}
  {stage next : Stage} {others : List Stage}

/-- A run has come to where the first thread is at a stage, the second one at rest, and the ids, the
calls and the answers are those of an exchange. -/
structure Follows (start : Supervision) (past : List Fact)
    (exchange : Exchange (σ × List KernelAnswer)) (locked : Bool) (stage : Stage)
    (others : List Stage) : Prop where
  run : Run start past ⟨⟨exchange.channel, locked⟩, stage :: .idle :: others⟩
  calls : past.filterMap Fact.call? = exchange.calls
  answers : past.filterMap Fact.answer? = exchange.answers

/-- The first thread takes a step. -/
theorem Follows.step (h : Follows start past exchange locked stage others)
    (after : Exchange (σ × List KernelAnswer))
    (step : stage.Step ⟨exchange.channel, locked⟩ facts ⟨after.channel, locked'⟩ next)
    (calls : facts.filterMap Fact.call? ++ exchange.calls = after.calls)
    (answers : facts.filterMap Fact.answer? ++ exchange.answers = after.answers) :
    Follows start (facts ++ past) after locked' next others where
  run := h.run.first step
  calls := by rw [List.filterMap_append, h.calls, calls]
  answers := by rw [List.filterMap_append, h.answers, answers]

/-- The second thread closes the channel. -/
theorem Follows.closed (h : Follows start past exchange locked stage others) :
    Follows start (.ended .closed :: past) { exchange with channel := exchange.channel.close }
      locked stage others where
  run := h.run.second .close
  calls := h.calls
  answers := h.answers

/-- A receive falls asleep, and the channel may be closed meanwhile. -/
theorem Follows.asleep (h : Follows start past exchange false .receiving others)
    (isOpen : ¬ exchange.channel.closed = true) (closing : Bool) :
    ∃ later, past <:+ later ∧ Follows start later
      (if closing = true then { exchange with channel := exchange.channel.close } else exchange)
      false .sleeping others := by
  have hsleeps : Follows start past exchange false .sleeping others :=
    h.step exchange (.sleeps (Bool.eq_false_iff.mpr isOpen)) rfl rfl
  cases closing with
  | false => exact ⟨past, List.suffix_refl past, hsleeps⟩
  | true => exact ⟨_, List.suffix_cons _ past, hsleeps.closed⟩

/-- A receive wakes up. -/
theorem Follows.woken (h : Follows start past exchange false .receiving others)
    (isOpen : ¬ exchange.channel.closed = true) (closing : Bool) (listener wake : UInt16) :
    ∃ later, past <:+ later ∧
      Follows start later (exchange.slept closing) false (.woken listener wake) others := by
  obtain ⟨later, hlater, hasleep⟩ := h.asleep isOpen closing
  exact ⟨_, hlater.trans (List.suffix_cons _ _), hasleep.step (exchange.slept closing) .wakes rfl rfl⟩

/-- A receive wakes up to something to read. -/
theorem Follows.fetching (h : Follows start past exchange false .receiving others)
    (isOpen : ¬ exchange.channel.closed = true) {closing : Bool} {listener wake : UInt16}
    (awake : ¬ ((exchange.slept closing).channel.closed || wake != 0) = true)
    (full : ¬ listener &&& Exchange.readable = 0) :
    ∃ later, past <:+ later ∧
      Follows start later (exchange.slept closing) false .fetching others := by
  obtain ⟨later, hlater, hwoken⟩ := h.woken isOpen closing listener wake
  simp only [Bool.or_eq_true, bne_iff_ne, not_or, not_not, Bool.not_eq_true] at awake
  exact ⟨later, hlater, hwoken.step _ (.wokenReadable awake.1 awake.2 full) rfl rfl⟩

/-- The kernel is asked about the next id while the lock is kept. -/
theorem Follows.confirmed (kernel : ListenerKernel σ) {request : PendingCall} {id : UInt64}
    {left : List UInt64}
    (h : Follows start past exchange true (.pruning request (id :: left)) others) :
    Follows start (.asked id (kernel.isWaiting exchange.kernel.1 id).2 :: past)
      (exchange.confirm kernel.recorded id) true (.pruning request left) others := by
  have hstep : Stage.Step ⟨exchange.channel, true⟩ (.pruning request (id :: left))
      [.asked id (kernel.isWaiting exchange.kernel.1 id).2]
      ⟨(exchange.confirm kernel.recorded id).channel, true⟩ (.pruning request left) := by
    rw [Exchange.channel_confirm]
    change Stage.Step _ _ _ ⟨if (kernel.isWaiting exchange.kernel.1 id).2 = true then _ else _, _⟩ _
    cases (kernel.isWaiting exchange.kernel.1 id).2 with
    | true => exact .confirms
    | false => exact .drops
  exact h.step _ hstep (Exchange.calls_confirm id).symm Exchange.answers_confirm.symm

/-- Pruning goes through the ids while it keeps the lock. -/
theorem Follows.pruned (kernel : ListenerKernel σ) {request : PendingCall} {ids : List UInt64}
    (h : Follows start past exchange true (.pruning request ids) others) :
    ∃ later, past <:+ later ∧ Follows start later (ids.foldl (confirm kernel.recorded) exchange)
      true (.pruning request []) others := by
  induction ids generalizing past exchange with
  | nil => exact ⟨past, List.suffix_refl past, h⟩
  | cons id rest ih =>
    obtain ⟨later, hlater, hrest⟩ := ih (h.confirmed kernel)
    exact ⟨later, (List.suffix_cons _ past).trans hlater, hrest⟩

/-- A request that was fetched is kept and handed out. -/
theorem Follows.kept (kernel : ListenerKernel σ) {request : PendingCall}
    (h : Follows start past exchange false (.keeping request) others) :
    ∃ later, past <:+ later ∧ Follows start (.ended (.received (.ok request)) :: later)
      (({ exchange with channel := exchange.channel.insert request.id } :
        Exchange (σ × List KernelAnswer)).prune kernel.recorded) false .idle others := by
  let kept : Exchange (σ × List KernelAnswer) :=
    { exchange with channel := exchange.channel.insert request.id }
  change ∃ later, _ ∧ Follows start _ (kept.prune kernel.recorded) false .idle others
  rw [Exchange.prune, Exchange.pruneIds_eq_foldl]
  split
  next many =>
    have hcrowded := h.step kept (.keepsCrowded rfl many) rfl rfl
    have hlocked := hcrowded.step kept (.locks rfl (.refl _)) rfl rfl
    obtain ⟨later, hlater, hpruned⟩ := hlocked.pruned kernel
    exact ⟨later, hlater, hpruned.step _ .unlocks rfl rfl⟩
  next few =>
    exact ⟨past, List.suffix_refl past, h.step kept (.keeps rfl (Nat.le_of_not_lt few)) rfl rfl⟩

/-- The rest of a receive. -/
theorem Follows.received (h : Follows start past exchange false .receiving others)
    (events : List ChannelEvent) :
    ∃ later, past <:+ later ∧ Follows start
      (.ended (.received (exchange.receive kernel.recorded events).2) :: later)
      (exchange.receive kernel.recorded events).1 false .idle others := by
  revert past
  -- One case for each way that a round of the loop can go.
  fun_induction Exchange.receive kernel.recorded exchange events
  case case1 exchange closing answer events hclosed =>
    -- The channel is found closed.
    intro past h
    exact ⟨past, List.suffix_refl past, h.step exchange (.findsClosed hclosed) rfl rfl⟩
  case case2 exchange closing events hopen woken polled ih =>
    -- The sleep is interrupted.
    intro past h
    obtain ⟨slept, hslept, hasleep⟩ := h.asleep hopen closing
    have hnext := hasleep.step polled .interrupted rfl rfl
    obtain ⟨later, hlater, hrest⟩ := ih hnext
    exact ⟨later, (hslept.trans (List.suffix_cons _ _)).trans hlater, hrest⟩
  case case3 exchange closing events hopen woken polled number hn =>
    -- The sleep fails.
    intro past h
    obtain ⟨slept, hslept, hasleep⟩ := h.asleep hopen closing
    exact ⟨_, hslept.trans (List.suffix_cons _ _), hasleep.step polled (.sleepFails hn) rfl rfl⟩
  case case4 exchange closing events hopen woken polled listener wake hclosed =>
    -- It wakes up to a channel that is being closed.
    intro past h
    obtain ⟨later, hlater, hwoken⟩ := h.woken hopen closing listener wake
    simp only [Bool.or_eq_true, bne_iff_ne] at hclosed
    exact ⟨later, hlater, hwoken.step polled (.wokenClosed hclosed) rfl rfl⟩
  case case5 exchange closing events hopen woken polled listener wake hawake hr hb ih =>
    -- It wakes up without cause.
    intro past h
    obtain ⟨slept, hslept, hwoken⟩ := h.woken hopen closing listener wake
    simp only [Bool.or_eq_true, bne_iff_ne, not_or, not_not, Bool.not_eq_true] at hawake
    have hnext := hwoken.step polled (.wokenIdly hawake.1 hawake.2 hr hb) rfl rfl
    obtain ⟨later, hlater, hrest⟩ := ih hnext
    exact ⟨later, hslept.trans hlater, hrest⟩
  case case6 exchange closing events hopen woken polled listener wake hawake hr hb =>
    -- The listener has failed or was hung up.
    intro past h
    obtain ⟨later, hlater, hwoken⟩ := h.woken hopen closing listener wake
    simp only [Bool.or_eq_true, bne_iff_ne, not_or, not_not, Bool.not_eq_true] at hawake
    exact ⟨later, hlater, hwoken.step polled (.hungUp hawake.1 hawake.2 hr hb) rfl rfl⟩
  case case7 exchange closing hopen woken polled listener wake hawake hr fetched number events hn ih =>
    -- The call is gone before it is fetched.
    intro past h
    obtain ⟨before, hbefore, hfetching⟩ := h.fetching hopen hawake hr
    have hnext := hfetching.step fetched (.misses hn) rfl rfl
    obtain ⟨later, hlater, hrest⟩ := ih hnext
    exact ⟨later, (hbefore.trans (List.suffix_cons _ _)).trans hlater, hrest⟩
  case case8 exchange closing hopen woken polled listener wake hawake hr fetched number events hn =>
    -- Fetching fails.
    intro past h
    obtain ⟨before, hbefore, hfetching⟩ := h.fetching hopen hawake hr
    exact ⟨_, hbefore.trans (List.suffix_cons _ _), hfetching.step fetched (.fetchFails hn) rfl rfl⟩
  case case9 exchange closing hopen woken polled listener wake hawake hr fetched notification events
      taken hn refusal ih =>
    -- The notification is refused, and the loop goes on.
    intro past h
    obtain ⟨before, hbefore, hfetching⟩ := h.fetching hopen hawake hr
    have hrefusing := hfetching.step taken (.fetchesUnknown hn) rfl rfl
    have hnext := hrefusing.step (taken.send kernel.recorded refusal).1 .refuses rfl rfl
    obtain ⟨later, hlater, hrest⟩ := ih hnext
    refine ⟨later, hbefore.trans (List.IsSuffix.trans ?_ hlater), hrest⟩
    exact List.suffix_append [_, _] before
  case case10 exchange closing hopen woken polled listener wake hawake hr fetched notification events
      taken request hn kept =>
    -- The notification is a request.
    intro past h
    obtain ⟨before, hbefore, hfetching⟩ := h.fetching hopen hawake hr
    have hkeeping := hfetching.step taken (.fetches hn) rfl rfl
    obtain ⟨later, hlater, hrest⟩ := hkeeping.kept kernel
    exact ⟨later, (hbefore.trans (List.suffix_cons _ _)).trans hlater, hrest⟩
  case case11 exchange closing events hopen woken polled listener wake hawake hr fetched _ _ =>
    -- No answer to the fetch is given, which stands for a failure.
    intro past h
    obtain ⟨before, hbefore, hfetching⟩ := h.fetching hopen hawake hr
    have hother : ¬ (Errno.inputOutput = Errno.noEntry ∨ Errno.inputOutput = Errno.interrupted) := by
      decide
    exact ⟨_, hbefore.trans (List.suffix_cons _ _),
      hfetching.step fetched (.fetchFails hother) rfl rfl⟩
  case case12 events exchange hclosed _ =>
    intro past h
    exact ⟨past, List.suffix_refl past, h.step exchange (.findsClosed hclosed) rfl rfl⟩
  case case13 events exchange hopen _ =>
    -- No answer to the sleep is given, which stands for a failure.
    intro past h
    obtain ⟨slept, hslept, hasleep⟩ := h.asleep hopen false
    have hother : Errno.inputOutput ≠ Errno.interrupted := by decide
    exact ⟨_, hslept.trans (List.suffix_cons _ _),
      hasleep.step (exchange.note .poll) (.sleepFails hother) rfl rfl⟩

/-- A check of an id. -/
theorem Follows.checked (h : Follows start past exchange false .idle others) (id : UInt64) :
    ∃ later, past <:+ later ∧ Follows start
      (.ended (.checked id (exchange.checkValid kernel.recorded id).2) :: later)
      (exchange.checkValid kernel.recorded id).1 false .idle others := by
  by_cases hclosed : exchange.channel.closed = true
  · rw [Exchange.checkValid, if_pos hclosed]
    exact ⟨past, List.suffix_refl past, h.step exchange (.checkClosed hclosed) rfl rfl⟩
  · have hasking : Follows start past exchange false (.asking id) others :=
      h.step exchange (.check (Bool.eq_false_iff.mpr hclosed)) rfl rfl
    let asked : Exchange (σ × List KernelAnswer) := (exchange.isWaiting kernel.recorded id).1
    have hanswers : .asked id (kernel.isWaiting exchange.kernel.1 id).2 :: exchange.answers =
      asked.answers := rfl
    cases hw : (kernel.isWaiting exchange.kernel.1 id).2 with
    | true =>
      rw [hw] at hanswers
      have hresult : exchange.checkValid kernel.recorded id = (asked, .ok ()) := by
        rw [Exchange.checkValid_of_open hclosed, Exchange.confirm]
        exact Prod.ext (if_pos hw) (if_pos hw)
      rw [hresult]
      exact ⟨_, List.suffix_cons _ past, hasking.step asked .valid rfl hanswers⟩
    | false =>
      rw [hw] at hanswers
      have hresult : exchange.checkValid kernel.recorded id =
          ({ asked with channel := asked.channel.erase id }, .error (.staleRequest id)) := by
        rw [Exchange.checkValid_of_open hclosed, Exchange.confirm]
        exact Prod.ext (if_neg (Bool.eq_false_iff.mp hw)) (if_neg (Bool.eq_false_iff.mp hw))
      have hforgetting := hasking.step asked .invalid rfl hanswers
      rw [hresult]
      exact ⟨.asked id false :: past, List.suffix_cons _ past,
        hforgetting.step { asked with channel := asked.channel.erase id } (.forgets rfl) rfl rfl⟩

/-- A response. -/
theorem Follows.responded (h : Follows start past exchange false .idle others)
    (response : Response) :
    ∃ later, past <:+ later ∧ Follows start
      (.ended (.responded response (exchange.respond kernel.recorded response).2) :: later)
      (exchange.respond kernel.recorded response).1 false .idle others := by
  by_cases hclosed : exchange.channel.closed = true
  · rw [Exchange.respond, if_pos hclosed]
    exact ⟨past, List.suffix_refl past, h.step exchange (.respondClosed hclosed) rfl rfl⟩
  · have hopen : exchange.channel.closed = false := Bool.eq_false_iff.mpr hclosed
    have hanswering : Follows start past exchange false (.answering response) others :=
      h.step exchange (.respond hopen) rfl rfl
    by_cases hholds : exchange.channel.holds response.id = true
    · let given : Exchange (σ × List KernelAnswer) :=
        { exchange with channel := exchange.channel.erase response.id }
      have hsending : Follows start past given false (.sending response) others :=
        hanswering.step given (.takes rfl hholds) rfl rfl
      let sent : Exchange (σ × List KernelAnswer) := (given.send kernel.recorded response).1
      have hanswers : .sent response.wire (kernel.send exchange.kernel.1 response.wire).2 ::
        exchange.answers = sent.answers := rfl
      have hrespond := @Exchange.respond_of_holds _ kernel.recorded exchange response hopen hholds
      cases ha : (kernel.send exchange.kernel.1 response.wire).2 with
      | ok =>
        rw [ha] at hanswers
        rw [show (kernel.recorded.send exchange.kernel response.wire).2 = _ from ha] at hrespond
        have hresult : exchange.respond kernel.recorded response = (sent, .ok ()) := hrespond
        rw [hresult]
        exact ⟨_, List.suffix_cons _ past, hsending.step sent .accepted rfl hanswers⟩
      | error number =>
        rw [ha] at hanswers
        rw [show (kernel.recorded.send exchange.kernel response.wire).2 = _ from ha] at hrespond
        by_cases hn : number = Errno.noEntry
        · have hresult : exchange.respond kernel.recorded response =
              (sent, .error (.staleRequest response.id)) := hrespond.trans (if_pos hn)
          rw [hresult]
          subst hn
          exact ⟨_, List.suffix_cons _ past, hsending.step sent .late rfl hanswers⟩
        · let restored : Exchange (σ × List KernelAnswer) :=
            { sent with channel := sent.channel.insert response.id }
          have hresult : exchange.respond kernel.recorded response =
              (restored, .error (.os number)) := hrespond.trans (if_neg hn)
          have hrestoring := hsending.step sent (.rejected hn) rfl hanswers
          rw [hresult]
          exact ⟨.sent response (.error number) :: past, List.suffix_cons _ past,
            hrestoring.step restored (.restores rfl) rfl rfl⟩
    · rw [Exchange.respond_of_not_holds hopen hholds]
      exact ⟨past, List.suffix_refl past,
        hanswering.step exchange (.stale rfl (Bool.eq_false_iff.mpr hholds)) rfl rfl⟩

/-- Every operation is a run of steps that ends as the operation does. -/
theorem Follows.carriedOut (h : Follows start past exchange false .idle others)
    (operation : Exchange.Operation) :
    ∃ later, past <:+ later ∧ Follows start
      (.ended (exchange.carryOut kernel.recorded operation).2 :: later)
      (exchange.carryOut kernel.recorded operation).1 false .idle others := by
  cases operation with
  | receive events => exact (h.step exchange .receive rfl rfl).received events
  | checkValid id => exact h.checked id
  | respond response => exact h.responded response
  | close => exact ⟨past, List.suffix_refl past, h.step exchange.close .close rfl rfl⟩

/-- Every run of whole operations is a run of steps that leaves the same channel behind, makes the
same calls and gets the same answers, and in which every operation ends as it does there. -/
theorem exists_run_of_operations (kernel : ListenerKernel σ) (memory : σ)
    (operations : List Exchange.Operation) (threads : Nat) :
    ∃ past, Run (fresh (threads + 2)) past
        ⟨⟨((Exchange.opened memory).run kernel operations).channel, false⟩,
          (fresh (threads + 2)).stages⟩ ∧
      past.filterMap Fact.call? = ((Exchange.opened memory).run kernel operations).calls ∧
      past.filterMap Fact.answer? =
        ((Exchange.opened (memory, [])).run kernel.recorded operations).answers ∧
      (((Exchange.opened memory).turns kernel operations).map
        fun turn => Fact.ended turn.outcome).reverse.Sublist past := by
  have hrun (operations : List Exchange.Operation) :
      ((Exchange.opened (memory, [])).run kernel.recorded operations).unrecorded =
        (Exchange.opened memory).run kernel operations :=
    Exchange.unrecorded_run (Exchange.opened (memory, [])) operations
  have hfollows : ∃ past, Follows (fresh (threads + 2)) past
      ((Exchange.opened (memory, [])).run kernel.recorded operations) false .idle
        (List.replicate threads .idle) ∧
      (((Exchange.opened memory).turns kernel operations).map
        fun turn => Fact.ended turn.outcome).reverse.Sublist past := by
    induction operations using List.reverseRecOn with
    | nil => exact ⟨[], ⟨.refl, rfl, rfl⟩, .slnil⟩
    | append_singleton operations operation ih =>
      obtain ⟨past, hbefore, hended⟩ := ih
      obtain ⟨later, hlater, hafter⟩ := @Follows.carriedOut σ kernel _ _ _ _ hbefore operation
      rw [Exchange.run_concat, Exchange.turns_concat, List.map_append, List.reverse_append,
        List.map_singleton, Exchange.outcome_turn, ← hrun, Exchange.outcome_unrecorded]
      exact ⟨_, hafter, (hended.trans hlater.sublist).cons_cons _⟩
  obtain ⟨past, hfollows, hended⟩ := hfollows
  rw [← hrun]
  exact ⟨past, hfollows.run, hfollows.calls, hfollows.answers, hended⟩

end Supervision

end SyscallFilter
