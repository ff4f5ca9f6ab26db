import Mathlib.Tactic
import SyscallFilter.Proofs.ChannelHistory

/-!
What a receive makes of the events that it meets. Some of them it passes over, and on the way it
refuses the calls that come through no known architecture. The first event that it does not pass
over decides how it ends. So a notification that is taken from the kernel is either refused, by one
response, or handed out.
-/

namespace SyscallFilter

namespace Notification

/-- The audit word is that of no architecture. -/
def Foreign (notification : Notification) : Prop :=
  ∀ arch : Arch, arch.auditWord ≠ notification.data.arch

/-- The response by which a call is refused: it fails as a call that does not exist. -/
def refusal (notification : Notification) : WireResponse :=
  ⟨notification.id, 0, -38, 0⟩

end Notification

/-- A request tells all that its notification does, and names the architecture. -/
structure PendingCall.Tells (request : PendingCall) (notification : Notification) : Prop where
  id : request.id = notification.id
  pid : request.pid = notification.pid
  flags : request.flags = notification.flags
  number : request.call.number = notification.data.number
  arch : request.arch.auditWord = notification.data.arch
  pointer : request.pointer = notification.data.pointer
  args : request.args = notification.data.args

namespace Arch

/-- An audit word is read as the architecture that has it. -/
theorem ofAuditWord?_eq_some_iff {word : UInt32} {arch : Arch} :
    ofAuditWord? word = some arch ↔ arch.auditWord = word := by
  constructor
  · intro h
    simpa using List.find?_some h
  · rintro rfl
    exact ofAuditWord?_auditWord arch

theorem ofAuditWord?_eq_none_iff {word : UInt32} :
    ofAuditWord? word = none ↔ ∀ arch : Arch, arch.auditWord ≠ word := by
  rw [Option.eq_none_iff_forall_ne_some]
  exact forall_congr' fun arch => not_congr ofAuditWord?_eq_some_iff

end Arch

namespace Notification

variable {notification : Notification}

theorem request?_eq_none_iff : notification.request? = none ↔ notification.Foreign := by
  rw [request?, Option.map_eq_none_iff]
  exact Arch.ofAuditWord?_eq_none_iff

theorem request?_eq_some_iff {request : PendingCall} :
    notification.request? = some request ↔ request.Tells notification := by
  rw [request?, Option.map_eq_some_iff]
  constructor
  · rintro ⟨arch, harch, rfl⟩
    exact ⟨rfl, rfl, rfl, rfl, Arch.ofAuditWord?_eq_some_iff.mp harch, rfl, rfl⟩
  · intro h
    obtain ⟨id, pid, flags, ⟨number⟩, arch, pointer, args⟩ := request
    refine ⟨arch, Arch.ofAuditWord?_eq_some_iff.mpr h.arch, ?_⟩
    rw [← h.id, ← h.pid, ← h.flags, ← h.number, ← h.pointer, ← h.args]

end Notification

namespace ChannelEvent

open Exchange (readable broken)

/-- The notification that an event hands over. -/
def notification? : ChannelEvent → Option Notification
  | fetch (.ok notification) => some notification
  | _ => none

/-- The call that an event answers. -/
def call : ChannelEvent → ChannelCall
  | poll _ _ => .poll
  | fetch _ => .fetch

/-- Events that a receive passes over, and the calls that it refuses on the way. -/
inductive Passed : List ChannelEvent → List Notification → Prop
  | nil : Passed [] []
  /-- The sleep is interrupted. -/
  | interrupted {events refused} (rest : Passed events refused) :
      Passed (poll false (.error Errno.interrupted) :: events) refused
  /-- There is nothing to read, and nothing is wrong. -/
  | idle {listener events refused} (empty : listener &&& readable = 0)
      (whole : listener &&& broken = 0) (rest : Passed events refused) :
      Passed (poll false (.ok (listener, 0)) :: events) refused
  /-- The call is gone before it is fetched, or the fetch is interrupted. -/
  | missed {listener number events refused} (full : listener &&& readable ≠ 0)
      (passing : number = Errno.noEntry ∨ number = Errno.interrupted)
      (rest : Passed events refused) :
      Passed (poll false (.ok (listener, 0)) :: fetch (.error number) :: events) refused
  /-- The call comes through no known architecture. -/
  | foreign {listener notification events refused} (full : listener &&& readable ≠ 0)
      (foreign : notification.Foreign) (rest : Passed events refused) :
      Passed (poll false (.ok (listener, 0)) :: fetch (.ok notification) :: events)
        (notification :: refused)

/-- Events that end a receive, with the notification that is handed out and the result. -/
inductive Decides : List ChannelEvent → Option Notification → Except Error PendingCall → Prop
  /-- The channel is closed during the sleep, which is interrupted or ends as it should. -/
  | closing {answer} (ended : ∀ number, answer = .error number → number = Errno.interrupted) :
      Decides [poll true answer] none (.error .channelClosed)
  /-- The sleep fails. -/
  | sleepFails {closing number} (other : number ≠ Errno.interrupted) :
      Decides [poll closing (.error number)] none (.error (.transfer (.errno number)))
  /-- The descriptor for closing shows something. -/
  | signalled {listener wake} (signalled : wake ≠ 0) :
      Decides [poll false (.ok (listener, wake))] none (.error .channelClosed)
  /-- The listener has failed or was hung up, and has nothing to read. -/
  | hungUp {listener} (empty : listener &&& readable = 0) (failed : listener &&& broken ≠ 0) :
      Decides [poll false (.ok (listener, 0))] none (.error .channelClosed)
  /-- The fetch fails. -/
  | fetchFails {listener number} (full : listener &&& readable ≠ 0)
      (other : ¬ (number = Errno.noEntry ∨ number = Errno.interrupted)) :
      Decides [poll false (.ok (listener, 0)), fetch (.error number)] none (.error (.os number))
  /-- The call comes through a known architecture. -/
  | delivers {listener notification request} (full : listener &&& readable ≠ 0)
      (tells : request.Tells notification) :
      Decides [poll false (.ok (listener, 0)), fetch (.ok notification)] (some notification)
        (.ok request)

/-- A receive that meets these events needs another one: it is about to sleep or to fetch, and no
event says how that ends. -/
inductive RunsOut : List ChannelEvent → Prop
  | asleep {events refused later} (passed : Passed events refused)
      (missing : ∀ closing answer, later.head? ≠ some (poll closing answer)) :
      RunsOut (events ++ later)
  | fetching {events refused listener later} (passed : Passed events refused)
      (full : listener &&& readable ≠ 0)
      (missing : ∀ answer, later.head? ≠ some (fetch answer)) :
      RunsOut (events ++ poll false (.ok (listener, 0)) :: later)

variable {events later : List ChannelEvent} {refused more : List Notification}

theorem Passed.append (h : Passed events refused) (hl : Passed later more) :
    Passed (events ++ later) (refused ++ more) := by
  induction h with
  | nil => exact hl
  | interrupted _ ih => exact .interrupted ih
  | idle empty whole _ ih => exact .idle empty whole ih
  | missed full passing _ ih => exact .missed full passing ih
  | foreign full foreign _ ih => exact .foreign full foreign ih

/-- The notifications among events that are passed over are those of the refused calls. -/
theorem Passed.notifications (h : Passed events refused) :
    events.filterMap notification? = refused := by
  induction h with
  | nil => rfl
  | interrupted _ ih | idle _ _ _ ih | missed _ _ _ ih => exact ih
  | foreign _ _ _ ih => exact congrArg _ ih

theorem Decides.notifications {delivered : Option Notification}
    {result : Except Error PendingCall} (h : Decides events delivered result) :
    events.filterMap notification? = delivered.toList := by
  cases h <;> rfl

/-- A script either runs out, or consists of events that are passed over, events that decide, and a
rest that is not looked at. -/
def Concludes (script : List ChannelEvent) : Prop :=
  ∃ passed refused decisive delivered result rest,
    script = passed ++ (decisive ++ rest) ∧ Passed passed refused ∧
      Decides decisive delivered result

theorem RunsOut.after (h : Passed events refused) (hl : RunsOut later) :
    RunsOut (events ++ later) := by
  obtain ⟨passed, missing⟩ | ⟨passed, full, missing⟩ := hl
  · rw [← List.append_assoc]
    exact .asleep (h.append passed) missing
  · rw [← List.append_assoc]
    exact .fetching (h.append passed) full missing

theorem Concludes.after (h : Passed events refused) (hl : Concludes later) :
    Concludes (events ++ later) := by
  obtain ⟨passed, more, decisive, delivered, result, rest, rfl, hpassed, hdecides⟩ := hl
  exact ⟨events ++ passed, refused ++ more, decisive, delivered, result, rest,
    (List.append_assoc ..).symm, h.append hpassed, hdecides⟩

theorem Decides.concludes {delivered : Option Notification} {result : Except Error PendingCall}
    (h : Decides events delivered result) (rest : List ChannelEvent) :
    Concludes (events ++ rest) :=
  ⟨[], [], events, delivered, result, rest, rfl, .nil, h⟩

/-- There is no third way. -/
theorem runsOut_or_concludes : (script : List ChannelEvent) → RunsOut script ∨ Concludes script
  | [] => .inl (.asleep .nil (by simp))
  | fetch answer :: later => by
    have missing (closing : Bool) (answered : Except Errno (UInt16 × UInt16)) :
        (fetch answer :: later).head? ≠ some (poll closing answered) := by simp
    exact .inl (.asleep .nil missing)
  | poll closing (.error number) :: later => by
    by_cases hn : number = Errno.interrupted
    · subst hn
      cases closing with
      | true => exact .inr ((Decides.closing (by simp)).concludes later)
      | false =>
        have hpassed : Passed [poll false (.error Errno.interrupted)] [] := .interrupted .nil
        exact (runsOut_or_concludes later).imp (.after hpassed) (.after hpassed)
    · exact .inr ((Decides.sleepFails hn).concludes later)
  | poll true (.ok seen) :: later => .inr ((Decides.closing (by simp)).concludes later)
  | poll false (.ok (listener, wake)) :: later => by
    by_cases hw : wake = 0
    · subst hw
      by_cases hr : listener &&& readable = 0
      · by_cases hb : listener &&& broken = 0
        · have hpassed : Passed [poll false (.ok (listener, 0))] [] := .idle hr hb .nil
          exact (runsOut_or_concludes later).imp (.after hpassed) (.after hpassed)
        · exact .inr ((Decides.hungUp hr hb).concludes later)
      · match later with
        | [] => exact .inl (.fetching .nil hr (by simp))
        | poll closing answer :: later => exact .inl (.fetching .nil hr (by simp))
        | fetch (.error number) :: later =>
          by_cases hn : number = Errno.noEntry ∨ number = Errno.interrupted
          · have hpassed : Passed [poll false (.ok (listener, 0)), fetch (.error number)] [] :=
              .missed hr hn .nil
            exact (runsOut_or_concludes later).imp (.after hpassed) (.after hpassed)
          · exact .inr ((Decides.fetchFails hr hn).concludes later)
        | fetch (.ok notification) :: later =>
          cases hq : notification.request? with
          | none =>
            have hpassed : Passed [poll false (.ok (listener, 0)), fetch (.ok notification)]
                [notification] :=
              .foreign hr (Notification.request?_eq_none_iff.mp hq) .nil
            exact (runsOut_or_concludes later).imp (.after hpassed) (.after hpassed)
          | some request =>
            exact .inr ((Decides.delivers hr
              (Notification.request?_eq_some_iff.mp hq)).concludes later)
    · exact .inr ((Decides.signalled hw).concludes later)

end ChannelEvent

namespace Exchange

open ChannelEvent (Passed Decides RunsOut)

variable {σ : Type} {kernel : ListenerKernel σ} {exchange : Exchange σ}
  {events later : List ChannelEvent} {refused : List Notification}

/-- The channel after an event. A call that is taken from the kernel is refused at once if it comes
through no known architecture. -/
def met (kernel : ListenerKernel σ) (exchange : Exchange σ) : ChannelEvent → Exchange σ
  | .poll closing _ => exchange.slept closing
  | .fetch (.error _) => exchange.note .fetch
  | .fetch (.ok notification) =>
    let taken : Exchange σ :=
      { exchange.note .fetch with kernel := kernel.deliver exchange.kernel notification }
    match notification.request? with
    | none =>
      (taken.send kernel (.fail notification.id (Int32.ofNat Errno.noSystemCall))).1
    | some _ => taken

theorem met_of_foreign {notification : Notification} (h : notification.Foreign) :
    exchange.met kernel (.fetch (.ok notification)) =
      (send kernel
        { exchange.note .fetch with kernel := kernel.deliver exchange.kernel notification }
        (.fail notification.id (Int32.ofNat Errno.noSystemCall))).1 := by
  rw [met, Notification.request?_eq_none_iff.mpr h]

theorem met_of_tells {notification : Notification} {request : PendingCall}
    (h : request.Tells notification) :
    exchange.met kernel (.fetch (.ok notification)) =
      { exchange.note .fetch with kernel := kernel.deliver exchange.kernel notification } := by
  rw [met, Notification.request?_eq_some_iff.mpr h]

/-- A receive on a closed channel does not even sleep. -/
theorem receive_of_closed (hclosed : exchange.channel.closed = true) (events : List ChannelEvent) :
    exchange.receive kernel events = (exchange, .error .channelClosed) := by
  rw [receive.eq_def]
  split
  · rw [if_pos hclosed]
  · rw [if_pos hclosed]

/-- Events that are passed over leave the channel alone. -/
theorem channel_of_passed (kernel : ListenerKernel σ) (exchange : Exchange σ)
    (h : Passed events refused) :
    (events.foldl (met kernel) exchange).channel = exchange.channel := by
  induction h generalizing exchange with
  | nil => rfl
  | interrupted _ ih | idle _ _ _ ih | missed _ _ _ ih => exact ih _
  | foreign _ foreign _ ih =>
    rw [List.foldl_cons, List.foldl_cons, ih, met_of_foreign foreign]
    rfl

/-- Behind events that are passed over, a receive goes on with the next ones. -/
theorem receive_of_passed (h : Passed events refused) (hopen : exchange.channel.closed = false)
    (later : List ChannelEvent) :
    exchange.receive kernel (events ++ later) =
      (events.foldl (met kernel) exchange).receive kernel later := by
  have hstill : ¬ exchange.channel.closed = true := Bool.eq_false_iff.mp hopen
  induction h generalizing exchange with
  | nil => rfl
  | interrupted _ ih =>
    rw [List.cons_append, receive, if_neg hstill]
    exact ih hopen hstill
  | @idle listener _ _ empty whole _ ih =>
    rw [List.cons_append, receive, if_neg hstill]
    simp only [Bool.false_eq_true, ↓reduceIte, note, hopen, bne_self_eq_false, Bool.or_self, empty,
      whole]
    exact ih hopen hstill
  | @missed listener number _ _ full passing _ ih =>
    rw [List.cons_append, List.cons_append, receive, if_neg hstill]
    simp only [Bool.false_eq_true, ↓reduceIte, note, hopen, bne_self_eq_false, Bool.or_self, full,
      passing]
    exact ih hopen hstill
  | @foreign listener notification _ _ full foreign _ ih =>
    have hnone : notification.request? = none := Notification.request?_eq_none_iff.mpr foreign
    rw [List.cons_append, List.cons_append, receive, if_neg hstill]
    simp only [Bool.false_eq_true, ↓reduceIte, note, hopen, bne_self_eq_false, Bool.or_self, full,
      hnone]
    rw [List.foldl_cons, List.foldl_cons, met_of_foreign foreign]
    exact ih hopen hstill

/-- The channel after a receive that has met certain events. A notification that is handed out is
remembered by its id. -/
def concluded (kernel : ListenerKernel σ) (exchange : Exchange σ) (events : List ChannelEvent) :
    Option Notification → Exchange σ
  | none => events.foldl (met kernel) exchange
  | some notification =>
    let taken := events.foldl (met kernel) exchange
    { taken with channel := taken.channel.insert notification.id }.prune kernel

/-- Events that decide end a receive, whatever would come behind them. -/
theorem receive_of_decides {delivered : Option Notification} {result : Except Error PendingCall}
    (h : Decides events delivered result) (hopen : exchange.channel.closed = false)
    (rest : List ChannelEvent) :
    exchange.receive kernel (events ++ rest) =
      (exchange.concluded kernel events delivered, result) := by
  have hstill : ¬ exchange.channel.closed = true := Bool.eq_false_iff.mp hopen
  cases h with
  | @closing answer ended =>
    rw [List.singleton_append, receive, if_neg hstill]
    cases answer with
    | ok seen => rfl
    | error number =>
      -- The interrupted sleep leads back to the head of the loop, where the channel is closed.
      simp only [↓reduceIte, ended number rfl]
      exact receive_of_closed rfl rest
  | @sleepFails closing number other =>
    rw [List.singleton_append, receive, if_neg hstill]
    simp only [other, ↓reduceIte]
    rfl
  | @signalled listener wake signalled =>
    rw [List.singleton_append, receive, if_neg hstill]
    simp only [bne_iff_ne.mpr signalled, Bool.or_true, ↓reduceIte]
    rfl
  | @hungUp listener empty failed =>
    rw [List.singleton_append, receive, if_neg hstill]
    simp only [Bool.false_eq_true, ↓reduceIte, note, hopen, bne_self_eq_false, Bool.or_self, empty,
      failed]
    rfl
  | @fetchFails listener number full other =>
    rw [List.cons_append, List.singleton_append, receive, if_neg hstill]
    simp only [Bool.false_eq_true, ↓reduceIte, note, hopen, bne_self_eq_false, Bool.or_self, full,
      other]
    rfl
  | @delivers listener notification request full tells =>
    have hsome : notification.request? = some request :=
      Notification.request?_eq_some_iff.mpr tells
    rw [List.cons_append, List.singleton_append, receive, if_neg hstill]
    simp only [Bool.false_eq_true, ↓reduceIte, note, hopen, bne_self_eq_false, Bool.or_self, full,
      hsome]
    rw [concluded, List.foldl_cons, List.foldl_cons, List.foldl_nil, ← tells.id,
      met_of_tells tells]
    rfl

/-- A sleep for which there is no event counts as failed. -/
theorem receive_of_missing_sleep (hopen : exchange.channel.closed = false)
    (missing : ∀ closing answer, later.head? ≠ some (.poll closing answer)) :
    exchange.receive kernel later =
      (exchange.note .poll, .error (.transfer (.errno Errno.inputOutput))) := by
  have hstill : ¬ exchange.channel.closed = true := Bool.eq_false_iff.mp hopen
  cases later with
  | nil => rw [receive.eq_def, if_neg hstill]
  | cons event rest =>
    cases event with
    | fetch _ => rw [receive.eq_def, if_neg hstill]
    | poll closing answer => exact absurd rfl (missing closing answer)

/-- So does a fetch for which there is none. -/
theorem receive_of_missing_fetch {listener : UInt16} (hopen : exchange.channel.closed = false)
    (full : listener &&& readable ≠ 0)
    (missing : ∀ answer, later.head? ≠ some (.fetch answer)) :
    exchange.receive kernel (.poll false (.ok (listener, 0)) :: later) =
      ((exchange.note .poll).note .fetch, .error (.os Errno.inputOutput)) := by
  have hstill : ¬ exchange.channel.closed = true := Bool.eq_false_iff.mp hopen
  rw [receive, if_neg hstill]
  simp only [Bool.false_eq_true, ↓reduceIte, note, hopen, bne_self_eq_false, Bool.or_self, full]
  cases later with
  | nil => rfl
  | cons event rest =>
    cases event with
    | poll _ _ => rfl
    | fetch answer => exact absurd rfl (missing answer)

/-- A script that runs out fails the receive and leaves the channel alone. -/
theorem receive_of_runsOut (kernel : ListenerKernel σ) (h : RunsOut events)
    (hopen : exchange.channel.closed = false) :
    (exchange.receive kernel events).1.channel = exchange.channel ∧
      ((exchange.receive kernel events).2 = .error (.transfer (.errno Errno.inputOutput)) ∨
        (exchange.receive kernel events).2 = .error (.os Errno.inputOutput)) := by
  cases h with
  | asleep passed missing =>
    have hchannel := channel_of_passed kernel exchange passed
    rw [receive_of_passed passed hopen,
      receive_of_missing_sleep (hchannel.symm ▸ hopen) missing]
    exact ⟨hchannel, .inl rfl⟩
  | fetching passed full missing =>
    have hchannel := channel_of_passed kernel exchange passed
    rw [receive_of_passed passed hopen,
      receive_of_missing_fetch (hchannel.symm ▸ hopen) full missing]
    exact ⟨hchannel, .inr rfl⟩

/-- The responses sent so far, the latest first. -/
def responses (exchange : Exchange σ) : List WireResponse :=
  exchange.calls.filterMap fun
    | .send response => some response
    | _ => none

/-- The sleeps and the fetches so far, the latest first. -/
def waits (exchange : Exchange σ) : List ChannelCall :=
  exchange.calls.filter fun
    | .poll => true
    | .fetch => true
    | _ => false

/-- An event answers one sleep or one fetch. -/
theorem waits_met (event : ChannelEvent) :
    (exchange.met kernel event).waits = event.call :: exchange.waits := by
  match event with
  | .poll true _ => rfl
  | .poll false _ => rfl
  | .fetch (.error _) => rfl
  | .fetch (.ok notification) =>
    rw [met]
    cases notification.request? with
    | none => rfl
    | some _ => rfl

theorem waits_foldl_met (events : List ChannelEvent) :
    (events.foldl (met kernel) exchange).waits =
      (events.map ChannelEvent.call).reverse ++ exchange.waits := by
  induction events generalizing exchange with
  | nil => rfl
  | cons event rest ih => rw [List.foldl_cons, ih, waits_met, List.map_cons, List.reverse_cons,
      List.append_assoc, List.singleton_append]

/-- While events are passed over, each refused call gets one response, and no other is sent. -/
theorem responses_of_passed (h : Passed events refused) :
    (events.foldl (met kernel) exchange).responses =
      (refused.map Notification.refusal).reverse ++ exchange.responses := by
  induction h generalizing exchange with
  | nil => rfl
  | interrupted _ ih | idle _ _ _ ih | missed _ _ _ ih => exact ih
  | @foreign listener notification events refused _ foreign _ ih =>
    have hsent : ((exchange.slept false).met kernel (.fetch (.ok notification))).responses =
        notification.refusal :: exchange.responses := by
      rw [met_of_foreign foreign]
      rfl
    rw [List.foldl_cons, List.foldl_cons, ih, List.map_cons, List.reverse_cons, List.append_assoc,
      List.singleton_append]
    exact congrArg _ hsent

/-- Events that decide a receive bring no response about, and do not touch the remembered ids. -/
theorem undisturbed_of_decides {delivered : Option Notification}
    {result : Except Error PendingCall} (h : Decides events delivered result) :
    (events.foldl (met kernel) exchange).responses = exchange.responses ∧
      (events.foldl (met kernel) exchange).channel.outstanding = exchange.channel.outstanding := by
  cases h with
  | @sleepFails closing =>
    cases closing with
    | false => exact ⟨rfl, rfl⟩
    | true => exact ⟨rfl, rfl⟩
  | delivers _ tells =>
    rw [List.foldl_cons, List.foldl_cons, List.foldl_nil, met_of_tells tells]
    exact ⟨rfl, rfl⟩
  | _ => exact ⟨rfl, rfl⟩

/-- Pruning asks the kernel about ids, and does nothing else to it. -/
theorem exists_calls_prune (kernel : ListenerKernel σ) (exchange : Exchange σ) :
    ∃ ids : List UInt64, (exchange.prune kernel).calls = ids.map .isWaiting ++ exchange.calls := by
  have hfold (ids : List UInt64) : (ids.foldl (confirm kernel) exchange).calls =
      (ids.map ChannelCall.isWaiting).reverse ++ exchange.calls := by
    induction ids generalizing exchange with
    | nil => rfl
    | cons id rest ih => rw [List.foldl_cons, ih, calls_confirm, List.map_cons, List.reverse_cons,
        List.append_assoc, List.singleton_append]
  rw [prune]
  split
  · rw [pruneIds_eq_foldl, hfold, ← List.map_reverse]
    exact ⟨_, rfl⟩
  · exact ⟨[], rfl⟩

theorem responses_prune (kernel : ListenerKernel σ) (exchange : Exchange σ) :
    (exchange.prune kernel).responses = exchange.responses := by
  obtain ⟨ids, hcalls⟩ := exists_calls_prune kernel exchange
  rw [responses, hcalls, List.filterMap_append, List.filterMap_eq_nil_iff.mpr]
  · rfl
  · simp

theorem waits_prune (kernel : ListenerKernel σ) (exchange : Exchange σ) :
    (exchange.prune kernel).waits = exchange.waits := by
  obtain ⟨ids, hcalls⟩ := exists_calls_prune kernel exchange
  rw [waits, hcalls, List.filter_append, List.filter_eq_nil_iff.mpr]
  · rfl
  · simp

/-- Pruning remembers nothing new. -/
theorem holds_of_holds_prune {id : UInt64} (h : (exchange.prune kernel).channel.holds id = true) :
    exchange.channel.holds id = true := by
  have hstep (before : Exchange σ) (asked : UInt64)
      (hheld : (before.confirm kernel asked).channel.holds id = true) :
      before.channel.holds id = true := by
    rw [channel_confirm] at hheld
    split at hheld
    · exact hheld
    · exact (Channel.holds_erase.mp hheld).1
  have hfold (before : Exchange σ) (ids : List UInt64)
      (hheld : (ids.foldl (confirm kernel) before).channel.holds id = true) :
      before.channel.holds id = true := by
    induction ids generalizing before with
    | nil => exact hheld
    | cons asked rest ih => exact hstep before asked (ih _ hheld)
  rw [prune] at h
  split at h
  · rw [pruneIds_eq_foldl] at h
    exact hfold exchange _ h
  · exact h

/-- How a receive accounts for the events that it has met: each of them answers one sleep or one
fetch, each notification among them is refused by one response or handed out, and only the one that
is handed out is remembered. -/
structure Accounts (before : Exchange σ) (events : List ChannelEvent) (refused : List Notification)
    (delivered : Option Notification) (after : Exchange σ) : Prop where
  met : after.waits = (events.map ChannelEvent.call).reverse ++ before.waits
  taken : events.filterMap ChannelEvent.notification? = refused ++ delivered.toList
  sent : after.responses = (refused.map Notification.refusal).reverse ++ before.responses
  unchanged : delivered = none → after.channel.outstanding = before.channel.outstanding
  remembered : ∀ notification, delivered = some notification →
    (∀ id, after.channel.holds id = true → id = notification.id ∨ before.channel.holds id = true) ∧
    ((before.channel.insert notification.id).outstanding.length ≤ Channel.pruneLimit →
      after.channel.outstanding = (before.channel.insert notification.id).outstanding)

/-- A receive on an open channel accounts for every script that does not run out. It passes over
events, and the first that it does not pass over decides. -/
theorem receive_loses_nothing (kernel : ListenerKernel σ) (exchange : Exchange σ)
    (script : List ChannelEvent) (hopen : exchange.channel.closed = false)
    (hends : ¬ RunsOut script) :
    ∃ passed refused decisive delivered rest,
      script = passed ++ (decisive ++ rest) ∧ Passed passed refused ∧
      Decides decisive delivered (exchange.receive kernel script).2 ∧
      exchange.Accounts (passed ++ decisive) refused delivered
        (exchange.receive kernel script).1 := by
  obtain ⟨passed, refused, decisive, delivered, result, rest, rfl, hpassed, hdecides⟩ :=
    (ChannelEvent.runsOut_or_concludes script).resolve_left hends
  let blocked : Exchange σ := passed.foldl (met kernel) exchange
  have hchannel : blocked.channel = exchange.channel := channel_of_passed kernel exchange hpassed
  have hreceive : exchange.receive kernel (passed ++ (decisive ++ rest)) =
      (blocked.concluded kernel decisive delivered, result) := by
    rw [receive_of_passed hpassed hopen]
    exact receive_of_decides hdecides (hchannel ▸ hopen) rest
  rw [hreceive]
  refine ⟨passed, refused, decisive, delivered, rest, rfl, hpassed, hdecides, ?_⟩
  let decided : Exchange σ := decisive.foldl (met kernel) blocked
  have hwaits : decided.waits =
      ((passed ++ decisive).map ChannelEvent.call).reverse ++ exchange.waits := by
    rw [← waits_foldl_met, List.foldl_append]
  have hresponses : decided.responses =
      (refused.map Notification.refusal).reverse ++ exchange.responses := by
    rw [(undisturbed_of_decides hdecides).1, responses_of_passed hpassed]
  have houtstanding : decided.channel.outstanding = exchange.channel.outstanding := by
    rw [(undisturbed_of_decides hdecides).2, hchannel]
  have htaken : (passed ++ decisive).filterMap ChannelEvent.notification? =
      refused ++ delivered.toList := by
    rw [List.filterMap_append, hpassed.notifications, hdecides.notifications]
  cases delivered with
  | none => exact ⟨hwaits, htaken, hresponses, fun _ => houtstanding, by rintro _ ⟨⟩⟩
  | some notification =>
    let kept : Exchange σ := { decided with channel := decided.channel.insert notification.id }
    have hkept : kept.channel.outstanding =
        (exchange.channel.insert notification.id).outstanding :=
      congrArg (List.insert notification.id) houtstanding
    refine ⟨(waits_prune kernel kept).trans hwaits, htaken,
      (responses_prune kernel kept).trans hresponses, by rintro ⟨⟩, ?_⟩
    rintro _ ⟨⟩
    constructor
    · intro id hid
      have hheld : kept.channel.holds id = true := holds_of_holds_prune hid
      rw [Channel.holds, hkept] at hheld
      exact Channel.holds_insert.mp hheld
    · intro hfew
      change (kept.prune kernel).channel.outstanding = _
      rw [prune, if_neg (Nat.not_lt.mpr (hkept ▸ hfew)), hkept]

/-- Two calls are taken from the kernel. The first comes through an unknown architecture and is
refused, although the refusal is rejected; the second is handed out while the listener is hung
up. -/
theorem receive_loses_nothing_between :
    let call (id : UInt64) (arch : UInt32) : Notification :=
      ⟨id, 9, 0, ⟨39, arch, 0x1000, #v[1, 2, 3, 4, 5, 6]⟩⟩
    let script : List ChannelEvent :=
      [.poll false (.error 4), .poll false (.ok (1, 0)), .fetch (.ok (call 5 0)),
        .poll false (.ok (2, 0)), .poll false (.ok (1, 0)), .fetch (.error 2),
        .poll false (.ok (17, 0)), .fetch (.ok (call 7 0xc000003e)), .poll false (.error 5)]
    let start := opened [.error 22]
    let result := start.receive scripted script
    ¬ RunsOut script ∧
      (∃ passed refused decisive delivered rest,
        script = passed ++ (decisive ++ rest) ∧ Passed passed refused ∧
        Decides decisive delivered result.2 ∧
        start.Accounts (passed ++ decisive) refused delivered result.1) ∧
      result.2 = .ok ⟨7, 9, 0, ⟨39⟩, .x8664, 0x1000, #v[1, 2, 3, 4, 5, 6]⟩ ∧
      result.1.responses = [⟨5, 0, -38, 0⟩] ∧ result.1.channel.outstanding = [7] := by
  intro call script start result
  have hresult : result.2 = .ok ⟨7, 9, 0, ⟨39⟩, .x8664, 0x1000, #v[1, 2, 3, 4, 5, 6]⟩ := rfl
  have hends : ¬ RunsOut script := by
    intro h
    have hopen : start.channel.closed = false := rfl
    obtain ⟨-, hfails | hfails⟩ := receive_of_runsOut scripted h hopen
    · exact absurd (hresult.symm.trans hfails) (by rintro ⟨⟩)
    · exact absurd (hresult.symm.trans hfails) (by rintro ⟨⟩)
  exact ⟨hends, receive_loses_nothing scripted start script rfl hends, hresult, rfl, rfl⟩

end Exchange

end SyscallFilter
