import Mathlib.Tactic
import SyscallFilter.Proofs.AnsweredOnce
import SyscallFilter.Proofs.ChannelHistory

/-!
When a respond calls a request stale. An id that a receive has obtained is accounted for until the
kernel settles it: it is remembered, or a thread has it in hand. A respond that finds its id neither
remembered nor settled has come while another thread has the id in hand. Between the removal of an id
and the restoring of it after a rejected response, a second respond is told that a request is stale
which still waits for its answer.
-/

namespace SyscallFilter

namespace Fact

/-- The kernel tells that the call of an id is gone: a response comes too late, or it denies that the
call still waits. -/
@[simp] def reportsGone (id : UInt64) : Fact → Bool
  | sent response (.error number) => response.id == id && number == Errno.noEntry
  | asked other waiting => other == id && !waiting
  | _ => false

/-- The kernel settles an id. -/
@[simp] def settles (id : UInt64) (fact : Fact) : Bool :=
  fact.accepts id || fact.reportsGone id

end Fact

namespace Stage

variable {shared shared' : Shared} {stage stage' : Stage} {facts : List Fact} {id : UInt64}

/-- A thread has an id in hand: it has obtained it and not remembered it yet, or it has removed it
and not learned the outcome. -/
@[simp] def inHand (id : UInt64) (stage : Stage) : Bool :=
  stage.undecided id || stage.carries id

/-- A thread that is about to forget an id has just been told that its call is gone. -/
theorem Step.settled_of_forgetting (h : stage.Step shared facts shared' (.forgetting id)) :
    facts.any (Fact.settles id) = true := by
  cases h
  simp

/-- A remembered id stays so, unless a respond takes it in hand, the kernel denies it, or the thread
was told before that its call is gone. -/
theorem Step.remembered_kept (h : stage.Step shared facts shared' stage')
    (hholds : shared.channel.holds id = true) :
    shared'.channel.holds id = true ∨ stage'.inHand id = true ∨
      facts.any (Fact.settles id) = true ∨ stage = .forgetting id := by
  cases h with
  | keeps | keepsCrowded | restores => exact .inl (Channel.holds_insert.mpr (.inr hholds))
  | @drops _ dropped =>
    by_cases hid : id = dropped
    · exact .inr (.inr (.inl (by simp [hid])))
    · exact .inl (Channel.holds_erase.mpr ⟨hholds, hid⟩)
  | @forgets dropped =>
    by_cases hid : id = dropped
    · exact .inr (.inr (.inr (congrArg forgetting hid.symm)))
    · exact .inl (Channel.holds_erase.mpr ⟨hholds, hid⟩)
  | @takes response =>
    by_cases hid : id = response.id
    · exact .inr (.inl (by simp [hid]))
    · exact .inl (Channel.holds_erase.mpr ⟨hholds, hid⟩)
  | _ => exact .inl hholds

/-- An id in hand is remembered in the end, unless the kernel settles it. -/
theorem Step.inHand_kept (h : stage.Step shared facts shared' stage')
    (hhand : stage.inHand id = true) :
    shared'.channel.holds id = true ∨ stage'.inHand id = true ∨
      facts.any (Fact.settles id) = true := by
  cases h with
  | @keeps request | @keepsCrowded request =>
    have hid : request.id = id := by simpa using hhand
    exact .inl (Channel.holds_insert.mpr (.inl hid.symm))
  | @restores response =>
    have hid : response.id = id := by simpa using hhand
    exact .inl (Channel.holds_insert.mpr (.inl hid.symm))
  | @accepted response =>
    have hid : response.id = id := by simpa using hhand
    exact .inr (.inr (by simp [hid]))
  | @late response =>
    have hid : response.id = id := by simpa using hhand
    exact .inr (.inr (by simp [hid]))
  | rejected => exact .inr (.inl hhand)
  | _ => exact absurd hhand Bool.false_ne_true

/-- An id that is obtained is in hand. -/
theorem Step.inHand_of_obtains (h : stage.Step shared facts shared' stage')
    (hobtains : facts.any (Fact.obtains id) = true) : stage'.inHand id = true := by
  cases h with
  | @fetches notification request known =>
    have hid : notification.id = id := by simpa [known] using hobtains
    simpa [Notification.id_of_request? known] using hid
  | fetchesUnknown unknown => simp [unknown] at hobtains
  | _ => exact absurd hobtains Bool.false_ne_true

end Stage

namespace Supervision

variable {state next : Supervision} {facts past : List Fact} {threads : Nat} {id : UInt64}

/-- A thread that is about to forget an id was so before the step, unless it has just been told that
the call is gone. -/
theorem Step.settled_of_forgetting (h : state.Step facts next)
    (hforgetting : .forgetting id ∈ next.stages) :
    .forgetting id ∈ state.stages ∨ facts.any (Fact.settles id) = true := by
  obtain ⟨earlier, later, hstep⟩ := h
  obtain hearlier | hlater := List.mem_append.mp hforgetting
  · exact .inl (List.mem_append_left _ hearlier)
  · obtain rfl | hlater := List.mem_cons.mp hlater
    · exact .inr hstep.settled_of_forgetting
    · exact .inl (List.mem_append_right _ (List.mem_cons_of_mem _ hlater))

/-- An id that is obtained is in the hand of a thread. -/
theorem Step.inHand_of_obtains (h : state.Step facts next)
    (hobtains : facts.any (Fact.obtains id) = true) :
    next.stages.any (Stage.inHand id) = true := by
  obtain ⟨earlier, later, hstep⟩ := h
  rw [List.any_append, List.any_cons, hstep.inHand_of_obtains hobtains, Bool.true_or, Bool.or_true]

/-- A remembered id stays so or is taken in hand, unless the kernel denies it, or has denied it to a
thread that is about to forget it. -/
theorem Step.remembered_kept (h : state.Step facts next)
    (hholds : state.shared.channel.holds id = true) :
    next.shared.channel.holds id = true ∨ next.stages.any (Stage.inHand id) = true ∨
      facts.any (Fact.settles id) = true ∨ .forgetting id ∈ state.stages := by
  obtain ⟨earlier, later, hstep⟩ := h
  obtain hkept | htaken | hdenied | rfl := hstep.remembered_kept hholds
  · exact .inl hkept
  · refine .inr (.inl ?_)
    rw [List.any_append, List.any_cons, htaken, Bool.true_or, Bool.or_true]
  · exact .inr (.inr (.inl hdenied))
  · exact .inr (.inr (.inr (List.mem_append_right _ List.mem_cons_self)))

/-- Of the threads that have an id in hand only the one that steps can let go of it, and then the id
is remembered or settled. -/
theorem Step.inHand_kept (h : state.Step facts next)
    (hhand : state.stages.any (Stage.inHand id) = true) :
    next.shared.channel.holds id = true ∨ next.stages.any (Stage.inHand id) = true ∨
      facts.any (Fact.settles id) = true := by
  obtain ⟨earlier, later, hstep⟩ := h
  rw [List.any_append, List.any_cons, Bool.or_eq_true, Bool.or_eq_true] at hhand
  rw [List.any_append, List.any_cons, Bool.or_eq_true, Bool.or_eq_true]
  obtain hearlier | hthis | hlater := hhand
  · exact .inr (.inl (.inl hearlier))
  · obtain hkept | hstill | hsettled := hstep.inHand_kept hthis
    · exact .inl hkept
    · exact .inr (.inl (.inr (.inl hstill)))
    · exact .inr (.inr hsettled)
  · exact .inr (.inl (.inr (.inr hlater)))

/-- An id that was obtained is remembered, in hand or settled, and a thread is about to forget an id
only where that is settled. -/
structure Accounted (past : List Fact) (state : Supervision) (id : UInt64) : Prop where
  forgetting : .forgetting id ∈ state.stages → past.any (Fact.settles id) = true
  obtained : past.any (Fact.obtains id) = true → state.shared.channel.holds id = true ∨
    state.stages.any (Stage.inHand id) = true ∨ past.any (Fact.settles id) = true

theorem accounted_fresh (threads : Nat) (id : UInt64) : Accounted [] (fresh threads) id := by
  constructor
  · intro hforgetting
    exact absurd (List.eq_of_mem_replicate hforgetting) (by rintro ⟨⟩)
  · rintro ⟨⟩

/-- A step keeps an id accounted for. -/
theorem Accounted.step (h : Accounted past state id) (step : state.Step facts next) :
    Accounted (facts ++ past) next id := by
  have hold (hpast : past.any (Fact.settles id) = true) :
      (facts ++ past).any (Fact.settles id) = true := by
    rw [List.any_append, hpast, Bool.or_true]
  have hnew (hfacts : facts.any (Fact.settles id) = true) :
      (facts ++ past).any (Fact.settles id) = true := by
    rw [List.any_append, hfacts, Bool.true_or]
  constructor
  · intro hforgetting
    obtain hbefore | hdenied := step.settled_of_forgetting hforgetting
    · exact hold (h.forgetting hbefore)
    · exact hnew hdenied
  · intro hobtained
    rw [List.any_append, Bool.or_eq_true] at hobtained
    obtain hnow | hbefore := hobtained
    · exact .inr (.inl (step.inHand_of_obtains hnow))
    · obtain hholds | hhand | hsettled := h.obtained hbefore
      · obtain hkept | htaken | hdenied | hforgetting := step.remembered_kept hholds
        · exact .inl hkept
        · exact .inr (.inl htaken)
        · exact .inr (.inr (hnew hdenied))
        · exact .inr (.inr (hold (h.forgetting hforgetting)))
      · obtain hkept | hstill | hsettled := step.inHand_kept hhand
        · exact .inl hkept
        · exact .inr (.inl hstill)
        · exact .inr (.inr (hnew hsettled))
      · exact .inr (.inr (hold hsettled))

/-- In every run each id is accounted for. -/
theorem Run.accounted (run : Run (fresh threads) past state) (id : UInt64) :
    Accounted past state id := by
  induction run with
  | refl => exact accounted_fresh threads id
  | step _ step ih => exact ih.step step

/-- A request may rightly be called stale: it was never obtained, a response to it was accepted, or
the kernel has told that its call is gone. -/
inductive Stale (past : List Fact) (id : UInt64) : Prop
  | neverObtained (none : ∀ fact ∈ past, fact.obtains id = false)
  | answered (fact : Fact) (mem : fact ∈ past) (accepts : fact.accepts id = true)
  | gone (fact : Fact) (mem : fact ∈ past) (reports : fact.reportsGone id = true)

theorem stale_iff :
    Stale past id ↔ (past.any (Fact.obtains id) = true → past.any (Fact.settles id) = true) := by
  constructor
  · rintro (hnone | ⟨fact, hmem, haccepts⟩ | ⟨fact, hmem, hgone⟩) hobtained
    · obtain ⟨fact, hmem, hfact⟩ := List.any_eq_true.mp hobtained
      exact absurd hfact (Bool.eq_false_iff.mp (hnone fact hmem))
    · exact List.any_eq_true.mpr ⟨fact, hmem, (Bool.or_eq_true _ _).mpr (.inl haccepts)⟩
    · exact List.any_eq_true.mpr ⟨fact, hmem, (Bool.or_eq_true _ _).mpr (.inr hgone)⟩
  · intro h
    by_cases hobtained : past.any (Fact.obtains id) = true
    · obtain ⟨fact, hmem, hsettles⟩ := List.any_eq_true.mp (h hobtained)
      obtain haccepts | hgone := (Bool.or_eq_true _ _).mp hsettles
      · exact .answered fact hmem haccepts
      · exact .gone fact hmem hgone
    · refine .neverObtained fun fact hmem => Bool.eq_false_iff.mpr fun hfact => hobtained ?_
      exact List.any_eq_true.mpr ⟨fact, hmem, hfact⟩

/-- A respond calls a request stale only if it may rightly be called so, or while another thread has
its id in hand. -/
theorem stale_reported (run : Run (fresh threads) past state) (step : state.Step facts next)
    {response : Response}
    (hreport : .ended (.responded response (.error (.staleRequest id))) ∈ facts) :
    id = response.id ∧
      (Stale (facts ++ past) id ∨ ∃ stage ∈ next.stages, stage.inHand id = true) := by
  have haccounted : Accounted past state id := run.accounted id
  obtain @⟨shared, shared', stage, stage', facts, earlier, later, hstep⟩ := step
  cases hstep with
  | stale free absent =>
    simp only [List.mem_singleton, Fact.ended.injEq, Exchange.Outcome.responded.injEq,
      Except.error.injEq, Error.staleRequest.injEq] at hreport
    obtain ⟨rfl, rfl⟩ := hreport
    refine ⟨rfl, or_iff_not_imp_right.mpr fun hfree => stale_iff.mpr fun hobtained => ?_⟩
    change past.any (Fact.obtains response.id) = true at hobtained
    change past.any (Fact.settles response.id) = true
    obtain hholds | hany | hsettled := haccounted.obtained hobtained
    · exact absurd hholds (Bool.eq_false_iff.mp absent)
    · -- The thread that responds has no id in hand, so another one would have it.
      rw [List.any_append, List.any_cons] at hany
      refine absurd ?_ hfree
      change ∃ stage ∈ earlier ++ Stage.idle :: later, _
      rw [← List.any_eq_true, List.any_append, List.any_cons]
      exact hany
    · exact hsettled
  | late =>
    simp only [List.mem_cons, List.not_mem_nil, or_false, reduceCtorEq, Fact.ended.injEq,
      Exchange.Outcome.responded.injEq, Except.error.injEq, Error.staleRequest.injEq] at hreport
    obtain ⟨rfl, rfl⟩ := hreport
    exact ⟨rfl, .inl (.gone _ (List.mem_cons_of_mem _ List.mem_cons_self)
      (by simp))⟩
  | _ => simp at hreport

/-- A respond that comes second is rightly told that the request is stale. -/
theorem stale_reported_after_answer :
    let past : List Fact :=
      [.ended (.responded (.proceed 7) (.ok ())), .sent (.proceed 7) (.ok ()),
        .ended (.received (.ok waitingRequest)), .fetched (.ok waitingCall),
        .polled (.ok (Exchange.readable, 0))]
    let state : Supervision := ⟨⟨⟨false, []⟩, false⟩, [.idle, .answering (.fail 7 1)]⟩
    let next : Supervision := ⟨⟨⟨false, []⟩, false⟩, [.idle, .idle]⟩
    let report : Fact := .ended (.responded (.fail 7 1) (.error (.staleRequest 7)))
    Run (fresh 2) past state ∧ state.Step [report] next ∧ report ∈ [report] ∧
      7 = (Response.fail 7 1).id ∧
      (Stale ([report] ++ past) 7 ∨ ∃ stage ∈ next.stages, stage.inHand 7 = true) := by
  intro past state next report
  have hanswering : Run (fresh 2) _ ⟨_, [.answering (.proceed 7), .idle]⟩ :=
    run_received.first (.respond rfl)
  have hsending := hanswering.first (.takes rfl rfl)
  have hrun : Run (fresh 2) past state := (hsending.first .accepted).second (.respond rfl)
  have hstep : state.Step [report] next := .of [.idle] [] (.stale rfl rfl)
  exact ⟨hrun, hstep, List.mem_cons_self, stale_reported hrun hstep List.mem_cons_self⟩

/-- One thread has received a request, and its response is rejected. Before it restores the id, a
second thread is told that the request is stale, although no response was accepted and the kernel has
not said that the call is gone. A third response is then accepted.

A request that a receive refuses is lost to every respond as well where the kernel rejects the
refusal, although its call goes on waiting. -/
theorem waiting_reported_stale :
    (∃ past state next final, ∃ report : Fact,
      report = .ended (.responded (.fail 7 1) (.error (.staleRequest 7))) ∧
      Run (fresh 2) past state ∧ .ended (.received (.ok waitingRequest)) ∈ past ∧
      state.Step [report] next ∧ ¬ Stale ([report] ++ past) 7 ∧
      Run (fresh 2) ([.ended (.responded (.fail 7 1) (.ok ())), .sent (.fail 7 1) (.ok ()),
        .ended (.responded (.proceed 7) (.error (.os 22)))] ++ [report] ++ past) final) ∧
    let operations := [Exchange.delivery 7 0, .checkValid 7]
    let before := (Exchange.opened [.error 22]).run Exchange.scripted operations
    ((Exchange.opened [.error 22]).turns Exchange.scripted operations).map Exchange.Turn.answers =
        [[.sent ⟨7, 0, -38, 0⟩ (.error 22)], [.asked 7 true]] ∧
      before.respond Exchange.scripted (.proceed 7) = (before, .error (.staleRequest 7)) := by
  constructor
  · have hfirst : Run (fresh 2) _ ⟨_, [.answering (.proceed 7), .idle]⟩ :=
      run_received.first (.respond rfl)
    have hboth : Run (fresh 2) _ ⟨_, [_, .answering (.fail 7 1)]⟩ := hfirst.second (.respond rfl)
    have hsending := hboth.first (.takes rfl rfl)
    have hrejected : Run (fresh 2) _ ⟨_, [.restoring (.proceed 7) 22, _]⟩ :=
      hsending.first (.rejected (by decide))
    have hstale := hrejected.second (.stale rfl rfl)
    have hrestored := hstale.first (.restores rfl)
    have hagain : Run (fresh 2) _ ⟨_, [.idle, .answering (.fail 7 1)]⟩ :=
      hrestored.second (.respond rfl)
    have hfinal := (hagain.second (.takes rfl rfl)).second .accepted
    refine ⟨_, _, _, _, _, rfl, hrejected, ?_, .of [_] [] (.stale rfl rfl), ?_, hfinal⟩
    · exact List.mem_cons_of_mem _ List.mem_cons_self
    · rw [stale_iff]
      decide
  · exact ⟨rfl, rfl⟩

end Supervision

end SyscallFilter
