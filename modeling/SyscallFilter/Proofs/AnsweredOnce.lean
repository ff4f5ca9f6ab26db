import Mathlib.Tactic
import SyscallFilter.Notify.Supervision

/-!
No request is answered twice. Each time a receive obtains an id, the channel gains one claim to answer
it. The claim is held by the receive until the id is remembered, then by the set of remembered ids,
then by a respond from the removal of the id to its outcome. An accepted response uses it up, and no
step makes another one.
-/

namespace SyscallFilter

namespace Fact

/-- The kernel accepts a response to an id. -/
@[simp] def accepts (id : UInt64) : Fact → Bool
  | sent response (.ok _) => response.id == id
  | _ => false

/-- A respond to an id succeeds. -/
@[simp] def succeeds (id : UInt64) : Fact → Bool
  | ended (.responded response (.ok _)) => response.id == id
  | _ => false

/-- A receive obtains an id: it fetches a notification that it need not refuse. -/
@[simp] def obtains (id : UInt64) : Fact → Bool
  | fetched (.ok notification) => notification.request?.isSome && notification.id == id
  | _ => false

end Fact

namespace Stage

/-- A respond is between the removal of an id and the outcome. -/
@[simp] def undecided (id : UInt64) : Stage → Bool
  | sending response => response.id == id
  | restoring response _ => response.id == id
  | _ => false

/-- A receive has obtained an id and has not remembered it yet. -/
@[simp] def carries (id : UInt64) : Stage → Bool
  | keeping request => request.id == id
  | _ => false

variable {shared shared' : Shared} {stage stage' : Stage} {facts : List Fact}

/-- No step of a thread makes a claim to an id but the one that obtains it, and an accepted response
uses a claim up. -/
theorem Step.claims_le (h : stage.Step shared facts shared' stage') (id : UInt64) :
    facts.countP (Fact.accepts id) + (if stage'.undecided id then 1 else 0) +
        (if stage'.carries id then 1 else 0) + (if shared'.channel.holds id then 1 else 0) ≤
      facts.countP (Fact.obtains id) + (if stage.undecided id then 1 else 0) +
        (if stage.carries id then 1 else 0) + (if shared.channel.holds id then 1 else 0) := by
  cases h with
  | fetchesUnknown unknown => simp [unknown]
  | fetches known => simp [known, Notification.id_of_request? known]
  | @keeps request | @keepsCrowded request =>
    -- The claim passes from the receive to the remembered ids.
    by_cases hid : request.id = id
    · simp [hid]
    · simp [hid, Ne.symm hid]
  | @drops _ dropped | @forgets dropped =>
    by_cases hid : dropped = id
    · simp [hid]
    · simp [Ne.symm hid]
  | @takes response _ present =>
    -- The claim passes from the remembered ids to the respond, and with `restores` back.
    by_cases hid : response.id = id
    · subst hid
      simp [present]
    · simp [hid, Ne.symm hid]
  | accepted | late | rejected => simp
  | @restores response =>
    by_cases hid : response.id = id
    · simp [hid]
    · simp [hid, Ne.symm hid]
  | _ => exact le_rfl

/-- A respond succeeds only with an accepted response. -/
theorem Step.succeeds_le (h : stage.Step shared facts shared' stage') (id : UInt64) :
    facts.countP (Fact.succeeds id) ≤ facts.countP (Fact.accepts id) := by
  cases h with
  | accepted => simp [List.countP_cons]
  | _ => exact Nat.zero_le _

/-- Only a respond that has removed the id of its response sends the response. -/
theorem Step.undecided_of_sent (h : stage.Step shared facts shared' stage') {response : Response}
    {answer : Except Errno Unit} (hsent : .sent response answer ∈ facts) :
    stage.undecided response.id = true := by
  cases h with
  | accepted | late | rejected =>
    simp only [List.mem_cons, List.not_mem_nil, or_false, reduceCtorEq, false_or,
      Fact.sent.injEq] at hsent
    simp [hsent.1]
  | _ => simp at hsent

end Stage

namespace Supervision

variable {state next : Supervision} {facts past : List Fact} {threads : Nat}

/-- The claims to an id: those of receives that have obtained it, of the remembered ids, and of
responds that are not through with it. -/
def claims (state : Supervision) (id : UInt64) : Nat :=
  state.stages.countP (Stage.undecided id) + state.stages.countP (Stage.carries id) +
    (if state.shared.channel.holds id then 1 else 0)

theorem claims_fresh (threads : Nat) (id : UInt64) : (fresh threads).claims id = 0 := by
  simp [claims, fresh, List.countP_replicate]

/-- A step makes no more claims than it obtains ids, and as many fewer as it answers. -/
theorem Step.claims_le (h : state.Step facts next) (id : UInt64) :
    facts.countP (Fact.accepts id) + next.claims id ≤
      facts.countP (Fact.obtains id) + state.claims id := by
  obtain ⟨earlier, later, hstep⟩ := h
  have hthread := hstep.claims_le id
  simp only [claims, List.countP_append, List.countP_cons]
  omega

/-- Accepted responses and claims together never outnumber the times that an id was obtained. -/
theorem Run.claims_le (run : Run (fresh threads) past state) (id : UInt64) :
    past.countP (Fact.accepts id) + state.claims id ≤ past.countP (Fact.obtains id) := by
  induction run with
  | refl => simp [claims_fresh]
  | @step past facts state next _ step ih =>
    have hstep := step.claims_le id
    rw [List.countP_append, List.countP_append]
    omega

/-- Nor do successful responds outnumber accepted responses. -/
theorem Run.succeeds_le (run : Run (fresh threads) past state) (id : UInt64) :
    past.countP (Fact.succeeds id) ≤ past.countP (Fact.accepts id) := by
  induction run with
  | refl => exact le_rfl
  | @step past facts state next _ step ih =>
    obtain ⟨earlier, later, hstep⟩ := step
    have hthread := hstep.succeeds_le id
    rw [List.countP_append, List.countP_append]
    omega

/-- What holds of an id once a run has come to a state: its answers are bounded by the times that it
was obtained, it is answered once if it was obtained once, and a response to it is sent only if it
was obtained. -/
structure AnsweredOnce (past : List Fact) (state : Supervision) (id : UInt64) : Prop where
  bounded : past.countP (Fact.accepts id) + state.stages.countP (Stage.undecided id) +
    (if state.shared.channel.holds id then 1 else 0) ≤ past.countP (Fact.obtains id)
  once : past.countP (Fact.obtains id) ≤ 1 → past.countP (Fact.succeeds id) ≤ 1
  obtained : ∀ facts next, state.Step facts next → ∀ response answer,
    .sent response answer ∈ facts → response.id = id → 0 < past.countP (Fact.obtains id)

/-- No request is answered twice, whatever order the threads take their steps in and whatever the
kernel answers. -/
theorem answered_once (run : Run (fresh threads) past state) (id : UInt64) :
    AnsweredOnce past state id := by
  have hclaims : _ + (_ + _ + _) ≤ _ := run.claims_le id
  constructor
  · omega
  · intro honce
    have hsucceeds := run.succeeds_le id
    omega
  · rintro facts next ⟨earlier, later, hstep⟩ response answer hsent rfl
    have hundecided := hstep.undecided_of_sent hsent
    have hcount := List.countP_pos_iff.mpr
      ⟨_, List.mem_append_right earlier (List.mem_cons_self (l := later)), hundecided⟩
    dsimp only at hclaims
    omega

/-- A call that waits. -/
def waitingCall : Notification :=
  ⟨7, 0, 0, ⟨39, Arch.x8664.auditWord, 0, Vector.replicate 6 0⟩⟩

/-- The request for it. -/
def waitingRequest : PendingCall :=
  ⟨7, 0, 0, ⟨39⟩, .x8664, 0, Vector.replicate 6 0⟩

/-- One of two threads receives a request. -/
theorem run_received :
    Run (fresh 2)
      [.ended (.received (.ok waitingRequest)), .fetched (.ok waitingCall),
        .polled (.ok (Exchange.readable, 0))]
      ⟨⟨⟨false, [7]⟩, false⟩, [.idle, .idle]⟩ := by
  have hsleeping : Run (fresh 2) [] ⟨⟨.opened, false⟩, [.sleeping, .idle]⟩ :=
    (Run.refl.first .receive).first (.sleeps rfl)
  have hwoken : Run (fresh 2) [.polled (.ok (Exchange.readable, 0))]
      ⟨⟨.opened, false⟩, [.woken Exchange.readable 0, .idle]⟩ := hsleeping.first .wakes
  have hfetching := hwoken.first (.wokenReadable rfl rfl (by decide))
  have hkeeping : Run (fresh 2)
      [.fetched (.ok waitingCall), .polled (.ok (Exchange.readable, 0))]
      ⟨⟨.opened, false⟩, [.keeping waitingRequest, .idle]⟩ := hfetching.first (.fetches rfl)
  exact hkeeping.first (.keeps rfl (by decide))

/-- Both threads respond to the request, and the one that comes first succeeds. -/
theorem answered_once_between_two :
    let past : List Fact :=
      [.ended (.responded (.proceed 7) (.ok ())), .sent (.proceed 7) (.ok ()),
        .ended (.responded (.fail 7 1) (.error (.staleRequest 7))),
        .ended (.received (.ok waitingRequest)), .fetched (.ok waitingCall),
        .polled (.ok (Exchange.readable, 0))]
    let state : Supervision := ⟨⟨⟨false, []⟩, false⟩, [.idle, .idle]⟩
    Run (fresh 2) past state ∧ AnsweredOnce past state 7 ∧
      past.countP (Fact.obtains 7) = 1 ∧ past.countP (Fact.succeeds 7) = 1 := by
  intro past state
  have hfirst : Run (fresh 2) _ ⟨_, [.answering (.proceed 7), .idle]⟩ :=
    run_received.first (.respond rfl)
  have hboth : Run (fresh 2) _ ⟨_, [_, .answering (.fail 7 1)]⟩ := hfirst.second (.respond rfl)
  have htaken := hboth.first (.takes rfl rfl)
  have hstale := htaken.second (.stale rfl rfl)
  have hrun : Run (fresh 2) past state := hstale.first .accepted
  exact ⟨hrun, answered_once hrun 7, by decide, by decide⟩

end Supervision

end SyscallFilter
