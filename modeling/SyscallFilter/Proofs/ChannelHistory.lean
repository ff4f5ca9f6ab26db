import Mathlib.Tactic
import SyscallFilter.Notify.Operation

/-!
Which responses a channel sends. A run of operations is looked back on as a list of turns, each with
what the operation handed back and what the kernel answered on the way. An id is remembered exactly
where the turns hand it out and the kernel has not settled it since, so that whether a response is
sent can be read off the history.
-/

namespace SyscallFilter

/-- What a kernel has answered at once. -/
inductive KernelAnswer
  | sent (response : WireResponse) (answer : Except Errno Unit)
  | asked (id : UInt64) (waiting : Bool)

/-- The same kernel, which writes its answers down, the latest first. -/
def ListenerKernel.recorded {σ : Type} (kernel : ListenerKernel σ) :
    ListenerKernel (σ × List KernelAnswer) where
  send := fun (memory, answers) response =>
    let (next, answer) := kernel.send memory response
    ((next, .sent response answer :: answers), answer)
  isWaiting := fun (memory, answers) id =>
    let (next, answer) := kernel.isWaiting memory id
    ((next, .asked id answer :: answers), answer)
  deliver := fun (memory, answers) notification => (kernel.deliver memory notification, answers)

namespace Exchange

variable {σ : Type} {kernel : ListenerKernel σ} {exchange : Exchange σ}

/-- The same channel before a kernel that writes its answers down from now on. -/
def recording (exchange : Exchange σ) : Exchange (σ × List KernelAnswer) :=
  ⟨exchange.channel, (exchange.kernel, []), exchange.calls⟩

/-- The same channel before the kernel alone. -/
def unrecorded (exchange : Exchange (σ × List KernelAnswer)) : Exchange σ :=
  ⟨exchange.channel, exchange.kernel.1, exchange.calls⟩

/-- What the kernel has written down. -/
def answers (exchange : Exchange (σ × List KernelAnswer)) : List KernelAnswer :=
  exchange.kernel.2

/-- An operation in the past. -/
structure Turn where
  outcome : Outcome
  answers : List KernelAnswer

/-- The turn that an operation would be. -/
def turn (kernel : ListenerKernel σ) (exchange : Exchange σ) (operation : Operation) : Turn :=
  let (after, outcome) := exchange.recording.carryOut kernel.recorded operation
  ⟨outcome, after.answers⟩

/-- The turns of a run, in order. -/
def turns (kernel : ListenerKernel σ) (exchange : Exchange σ) : List Operation → List Turn
  | [] => []
  | operation :: rest =>
    exchange.turn kernel operation :: (exchange.carryOut kernel operation).1.turns kernel rest

namespace Turn

/-- A receive hands out an id. -/
def Returns (turn : Turn) (id : UInt64) : Prop :=
  ∃ request, turn.outcome = .received (.ok request) ∧ request.id = id

/-- A response to an id is accepted or comes too late, or the kernel denies that its call still
waits. -/
inductive Settles (turn : Turn) (id : UInt64) : Prop
  | answered (response : Response) (result : Except Error Unit) (answer : Except Errno Unit)
      (responds : turn.outcome = .responded response result) (same : response.id = id)
      (sent : .sent response.wire answer ∈ turn.answers)
      (final : answer = .ok () ∨ answer = .error Errno.noEntry)
  | denied (asked : .asked id false ∈ turn.answers)

end Turn

/-- Some turn hands out an id, and from the latest such turn on none of the turns settles it. -/
def Answerable (settles : Turn → UInt64 → Prop) (id : UInt64) (past : List Turn) : Prop :=
  ∃ older turn newer, past = older ++ turn :: newer ∧ turn.Returns id ∧
    (∀ later ∈ newer, ¬ later.Returns id) ∧ ∀ later ∈ turn :: newer, ¬ settles later id

/-- An id is answerable after a turn that does not settle it if the turn hands it out or if it was
answerable before. -/
theorem answerable_concat {settles : Turn → UInt64 → Prop} {id : UInt64} {past : List Turn}
    {turn : Turn} :
    Answerable settles id (past ++ [turn]) ↔
      ¬ settles turn id ∧ (turn.Returns id ∨ Answerable settles id past) := by
  constructor
  · rintro ⟨older, latest, newer, hpast, hreturns, hlatest, hkept⟩
    obtain rfl | ⟨newer, last, rfl⟩ := newer.eq_nil_or_concat'
    · obtain ⟨-, hturn⟩ := List.append_inj' hpast rfl
      obtain rfl : turn = latest := List.singleton_inj.mp hturn
      exact ⟨hkept turn List.mem_cons_self, .inl hreturns⟩
    · rw [← List.cons_append, ← List.append_assoc] at hpast
      obtain ⟨rfl, hturn⟩ := List.append_inj' hpast rfl
      obtain rfl : turn = last := List.singleton_inj.mp hturn
      refine ⟨hkept turn (by simp), .inr ⟨older, latest, newer, rfl, hreturns, ?_, ?_⟩⟩
      · intro later hmem
        exact hlatest later (List.mem_append_left _ hmem)
      · intro later hmem
        exact hkept later (List.mem_append_left [turn] hmem)
  · rintro ⟨hkept, hbefore⟩
    -- If the turn hands the id out again, it is the latest one itself.
    by_cases hreturns : turn.Returns id
    · exact ⟨past, turn, [], rfl, hreturns, by simp, by simpa using hkept⟩
    · obtain ⟨older, latest, newer, rfl, hlatest, hnone, hsettles⟩ := hbefore.resolve_left hreturns
      refine ⟨older, latest, newer ++ [turn], by simp, hlatest, ?_, ?_⟩
      · intro later hmem
        obtain hmem | hmem := List.mem_append.mp hmem
        · exact hnone later hmem
        · rwa [List.mem_singleton.mp hmem]
      · intro later hmem
        rw [← List.cons_append] at hmem
        obtain hmem | hmem := List.mem_append.mp hmem
        · exact hsettles later hmem
        · rwa [List.mem_singleton.mp hmem]

/-- The channel after a sleep, which may have been closed meanwhile, with the call that it was. -/
def slept (exchange : Exchange σ) (closing : Bool) : Exchange σ :=
  (if closing = true then { exchange with channel := exchange.channel.close } else exchange).note
    .poll

/-- Sleeping changes nothing that is remembered. -/
theorem outstanding_slept (exchange : Exchange σ) (closing : Bool) :
    (exchange.slept closing).channel.outstanding = exchange.channel.outstanding := by
  cases closing <;> rfl

/-- Asks whether the call of an id still waits, and forgets the id where the kernel denies it. -/
def confirm (kernel : ListenerKernel σ) (exchange : Exchange σ) (id : UInt64) : Exchange σ :=
  let asked := exchange.isWaiting kernel id
  if asked.2 then asked.1 else { asked.1 with channel := asked.1.channel.erase id }

theorem channel_confirm (id : UInt64) :
    (exchange.confirm kernel id).channel =
      if (kernel.isWaiting exchange.kernel id).2 = true then exchange.channel
      else exchange.channel.erase id := by
  rw [confirm]
  exact apply_ite channel ((kernel.isWaiting exchange.kernel id).2 = true) _ _

theorem calls_confirm (id : UInt64) :
    (exchange.confirm kernel id).calls = .isWaiting id :: exchange.calls := by
  rw [confirm]
  split
  · rfl
  · rfl

/-- Checking an id confirms it. -/
theorem checkValid_of_open (hopen : ¬ exchange.channel.closed = true) (id : UInt64) :
    exchange.checkValid kernel id =
      (exchange.confirm kernel id,
        if (kernel.isWaiting exchange.kernel id).2 = true then .ok ()
        else .error (.staleRequest id)) := by
  rw [checkValid, if_neg hopen, confirm]
  change _ = (_, if (exchange.isWaiting kernel id).2 = true then _ else _)
  rcases exchange.isWaiting kernel id with ⟨next, _ | _⟩
  · rfl
  · rfl

/-- Pruning confirms one id after the other. -/
theorem pruneIds_eq_foldl (ids : List UInt64) :
    exchange.pruneIds kernel ids = ids.foldl (confirm kernel) exchange := by
  induction ids generalizing exchange with
  | nil => rfl
  | cons id rest ih =>
    rw [pruneIds, List.foldl_cons, confirm]
    rcases exchange.isWaiting kernel id with ⟨next, _ | _⟩
    · exact ih
    · exact ih

section Recorded

variable {recorded : Exchange (σ × List KernelAnswer)}

@[simp] theorem channel_unrecorded : recorded.unrecorded.channel = recorded.channel := rfl

theorem unrecorded_confirm (number : UInt64) :
    (recorded.confirm kernel.recorded number).unrecorded =
      recorded.unrecorded.confirm kernel number := by
  rw [confirm, confirm]
  change unrecorded (if (kernel.isWaiting recorded.kernel.1 number).2 then _ else _) =
    if (kernel.isWaiting recorded.kernel.1 number).2 then _ else _
  split
  · rfl
  · rfl

theorem unrecorded_prune :
    (recorded.prune kernel.recorded).unrecorded = recorded.unrecorded.prune kernel := by
  have hfold (numbers : List UInt64) :
      (numbers.foldl (confirm kernel.recorded) recorded).unrecorded =
        numbers.foldl (confirm kernel) recorded.unrecorded := by
    induction numbers generalizing recorded with
    | nil => rfl
    | cons number rest ih => rw [List.foldl_cons, List.foldl_cons, ih, unrecorded_confirm]
  rw [prune, prune, pruneIds_eq_foldl, pruneIds_eq_foldl, channel_unrecorded]
  split
  · exact hfold _
  · rfl

theorem unrecorded_slept (closing : Bool) :
    (if closing = true then { recorded.unrecorded with channel := recorded.channel.close }
      else recorded.unrecorded).note .poll = (recorded.slept closing).unrecorded := by
  cases closing <;> rfl

/-- A receive does not depend on what is written down. -/
theorem unrecorded_receive (events : List ChannelEvent) :
    (recorded.receive kernel.recorded events).map unrecorded id =
      recorded.unrecorded.receive kernel events := by
  -- A round looks at the channel and the events only, so both sides go the same way.
  fun_induction receive kernel.recorded recorded events with
  | case1 recorded closing answer events hclosed => simp [receive, hclosed]
  | case2 recorded closing events hopen woken polled ih =>
    have hp : _ = polled.unrecorded := unrecorded_slept closing
    rw [receive, channel_unrecorded, if_neg hopen]
    simp only [hp, ↓reduceIte, ih]
  | case3 recorded closing _ hopen _ polled | case4 recorded closing _ hopen _ polled
  | case5 recorded closing _ hopen _ polled | case6 recorded closing _ hopen _ polled
  | case7 recorded closing hopen _ polled | case8 recorded closing hopen _ polled
  | case9 recorded closing hopen _ polled | case11 recorded closing _ hopen _ polled =>
    have hp : _ = polled.unrecorded := unrecorded_slept closing
    rw [receive, channel_unrecorded, if_neg hopen]
    simp only [channel_unrecorded, ↓reduceIte, *]
    rfl
  | case10 recorded closing hopen woken polled listener wake hawake hr fetched notification events
      taken request hn kept =>
    have hp : _ = polled.unrecorded := unrecorded_slept closing
    rw [receive, channel_unrecorded, if_neg hopen]
    simp only [hp, channel_unrecorded, hawake, hr, hn, ↓reduceIte]
    exact Prod.ext unrecorded_prune rfl
  | case12 recorded events hclosed hn =>
    rw [receive, channel_unrecorded, if_pos hclosed]
    · rfl
    · exact hn
  | case13 recorded events hopen hn =>
    rw [receive, channel_unrecorded, if_neg hopen]
    · rfl
    · exact hn

/-- Nor does any other operation. -/
theorem unrecorded_carryOut (recorded : Exchange (σ × List KernelAnswer)) (operation : Operation) :
    (recorded.carryOut kernel.recorded operation).map unrecorded id =
      recorded.unrecorded.carryOut kernel operation := by
  cases operation with
  | receive events =>
    rw [carryOut, carryOut, ← unrecorded_receive]
    rfl
  | checkValid number =>
    by_cases hclosed : recorded.channel.closed = true
    · rw [carryOut, carryOut, checkValid, checkValid, channel_unrecorded, if_pos hclosed,
        if_pos hclosed]
      rfl
    · have hopen : ¬ recorded.unrecorded.channel.closed = true := hclosed
      rw [carryOut, carryOut, checkValid_of_open hclosed, checkValid_of_open hopen,
        ← unrecorded_confirm]
      rfl
  | respond response =>
    rw [carryOut, carryOut, respond, respond, channel_unrecorded]
    by_cases hclosed : recorded.channel.closed = true
    · rw [if_pos hclosed, if_pos hclosed]
      rfl
    · rw [if_neg hclosed, if_neg hclosed]
      by_cases hholds : recorded.channel.holds response.id = true
      · rw [if_pos hholds, if_pos hholds]
        simp only [send, ListenerKernel.recorded, unrecorded]
        rcases (kernel.send recorded.kernel.1 response.wire).2 with number | _
        · by_cases hn : number = Errno.noEntry
          · simp only [hn, ↓reduceIte]
            rfl
          · simp only [hn, ↓reduceIte]
            rfl
        · rfl
      · rw [if_neg hholds, if_neg hholds]
        rfl
  | close => rfl

/-- An operation ends in the same way whether its answers are written down or not. -/
theorem outcome_unrecorded (recorded : Exchange (σ × List KernelAnswer)) (operation : Operation) :
    (recorded.unrecorded.carryOut kernel operation).2 =
      (recorded.carryOut kernel.recorded operation).2 :=
  (congrArg Prod.snd (unrecorded_carryOut recorded operation)).symm

/-- A run of operations does not depend on what is written down. -/
theorem unrecorded_run (recorded : Exchange (σ × List KernelAnswer)) (operations : List Operation) :
    (recorded.run kernel.recorded operations).unrecorded =
      recorded.unrecorded.run kernel operations := by
  induction operations generalizing recorded with
  | nil => rfl
  | cons operation rest ih =>
    change ((recorded.carryOut kernel.recorded operation).1.run kernel.recorded rest).unrecorded =
      (recorded.unrecorded.carryOut kernel operation).1.run kernel rest
    rw [ih, ← unrecorded_carryOut]
    rfl

variable {id other : UInt64}

/-- What was asked about an id is added to what is written down. -/
theorem answers_confirm :
    (recorded.confirm kernel.recorded id).answers =
      .asked id (kernel.isWaiting recorded.kernel.1 id).2 :: recorded.answers := by
  rw [confirm]
  split
  · rfl
  · rfl

theorem holds_confirm :
    (recorded.confirm kernel.recorded id).channel.holds other = true ↔
      recorded.channel.holds other = true ∧
        (other = id → (kernel.isWaiting recorded.kernel.1 id).2 = true) := by
  rw [channel_confirm]
  change Channel.holds
    (if (kernel.isWaiting recorded.kernel.1 id).2 = true then _ else _) other = true ↔ _
  by_cases hw : (kernel.isWaiting recorded.kernel.1 id).2 = true
  · simp [hw]
  · simp [hw]

/-- What is written down stays. -/
theorem mem_answers_foldl_confirm {answer : KernelAnswer} (h : answer ∈ recorded.answers)
    (ids : List UInt64) : answer ∈ (ids.foldl (confirm kernel.recorded) recorded).answers := by
  induction ids generalizing recorded with
  | nil => exact h
  | cons id rest ih =>
    apply ih
    rw [answers_confirm]
    exact List.mem_cons_of_mem _ h

/-- Where no id is remembered that the kernel has denied, confirming ids forgets exactly those that
it denies. -/
theorem holds_foldl_confirm
    (h : ∀ id, .asked id false ∈ recorded.answers → ¬ recorded.channel.holds id = true)
    (ids : List UInt64) :
    (ids.foldl (confirm kernel.recorded) recorded).channel.holds other = true ↔
      recorded.channel.holds other = true ∧
        .asked other false ∉ (ids.foldl (confirm kernel.recorded) recorded).answers := by
  induction ids generalizing recorded with
  | nil =>
    constructor
    · intro hholds
      exact ⟨hholds, fun hasked => h other hasked hholds⟩
    · exact And.left
  | cons id rest ih =>
    rw [List.foldl_cons, ih, holds_confirm, and_assoc]
    · refine and_congr_right fun _ => and_iff_right_of_imp ?_
      rintro hundenied rfl
      -- A denial of this id would still be written down in the end.
      by_contra hw
      apply hundenied
      apply mem_answers_foldl_confirm
      rw [answers_confirm, Bool.eq_false_iff.mpr hw]
      exact List.mem_cons_self
    · intro denied hasked
      rw [answers_confirm] at hasked
      rw [holds_confirm]
      rintro ⟨hholds, hw⟩
      obtain hsame | hbefore := List.mem_cons.mp hasked
      · injection hsame with hid hanswer
        exact absurd (hw hid) (by rw [← hanswer]; exact Bool.false_ne_true)
      · exact h denied hbefore hholds

/-- The kernel has not denied any id. -/
def Undenied (recorded : Exchange (σ × List KernelAnswer)) : Prop :=
  ∀ id, .asked id false ∉ recorded.answers

theorem Undenied.slept (h : recorded.Undenied) (closing : Bool) :
    (recorded.slept closing).Undenied := by
  cases closing <;> exact h

/-- A receive that fails changes nothing that is remembered. One that succeeds remembers its id, and
only then denials are looked for. -/
theorem receive_cases (h : recorded.Undenied) (events : List ChannelEvent) :
    (∃ error, (recorded.receive kernel.recorded events).2 = .error error ∧
      (recorded.receive kernel.recorded events).1.Undenied ∧
      (recorded.receive kernel.recorded events).1.channel.outstanding =
        recorded.channel.outstanding) ∨
    ∃ taken : Exchange (σ × List KernelAnswer), ∃ request,
      taken.Undenied ∧ taken.channel.outstanding = recorded.channel.outstanding ∧
      recorded.receive kernel.recorded events =
        ({ taken with channel := taken.channel.insert request.id }.prune kernel.recorded,
          .ok request) := by
  -- A round that goes on leaves the ids alone and adds no denial, so the rest of the rounds decides.
  fun_induction receive kernel.recorded recorded events with
  | case1 => exact .inl ⟨_, rfl, h, rfl⟩
  | case2 recorded closing events hopen woken polled ih
  | case5 recorded closing events hopen woken polled listener wake hawake hr hb ih
  | case7 recorded closing hopen woken polled listener wake hawake hr fetched number events hn ih =>
    rw [← outstanding_slept recorded closing]
    exact ih (h.slept closing)
  | case3 recorded closing | case4 recorded closing | case6 recorded closing
  | case8 recorded closing | case11 recorded closing =>
    exact .inl ⟨_, rfl, h.slept closing, outstanding_slept recorded closing⟩
  | case9 recorded closing hopen woken polled listener wake hawake hr fetched notification events
      taken hn refusal ih =>
    rw [← outstanding_slept recorded closing]
    apply ih
    intro id hasked
    obtain hsame | hbefore := List.mem_cons.mp hasked
    · injection hsame
    · exact h.slept closing id hbefore
  | case10 recorded closing hopen woken polled listener wake hawake hr fetched notification events
      taken request hn kept =>
    exact .inr ⟨taken, request, h.slept closing, outstanding_slept recorded closing, rfl⟩
  | case12 => exact .inl ⟨_, rfl, h, rfl⟩
  | case13 => exact .inl ⟨_, rfl, h, rfl⟩

/-- Pruning forgets exactly the ids that the kernel denies. -/
theorem Undenied.holds_prune (h : recorded.Undenied) :
    (recorded.prune kernel.recorded).channel.holds id = true ↔
      recorded.channel.holds id = true ∧
        .asked id false ∉ (recorded.prune kernel.recorded).answers := by
  rw [prune]
  split
  · rw [pruneIds_eq_foldl]
    exact holds_foldl_confirm (fun denied hasked => absurd hasked (h denied)) _
  · exact (and_iff_left (h id)).symm

end Recorded

section Step

variable {id : UInt64} {operation : Operation}

/-- A response that is sent either settles its id or leaves it remembered, as the kernel answers. -/
theorem respond_of_holds {response : Response} (hopen : exchange.channel.closed = false)
    (hholds : exchange.channel.holds response.id = true) :
    exchange.respond kernel response =
      let sent : Exchange σ := (exchange.send kernel response).1
      match (kernel.send exchange.kernel response.wire).2 with
      | .ok () => ({ sent with channel := exchange.channel.erase response.id }, .ok ())
      | .error number =>
        if number = Errno.noEntry then
          ({ sent with channel := exchange.channel.erase response.id },
            .error (.staleRequest response.id))
        else
          ({ sent with channel := (exchange.channel.erase response.id).insert response.id },
            .error (.os number)) := by
  rw [respond, hopen, if_neg Bool.false_ne_true, if_pos hholds]
  simp only [send]
  cases (kernel.send exchange.kernel response.wire).2 <;> rfl

/-- A response that is sent is the only call that is made. -/
theorem calls_respond_of_holds {response : Response} (hopen : exchange.channel.closed = false)
    (hholds : exchange.channel.holds response.id = true) :
    (exchange.respond kernel response).1.calls = .send response.wire :: exchange.calls ∧
      (exchange.respond kernel response).1.kernel =
        (kernel.send exchange.kernel response.wire).1 := by
  rw [respond_of_holds hopen hholds]
  dsimp only
  split
  · exact ⟨rfl, rfl⟩
  · split
    · exact ⟨rfl, rfl⟩
    · exact ⟨rfl, rfl⟩

/-- A response that is not sent leaves everything as it is. -/
theorem respond_of_not_holds {response : Response} (hopen : exchange.channel.closed = false)
    (hholds : ¬ exchange.channel.holds response.id = true) :
    exchange.respond kernel response = (exchange, .error (.staleRequest response.id)) := by
  rw [respond, hopen, if_neg Bool.false_ne_true, if_neg hholds]

theorem Turn.settles_iff_of_not_responded {turn : Turn}
    (h : ∀ response result, turn.outcome ≠ .responded response result) :
    turn.Settles id ↔ .asked id false ∈ turn.answers := by
  constructor
  · rintro (⟨response, result, answer, hresponds, -, -, -⟩ | hasked)
    · exact absurd hresponds (h response result)
    · exact hasked
  · exact .denied

theorem Turn.not_returns_of_not_received {turn : Turn}
    (h : ∀ result, turn.outcome ≠ .received result) : ¬ turn.Returns id := by
  rintro ⟨request, hreturns, -⟩
  exact h _ hreturns

/-- A turn ends as its operation does. -/
theorem outcome_turn :
    (exchange.turn kernel operation).outcome = (exchange.carryOut kernel operation).2 :=
  (outcome_unrecorded exchange.recording operation).symm

/-- The channel after an operation is the one that its turn leaves. -/
theorem channel_carryOut :
    (exchange.carryOut kernel operation).1.channel =
      (exchange.recording.carryOut kernel.recorded operation).1.channel := by
  change (exchange.recording.unrecorded.carryOut kernel operation).1.channel = _
  rw [← unrecorded_carryOut]
  rfl

/-- A receive hands out the id of the request that it returns. -/
theorem returns_receive {events : List ChannelEvent} {result : Except Error PendingCall}
    (h : (exchange.recording.receive kernel.recorded events).2 = result) :
    (exchange.turn kernel (.receive events)).Returns id ↔
      ∃ request, result = .ok request ∧ request.id = id := by
  subst h
  constructor
  · rintro ⟨request, houtcome, hid⟩
    injection houtcome with houtcome
    exact ⟨request, houtcome, hid⟩
  · rintro ⟨request, hresult, hid⟩
    exact ⟨request, congrArg Outcome.received hresult, hid⟩

theorem holds_receive (events : List ChannelEvent) :
    (exchange.carryOut kernel (.receive events)).1.channel.holds id = true ↔
      ¬ (exchange.turn kernel (.receive events)).Settles id ∧
        ((exchange.turn kernel (.receive events)).Returns id ∨ exchange.channel.holds id = true) := by
  rw [channel_carryOut, Turn.settles_iff_of_not_responded (by rintro _ _ ⟨⟩)]
  have hstart : exchange.recording.Undenied := fun _ => List.not_mem_nil
  obtain ⟨error, hresult, hundenied, hsame⟩ | ⟨taken, request, hundenied, hsame, hreceive⟩ :=
    @receive_cases σ kernel exchange.recording hstart events
  · have hholds : (exchange.recording.receive kernel.recorded events).1.channel.holds id =
        exchange.channel.holds id := by
      rw [Channel.holds, hsame]
      rfl
    have hreturns : ¬ (exchange.turn kernel (.receive events)).Returns id := by
      rw [returns_receive hresult]
      rintro ⟨request, ⟨⟩, -⟩
    rw [or_iff_right hreturns, ← hholds]
    exact (and_iff_right (hundenied id)).symm
  · have hholds : taken.channel.holds id = exchange.channel.holds id := by
      rw [Channel.holds, hsame]
      rfl
    have hreturns : (exchange.turn kernel (.receive events)).Returns id ↔ id = request.id := by
      rw [returns_receive (congrArg Prod.snd hreceive)]
      constructor
      · rintro ⟨_, ⟨⟩, rfl⟩
        rfl
      · rintro rfl
        exact ⟨request, rfl, rfl⟩
    have hkept : ({ taken with channel := taken.channel.insert request.id } :
        Exchange (σ × List KernelAnswer)).Undenied := hundenied
    rw [hreturns, ← hholds, ← Channel.holds_insert, and_comm]
    change (exchange.recording.receive kernel.recorded events).1.channel.holds id = true ↔
      _ ∧ .asked id false ∉ (exchange.recording.receive kernel.recorded events).1.answers
    rw [hreceive]
    exact hkept.holds_prune

theorem holds_checkValid (number : UInt64) :
    (exchange.carryOut kernel (.checkValid number)).1.channel.holds id = true ↔
      ¬ (exchange.turn kernel (.checkValid number)).Settles id ∧
        ((exchange.turn kernel (.checkValid number)).Returns id ∨
          exchange.channel.holds id = true) := by
  rw [channel_carryOut, Turn.settles_iff_of_not_responded (by rintro _ _ ⟨⟩),
    or_iff_right (Turn.not_returns_of_not_received (by rintro _ ⟨⟩))]
  change (exchange.recording.checkValid kernel.recorded number).1.channel.holds id = true ↔
    .asked id false ∉ (exchange.recording.checkValid kernel.recorded number).1.answers ∧ _
  by_cases hclosed : exchange.channel.closed = true
  · rw [checkValid, if_pos (show exchange.recording.channel.closed = true from hclosed)]
    exact (and_iff_right List.not_mem_nil).symm
  · have hopen : ¬ exchange.recording.channel.closed = true := hclosed
    rw [checkValid_of_open hopen, answers_confirm, holds_confirm, and_comm]
    refine and_congr_left fun _ => ?_
    rw [show exchange.recording.answers = [] from rfl, List.mem_singleton,
      KernelAnswer.asked.injEq, not_and, eq_comm (a := false), Bool.not_eq_false]

/-- Where a response is sent, the kernel's answer decides whether its id is settled. -/
theorem settles_respond_of_holds {response : Response} (hopen : exchange.channel.closed = false)
    (hholds : exchange.channel.holds response.id = true) :
    (exchange.turn kernel (.respond response)).Settles id ↔
      id = response.id ∧ ((kernel.send exchange.kernel response.wire).2 = .ok () ∨
        (kernel.send exchange.kernel response.wire).2 = .error Errno.noEntry) := by
  have hanswers : (exchange.turn kernel (.respond response)).answers =
      [.sent response.wire (kernel.send exchange.kernel response.wire).2] :=
    congrArg Prod.snd
      (@calls_respond_of_holds _ kernel.recorded exchange.recording response hopen hholds).2
  constructor
  · rintro (⟨other, result, answer, hresponds, hid, hsent, hfinal⟩ | hasked)
    · injection hresponds with hsame
      rw [hanswers, List.mem_singleton] at hsent
      injection hsent with _ hanswer
      rw [← hsame] at hid
      rw [hanswer] at hfinal
      exact ⟨hid.symm, hfinal⟩
    · rw [hanswers, List.mem_singleton] at hasked
      injection hasked
  · rintro ⟨rfl, hfinal⟩
    refine .answered response _ _ rfl rfl ?_ hfinal
    rw [hanswers]
    exact List.mem_singleton.mpr rfl

/-- Where none is sent, nothing is settled. -/
theorem not_settles_respond {response : Response}
    (h : (exchange.recording.respond kernel.recorded response).1 = exchange.recording) :
    ¬ (exchange.turn kernel (.respond response)).Settles id := by
  have hnone : (exchange.turn kernel (.respond response)).answers = [] :=
    congrArg Exchange.answers h
  rintro (⟨_, _, _, -, -, hsent, -⟩ | hasked)
  · rw [hnone] at hsent
    exact List.not_mem_nil hsent
  · rw [hnone] at hasked
    exact List.not_mem_nil hasked

theorem holds_respond (response : Response) :
    (exchange.carryOut kernel (.respond response)).1.channel.holds id = true ↔
      ¬ (exchange.turn kernel (.respond response)).Settles id ∧
        ((exchange.turn kernel (.respond response)).Returns id ∨
          exchange.channel.holds id = true) := by
  rw [or_iff_right (Turn.not_returns_of_not_received (by rintro _ ⟨⟩))]
  change (exchange.respond kernel response).1.channel.holds id = true ↔ _
  cases hclosed : exchange.channel.closed with
  | true =>
    rw [respond, if_pos hclosed]
    exact (and_iff_right (not_settles_respond (congrArg Prod.fst (if_pos hclosed)))).symm
  | false =>
    by_cases hholds : exchange.channel.holds response.id = true
    · rw [settles_respond_of_holds hclosed hholds, respond_of_holds hclosed hholds]
      rcases (kernel.send exchange.kernel response.wire).2 with number | _
      · by_cases hn : number = Errno.noEntry
        · simp [hn, and_comm]
        · -- The id was given up and is taken back.
          simp only [hn, if_false, Channel.holds_insert, Channel.holds_erase]
          by_cases hid : id = response.id
          · simp [hid, hholds, hn]
          · simp [hid]
      · simp [and_comm]
    · rw [respond_of_not_holds hclosed hholds]
      have hsame := @respond_of_not_holds _ kernel.recorded exchange.recording response hclosed hholds
      exact (and_iff_right (not_settles_respond (congrArg Prod.fst hsame))).symm

/-- An operation leaves an id remembered if it does not settle it, and if it hands it out or finds
it remembered. -/
theorem holds_carryOut :
    (exchange.carryOut kernel operation).1.channel.holds id = true ↔
      ¬ (exchange.turn kernel operation).Settles id ∧
        ((exchange.turn kernel operation).Returns id ∨ exchange.channel.holds id = true) := by
  cases operation with
  | receive events => exact holds_receive events
  | checkValid number => exact holds_checkValid number
  | respond response => exact holds_respond response
  | close =>
    rw [or_iff_right (Turn.not_returns_of_not_received (by rintro _ ⟨⟩)),
      Turn.settles_iff_of_not_responded (by rintro _ _ ⟨⟩)]
    exact (and_iff_right List.not_mem_nil).symm

/-- The turns of a run with one more operation. -/
theorem turns_concat (operations : List Operation) :
    exchange.turns kernel (operations ++ [operation]) =
      exchange.turns kernel operations ++ [(exchange.run kernel operations).turn kernel operation] := by
  induction operations generalizing exchange with
  | nil => rfl
  | cons first rest ih => exact congrArg _ ih

theorem run_concat (operations : List Operation) :
    exchange.run kernel (operations ++ [operation]) =
      ((exchange.run kernel operations).carryOut kernel operation).1 := by
  rw [run, List.foldl_append]
  rfl

/-- After a run exactly the answerable ids are remembered. -/
theorem holds_run (memory : σ) (operations : List Operation) :
    ((opened memory).run kernel operations).channel.holds id = true ↔
      Answerable Turn.Settles id ((opened memory).turns kernel operations) := by
  induction operations using List.reverseRecOn with
  | nil =>
    constructor
    · rintro ⟨⟩
    · rintro ⟨older, turn, newer, hpast, -⟩
      simp [turns] at hpast
  | append_singleton operations operation ih =>
    rw [turns_concat, run_concat, answerable_concat, holds_carryOut, ih]

end Step

/-- How a response goes on an open channel, given what counts as settling an id. -/
structure RespondsByHistory (settles : Turn → UInt64 → Prop) (kernel : ListenerKernel σ)
    (before : Exchange σ) (past : List Turn) (response : Response) : Prop where
  sends : Answerable settles response.id past →
    (before.respond kernel response).1.calls = .send response.wire :: before.calls
  accepted : Answerable settles response.id past →
    (kernel.send before.kernel response.wire).2 = .ok () →
      (before.respond kernel response).2 = .ok ()
  late : Answerable settles response.id past →
    (kernel.send before.kernel response.wire).2 = .error Errno.noEntry →
      (before.respond kernel response).2 = .error (.staleRequest response.id)
  rejected : Answerable settles response.id past → ∀ number, number ≠ Errno.noEntry →
    (kernel.send before.kernel response.wire).2 = .error number →
      (before.respond kernel response).2 = .error (.os number) ∧
        Answerable settles response.id (past ++ [before.turn kernel (.respond response)])
  withheld : ¬ Answerable settles response.id past →
    (before.respond kernel response).1.calls = before.calls ∧
      (before.respond kernel response).2 = .error (.staleRequest response.id)

/-- After any run that leaves the channel open, whether a response is sent and what becomes of it
can be read off the history of its id and the kernel's answer. -/
theorem responds_by_history (kernel : ListenerKernel σ) (memory : σ) (operations : List Operation)
    (response : Response)
    (hopen : ((opened memory).run kernel operations).channel.closed = false) :
    RespondsByHistory Turn.Settles kernel ((opened memory).run kernel operations)
      ((opened memory).turns kernel operations) response := by
  have hrun : ((opened memory).run kernel operations).channel.holds response.id = true ↔
      Answerable Turn.Settles response.id ((opened memory).turns kernel operations) :=
    holds_run memory operations
  constructor
  · intro hpast
    exact (calls_respond_of_holds hopen (hrun.mpr hpast)).1
  · intro hpast hanswer
    rw [respond_of_holds hopen (hrun.mpr hpast), hanswer]
  · intro hpast hanswer
    rw [respond_of_holds hopen (hrun.mpr hpast), hanswer]
    rfl
  · intro hpast number hn hanswer
    constructor
    · rw [respond_of_holds hopen (hrun.mpr hpast), hanswer]
      simp only [hn, if_false]
    · rw [answerable_concat, settles_respond_of_holds hopen (hrun.mpr hpast), hanswer]
      refine ⟨?_, .inr hpast⟩
      rintro ⟨-, hok | hgone⟩
      · injection hok
      · injection hgone with hnumber
        exact hn hnumber
  · intro hpast
    rw [respond_of_not_holds hopen (fun hholds => hpast (hrun.mp hholds))]
    exact ⟨rfl, rfl⟩

/-- A kernel that gives the answers to responses from a list, and of which every call waits. -/
def scripted : ListenerKernel (List (Except Errno Unit)) where
  send := fun script _ => (script.tail, script.headD (.ok ()))
  isWaiting := fun script _ => (script, true)
  deliver := fun script _ => script

/-- A receive that wakes up to a notification and then, if that is refused, finds no other. -/
def delivery (id : UInt64) (arch : UInt32) : Operation :=
  .receive [.poll false (.ok (readable, 0)),
    .fetch (.ok ⟨id, 0, 0, ⟨39, arch, 0, Vector.replicate 6 0⟩⟩),
    .poll false (.error Errno.inputOutput)]

/-- A response is rejected, and the next one to the same request is accepted. -/
theorem responds_by_history_again :
    let operations := [delivery 7 Arch.x8664.auditWord, .respond (.proceed 7)]
    let before := (opened [.error 22]).run scripted operations
    before.channel.closed = false ∧
      RespondsByHistory Turn.Settles scripted before ((opened [.error 22]).turns scripted operations)
        (.proceed 7) ∧
      Answerable Turn.Settles 7 ((opened [.error 22]).turns scripted operations) ∧
      before.calls = [.send (Response.proceed 7).wire, .fetch, .poll] ∧
      (before.respond scripted (.proceed 7)).2 = .ok () := by
  intro operations before
  have hopen : before.channel.closed = false := rfl
  have hholds : before.channel.holds 7 = true := rfl
  exact ⟨hopen, responds_by_history scripted [.error 22] operations (.proceed 7) hopen,
    (holds_run _ operations).mp hholds, rfl, rfl⟩

/-- A turn settles an id, or a response to the id comes too late that no supervisor asked for: one by
which a receive refuses a call. -/
def Turn.SettlesOrRefuses (turn : Turn) (id : UInt64) : Prop :=
  turn.Settles id ∨
    ∃ response : WireResponse, response.id = id ∧
      .sent response (.error Errno.noEntry) ∈ turn.answers

/-- A refusal that comes too late settles nothing, even if the kernel gave the refused call the id of
a request that waits for its answer. -/
theorem late_refusal_settles_nothing :
    let operations := [delivery 7 Arch.x8664.auditWord, delivery 7 0]
    let before := (opened [.error Errno.noEntry]).run scripted operations
    before.channel.closed = false ∧
      ¬ RespondsByHistory Turn.SettlesOrRefuses scripted before
        ((opened [.error Errno.noEntry]).turns scripted operations) (.proceed 7) := by
  intro operations before
  refine ⟨rfl, fun h => ?_⟩
  have hlate : ¬ Answerable Turn.SettlesOrRefuses 7
      ((opened [.error Errno.noEntry]).turns scripted operations) := by
    change ¬ Answerable _ _ ([_] ++ [_])
    rw [answerable_concat]
    rintro ⟨hunsettled, -⟩
    exact hunsettled (.inr ⟨_, rfl, List.mem_singleton.mpr rfl⟩)
  have hcalls := (h.withheld hlate).1
  exact absurd hcalls (List.cons_ne_self _ _)

end Exchange

end SyscallFilter
