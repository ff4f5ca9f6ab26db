import SyscallFilter.Proofs.ClosedChannel

/-!
How many ids a channel remembers. A receive that would leave more than the limit asks the kernel for
every one of them. So after any run of operations either few ids are remembered, or each of them was
confirmed by the latest receive that handed out a request. What a receive forgets are the ids that
the kernel denies, and an id whose call still waits is never among them.
-/

namespace SyscallFilter

/-- The answers of a kernel go by which calls wait: it confirms those that do, and no question makes
a call wait. -/
structure ListenerKernel.Truthful {σ : Type} (kernel : ListenerKernel σ)
    (waits : σ → UInt64 → Prop) : Prop where
  confirms : ∀ memory id, waits memory id → (kernel.isWaiting memory id).2 = true
  wakes_none : ∀ memory asked id, waits (kernel.isWaiting memory asked).1 id → waits memory id

/-- Writing answers down makes them no less true. -/
theorem ListenerKernel.Truthful.recorded {σ : Type} {kernel : ListenerKernel σ}
    {waits : σ → UInt64 → Prop} (ht : kernel.Truthful waits) :
    kernel.recorded.Truthful fun memory id => waits memory.1 id where
  confirms memory id hw := ht.confirms memory.1 id hw
  wakes_none memory asked id hw := ht.wakes_none memory.1 asked id hw

namespace Exchange

variable {σ : Type} {kernel : ListenerKernel σ} {exchange : Exchange σ} {id : UInt64}

/-- The latest turn that hands out a request. -/
def LatestReceipt (turn : Turn) (past : List Turn) : Prop :=
  ∃ older newer, past = older ++ turn :: newer ∧ (∃ id, turn.Returns id) ∧
    ∀ later ∈ newer, ∀ id, ¬ later.Returns id

/-- No more ids are remembered than the limit allows, or the kernel confirmed each of them during
the latest turn that handed out a request. -/
def Bounded (channel : Channel) (past : List Turn) : Prop :=
  channel.outstanding.length ≤ Channel.pruneLimit ∨
    ∃ turn, LatestReceipt turn past ∧
      ∀ id, channel.holds id = true → .asked id true ∈ turn.answers

/-- What a receive forgets of the ids remembered before it and the one that it hands out. -/
structure Prunes (kernel : ListenerKernel σ) (before : Exchange σ) (events : List ChannelEvent) :
    Prop where
  forgets : ∀ id, ((before.turn kernel (.receive events)).Returns id ∨
      before.channel.holds id = true) ∧
        ¬ (before.receive kernel events).1.channel.holds id = true ↔
      .asked id false ∈ (before.turn kernel (.receive events)).answers
  keeps : ∀ waits, kernel.Truthful waits → ∀ id,
    (before.turn kernel (.receive events)).Returns id ∨ before.channel.holds id = true →
      waits (before.receive kernel events).1.kernel id →
        (before.receive kernel events).1.channel.holds id = true

section Confirming

variable {waits : σ → UInt64 → Prop}

/-- Confirming ids brings no id in and leaves the others in their order. -/
theorem sublist_foldl_confirm (ids : List UInt64) :
    (ids.foldl (confirm kernel) exchange).channel.outstanding.Sublist
      exchange.channel.outstanding := by
  induction ids generalizing exchange with
  | nil => exact List.Sublist.refl _
  | cons id rest ih =>
    have hfirst : (exchange.confirm kernel id).channel.outstanding.Sublist
        exchange.channel.outstanding := by
      rw [channel_confirm]
      split_ifs
      · exact List.Sublist.refl _
      · exact List.filter_sublist
    exact ih.trans hfirst

theorem sublist_prune :
    (exchange.prune kernel).channel.outstanding.Sublist exchange.channel.outstanding := by
  rw [prune, pruneIds_eq_foldl]
  split_ifs
  · exact sublist_foldl_confirm _
  · exact List.Sublist.refl _

theorem kernel_confirm :
    (exchange.confirm kernel id).kernel = (kernel.isWaiting exchange.kernel id).1 := by
  rw [confirm]
  split
  · rfl
  · rfl

/-- A call that waits after questions has waited before them. -/
theorem waits_of_foldl_confirm (ht : kernel.Truthful waits) {ids : List UInt64}
    (hw : waits (ids.foldl (confirm kernel) exchange).kernel id) : waits exchange.kernel id := by
  induction ids generalizing exchange with
  | nil => exact hw
  | cons asked rest ih =>
    have hnext : waits (exchange.confirm kernel asked).kernel id := ih hw
    rw [kernel_confirm] at hnext
    exact ht.wakes_none exchange.kernel asked id hnext

theorem holds_foldl_confirm_of_waits (ht : kernel.Truthful waits) {ids : List UInt64}
    (hheld : exchange.channel.holds id = true)
    (hw : waits (ids.foldl (confirm kernel) exchange).kernel id) :
    (ids.foldl (confirm kernel) exchange).channel.holds id = true := by
  induction ids generalizing exchange with
  | nil => exact hheld
  | cons asked rest ih =>
    -- The call waits when it is asked for itself, so that question does not remove it.
    have hbefore : waits exchange.kernel id := waits_of_foldl_confirm ht hw
    have hnext : (exchange.confirm kernel asked).channel.holds id = true := by
      rw [channel_confirm]
      split_ifs with hanswer
      · exact hheld
      · rw [Channel.holds_erase]
        refine ⟨hheld, ?_⟩
        rintro rfl
        exact hanswer (ht.confirms exchange.kernel id hbefore)
    exact ih hnext hw

theorem holds_prune_of_waits (ht : kernel.Truthful waits) (hheld : exchange.channel.holds id = true)
    (hw : waits (exchange.prune kernel).kernel id) :
    (exchange.prune kernel).channel.holds id = true := by
  rw [prune, pruneIds_eq_foldl] at hw ⊢
  split_ifs at hw ⊢
  · exact holds_foldl_confirm_of_waits ht hheld hw
  · exact hheld

end Confirming

section Recorded

variable {recorded : Exchange (σ × List KernelAnswer)}

/-- Every id that is to be confirmed is asked for. -/
theorem exists_asked_foldl_confirm (kernel : ListenerKernel σ)
    (recorded : Exchange (σ × List KernelAnswer)) {ids : List UInt64} (h : id ∈ ids) :
    ∃ waiting, .asked id waiting ∈ (ids.foldl (confirm kernel.recorded) recorded).answers := by
  induction ids generalizing recorded with
  | nil => nomatch h
  | cons first rest ih =>
    rcases List.mem_cons.mp h with rfl | hrest
    · have hasked : .asked id (kernel.isWaiting recorded.kernel.1 id).2 ∈
          (recorded.confirm kernel.recorded id).answers := by
        rw [answers_confirm]
        exact List.mem_cons_self
      exact ⟨_, mem_answers_foldl_confirm hasked rest⟩
    · exact ih (recorded.confirm kernel.recorded first) hrest

/-- No other id is asked for. -/
theorem mem_of_asked_foldl_confirm {ids : List UInt64} {waiting : Bool}
    (h : .asked id waiting ∈ (ids.foldl (confirm kernel.recorded) recorded).answers) :
    id ∈ ids ∨ .asked id waiting ∈ recorded.answers := by
  induction ids generalizing recorded with
  | nil => exact .inr h
  | cons first rest ih =>
    rcases ih h with hrest | hbefore
    · exact .inl (List.mem_cons_of_mem first hrest)
    · rw [answers_confirm] at hbefore
      rcases List.mem_cons.mp hbefore with hfirst | hbefore
      · injection hfirst with hid
        exact .inl (by rw [hid]; exact List.mem_cons_self)
      · exact .inr hbefore

/-- What pruning denies was remembered. -/
theorem Undenied.holds_of_asked_prune (h : recorded.Undenied)
    (hasked : .asked id false ∈ (recorded.prune kernel.recorded).answers) :
    recorded.channel.holds id = true := by
  rw [prune] at hasked
  split_ifs at hasked
  · rw [pruneIds_eq_foldl] at hasked
    rcases mem_of_asked_foldl_confirm hasked with hmem | hbefore
    · exact List.contains_iff_mem.mpr hmem
    · exact absurd hbefore (h id)
  · exact absurd hasked (h id)

/-- After pruning few ids are left, or the kernel has confirmed each of those that are. -/
theorem Undenied.few_or_confirmed_prune (h : recorded.Undenied) (kernel : ListenerKernel σ) :
    (recorded.prune kernel.recorded).channel.outstanding.length ≤ Channel.pruneLimit ∨
      ∀ id, (recorded.prune kernel.recorded).channel.holds id = true →
        .asked id true ∈ (recorded.prune kernel.recorded).answers := by
  by_cases hmany : Channel.pruneLimit < recorded.channel.outstanding.length
  · right
    intro id hid
    obtain ⟨hheld, hundenied⟩ := h.holds_prune.mp hid
    have hfold : recorded.prune kernel.recorded =
        recorded.channel.outstanding.foldl (confirm kernel.recorded) recorded := by
      rw [prune, if_pos hmany, pruneIds_eq_foldl]
    -- The id was asked for, and it was not denied.
    obtain ⟨waiting, hasked⟩ :=
      exists_asked_foldl_confirm kernel recorded (List.contains_iff_mem.mp hheld)
    rw [← hfold] at hasked
    cases waiting with
    | true => exact hasked
    | false => exact absurd hasked hundenied
  · left
    rw [prune, if_neg hmany]
    exact Nat.not_lt.mp hmany

end Recorded

section Receiving

variable {operation : Operation}

/-- A receive that hands out a request prunes with its id among those that are remembered. Any other
denies nothing and forgets nothing. -/
theorem pruned_or_failed (kernel : ListenerKernel σ) (exchange : Exchange σ)
    (events : List ChannelEvent) :
    ((∀ id, ¬ (exchange.turn kernel (.receive events)).Returns id) ∧
        (∀ id, .asked id false ∉ (exchange.turn kernel (.receive events)).answers) ∧
        (exchange.receive kernel events).1.channel.outstanding = exchange.channel.outstanding) ∨
      ∃ kept : Exchange (σ × List KernelAnswer), ∃ number,
        kept.Undenied ∧
        kept.channel.outstanding = (exchange.channel.insert number).outstanding ∧
        (∀ id, (exchange.turn kernel (.receive events)).Returns id ↔ id = number) ∧
        (exchange.turn kernel (.receive events)).answers = (kept.prune kernel.recorded).answers ∧
        (exchange.receive kernel events).1 = (kept.prune kernel.recorded).unrecorded := by
  have hforgotten : (exchange.recording.receive kernel.recorded events).map unrecorded id =
      exchange.receive kernel events := unrecorded_receive events
  have hafter : (exchange.receive kernel events).1 =
      (exchange.recording.receive kernel.recorded events).1.unrecorded :=
    congrArg Prod.fst hforgotten.symm
  have hstart : exchange.recording.Undenied := fun _ => List.not_mem_nil
  obtain ⟨error, hresult, hundenied, hsame⟩ | ⟨taken, request, hundenied, hsame, hreceive⟩ :=
    @receive_cases σ kernel _ hstart events
  · left
    refine ⟨fun id => ?_, hundenied, ?_⟩
    · rw [returns_receive hresult]
      rintro ⟨request, ⟨⟩, -⟩
    · rw [hafter]
      exact hsame
  · right
    refine ⟨{ taken with channel := taken.channel.insert request.id }, request.id, hundenied,
      congrArg (List.insert request.id) hsame, fun id => ?_, ?_, ?_⟩
    · rw [returns_receive (congrArg Prod.snd hreceive)]
      constructor
      · rintro ⟨_, ⟨⟩, rfl⟩
        rfl
      · rintro rfl
        exact ⟨request, rfl, rfl⟩
    · exact congrArg (fun result => result.1.answers) hreceive
    · rw [hafter, hreceive]

/-- A receive forgets what the kernel denies, and nothing that still waits. -/
theorem prunes_receive (kernel : ListenerKernel σ) (exchange : Exchange σ)
    (events : List ChannelEvent) : Prunes kernel exchange events := by
  obtain ⟨hreturns, hundenied, hsame⟩ |
      ⟨kept, number, hundenied, hkept, hreturns, hanswers, hafter⟩ :=
    pruned_or_failed kernel exchange events
  · have hholds (id : UInt64) : (exchange.receive kernel events).1.channel.holds id =
        exchange.channel.holds id := by rw [Channel.holds, hsame, Channel.holds]
    constructor
    · intro id
      rw [or_iff_right (hreturns id), hholds]
      exact ⟨fun h => absurd h.1 h.2, fun hasked => absurd hasked (hundenied id)⟩
    · intro waits _ id hknown _
      rw [hholds]
      exact hknown.resolve_left (hreturns id)
  · have hknown (id : UInt64) : kept.channel.holds id = true ↔
        (exchange.turn kernel (.receive events)).Returns id ∨ exchange.channel.holds id = true := by
      rw [hreturns, ← Channel.holds_insert, Channel.holds, hkept, Channel.holds]
    constructor
    · intro id
      rw [hanswers, hafter, channel_unrecorded, ← hknown]
      constructor
      · rintro ⟨hheld, hforgotten⟩
        by_contra hkeeps
        exact hforgotten (hundenied.holds_prune.mpr ⟨hheld, hkeeps⟩)
      · intro hasked
        refine ⟨hundenied.holds_of_asked_prune hasked, fun hheld => ?_⟩
        exact (hundenied.holds_prune.mp hheld).2 hasked
    · intro waits ht id hid hw
      rw [hafter] at hw ⊢
      exact holds_prune_of_waits ht.recorded ((hknown id).mpr hid) hw

/-- A channel that remembers no more than another, and nothing twice if the other does not. -/
structure Shrinks (before after : Channel) : Prop where
  length_le : after.outstanding.length ≤ before.outstanding.length
  nodup : before.outstanding.Nodup → after.outstanding.Nodup

theorem shrinks_of_sublist {before after : Channel}
    (h : after.outstanding.Sublist before.outstanding) : Shrinks before after :=
  ⟨h.length_le, fun hbefore => hbefore.sublist h⟩

/-- An id that is given up and taken back takes its own place. -/
theorem shrinks_insert_erase {channel : Channel} (h : channel.holds id = true) :
    Shrinks channel ((channel.erase id).insert id) := by
  have hgone : id ∉ (channel.erase id).outstanding := by simp [Channel.erase]
  have hfewer : (channel.erase id).outstanding.length < channel.outstanding.length :=
    List.length_filter_lt_length_iff_exists.mpr ⟨id, List.contains_iff_mem.mp h, by simp⟩
  constructor
  · rw [Channel.insert, List.insert_of_not_mem hgone, List.length_cons]
    exact hfewer
  · intro hbefore
    exact (hbefore.filter _).insert

theorem shrinks_respond (response : Response) :
    Shrinks exchange.channel (exchange.respond kernel response).1.channel := by
  have hsame : Shrinks exchange.channel exchange.channel :=
    shrinks_of_sublist (List.Sublist.refl _)
  have herased : Shrinks exchange.channel (exchange.channel.erase response.id) :=
    shrinks_of_sublist List.filter_sublist
  cases hclosed : exchange.channel.closed with
  | true =>
    rw [respond, if_pos hclosed]
    exact hsame
  | false =>
    by_cases hheld : exchange.channel.holds response.id = true
    · rw [respond_of_holds hclosed hheld]
      dsimp only
      split
      · exact herased
      · split_ifs
        · exact herased
        · exact shrinks_insert_erase hheld
    · rw [respond_of_not_holds hclosed hheld]
      exact hsame

/-- Only an operation that hands out a request lets a channel remember more. -/
theorem shrinks_carryOut (h : ∀ id, ¬ (exchange.turn kernel operation).Returns id) :
    Shrinks exchange.channel (exchange.carryOut kernel operation).1.channel := by
  cases operation with
  | receive events =>
    obtain ⟨-, -, hsame⟩ | ⟨kept, number, -, -, hreturns, -, -⟩ :=
      pruned_or_failed kernel exchange events
    · have hsub : (exchange.receive kernel events).1.channel.outstanding.Sublist
          exchange.channel.outstanding := by rw [hsame]
      exact shrinks_of_sublist hsub
    · exact absurd ((hreturns number).mpr rfl) (h number)
  | checkValid number =>
    change Shrinks _ (exchange.checkValid kernel number).1.channel
    by_cases hclosed : exchange.channel.closed = true
    · rw [checkValid, if_pos hclosed]
      exact shrinks_of_sublist (List.Sublist.refl _)
    · rw [checkValid_of_open hclosed]
      exact shrinks_of_sublist (sublist_foldl_confirm [number])
  | respond response => exact shrinks_respond response
  | close => exact shrinks_of_sublist (List.Sublist.refl _)

/-- An operation that hands out a request is a receive that prunes. -/
theorem exists_pruned_of_returns {number : UInt64}
    (h : (exchange.turn kernel operation).Returns number) :
    ∃ kept : Exchange (σ × List KernelAnswer), kept.Undenied ∧
      kept.channel.outstanding = (exchange.channel.insert number).outstanding ∧
      (exchange.turn kernel operation).answers = (kept.prune kernel.recorded).answers ∧
      (exchange.carryOut kernel operation).1.channel = (kept.prune kernel.recorded).channel := by
  cases operation with
  | receive events =>
    obtain ⟨hnone, -, -⟩ | ⟨kept, own, hundenied, hkept, hreturns, hanswers, hafter⟩ :=
      pruned_or_failed kernel exchange events
    · exact absurd h (hnone number)
    · obtain rfl := (hreturns number).mp h
      exact ⟨kept, hundenied, hkept, hanswers, congrArg Exchange.channel hafter⟩
  | checkValid _ => exact absurd h (Turn.not_returns_of_not_received (by rintro _ ⟨⟩))
  | respond _ => exact absurd h (Turn.not_returns_of_not_received (by rintro _ ⟨⟩))
  | close => exact absurd h (Turn.not_returns_of_not_received (by rintro _ ⟨⟩))

end Receiving

section Run

variable {operation : Operation} {past : List Turn}

theorem nodup_carryOut (h : exchange.channel.outstanding.Nodup) :
    (exchange.carryOut kernel operation).1.channel.outstanding.Nodup := by
  by_cases hreturns : ∃ number, (exchange.turn kernel operation).Returns number
  · obtain ⟨number, hnumber⟩ := hreturns
    obtain ⟨kept, -, hkept, -, hafter⟩ := exists_pruned_of_returns hnumber
    have hinserted : kept.channel.outstanding.Nodup := by
      rw [hkept]
      exact h.insert
    rw [hafter]
    exact hinserted.sublist sublist_prune
  · exact (shrinks_carryOut (not_exists.mp hreturns)).nodup h

/-- An operation keeps the ids bounded. -/
theorem Bounded.carryOut (h : Bounded exchange.channel past) :
    Bounded (exchange.carryOut kernel operation).1.channel
      (past ++ [exchange.turn kernel operation]) := by
  by_cases hreturns : ∃ number, (exchange.turn kernel operation).Returns number
  · -- The turn itself is the latest that hands out a request.
    obtain ⟨number, hnumber⟩ := hreturns
    obtain ⟨kept, hundenied, -, hanswers, hafter⟩ := exists_pruned_of_returns hnumber
    rw [hafter]
    rcases hundenied.few_or_confirmed_prune kernel with hfew | hconfirmed
    · exact .inl hfew
    · rw [← hanswers] at hconfirmed
      exact .inr ⟨_, ⟨past, [], rfl, ⟨number, hnumber⟩, by simp⟩, hconfirmed⟩
  · have hnone : ∀ id, ¬ (exchange.turn kernel operation).Returns id := not_exists.mp hreturns
    rcases h with hfew | ⟨turn, ⟨older, newer, rfl, hturn, hlater⟩, hconfirmed⟩
    · exact .inl ((shrinks_carryOut hnone).length_le.trans hfew)
    · refine .inr ⟨turn, ⟨older, newer ++ [exchange.turn kernel operation], by simp, hturn, ?_⟩, ?_⟩
      · intro later hmem
        rcases List.mem_append.mp hmem with hmem | hmem
        · exact hlater later hmem
        · rw [List.mem_singleton.mp hmem]
          exact hnone
      · intro id hid
        exact hconfirmed id ((holds_carryOut.mp hid).2.resolve_left (hnone id))

theorem nodup_and_bounded_run (kernel : ListenerKernel σ) (memory : σ)
    (operations : List Operation) :
    ((opened memory).run kernel operations).channel.outstanding.Nodup ∧
      Bounded ((opened memory).run kernel operations).channel
        ((opened memory).turns kernel operations) := by
  induction operations using List.reverseRecOn with
  | nil => exact ⟨List.nodup_nil, .inl (Nat.zero_le _)⟩
  | append_singleton operations operation ih =>
    rw [run_concat, turns_concat]
    exact ⟨nodup_carryOut ih.1, ih.2.carryOut⟩

/-- After any run of operations a channel remembers at most 256 ids, or the kernel confirmed all
that it remembers during the latest receive that handed out a request. The next receive, if there
is one, forgets exactly the ids that the kernel denies meanwhile, and none whose call still
waits. -/
theorem outstanding_stays_bounded (kernel : ListenerKernel σ) (memory : σ)
    (operations : List Operation) :
    let before := (opened memory).run kernel operations
    before.channel.outstanding.Nodup ∧
      (before.channel.outstanding.length ≤ 256 ∨
        ∃ turn, LatestReceipt turn ((opened memory).turns kernel operations) ∧
          ∀ id, before.channel.holds id = true → .asked id true ∈ turn.answers) ∧
      ∀ events, Prunes kernel before events := by
  intro before
  obtain ⟨hnodup, hbounded⟩ := nodup_and_bounded_run kernel memory operations
  exact ⟨hnodup, hbounded, fun events => prunes_receive kernel before events⟩

/-- A delivery through the native architecture. -/
def nativeDelivery (number : UInt64) : Operation :=
  delivery number Arch.native.auditWord

/-- Such a delivery is handed out and leaves the channel open. -/
theorem delivered (kernel : ListenerKernel σ) (hopen : exchange.channel.closed = false)
    (number : UInt64) :
    (exchange.turn kernel (nativeDelivery number)).Returns number ∧
      (exchange.carryOut kernel (nativeDelivery number)).1.channel.closed = false := by
  let notification : Notification :=
    ⟨number, 0, 0, ⟨39, Arch.native.auditWord, 0, Vector.replicate 6 0⟩⟩
  let request : PendingCall := ⟨number, 0, 0, ⟨39⟩, .native, 0, Vector.replicate 6 0⟩
  have htells : request.Tells notification := ⟨rfl, rfl, rfl, rfl, rfl, rfl, rfl⟩
  have hdecides : ChannelEvent.Decides [.poll false (.ok (readable, 0)), .fetch (.ok notification)]
      (some notification) (.ok request) := .delivers (by decide) htells
  have hreceive := @receive_of_decides σ kernel exchange _ _ _ hdecides hopen
    [.poll false (.error Errno.inputOutput)]
  constructor
  · have hresult : (exchange.carryOut kernel (nativeDelivery number)).2 =
        .received (.ok request) := congrArg Outcome.received (congrArg Prod.snd hreceive)
    exact ⟨request, outcome_turn.trans hresult, rfl⟩
  · have hafter := congrArg (fun after => after.1.channel.closed) hreceive
    exact hafter.trans ((closed_prune kernel _).trans hopen)

/-- The calls that wait for ever are remembered after their deliveries. -/
theorem holds_of_delivered {waits : UInt64 → Prop} (ht : kernel.Truthful fun _ => waits)
    (memory : σ) (numbers : List UInt64) :
    ((opened memory).run kernel (numbers.map nativeDelivery)).channel.closed = false ∧
      ∀ number ∈ numbers, waits number →
        ((opened memory).run kernel (numbers.map nativeDelivery)).channel.holds number = true := by
  induction numbers using List.reverseRecOn with
  | nil => exact ⟨rfl, by simp⟩
  | append_singleton numbers last ih =>
    obtain ⟨hopen, hheld⟩ := ih
    obtain ⟨hreturns, hstill⟩ := delivered kernel hopen last
    rw [List.map_append, List.map_singleton, run_concat]
    refine ⟨hstill, fun number hmem hwaits => ?_⟩
    let before := (opened memory).run kernel (numbers.map nativeDelivery)
    have hknown : (before.turn kernel (nativeDelivery last)).Returns number ∨
        before.channel.holds number = true := by
      rcases List.mem_append.mp hmem with hmem | hmem
      · exact .inr (hheld number hmem hwaits)
      · rw [List.mem_singleton.mp hmem]
        exact .inl hreturns
    exact (prunes_receive kernel _ _).keeps _ ht number hknown hwaits

theorem length_le_of_delivered {waits : UInt64 → Prop} (ht : kernel.Truthful fun _ => waits)
    (memory : σ) (numbers : List UInt64) {waiting : List UInt64} (hnodup : waiting.Nodup)
    (hwaiting : ∀ number ∈ waiting, number ∈ numbers ∧ waits number) :
    waiting.length ≤
      ((opened memory).run kernel (numbers.map nativeDelivery)).channel.outstanding.length := by
  refine (List.Nodup.subperm hnodup fun number hmem => ?_).length_le
  obtain ⟨hnumber, hwaits⟩ := hwaiting number hmem
  exact List.contains_iff_mem.mp ((holds_of_delivered ht memory numbers).2 number hnumber hwaits)

/-- A kernel that knows of one call that it is gone. -/
def denying (gone : UInt64) : ListenerKernel Unit where
  send := fun _ _ => ((), .ok ())
  isWaiting := fun _ id => ((), id != gone)
  deliver := fun _ _ => ()

theorem truthful_denying (gone : UInt64) : (denying gone).Truthful fun _ id => id ≠ gone :=
  ⟨fun _ _ hw => bne_iff_ne.mpr hw, fun _ _ _ hw => hw⟩

/-- Of 258 calls the first is gone and the others wait. So more ids are remembered than the limit,
all of them have been confirmed, and the next receive forgets none of the calls that wait. -/
theorem outstanding_stays_bounded_past_limit :
    let waiting := (List.range 257).map fun n => UInt64.ofNat (n + 4)
    let operations := (3 :: waiting).map nativeDelivery
    let before := (opened ()).run (denying 3) operations
    256 < before.channel.outstanding.length ∧
      (∃ turn, LatestReceipt turn ((opened ()).turns (denying 3) operations) ∧
        ∀ id, before.channel.holds id = true → .asked id true ∈ turn.answers) ∧
      ∀ events, ∀ id ∈ waiting,
        (before.receive (denying 3) events).1.channel.holds id = true := by
  intro waiting operations before
  have hnat (n : Nat) (hn : n < 257) : (UInt64.ofNat (n + 4)).toNat = n + 4 :=
    UInt64.toNat_ofNat_of_lt' (by rw [UInt64.size]; omega)
  have hwaits : ∀ id ∈ waiting, id ≠ 3 := by
    intro id hid he
    obtain ⟨n, hn, rfl⟩ := List.mem_map.mp hid
    have hthree := congrArg UInt64.toNat he
    rw [hnat n (List.mem_range.mp hn)] at hthree
    exact absurd hthree (by simp)
  have hnodup : waiting.Nodup := by
    refine List.nodup_range.map_on fun a ha b hb hab => ?_
    have hsame := congrArg UInt64.toNat hab
    rw [hnat a (List.mem_range.mp ha), hnat b (List.mem_range.mp hb)] at hsame
    omega
  have hlength : waiting.length = 257 := by rw [List.length_map, List.length_range]
  -- The list itself plays no part from here on.
  clear_value waiting
  have hmany : 256 < before.channel.outstanding.length := by
    have hle := length_le_of_delivered (truthful_denying 3) () (3 :: waiting) hnodup
      fun id hid => ⟨List.mem_cons_of_mem 3 hid, hwaits id hid⟩
    rwa [hlength] at hle
  obtain ⟨-, hbounded, hprunes⟩ := outstanding_stays_bounded (denying 3) () operations
  refine ⟨hmany, hbounded.resolve_left (Nat.not_le.mpr hmany), fun events id hid => ?_⟩
  have hheld : before.channel.holds id = true :=
    (holds_of_delivered (truthful_denying 3) () (3 :: waiting)).2 id (List.mem_cons_of_mem 3 hid)
      (hwaits id hid)
  exact (hprunes events).keeps _ (truthful_denying 3) id (.inr hheld) (hwaits id hid)

end Run

end Exchange

end SyscallFilter
