import Mathlib.Tactic
import SyscallFilter.Proofs.Invariant
import SyscallFilter.Proofs.Requests

/-!
Where the rules of a filter come from. A run of requests is looked back on from its end: the list of
an architecture is followed through merges from filter to filter until the event that created it,
and on the way the rules that were asked for are collected. What a filter holds at the end of a run
is exactly what was collected, in order, as far as the architecture has the calls.
-/

namespace SyscallFilter

/-- A rule as it was asked for, with a native call. -/
structure AskedRule where
  call : Syscall
  action : Action
  conditions : List Condition
  deriving DecidableEq, Repr

/-- What a rule that was asked for leaves in the list of an architecture: the number that the
architecture gives to the native name of the call, if it has the call. -/
def AskedRule.entry? (asked : AskedRule) (arch : Arch) : Option Rule :=
  ((asked.call.name? .native).bind (Syscall.ofName? arch)).map fun own =>
    ⟨own, asked.action, asked.conditions⟩

/-- A request as a session met it. -/
structure Event where
  before : Session
  name : String
  request : Request

namespace Event

/-- Whether the request was carried out. -/
def succeeded (event : Event) : Bool :=
  (event.before.step event.name event.request).2.result.isOk

/-- What an event means for the list that an architecture has in a filter after the event. -/
inductive Effect
  | created
  | asked (rule : AskedRule)
  | movedFrom (source : String)
  | untouched

end Event

/-- Whether the filter under a name covers an architecture. -/
def Session.covers (session : Session) (name : String) (arch : Arch) : Bool :=
  (session.filter? name).any fun filter => filter.hasArch arch == .ok true

/-- A list is created by making or resetting its filter, and by adding an architecture that was not
covered; it is added to by a rule that its filter is asked for, and moves with a merge. -/
def Event.effect (event : Event) (name : String) (arch : Arch) : Effect :=
  if !event.succeeded then .untouched
  else
    match event.request with
    | .make _ _ => if event.name = name then .created else .untouched
    | .change (.reset _) => if event.name = name then .created else .untouched
    | .change (.addArch added) =>
      if event.name = name ∧ added = arch ∧ !event.before.covers name arch then .created else .untouched
    | .change (.addRule call action conditions) =>
      if event.name = name then .asked ⟨call, action, conditions⟩ else .untouched
    | .merge source =>
      if event.name = name ∧ event.before.covers source arch then .movedFrom source else .untouched
    | _ => .untouched

/-- The rules that the list of an architecture in a filter was asked to hold since it was created,
the first one first. The events are given with the latest one first. -/
def history : List Event → (name : String) → Arch → List AskedRule
  | [], _, _ => []
  | event :: earlier, name, arch =>
    match event.effect name arch with
    | .created => []
    | .asked rule => history earlier name arch ++ [rule]
    | .movedFrom source => history earlier source arch
    | .untouched => history earlier name arch

/-- The events of a run of requests, in order. -/
def Session.events (session : Session) : List (String × Request) → List Event
  | [] => []
  | (name, request) :: rest =>
    ⟨session, name, request⟩ :: (session.step name request).1.events rest

namespace Filter

variable {filter after : Filter} {arch : Arch} {rules : List Rule}

/-- The list of an architecture, if the filter covers it. -/
def list? (filter : Filter) (arch : Arch) : Option (List Rule) :=
  filter.state?.bind fun state => state.ruleset.rules.get arch

theorem list?_of_state? {state : FilterState} (h : filter.state? = some state) :
    filter.list? arch = state.ruleset.rules.get arch := by
  rw [list?, h, Option.bind_some]

/-- An architecture is covered where it has a list. -/
theorem hasArch_eq_ok_true_iff : filter.hasArch arch = .ok true ↔ (filter.list? arch).isSome := by
  rw [hasArch, state, list?]
  cases filter.state? with
  | none => simp [Except.map]
  | some state => simp [Except.map]

/-- The rules of a covered architecture are its list. -/
theorem rules_eq_ok (h : filter.list? arch = some rules) : filter.rules arch = .ok rules := by
  obtain ⟨state, hs, hr⟩ := Option.bind_eq_some_iff.mp h
  have hstate : filter.state = .ok state := by rw [Filter.state, hs]
  simp [Filter.rules, hstate, bind, Except.bind, pure, Except.pure, hr]

/-- A change that leaves the rule set's lists alone. -/
theorem list?_of_modify {change : FilterState → FilterState} (hm : filter.modify change = .ok after)
    (hc : ∀ state, (change state).ruleset.rules = state.ruleset.rules) :
    after.list? arch = filter.list? arch := by
  obtain ⟨state, hs, rfl⟩ := of_modify hm
  rw [list?_of_state? hs, list?_of_state? rfl, hc]

/-- Nor does it matter that the change has to pass a check first. -/
theorem list?_of_checked {check : Except Error Unit} {change : FilterState → FilterState}
    (ha : (check >>= fun _ => filter.modify change) = .ok after)
    (hc : ∀ state, (change state).ruleset.rules = state.ruleset.rules) :
    after.list? arch = filter.list? arch := by
  obtain ⟨_, -, hm⟩ := exists_of_bind_eq_ok ha
  exact list?_of_modify hm hc

theorem list?_of_make {action : Action} {capabilities : Capabilities}
    (hm : Filter.make action capabilities = .ok after) (h : after.list? arch = some rules) :
    rules = [] := by
  obtain ⟨_, -, hm⟩ := exists_of_bind_eq_ok hm
  obtain rfl := Except.ok.inj hm
  exact FilterState.eq_nil_of_initial h

theorem list?_of_reset {action : Action} (hr : filter.reset action = .ok after)
    (h : after.list? arch = some rules) : rules = [] := by
  obtain ⟨_, -, hm⟩ := exists_of_bind_eq_ok hr
  obtain ⟨state, -, rfl⟩ := of_modify hm
  exact FilterState.eq_nil_of_initial h

theorem list?_of_addArch {added : Arch} (ha : filter.addArch added = .ok after)
    (h : after.list? arch = some rules) :
    filter.list? arch = some rules ∨ added = arch ∧ filter.list? arch = none ∧ rules = [] := by
  obtain ⟨state, hs, rfl⟩ := of_modify ha
  rw [list?_of_state? rfl, PerArch.get_set] at h
  rw [list?_of_state? hs]
  split_ifs at h with he
  · subst he
    cases hr : state.ruleset.rules.get arch with
    | none =>
      rw [hr] at h
      exact .inr ⟨rfl, rfl, (Option.some.inj h).symm⟩
    | some own =>
      rw [hr] at h
      exact .inl h
  · exact .inl h

theorem list?_of_removeArch {removed : Arch} (hr : filter.removeArch removed = .ok after)
    (h : after.list? arch = some rules) : filter.list? arch = some rules := by
  obtain ⟨_, -, -, hm⟩ := of_removeArch hr
  obtain ⟨state, hs, rfl⟩ := of_modify hm
  rw [list?_of_state? rfl, PerArch.get_set] at h
  split_ifs at h
  rw [list?_of_state? hs, h]

/-- A rule that was asked for is found behind the rules that were there. -/
theorem list?_of_addRule {call : Syscall} {action : Action} {conditions : List Condition}
    (ha : filter.addRule call action conditions = .ok after) (h : after.list? arch = some rules) :
    ∃ own, filter.list? arch = some own ∧
      rules = own ++ (AskedRule.entry? ⟨call, action, conditions⟩ arch).toList := by
  obtain ⟨_, -, ha⟩ := exists_of_bind_eq_ok ha
  obtain ⟨_, hn, ha⟩ := exists_of_bind_eq_ok ha
  obtain ⟨_, -, hm⟩ := exists_of_bind_eq_ok ha
  obtain ⟨state, hs, rfl⟩ := of_modify hm
  rw [list?_of_state? rfl] at h
  obtain ⟨own, ho, hrules⟩ := of_get_appendRule h
  refine ⟨own, by rw [list?_of_state? hs, ho], ?_⟩
  -- The call has a native name, and its counterparts are what the name means elsewhere.
  have hname := Syscall.nameOn_eq_ok_iff.mp (mapError_eq_ok hn)
  have hentry : AskedRule.entry? ⟨call, action, conditions⟩ arch =
      (call.counterpart? .native arch).map fun own => ⟨own, action, conditions⟩ := by
    rw [AskedRule.entry?, hname, Option.bind_some, Syscall.counterpart?_of_name? hname]
  rcases hrules with ⟨hc, rfl⟩ | ⟨counterpart, hc, rfl⟩
  · simp [hentry, hc]
  · simp [hentry, hc]

/-- What a change of one filter does to its lists. -/
theorem list?_of_apply {change : Change} (ha : filter.apply change = .ok after)
    (h : after.list? arch = some rules) :
    match change with
    | .reset _ => rules = []
    | .addArch added =>
      filter.list? arch = some rules ∨ added = arch ∧ filter.list? arch = none ∧ rules = []
    | .addRule call action conditions => ∃ own, filter.list? arch = some own ∧
        rules = own ++ (AskedRule.entry? ⟨call, action, conditions⟩ arch).toList
    | _ => filter.list? arch = some rules := by
  cases change with
  | reset action => exact list?_of_reset ha h
  | release =>
    obtain rfl := Except.ok.inj ha
    nomatch h
  | addArch added => exact list?_of_addArch ha h
  | removeArch removed => exact list?_of_removeArch ha h
  | setDefaultAction action => rwa [list?_of_checked ha fun _ => rfl] at h
  | setBadArchAction action => rwa [list?_of_checked ha fun _ => rfl] at h
  | setNoNewPrivs on =>
    have hm : filter.modify (fun state => { state with attributes.noNewPrivs := on }) = .ok after :=
      ha
    rwa [list?_of_modify hm fun _ => rfl] at h
  | setLog on => rwa [list?_of_checked ha fun _ => rfl] at h
  | setSpeculation on => rwa [list?_of_checked ha fun _ => rfl] at h
  | setThreadSync on => rwa [list?_of_checked ha fun _ => rfl] at h
  | addRule call action conditions => exact list?_of_addRule ha h

theorem list?_of_load {kernel : LoadKernel} (hl : (filter.load kernel).result = .ok after) :
    after.list? arch = filter.list? arch := by
  obtain ⟨state, next, hs, hr, -, rfl⟩ := of_load hl
  rw [list?_of_state? hs, list?_of_state? rfl, hr]

/-- A merge gives each list of the source to the target, which keeps its own. -/
theorem list?_of_merge {source merged released : Filter}
    (hm : filter.merge source = .ok (merged, released)) :
    merged.list? arch = (source.list? arch).or (filter.list? arch) ∧
      released.list? arch = none := by
  obtain ⟨target, other, ht, ho, rfl, rfl⟩ := of_merge hm
  refine ⟨?_, rfl⟩
  rw [list?_of_state? ht, list?_of_state? ho, list?_of_state? rfl, FilterState.absorb,
    PerArch.get_ofFn]

end Filter

namespace Session

/-- The list of an architecture in the filter under a name. -/
def list? (session : Session) (name : String) (arch : Arch) : Option (List Rule) :=
  (session.filter? name).bind fun filter => filter.list? arch

variable {session : Session} {name : String} {arch : Arch}

theorem list?_of_filter? {filter : Filter} (h : session.filter? name = some filter) :
    session.list? name arch = filter.list? arch := by
  rw [list?, h, Option.bind_some]

theorem list?_put (session : Session) (name other : String) (filter : Filter) (arch : Arch) :
    (session.put name filter).list? other arch =
      if other = name then filter.list? arch else session.list? other arch := by
  rw [list?, filter?_put]
  split_ifs
  · rfl
  · rfl

theorem covers_eq (session : Session) (name : String) (arch : Arch) :
    session.covers name arch = (session.list? name arch).isSome := by
  rw [covers, list?]
  cases session.filter? name with
  | none => rfl
  | some filter =>
    rw [Option.any_some, Option.bind_some, Bool.eq_iff_iff, beq_iff_eq,
      Filter.hasArch_eq_ok_true_iff]

end Session

/-- What an effect says of a list after an event, from the lists before it. -/
def Event.Effect.Explains (before : Session) (name : String) (arch : Arch) (rules : List Rule) :
    Effect → Prop
  | .created => rules = []
  | .asked rule => ∃ own, before.list? name arch = some own ∧
      rules = own ++ (rule.entry? arch).toList
  | .movedFrom source => before.list? source arch = some rules
  | .untouched => before.list? name arch = some rules

namespace Event

/-- The session after an event. -/
def after (event : Event) : Session :=
  (event.before.step event.name event.request).1

variable {event : Event} {name : String} {arch : Arch} {rules : List Rule}

theorem succeeded_of_ok (h : (event.before.step event.name event.request).2.result = .ok ()) :
    event.succeeded = true := by
  rw [succeeded, h]
  rfl

theorem carries (h : event.succeeded) :
    event.before.Carries event.name event.request event.after := by
  obtain ⟨-, hcarries⟩ | ⟨hrefused, -⟩ := event.before.step_cases event.name event.request
  · exact hcarries
  · rw [succeeded, hrefused] at h
    nomatch h

/-- A change explains the lists of the filter it concerns and leaves all others alone. -/
theorem explains_change {change : Change} {session : Session} {asked : String}
    {filter next : Filter} (found : session.filter? asked = some filter)
    (applied : filter.apply change = .ok next)
    (hs : Event.succeeded ⟨session, asked, .change change⟩ = true)
    (h : (session.put asked next).list? name arch = some rules) :
    (Event.effect ⟨session, asked, .change change⟩ name arch).Explains session name arch rules := by
  rw [Session.list?_put] at h
  by_cases hn : name = asked
  · subst hn
    rw [if_pos rfl] at h
    have hlist := Filter.list?_of_apply applied h
    have hbefore : session.list? name arch = filter.list? arch := Session.list?_of_filter? found
    cases change with
    | reset action => simpa [effect, hs, Effect.Explains] using hlist
    | addArch added =>
      rcases hlist with hkept | ⟨rfl, hnone, rfl⟩
      · have hcovers : session.covers name arch = true := by
          rw [Session.covers_eq, hbefore, hkept]
          rfl
        simpa [effect, hs, hcovers, Effect.Explains, hbefore] using hkept
      · have hcovers : session.covers name added = false := by
          rw [Session.covers_eq, hbefore, hnone]
          rfl
        simp [effect, hs, hcovers, Effect.Explains]
    | addRule call action conditions => simpa [effect, hs, Effect.Explains, hbefore] using hlist
    | _ => simpa [effect, hs, Effect.Explains, hbefore] using hlist
  · rw [if_neg hn] at h
    have hn' : ¬ asked = name := fun he => hn he.symm
    cases change <;> simpa [effect, hs, hn', Effect.Explains] using h

/-- What is known of a list after an event is what the effect of the event says. -/
theorem explains (h : event.after.list? name arch = some rules) :
    (event.effect name arch).Explains event.before name arch rules := by
  obtain ⟨session, asked, request⟩ := event
  rcases session.step_cases asked request with ⟨hok, hcarries⟩ | ⟨hrefused, hsame⟩
  · have hs : succeeded ⟨session, asked, request⟩ = true := succeeded_of_ok hok
    rw [after] at h
    dsimp only at h hcarries ⊢
    generalize (session.step asked request).1 = next at h hcarries
    cases hcarries with
    | @make action capabilities filter made =>
      rw [Session.list?_put] at h
      split_ifs at h with hn
      · subst hn
        simpa [effect, hs, Effect.Explains] using Filter.list?_of_make made h
      · have hn' : ¬ asked = name := fun he => hn he.symm
        simpa [effect, hs, hn', Effect.Explains] using h
    | change found applied => exact explains_change found applied hs h
    | @merge source target other merged released distinct found foundSource joined =>
      obtain ⟨hmerged, hreleased⟩ :
          merged.list? arch = (other.list? arch).or (target.list? arch) ∧
            released.list? arch = none := Filter.list?_of_merge joined
      rw [Session.list?_put, Session.list?_put] at h
      by_cases hsource : name = source
      · -- The source holds no list any more.
        rw [if_pos hsource, hreleased] at h
        nomatch h
      · rw [if_neg hsource] at h
        have hother : session.list? source arch = other.list? arch :=
          Session.list?_of_filter? foundSource
        have hcovers : session.covers source arch = (other.list? arch).isSome := by
          rw [Session.covers_eq, hother]
        split_ifs at h with hn
        · subst hn
          have htarget : session.list? name arch = target.list? arch :=
            Session.list?_of_filter? found
          rw [hmerged] at h
          cases ho : other.list? arch with
          | some own =>
            rw [ho] at h
            simpa [effect, hs, hcovers, ho, Effect.Explains, hother] using h
          | none =>
            rw [ho] at h
            simpa [effect, hs, hcovers, ho, Effect.Explains, htarget] using h
        · have hn' : ¬ asked = name := fun he => hn he.symm
          simpa [effect, hs, hn', Effect.Explains] using h
    | load found loaded =>
      have hsame : session.list? name arch = some rules := by
        rw [Session.list?_put] at h
        split_ifs at h with hn
        · rw [hn, Session.list?_of_filter? found, ← Filter.list?_of_load loaded, h]
        · exact h
      simpa [effect, hs, Effect.Explains] using hsame
  · -- A refused request changes nothing.
    have hs : succeeded ⟨session, asked, request⟩ = false := hrefused
    have hbefore : session.list? name arch = some rules := by
      rw [← hsame]
      exact h
    simpa [effect, hs, Effect.Explains] using hbefore

end Event

/-- Every list of a session holds what the past events asked it to hold. -/
def Session.Recorded (session : Session) (past : List Event) : Prop :=
  ∀ name arch rules, session.list? name arch = some rules →
    rules = (history past name arch).filterMap fun asked => asked.entry? arch

namespace Session

variable {session : Session} {past : List Event}

theorem recorded_empty : Session.empty.Recorded [] :=
  fun _ _ _ h => nomatch h

/-- One more event is recorded with what it asked for. -/
theorem Recorded.step (h : session.Recorded past) (name : String) (request : Request) :
    (session.step name request).1.Recorded (⟨session, name, request⟩ :: past) := by
  intro held arch rules hl
  have hexplains :
      (Event.effect ⟨session, name, request⟩ held arch).Explains session held arch rules :=
    Event.explains hl
  rw [history]
  cases he : Event.effect ⟨session, name, request⟩ held arch with
  | created =>
    rw [he] at hexplains
    rw [show rules = [] from hexplains]
    rfl
  | asked rule =>
    rw [he] at hexplains
    obtain ⟨own, ho, rfl⟩ := hexplains
    rw [h held arch own ho, List.filterMap_append, List.filterMap_cons]
    cases rule.entry? arch <;> rfl
  | movedFrom source =>
    rw [he] at hexplains
    exact h source arch rules hexplains
  | untouched =>
    rw [he] at hexplains
    exact h held arch rules hexplains

/-- So a run is recorded with all its events, the latest one first. -/
theorem Recorded.run (h : session.Recorded past) (requests : List (String × Request)) :
    (session.run requests).Recorded ((session.events requests).reverse ++ past) := by
  induction requests generalizing session past with
  | nil => exact h
  | cons request rest ih =>
    obtain ⟨name, request⟩ := request
    rw [Session.events, List.reverse_cons, List.append_assoc]
    exact ih (h.step name request)

end Session

/-- After a run of requests, the rules of a covered architecture are those that its list was asked
to hold since it was created, in the order in which they were asked for, each under the number that
the architecture gives to the name of its call. Calls that the architecture lacks are left out. -/
theorem Filter.rules_eq_history {requests : List (String × Request)} {name : String}
    {filter : Filter} {arch : Arch}
    (hf : (Session.empty.run requests).filter? name = some filter)
    (hc : filter.hasArch arch = .ok true) :
    filter.rules arch = .ok ((history (Session.empty.events requests).reverse name arch).filterMap
      fun asked => asked.entry? arch) := by
  obtain ⟨rules, hr⟩ := Option.isSome_iff_exists.mp (hasArch_eq_ok_true_iff.mp hc)
  have hrecorded := Session.recorded_empty.run requests
  rw [List.append_nil] at hrecorded
  have hlist : (Session.empty.run requests).list? name arch = some rules := by
    rw [Session.list?_of_filter? hf, hr]
  rw [rules_eq_ok hr, hrecorded name arch rules hlist]

/-- A filter for riscv64 alone is asked for two calls, of which the architecture lacks the first, and
is merged into another, which is then asked for a third. -/
theorem Filter.rules_eq_history_merged :
    let requests : List (String × Request) :=
      [("a", .make .allow ⟨6, none⟩), ("a", .change (.addRule ⟨2⟩ (.errno 13) [])),
        ("b", .make .allow ⟨6, none⟩), ("b", .change (.addArch .riscv64)),
        ("b", .change (.removeArch .x8664)), ("b", .change (.addRule ⟨2⟩ (.errno 13) [])),
        ("b", .change (.addRule ⟨257⟩ (.errno 1) [⟨2, .masked 3 1⟩])),
        ("a", .change (.addRule ⟨-1⟩ .trap [])), ("a", .merge "b"),
        ("a", .change (.addRule ⟨0⟩ .trap []))]
    ∃ filter, (Session.empty.run requests).filter? "a" = some filter ∧
      filter.rules .riscv64 =
        .ok [⟨⟨56⟩, .errno 1, [⟨2, .masked 3 1⟩]⟩, ⟨⟨63⟩, .trap, []⟩] := by
  intro requests
  have hh : ((Session.empty.run requests).filter? "a").map (fun filter => filter.hasArch .riscv64) =
      some (.ok true) := by decide +kernel
  obtain ⟨filter, hf, hc⟩ := Option.map_eq_some_iff.mp hh
  have he : (history (Session.empty.events requests).reverse "a" .riscv64).filterMap
      (fun asked => asked.entry? .riscv64) =
        [⟨⟨56⟩, .errno 1, [⟨2, .masked 3 1⟩]⟩, ⟨⟨63⟩, .trap, []⟩] := by decide +kernel
  exact ⟨filter, hf, by rw [rules_eq_history hf hc, he]⟩

end SyscallFilter
