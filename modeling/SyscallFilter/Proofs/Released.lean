import Mathlib.Tactic
import SyscallFilter.Filter.Query
import SyscallFilter.Proofs.History

/-!
A released filter stays released. Whatever is asked of it fails without a trace, and it fails for the
release wherever the level and the arguments are such that a filter would take them. Level and
arguments are checked first, so that what they do not admit is refused as with any other filter.
-/

namespace SyscallFilter

/-- A check that is passed under a condition, and that has a reason of its own to fail. -/
structure Checks {α : Type} (result : Except Error α) (condition : Prop) : Prop where
  passed : result.isOk ↔ condition
  own : result ≠ .error .filterReleased

/-- A failure that is put down to the release just where a condition holds. -/
def Refused {α : Type} (result : Except Error α) (condition : Prop) : Prop :=
  ∃ error, result = .error error ∧ (error = .filterReleased ↔ condition)

/-- What comes after a check fails for the release where the check and it would both be fine. -/
theorem Refused.after {α β : Type} {check : Except Error α} {next : α → Except Error β}
    {first rest : Prop} (hcheck : Checks check first) (hnext : ∀ a, Refused (next a) rest) :
    Refused (check >>= next) (first ∧ rest) := by
  cases hc : check with
  | error error =>
    have hfails : ¬ first := by
      rw [← hcheck.passed, hc]
      exact Bool.false_ne_true
    have hown : error ≠ .filterReleased := by
      intro he
      exact hcheck.own (by rw [hc, he])
    exact ⟨error, rfl, ⟨fun he => absurd he hown, fun h => absurd h.1 hfails⟩⟩
  | ok a =>
    have hpasses : first := by
      rw [← hcheck.passed, hc]
      rfl
    obtain ⟨error, he, hiff⟩ := hnext a
    exact ⟨error, he, hiff.trans (and_iff_right hpasses).symm⟩

theorem Refused.congr {α : Type} {result : Except Error α} {condition other : Prop}
    (h : Refused result condition) (hc : condition ↔ other) : Refused result other := by
  obtain ⟨error, he, hiff⟩ := h
  exact ⟨error, he, hiff.trans hc⟩

/-- A reason taken over from elsewhere is never the release. -/
theorem Checks.mapError {ε α : Type} {wrap : ε → Error}
    (hwrap : ∀ cause, wrap cause ≠ .filterReleased) (result : Except ε α) : Checks (result.mapError wrap) result.isOk := by
  cases result with
  | error cause => exact ⟨Iff.rfl, fun h => hwrap cause (Except.error.inj h)⟩
  | ok a => exact ⟨Iff.rfl, (nomatch ·)⟩

theorem Checks.congr {α : Type} {result : Except Error α} {condition other : Prop}
    (h : Checks result condition) (hc : condition ↔ other) : Checks result other :=
  ⟨h.passed.trans hc, h.own⟩

namespace Condition

theorem isOk_checkDistinct (conditions : List Condition) :
    (checkDistinct conditions).isOk ↔ (conditions.map (·.arg)).Nodup := by
  constructor
  · intro h
    obtain ⟨_, hc⟩ := exists_ok_of_isOk h
    exact checkDistinct_eq_ok_iff.mp hc
  · intro hd
    rw [checkDistinct_eq_ok_iff.mpr hd]
    rfl

end Condition

theorem Syscall.isOk_nameOn (call : Syscall) (arch : Arch) :
    (call.nameOn arch).isOk ↔ (call.name? arch).isSome := by
  rw [nameOn]
  split_ifs with hneg
  · rw [name?, if_pos hneg]
    exact Iff.rfl
  · cases call.name? arch with
    | none => exact Iff.rfl
    | some name => exact Iff.rfl

theorem Action.checks (action : Action) : Checks action.check (action ≠ .invalid) := by
  rw [check, isValid]
  by_cases ha : action = .invalid
  · subst ha
    exact ⟨by decide, by decide⟩
  · rw [if_pos (bne_iff_ne.mpr ha)]
    exact ⟨iff_of_true rfl ha, by simp⟩

theorem Capabilities.checks_require (capabilities : Capabilities) (feature : Feature) :
    Checks (capabilities.require feature) (feature.level ≤ capabilities.level) := by
  rw [require, requireLevel]
  split_ifs with hlow
  · exact ⟨iff_of_false Bool.false_ne_true (Nat.not_le.mpr hlow), by simp⟩
  · exact ⟨iff_of_true rfl (Nat.not_lt.mp hlow), by simp⟩

/-- Whether the level and the arguments admit a change, whatever the filter holds. -/
def Change.Acceptable (capabilities : Capabilities) : Change → Prop
  | .reset action => action ≠ .invalid
  | .setDefaultAction action => action ≠ .invalid
  | .setBadArchAction action => action ≠ .invalid
  | .setLog _ => 3 ≤ capabilities.level
  | .setSpeculation _ => 4 ≤ capabilities.level
  | .setThreadSync _ => 2 ≤ capabilities.level
  | .addRule call action conditions =>
    action ≠ .invalid ∧ (call.name? .native).isSome ∧ (conditions.map (·.arg)).Nodup
  | _ => True

/-- Whether the level admits a question. -/
def Query.Acceptable (capabilities : Capabilities) : Query → Prop
  | .log => 3 ≤ capabilities.level
  | .speculation => 4 ≤ capabilities.level
  | .threadSync => 2 ≤ capabilities.level
  | .listener => 6 ≤ capabilities.level
  | .channel => 6 ≤ capabilities.level
  | _ => True

namespace Filter

variable {filter : Filter}

theorem state_of_released (h : filter.state? = none) : filter.state = .error .filterReleased := by
  rw [state, h]

theorem refused_modify (h : filter.state? = none) (change : FilterState → FilterState) :
    Refused (filter.modify change) True := by
  rw [modify, state_of_released h]
  exact ⟨_, rfl, iff_of_true rfl trivial⟩

theorem refused_state_map {α : Type} (h : filter.state? = none) (read : FilterState → α) :
    Refused (filter.state.map read) True := by
  rw [state_of_released h]
  exact ⟨_, rfl, iff_of_true rfl trivial⟩

theorem program_of_released (h : filter.state? = none) : filter.program = .error .filterReleased := by
  rw [program, state_of_released h]
  rfl

theorem load_of_released (h : filter.state? = none) (kernel : LoadKernel) :
    filter.load kernel = ⟨.error .filterReleased, []⟩ := by
  rw [load, state_of_released h]

/-- No change of a released filter succeeds but to release it once more. -/
theorem refused_apply (h : filter.state? = none) {change : Change} (hc : change ≠ .release) :
    Refused (filter.apply change) (change.Acceptable filter.capabilities) := by
  have hchecked {check : Except Error Unit} {condition : Prop} (hcheck : Checks check condition)
      (how : FilterState → FilterState) :
      Refused (check >>= fun _ => filter.modify how) condition :=
    (Refused.after hcheck fun _ => refused_modify h how).congr (Iff.of_eq (and_true _))
  cases change with
  | release => exact absurd rfl hc
  | reset action => exact hchecked action.checks _
  | addArch arch => exact refused_modify h _
  | removeArch arch =>
    rw [Filter.apply, removeArch, state_of_released h]
    exact ⟨_, rfl, iff_of_true rfl trivial⟩
  | setDefaultAction action => exact hchecked action.checks _
  | setBadArchAction action => exact hchecked action.checks _
  | setNoNewPrivs on => exact refused_modify h _
  | setLog on => exact hchecked (filter.capabilities.checks_require .log) _
  | setSpeculation on => exact hchecked (filter.capabilities.checks_require .speculation) _
  | setThreadSync on => exact hchecked (filter.capabilities.checks_require .threadSync) _
  | addRule call action conditions =>
    have hcauses : (∀ cause, Error.syscall cause ≠ .filterReleased) ∧
        ∀ cause, Error.condition cause ≠ .filterReleased :=
      ⟨fun _ => (nomatch ·), fun _ => (nomatch ·)⟩
    have hcall := (Checks.mapError hcauses.1 (call.nameOn .native)).congr (call.isOk_nameOn .native)
    have hdistinct := (Checks.mapError hcauses.2 (Condition.checkDistinct conditions)).congr
      (Condition.isOk_checkDistinct conditions)
    exact Refused.after action.checks fun _ => Refused.after hcall fun _ => hchecked hdistinct _

/-- Every question to a released filter is turned down. -/
theorem refused_answer (h : filter.state? = none) (query : Query) :
    Refused (filter.answer query) (query.Acceptable filter.capabilities) := by
  have hchecked {α : Type} (feature : Feature) {next : Except Error α} (hnext : Refused next True) :
      Refused (filter.capabilities.require feature >>= fun _ => next)
        (feature.level ≤ filter.capabilities.level) :=
    (Refused.after (filter.capabilities.checks_require feature) fun _ => hnext).congr
      (Iff.of_eq (and_true _))
  have hlistener : Refused filter.listener (6 ≤ filter.capabilities.level) := by
    rw [listener, state_of_released h]
    exact hchecked .notification ⟨_, rfl, iff_of_true rfl trivial⟩
  cases query with
  | log => exact hchecked .log (refused_state_map h _)
  | speculation => exact hchecked .speculation (refused_state_map h _)
  | threadSync => exact hchecked .threadSync (refused_state_map h _)
  | rules arch =>
    rw [answer, rules, state_of_released h]
    exact ⟨_, rfl, iff_of_true rfl trivial⟩
  | program =>
    rw [answer, program_of_released h]
    exact ⟨_, rfl, iff_of_true rfl trivial⟩
  | listener => exact hlistener
  | channel =>
    obtain ⟨error, he, hiff⟩ := hlistener
    refine ⟨error, ?_, hiff⟩
    rw [answer, openChannel, he]
    rfl
  | exportProgram room =>
    rw [answer, exportProgram, program_of_released h]
    exact ⟨_, rfl, iff_of_true rfl trivial⟩
  | exportListing room =>
    rw [answer, exportListing, state_of_released h]
    exact ⟨_, rfl, iff_of_true rfl trivial⟩
  | _ => exact refused_state_map h _

theorem written_of_released (h : filter.state? = none) (query : Query) :
    filter.written query = [] := by
  cases query with
  | exportProgram room =>
    rw [written, exportProgram, program_of_released h]
    rfl
  | exportListing room =>
    rw [written, exportListing, state_of_released h]
    rfl
  | _ => rfl

/-- No filter merges with a released one. -/
theorem merge_of_released {target source : Filter}
    (h : target.state? = none ∨ source.state? = none) :
    target.merge source = .error .filterReleased := by
  rw [merge]
  rcases h with ht | hs
  · rw [state_of_released ht]
    rfl
  · rw [state_of_released hs]
    cases hheld : target.state? with
    | none =>
      rw [state_of_released hheld]
      rfl
    | some held =>
      rw [state, hheld]
      rfl

end Filter

/-- Whether a request under a name makes a filter. -/
def Event.makes (event : Event) (name : String) : Bool :=
  event.succeeded && event.name == name &&
    match event.request with
    | .make _ _ => true
    | _ => false

/-- Whether a request made under one name would release the filter under another: it is released, or
merged away. -/
def Request.Releases (request : Request) (actor name : String) : Prop :=
  actor = name ∧ request = .change .release ∨ request = .merge name

namespace Session

/-- All that is asked of the filter under a name fails without a trace. Where it is not put down to
the release, the level or an argument does not admit it. -/
structure Refuses (session : Session) (name : String) (filter : Filter) : Prop where
  invalid : filter.isValid = false
  change (change : Change) : change ≠ .release →
    ∃ error, session.step name (.change change) = (session, ⟨.error (.refused error), []⟩) ∧
      (error = .filterReleased ↔ change.Acceptable filter.capabilities)
  load (kernel : LoadKernel) :
    session.step name (.load kernel) = (session, ⟨.error (.refused .filterReleased), []⟩)
  mergeInto (other : String) : other ≠ name → (session.filter? other).isSome →
    session.step name (.merge other) = (session, ⟨.error (.refused .filterReleased), []⟩)
  mergeFrom (other : String) : other ≠ name → (session.filter? other).isSome →
    session.step other (.merge name) = (session, ⟨.error (.refused .filterReleased), []⟩)
  query (query : Query) :
    ∃ error, filter.answer query = .error error ∧ filter.written query = [] ∧
      (error = .filterReleased ↔ query.Acceptable filter.capabilities)

variable {session : Session} {name : String} {filter : Filter}

theorem merge_of_released {source : String} {target other : Filter} (hne : source ≠ name)
    (ht : session.filter? name = some target) (ho : session.filter? source = some other)
    (h : target.state? = none ∨ other.state? = none) :
    session.merge name source = (session, ⟨.error (.refused .filterReleased), []⟩) := by
  rw [merge, if_neg hne, ht, ho]
  simp only [Filter.merge_of_released h]

theorem refuses_of_released (hf : session.filter? name = some filter) (h : filter.state? = none) :
    session.Refuses name filter where
  invalid := by rw [Filter.isValid, h, Option.isSome_none]
  change change hc := by
    obtain ⟨error, he, hiff⟩ := Filter.refused_apply h hc
    refine ⟨error, ?_, hiff⟩
    rw [step, hf]
    dsimp only
    rw [he, keep]
  load kernel := by
    rw [step, hf]
    dsimp only
    rw [Filter.load_of_released h, keep]
  mergeInto other hne hother := by
    obtain ⟨source, ho⟩ := Option.isSome_iff_exists.mp hother
    exact merge_of_released hne hf ho (.inl h)
  mergeFrom other hne hother := by
    obtain ⟨target, ho⟩ := Option.isSome_iff_exists.mp hother
    exact merge_of_released hne.symm ho hf (.inr h)
  query query := by
    obtain ⟨error, he, hiff⟩ := Filter.refused_answer h query
    exact ⟨error, he, Filter.written_of_released h query, hiff⟩

/-- A request that releases a filter leaves it released. -/
theorem exists_released {actor : String} {request : Request} (hreleases : request.Releases actor name)
    (hok : (session.step actor request).2.result = .ok ()) :
    ∃ filter, (session.step actor request).1.filter? name = some filter ∧ filter.state? = none := by
  have hcarries : session.Carries actor request (session.step actor request).1 :=
    @Event.carries ⟨session, actor, request⟩ (Event.succeeded_of_ok hok)
  generalize (session.step actor request).1 = next at hcarries
  obtain ⟨rfl, rfl⟩ | rfl := hreleases
  · cases hcarries with
    | @change _ filter _ _ applied =>
      obtain rfl := Except.ok.inj applied
      exact ⟨filter.release, by rw [filter?_put, if_pos rfl], rfl⟩
  · cases hcarries with
    | @merge _ _ other _ _ _ _ _ joined =>
      obtain ⟨_, _, -, -, -, rfl⟩ := Filter.of_merge joined
      exact ⟨other.release, by rw [filter?_put, if_pos rfl], rfl⟩

/-- One more request leaves a released filter as it is, unless another is made in its place. -/
theorem filter?_step_of_released (hf : session.filter? name = some filter)
    (h : filter.state? = none) {actor : String} {request : Request}
    (hmakes : Event.makes ⟨session, actor, request⟩ name = false) :
    (session.step actor request).1.filter? name = some filter := by
  obtain ⟨hok, hcarries⟩ | ⟨-, hkept⟩ := session.step_cases actor request
  · generalize (session.step actor request).1 = next at hcarries
    cases hcarries with
    | make made =>
      have hne : name ≠ actor := by
        rintro rfl
        simp [Event.makes, Event.succeeded, hok, Except.isOk, Except.toBool] at hmakes
      rw [filter?_put, if_neg hne, hf]
    | @change change found after hfound applied =>
      rw [filter?_put]
      split_ifs with hn
      · subst hn
        obtain rfl := Option.some.inj (hf.symm.trans hfound)
        -- To be released once more is all that does not fail, and changes nothing.
        by_cases hc : change = .release
        · subst hc
          obtain rfl := Except.ok.inj applied
          rw [Filter.release, ← h]
        · obtain ⟨error, he, -⟩ := Filter.refused_apply h hc
          rw [he] at applied
          cases applied
      · exact hf
    | @merge source target other merged released distinct found foundSource joined =>
      have hreleased {held : Filter} (hheld : session.filter? name = some held) :
          held.state? = none := by
        rw [← Option.some.inj (hf.symm.trans hheld), h]
      rw [filter?_put, filter?_put]
      split_ifs with hs ha
      · subst hs
        rw [Filter.merge_of_released (.inr (hreleased foundSource))] at joined
        cases joined
      · subst ha
        rw [Filter.merge_of_released (.inl (hreleased found))] at joined
        cases joined
      · exact hf
    | @load kernel found after hfound loaded =>
      rw [filter?_put]
      split_ifs with hn
      · subst hn
        obtain rfl := Option.some.inj (hf.symm.trans hfound)
        rw [Filter.load_of_released h] at loaded
        cases loaded
      · exact hf
  · rw [hkept, hf]

/-- So does every later run. -/
theorem filter?_run_of_released (hf : session.filter? name = some filter)
    (h : filter.state? = none) {later : List (String × Request)}
    (hmakes : ∀ event ∈ session.events later, event.makes name = false) :
    (session.run later).filter? name = some filter := by
  induction later generalizing session with
  | nil => exact hf
  | cons first rest ih =>
    obtain ⟨actor, request⟩ := first
    obtain ⟨hfirst, hrest⟩ := List.forall_mem_cons.mp hmakes
    exact ih (filter?_step_of_released hf h hfirst) hrest

/-- Once a filter is released or merged away, and until another is made under its name, it refuses
all that is asked of it. -/
theorem release_is_final {actor : String} {request : Request}
    (hreleases : request.Releases actor name)
    (hok : (session.step actor request).2.result = .ok ()) {later : List (String × Request)}
    (hmakes : ∀ event ∈ (session.step actor request).1.events later, event.makes name = false) :
    ∃ filter, ((session.step actor request).1.run later).filter? name = some filter ∧
      ((session.step actor request).1.run later).Refuses name filter := by
  obtain ⟨filter, hf, h⟩ := exists_released hreleases hok
  have hstill := filter?_run_of_released hf h hmakes
  exact ⟨filter, hstill, refuses_of_released hstill h⟩

/-- A filter at level 2 is merged away, and then refuses a rule, a load and one more merge. -/
theorem release_is_final_merged :
    let session := Session.empty.run
      [("a", .make .allow ⟨6, none⟩), ("b", .make .allow ⟨2, none⟩), ("b", .change (.addArch .arm)),
        ("b", .change (.removeArch .x8664))]
    let later : List (String × Request) :=
      [("b", .change (.addRule ⟨2⟩ .trap [])), ("b", .load ⟨.ok (), fun _ _ => 0⟩),
        ("b", .make .invalid ⟨6, none⟩), ("a", .merge "b")]
    (session.step "a" (.merge "b")).2.result = .ok () ∧
      ∃ filter, ((session.step "a" (.merge "b")).1.run later).filter? "b" = some filter ∧
        ((session.step "a" (.merge "b")).1.run later).Refuses "b" filter := by
  intro session later
  have hok : (session.step "a" (.merge "b")).2.result = .ok () := by decide +kernel
  have hmakes : ((session.step "a" (.merge "b")).1.events later).all
      (fun event => !event.makes "b") = true := by decide +kernel
  refine ⟨hok, release_is_final (.inr rfl) hok fun event he => ?_⟩
  simpa using List.all_eq_true.mp hmakes event he

/-- What the level or an argument does not admit is not put down to the release. -/
theorem released_reports_other :
    let session := Session.empty.run [("a", .make .allow ⟨2, none⟩), ("a", .change .release)]
    ∃ filter, session.filter? "a" = some filter ∧ filter.isValid = false ∧
      filter.log = .error (.notSupported "log bit" 3 2) ∧
      (session.step "a" (.change (.reset .invalid))).2.result = .error (.refused .invalidAction) ∧
      (session.step "a" (.change (.addRule ⟨-1⟩ .trap []))).2.result =
        .error (.refused (.syscall (.negative (-1)))) :=
  ⟨_, rfl, rfl, rfl, rfl, rfl⟩

end Session

end SyscallFilter
