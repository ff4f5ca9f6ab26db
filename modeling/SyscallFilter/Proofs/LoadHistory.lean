import Mathlib.Tactic
import SyscallFilter.Proofs.Released

/-!
What the loads of a filter leave behind. A filter counts as loaded from its first load that succeeds
until it is reset or released, whatever becomes of later loads and whatever is changed in between.
The kernel is asked for a listener until it hands one out, and then no more until a reset; until then
the filter keeps that listener.
-/

namespace SyscallFilter

namespace Event

/-- Whether a request gives the filter under a name its initial state: it is made, or reset. -/
def founds (event : Event) (name : String) : Bool :=
  event.succeeded && event.name == name &&
    match event.request with
    | .make _ _ => true
    | .change (.reset _) => true
    | _ => false

/-- The calls to the kernel. -/
def calls (event : Event) : List LoadCall :=
  (event.before.step event.name event.request).2.calls

/-- The filter under a name is loaded. -/
def Loads (event : Event) (name : String) : Prop :=
  event.succeeded ∧ event.name = name ∧ ∃ kernel, event.request = .load kernel

/-- The filter under a name is installed with the wish for a listener, whether the kernel grants it
or not. -/
def AsksListener (event : Event) (name : String) : Prop :=
  event.name = name ∧ ∃ flags program, .install flags program ∈ event.calls ∧ flags.newListener

/-- The filter under a name is installed with the wish for a listener, and this is the one that the
kernel hands out. -/
def Opens (event : Event) (name : String) (listener : Nat) : Prop :=
  event.name = name ∧ ∃ kernel flags program, event.request = .load kernel ∧
    .install flags program ∈ event.calls ∧ flags.newListener ∧
    kernel.install flags program = listener

end Event

/-- The events since the filter under a name was made or reset for the last time. The events are
given with the latest one first. -/
def since (name : String) (past : List Event) : List Event :=
  past.takeWhile fun event => !event.founds name

theorem since_cons (name : String) (event : Event) (past : List Event) :
    since name (event :: past) = if event.founds name then [] else event :: since name past := by
  rw [since, List.takeWhile_cons]
  cases event.founds name <;> rfl

namespace FilterState

variable {state next : FilterState} {flags : InstallFlags}

/-- An installation that is accepted makes the filter a loaded one, and brings a listener where one
was asked for. -/
theorem loads_of_installed {answer : Int} (h : state.installed flags answer = .ok next) :
    0 ≤ answer ∧ next.loaded = true ∧
      next.listener = if flags.newListener then some answer.toNat else state.listener := by
  rw [installed] at h
  split_ifs at h with hneg hlistener hpos
  · obtain rfl := Except.ok.inj h
    exact ⟨not_lt.mp hneg, rfl, by rw [if_pos hlistener]⟩
  · obtain rfl := Except.ok.inj h
    exact ⟨not_lt.mp hneg, rfl, by rw [if_neg hlistener]⟩

/-- No answer that is a listener is a failure. -/
theorem isOk_installed (hl : flags.newListener) (listener : Nat) :
    (state.installed flags listener).isOk := by
  rw [installed, if_neg (not_lt.mpr (Int.natCast_nonneg listener)), if_pos hl]
  rfl

/-- A listener is asked for only where there is none. -/
theorem listener_eq_none {capabilities : Capabilities}
    (h : (state.installFlags capabilities).newListener) : state.listener = none := by
  rw [installFlags, Bool.and_eq_true] at h
  exact Option.isNone_iff_eq_none.mp h.2

end FilterState

namespace Filter

variable {filter after : Filter} {state : FilterState}

/-- A load fails before the installation, or it makes one installation and comes to what that comes
to. -/
theorem load_cases (hs : filter.state? = some state) (kernel : LoadKernel) :
    ((filter.load kernel).result.isOk = false ∧
        ∀ flags program, .install flags program ∉ (filter.load kernel).calls) ∨
      ∃ program,
        (∀ flags other, .install flags other ∈ (filter.load kernel).calls ↔
          flags = state.installFlags filter.capabilities ∧ other = program) ∧
        (filter.load kernel).result =
          (state.installed (state.installFlags filter.capabilities)
            (kernel.install (state.installFlags filter.capabilities) program)).map
              fun next => { filter with state? := some next } := by
  have hstate : filter.state = .ok state := by rw [Filter.state, hs]
  rw [load, hstate]
  cases hp : filter.program with
  | error error => exact .inl ⟨rfl, by simp⟩
  | ok program =>
    dsimp only
    cases state.attributes.noNewPrivs with
    | false => exact .inr ⟨program, by simp, rfl⟩
    | true =>
      cases kernel.noNewPrivs with
      | error number => exact .inl ⟨rfl, by simp⟩
      | ok _ => exact .inr ⟨program, by simp, rfl⟩

/-- A load that succeeds makes the filter a loaded one, and adds the listener that it opens. -/
theorem loads_of_load {kernel : LoadKernel} (hl : (filter.load kernel).result = .ok after)
    {next : FilterState} (hn : after.state? = some next) :
    ∃ state, filter.state? = some state ∧ next.loaded = true ∧
      ∀ listener, next.listener = some listener ↔
        state.listener = some listener ∨
          ∃ flags program, .install flags program ∈ (filter.load kernel).calls ∧
            flags.newListener ∧ kernel.install flags program = (listener : Nat) := by
  obtain ⟨state, -, hs, -, -, -⟩ := of_load hl
  obtain ⟨hfails, -⟩ | ⟨program, hcalls, hresult⟩ := load_cases hs kernel
  · rw [hl] at hfails
    nomatch hfails
  generalize hflags : state.installFlags filter.capabilities = flags at hcalls hresult
  rw [hl] at hresult
  cases hi : state.installed flags (kernel.install flags program) with
  | error error =>
    rw [hi] at hresult
    nomatch hresult
  | ok installed =>
    rw [hi] at hresult
    obtain rfl := Except.ok.inj hresult
    obtain rfl := Option.some.inj hn
    obtain ⟨hanswer, hloaded, hlistener⟩ := FilterState.loads_of_installed hi
    refine ⟨state, hs, hloaded, fun listener => ?_⟩
    -- There is but one installation that a listener can come from.
    have hopens : (∃ flags other, .install flags other ∈ (filter.load kernel).calls ∧
        flags.newListener ∧ kernel.install flags other = (listener : Nat)) ↔
          flags.newListener ∧ kernel.install flags program = listener := by
      constructor
      · rintro ⟨found, other, hmem, h⟩
        obtain ⟨rfl, rfl⟩ := (hcalls found other).mp hmem
        exact h
      · intro h
        exact ⟨flags, program, (hcalls flags program).mpr ⟨rfl, rfl⟩, h⟩
    rw [hlistener, hopens]
    by_cases hnew : flags.newListener = true
    · have hnone : state.listener = none := FilterState.listener_eq_none (hflags ▸ hnew)
      have hnumber : (kernel.install flags program).toNat = listener ↔
          kernel.install flags program = listener := by omega
      simp [hnew, hnone, hnumber]
    · simp [hnew]

/-- Whether a filter holds from its loads what a state holds from them. -/
def LoadedLike (filter : Filter) (next : FilterState) : Prop :=
  ∃ state, filter.state? = some state ∧ next.loaded = state.loaded ∧ next.listener = state.listener

theorem loadedLike_of_modify {how : FilterState → FilterState} (hm : filter.modify how = .ok after)
    (hk : ∀ state, (how state).loaded = state.loaded ∧ (how state).listener = state.listener)
    {next : FilterState} (hn : after.state? = some next) : filter.LoadedLike next := by
  obtain ⟨state, hs, rfl⟩ := of_modify hm
  obtain rfl := Option.some.inj hn
  exact ⟨state, hs, hk state⟩

/-- Of all changes only a reset touches what the loads left behind. -/
theorem loadedLike_of_apply {change : Change} (ha : filter.apply change = .ok after)
    (hc : ∀ action, change ≠ .reset action) {next : FilterState} (hn : after.state? = some next) :
    filter.LoadedLike next := by
  have hchecked {check : Except Error Unit} {how : FilterState → FilterState}
      (hm : (check >>= fun _ => filter.modify how) = .ok after)
      (hk : ∀ state, (how state).loaded = state.loaded ∧ (how state).listener = state.listener) :
      filter.LoadedLike next := by
    obtain ⟨_, -, hm⟩ := exists_of_bind_eq_ok hm
    exact loadedLike_of_modify hm hk hn
  cases change with
  | reset action => exact absurd rfl (hc action)
  | release =>
    obtain rfl := Except.ok.inj ha
    nomatch hn
  | addArch arch => exact loadedLike_of_modify ha (fun _ => ⟨rfl, rfl⟩) hn
  | removeArch arch =>
    obtain ⟨_, -, -, hm⟩ := of_removeArch ha
    exact loadedLike_of_modify hm (fun _ => ⟨rfl, rfl⟩) hn
  | setDefaultAction action => exact hchecked ha fun _ => ⟨rfl, rfl⟩
  | setBadArchAction action => exact hchecked ha fun _ => ⟨rfl, rfl⟩
  | setNoNewPrivs on => exact loadedLike_of_modify ha (fun _ => ⟨rfl, rfl⟩) hn
  | setLog on => exact hchecked ha fun _ => ⟨rfl, rfl⟩
  | setSpeculation on => exact hchecked ha fun _ => ⟨rfl, rfl⟩
  | setThreadSync on => exact hchecked ha fun _ => ⟨rfl, rfl⟩
  | addRule call action conditions =>
    obtain ⟨_, -, ha⟩ := exists_of_bind_eq_ok ha
    obtain ⟨_, -, ha⟩ := exists_of_bind_eq_ok ha
    exact hchecked ha fun _ => ⟨rfl, rfl⟩

end Filter

namespace Session

theorem calls_keep (session : Session) (name : String) (calls : List LoadCall)
    (result : Except Error Filter) : (session.keep name calls result).2.calls = calls := by
  cases result <;> rfl

theorem isOk_keep (session : Session) (name : String) (calls : List LoadCall)
    (result : Except Error Filter) :
    (session.keep name calls result).2.result.isOk = result.isOk := by
  cases result <;> rfl

theorem calls_merge (session : Session) (name source : String) :
    (session.merge name source).2.calls = [] := by
  rw [merge]
  split
  · split <;> rfl
  · rfl

end Session

namespace Event

variable {event : Event} {name : String}

/-- An installation is one of a load, of a filter that is there and has not been released, and the
load succeeds if the installation does. -/
theorem exists_of_install {flags : InstallFlags} {program : Program}
    (hi : .install flags program ∈ event.calls) :
    ∃ kernel filter state, event.request = .load kernel ∧
      event.before.filter? event.name = some filter ∧ filter.state? = some state ∧
      flags = state.installFlags filter.capabilities ∧
      event.succeeded = (state.installed flags (kernel.install flags program)).isOk := by
  obtain ⟨session, asked, request⟩ := event
  rw [calls] at hi
  dsimp only at hi ⊢
  cases request with
  | make action capabilities =>
    rw [Session.step, Session.calls_keep] at hi
    cases hi
  | change change =>
    rw [Session.step] at hi
    cases hf : session.filter? asked with
    | none =>
      rw [hf] at hi
      cases hi
    | some filter =>
      rw [hf] at hi
      dsimp only at hi
      rw [Session.calls_keep] at hi
      cases hi
  | merge source =>
    rw [Session.step, Session.calls_merge] at hi
    cases hi
  | load kernel =>
    rw [succeeded, Session.step]
    rw [Session.step] at hi
    cases hf : session.filter? asked with
    | none =>
      rw [hf] at hi
      cases hi
    | some filter =>
      rw [hf] at hi
      dsimp only at hi ⊢
      rw [Session.calls_keep] at hi
      rw [Session.isOk_keep]
      cases hs : filter.state? with
      | none =>
        rw [Filter.load_of_released hs] at hi
        cases hi
      | some state =>
        obtain ⟨-, hnone⟩ | ⟨only, hcalls, hresult⟩ := Filter.load_cases hs kernel
        · exact absurd hi (hnone flags program)
        obtain ⟨rfl, rfl⟩ := (hcalls flags program).mp hi
        refine ⟨kernel, filter, state, rfl, rfl, hs, rfl, ?_⟩
        rw [hresult]
        cases state.installed (state.installFlags filter.capabilities)
          (kernel.install (state.installFlags filter.capabilities) program) <;> rfl

/-- A load for which the kernel hands out a listener succeeds. -/
theorem Opens.loads {listener : Nat} (h : event.Opens name listener) : event.Loads name := by
  obtain ⟨hn, kernel, flags, program, hr, hi, hl, hanswer⟩ := h
  obtain ⟨kernel', filter, state, hr', -, -, -, hok⟩ := exists_of_install hi
  obtain rfl := Request.load.inj (hr.symm.trans hr')
  refine ⟨?_, hn, kernel, hr⟩
  rw [hok, hanswer]
  exact FilterState.isOk_installed hl listener

/-- Who asks for a listener has none. -/
theorem AsksListener.exists_without (h : event.AsksListener name) :
    ∃ filter state, event.before.filter? name = some filter ∧ filter.state? = some state ∧
      state.listener = none := by
  obtain ⟨rfl, flags, program, hi, hl⟩ := h
  obtain ⟨_, filter, state, -, hf, hs, rfl, -⟩ := exists_of_install hi
  exact ⟨filter, state, hf, hs, FilterState.listener_eq_none hl⟩

/-- A filter that was just made or reset has not been loaded. -/
theorem unloaded_of_founds (h : event.founds name) {filter : Filter} {state : FilterState}
    (hf : event.after.filter? name = some filter) (hs : filter.state? = some state) :
    state.loaded = false ∧ state.listener = none := by
  rw [founds, Bool.and_eq_true, Bool.and_eq_true, beq_iff_eq] at h
  obtain ⟨⟨hok, rfl⟩, hrequest⟩ := h
  have hcarries := carries hok
  generalize event.after = next at hcarries hf
  generalize event.request = request at hcarries hrequest
  cases hcarries with
  | make made =>
    rw [Session.filter?_put, if_pos rfl] at hf
    obtain rfl := Option.some.inj hf
    obtain ⟨_, -, made⟩ := exists_of_bind_eq_ok made
    obtain rfl := Except.ok.inj made
    obtain rfl := Option.some.inj hs
    exact ⟨rfl, rfl⟩
  | @change change old _ found applied =>
    rw [Session.filter?_put, if_pos rfl] at hf
    obtain rfl := Option.some.inj hf
    cases change with
    | reset action =>
      obtain ⟨_, -, hm⟩ := exists_of_bind_eq_ok applied
      obtain ⟨_, -, rfl⟩ := Filter.of_modify hm
      obtain rfl := Option.some.inj hs
      exact ⟨rfl, rfl⟩
    | _ => nomatch hrequest
  | merge => nomatch hrequest
  | load => nomatch hrequest

/-- A request that neither founds nor loads a filter leaves what its loads left behind. -/
theorem loads_kept (hfounds : event.founds name = false) (hloads : ¬ event.Loads name)
    {filter : Filter} {next : FilterState} (hf : event.after.filter? name = some filter)
    (hn : filter.state? = some next) :
    ∃ old, event.before.filter? name = some old ∧ old.LoadedLike next := by
  obtain ⟨session, asked, request⟩ := event
  rw [after] at hf
  dsimp only at hf ⊢
  obtain ⟨hok, hcarries⟩ | ⟨-, hkept⟩ := session.step_cases asked request
  · have hs : succeeded ⟨session, asked, request⟩ = true := succeeded_of_ok hok
    generalize (session.step asked request).1 = session' at hcarries hf
    cases hcarries with
    | make made =>
      have hne : name ≠ asked := by
        rintro rfl
        simp [founds, hs] at hfounds
      rw [Session.filter?_put, if_neg hne] at hf
      exact ⟨filter, hf, next, hn, rfl, rfl⟩
    | @change change old _ found applied =>
      rw [Session.filter?_put] at hf
      split_ifs at hf with he
      · subst he
        obtain rfl := Option.some.inj hf
        have hreset : ∀ action, change ≠ .reset action := by
          rintro action rfl
          simp [founds, hs] at hfounds
        exact ⟨old, found, Filter.loadedLike_of_apply applied hreset hn⟩
      · exact ⟨filter, hf, next, hn, rfl, rfl⟩
    | @merge source target other merged released distinct found foundSource joined =>
      obtain ⟨held, given, hheld, -, rfl, rfl⟩ := Filter.of_merge joined
      rw [Session.filter?_put, Session.filter?_put] at hf
      split_ifs at hf with hsource ht
      · obtain rfl := Option.some.inj hf
        cases hn
      · subst ht
        obtain rfl := Option.some.inj hf
        obtain rfl := Option.some.inj hn
        exact ⟨target, found, held, hheld, rfl, rfl⟩
      · exact ⟨filter, hf, next, hn, rfl, rfl⟩
    | @load kernel old _ found loaded =>
      have hne : name ≠ asked := fun he => hloads ⟨hs, he.symm, kernel, rfl⟩
      rw [Session.filter?_put, if_neg hne] at hf
      exact ⟨filter, hf, next, hn, rfl, rfl⟩
  · rw [hkept] at hf
    exact ⟨filter, hf, next, hn, rfl, rfl⟩

/-- A load that succeeds makes the filter a loaded one, and adds the listener that it opens. -/
theorem loads_added (hloads : event.Loads name) {filter : Filter} {next : FilterState}
    (hf : event.after.filter? name = some filter) (hn : filter.state? = some next) :
    ∃ old state, event.before.filter? name = some old ∧ old.state? = some state ∧
      next.loaded = true ∧
      ∀ listener, next.listener = some listener ↔
        state.listener = some listener ∨ event.Opens name listener := by
  obtain ⟨session, asked, request⟩ := event
  obtain ⟨hok, hname, kernel, hrequest⟩ := hloads
  dsimp only at hname hrequest
  subst hname hrequest
  have hcarries := carries hok
  generalize after ⟨session, asked, .load kernel⟩ = next' at hcarries hf
  cases hcarries with
  | @load _ old _ found loaded =>
    rw [Session.filter?_put, if_pos rfl] at hf
    obtain rfl := Option.some.inj hf
    obtain ⟨state, hs, hloaded, hlistener⟩ := Filter.loads_of_load loaded hn
    refine ⟨old, state, found, hs, hloaded, fun listener => ?_⟩
    have hcalls : calls ⟨session, asked, .load kernel⟩ = (old.load kernel).calls := by
      rw [calls, Session.step, found]
      exact session.calls_keep asked _ _
    rw [hlistener listener, Opens, hcalls]
    refine or_congr_right ⟨?_, ?_⟩
    · rintro ⟨flags, program, h⟩
      exact ⟨rfl, kernel, flags, program, rfl, h⟩
    · rintro ⟨_, _, flags, program, hk, h⟩
      obtain rfl := Request.load.inj hk
      exact ⟨flags, program, h⟩

end Event

/-- What the loads of the filter under a name left behind, as the events since it was made or reset
have it; and once the kernel has handed out a listener it is not asked for another. -/
structure Session.Remembers (session : Session) (past : List Event) (name : String) : Prop where
  loaded {filter : Filter} {state : FilterState} : session.filter? name = some filter →
    filter.state? = some state →
    (state.loaded = true ↔ ∃ event ∈ since name past, event.Loads name)
  listener {filter : Filter} {state : FilterState} : session.filter? name = some filter →
    filter.state? = some state →
    ∀ listener, state.listener = some listener ↔
      ∃ event ∈ since name past, event.Opens name listener
  once : (since name past).Pairwise fun later earlier =>
    (∃ listener, earlier.Opens name listener) → ¬ later.AsksListener name

namespace Session

variable {session : Session} {past : List Event} {name : String}

theorem remembers_empty (name : String) : Session.empty.Remembers [] name where
  loaded := (nomatch ·)
  listener := (nomatch ·)
  once := .nil

/-- One more event is remembered. -/
theorem Remembers.step (h : session.Remembers past name) (asked : String) (request : Request) :
    (session.step asked request).1.Remembers (⟨session, asked, request⟩ :: past) name := by
  let event : Event := ⟨session, asked, request⟩
  change event.after.Remembers (event :: past) name
  by_cases hfounds : event.founds name = true
  · have hsince : since name (event :: past) = [] := by rw [since_cons, if_pos hfounds]
    refine ⟨fun hf hs => ?_, fun hf hs listener => ?_, ?_⟩
    · simp [hsince, (Event.unloaded_of_founds hfounds hf hs).1]
    · simp [hsince, (Event.unloaded_of_founds hfounds hf hs).2]
    · rw [hsince]
      exact .nil
  rw [Bool.not_eq_true] at hfounds
  have hsince : since name (event :: past) = event :: since name past := by
    rw [since_cons, hfounds, if_neg Bool.false_ne_true]
  -- A filter that asks for a listener has none, so that none was handed out since it was founded.
  have honce : (since name (event :: past)).Pairwise fun later earlier =>
      (∃ listener, earlier.Opens name listener) → ¬ later.AsksListener name := by
    rw [hsince, List.pairwise_cons]
    refine ⟨fun earlier he ⟨listener, hopens⟩ hasks => ?_, h.once⟩
    obtain ⟨filter, state, hf, hs, hnone⟩ := hasks.exists_without
    have hsome : state.listener = some listener :=
      (h.listener hf hs listener).mpr ⟨earlier, he, hopens⟩
    rw [hnone] at hsome
    nomatch hsome
  by_cases hloads : event.Loads name
  · refine ⟨fun hf hs => ?_, fun hf hs listener => ?_, honce⟩
    · obtain ⟨_, _, _, _, hloaded, _⟩ := Event.loads_added hloads hf hs
      simp [hsince, hloaded, hloads]
    · obtain ⟨old, state, hf', hs', _, hlistener⟩ := Event.loads_added hloads hf hs
      simp [hsince, hlistener, h.listener hf' hs', or_comm]
  · have hopens (listener : Nat) : ¬ event.Opens name listener := fun ho => hloads ho.loads
    refine ⟨fun hf hs => ?_, fun hf hs listener => ?_, honce⟩
    · obtain ⟨old, hf', state, hs', hloaded, _⟩ := Event.loads_kept hfounds hloads hf hs
      simp [hsince, hloaded, hloads, h.loaded hf' hs']
    · obtain ⟨old, hf', state, hs', _, hlistener⟩ := Event.loads_kept hfounds hloads hf hs
      simp [hsince, hlistener, hopens, h.listener hf' hs']

/-- So is a run with all its events, the latest one first. -/
theorem Remembers.run (h : session.Remembers past name) (requests : List (String × Request)) :
    (session.run requests).Remembers ((session.events requests).reverse ++ past) name := by
  induction requests generalizing session past with
  | nil => exact h
  | cons request rest ih =>
    obtain ⟨asked, request⟩ := request
    rw [Session.events, List.reverse_cons, List.append_assoc]
    exact ih (h.step asked request)

end Session

namespace Filter

variable {filter : Filter}

theorem listener_eq_ok_iff {listener : Nat} :
    filter.listener = .ok listener ↔
      6 ≤ filter.capabilities.level ∧
        ∃ state, filter.state? = some state ∧ state.listener = some listener := by
  constructor
  · intro h
    obtain ⟨_, hrequire, h⟩ := exists_of_bind_eq_ok h
    obtain ⟨state, hs, h⟩ := exists_of_bind_eq_ok h
    have hlevel : filter.capabilities.supports .notification :=
      Capabilities.supports_of_require hrequire
    refine ⟨of_decide_eq_true hlevel, state, state?_of_state hs, ?_⟩
    split at h
    · next own hown => rw [hown, Except.ok.inj h]
    · nomatch h
  · rintro ⟨hlevel, state, hs, hl⟩
    have hrequire : filter.capabilities.require .notification = .ok () := by
      rw [Capabilities.require, Capabilities.requireLevel]
      exact if_neg (Nat.not_lt.mpr hlevel)
    have hstate : filter.state = .ok state := by rw [Filter.state, hs]
    rw [Filter.listener, hrequire, hstate]
    simp only [bind, Except.bind, hl]
    rfl

/-- After a run of requests, a filter is loaded just if it is valid and a load has succeeded since it
was made or last reset. It has a listener just if it is valid, its level grants one, and the kernel
has handed that one out since then; and from then on it asks for no other. -/
theorem loads_eq_history {requests : List (String × Request)} {name : String}
    (hf : (Session.empty.run requests).filter? name = some filter) :
    let past := since name (Session.empty.events requests).reverse
    (filter.isLoaded = true ↔ filter.isValid = true ∧ ∃ event ∈ past, event.Loads name) ∧
      (∀ listener, filter.listener = .ok listener ↔
        filter.isValid = true ∧ 6 ≤ filter.capabilities.level ∧
          ∃ event ∈ past, event.Opens name listener) ∧
      past.Pairwise fun later earlier =>
        (∃ listener, earlier.Opens name listener) → ¬ later.AsksListener name := by
  intro past
  have hremembers := (Session.remembers_empty name).run requests
  rw [List.append_nil] at hremembers
  refine ⟨?_, fun listener => ?_, hremembers.once⟩
  · rw [isLoaded, isValid]
    cases hs : filter.state? with
    | none => simp
    | some state =>
      rw [Option.any_some, hremembers.loaded hf hs]
      simp [past]
  · rw [listener_eq_ok_iff, isValid]
    cases hs : filter.state? with
    | none => simp
    | some state => simp [hremembers.listener hf hs, past]

/-- The first load is refused as there is a listener elsewhere, the second one opens a listener, and
the filter keeps it through a merge, a load for another program and one that fails. -/
theorem loads_eq_history_reloaded :
    let requests : List (String × Request) :=
      [("a", .make .allow ⟨6, none⟩), ("a", .change (.addRule ⟨2⟩ .notify [])),
        ("a", .load ⟨.ok (), fun _ _ => -16⟩), ("a", .load ⟨.ok (), fun _ _ => 5⟩),
        ("b", .make .allow ⟨6, none⟩), ("b", .change (.addArch .arm)),
        ("b", .change (.removeArch .x8664)), ("a", .merge "b"),
        ("a", .load ⟨.ok (), fun _ _ => 0⟩), ("a", .load ⟨.error 1, fun _ _ => 7⟩)]
    let past := since "a" (Session.empty.events requests).reverse
    ∃ filter, (Session.empty.run requests).filter? "a" = some filter ∧
      filter.listener = .ok 5 ∧ (∃ event ∈ past, event.Loads "a") ∧
      ∃ event ∈ past, event.Opens "a" 5 := by
  intro requests past
  have hh : ((Session.empty.run requests).filter? "a").map
      (fun filter => (filter.isLoaded, filter.listener)) = some (true, .ok 5) := by decide +kernel
  obtain ⟨filter, hf, hanswers⟩ := Option.map_eq_some_iff.mp hh
  obtain ⟨hloaded, hlistener⟩ := Prod.mk.inj hanswers
  obtain ⟨hloads, hopens, -⟩ := loads_eq_history hf
  exact ⟨filter, hf, hlistener, (hloads.mp hloaded).2, ((hopens 5).mp hlistener).2.2⟩

end Filter

end SyscallFilter
