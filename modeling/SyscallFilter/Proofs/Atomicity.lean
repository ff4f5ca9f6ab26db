import Mathlib.Tactic
import SyscallFilter.Proofs.Requests
import SyscallFilter.Session.InPlace

/-!
An operation is carried out whole or not at all. Worked off step by step where the filters stand,
every request comes to what it comes to as a whole: no procedure fails once it has begun to change
a filter.
-/

namespace SyscallFilter

namespace PerArch

/-- Putting something in the place of one value after the other changes the values that are met. -/
theorem foldl_set {α : Type} (f : Arch → α → α) {arches : List Arch} (hd : arches.Nodup)
    (values : PerArch α) :
    arches.foldl (fun values arch => values.set arch (f arch (values.get arch))) values =
      values.map fun arch value => if arch ∈ arches then f arch value else value := by
  refine ext_get fun arch => ?_
  rw [get_map]
  induction arches generalizing values with
  | nil => rfl
  | cons first rest ih =>
    obtain ⟨hfirst, hrest⟩ := List.nodup_cons.mp hd
    rw [List.foldl_cons, ih hrest, get_set]
    by_cases he : arch = first
    · subst he
      simp [hfirst]
    · simp [he]

end PerArch

theorem Ruleset.nodup_arches (set : Ruleset) : set.arches.Nodup :=
  List.Nodup.filter _ (by decide)

/-- Going through the covered architectures meets every list there is. -/
theorem Ruleset.map_covered (set : Ruleset) {f : Arch → Option (List Rule) → Option (List Rule)}
    (hf : ∀ arch, f arch none = none) :
    (set.rules.map fun arch rules? => if arch ∈ set.arches then f arch rules? else rules?) =
      set.rules.map f := by
  refine PerArch.ext_get fun arch => ?_
  rw [PerArch.get_map, PerArch.get_map]
  cases hr : set.rules.get arch with
  | none => simp [hf]
  | some rules => simp [arches, arch.mem_all, hr]

/-- Altering one list after the other alters the lists that are met and nothing else. -/
theorem FilterState.foldl_alterList (f : Arch → Option (List Rule) → Option (List Rule))
    {arches : List Arch} (hd : arches.Nodup) (state : FilterState) :
    arches.foldl (fun state arch => state.alterList arch (f arch)) state =
      { state with
        ruleset.rules := state.ruleset.rules.map fun arch rules? =>
          if arch ∈ arches then f arch rules? else rules? } := by
  rw [← PerArch.foldl_set f hd]
  clear hd
  induction arches generalizing state with
  | nil => rfl
  | cons arch rest ih =>
    rw [List.foldl_cons, ih, List.foldl_cons]
    rfl

namespace Session

variable {session : Session} {name : String}

theorem put_of_filter? {filter : Filter} (h : session.filter? name = some filter) :
    session.put name filter = session := by
  refine congrArg Session.mk (funext fun other => ?_)
  split_ifs with he
  · rw [he, h]
  · rfl

theorem put_put (session : Session) (name : String) (first second : Filter) :
    (session.put name first).put name second = session.put name second := by
  refine congrArg Session.mk (funext fun other => ?_)
  split_ifs with he
  · rfl
  · exact if_neg he

theorem put_comm {other : String} (h : other ≠ name) (filter moved : Filter) :
    (session.put other moved).put name filter = (session.put name filter).put other moved := by
  refine congrArg Session.mk (funext fun sought => ?_)
  simp only [filter?_put]
  split_ifs with hn ho
  · exact absurd (ho.symm.trans hn) h
  · rfl
  · rfl
  · rfl

end Session

/-- Moving one list of a source after the other gives the target all its lists. -/
theorem FilterState.foldl_alterList_absorb (target source : FilterState) :
    source.ruleset.arches.foldl
        (fun state arch => state.alterList arch fun _ => source.ruleset.rules.get arch) target =
      target.absorb source := by
  have hrules : (target.ruleset.rules.map fun arch rules? =>
      if arch ∈ source.ruleset.arches then source.ruleset.rules.get arch else rules?) =
        .ofFn fun arch => (source.ruleset.rules.get arch).or (target.ruleset.rules.get arch) := by
    refine PerArch.ext_get fun arch => ?_
    rw [PerArch.get_map, PerArch.get_ofFn]
    cases hr : source.ruleset.rules.get arch with
    | none => simp [Ruleset.arches, hr]
    | some rules => simp [Ruleset.arches, arch.mem_all, hr]
  rw [foldl_alterList (fun arch _ => source.ruleset.rules.get arch) source.ruleset.nodup_arches,
    hrules, absorb]

theorem FilterState.alterList_self (state : FilterState) (arch : Arch) :
    state.alterList arch (fun rules? => rules?) = state := by
  have hrules : state.ruleset.rules.set arch (state.ruleset.rules.get arch) = state.ruleset.rules := by
    refine PerArch.ext_get fun other => ?_
    rw [PerArch.get_set]
    split_ifs with he
    · rw [he]
    · rfl
  rw [alterList, hrules]

/-- What a rule for a native call makes of the list of an architecture. -/
def Filter.withRule (call : Syscall) (action : Action) (conditions : List Condition) (arch : Arch)
    (rules? : Option (List Rule)) : Option (List Rule) :=
  match call.counterpart? .native arch with
  | some own => rules?.map fun rules => rules ++ [⟨own, action, conditions⟩]
  | none => rules?

theorem Filter.withRule_none (call : Syscall) (action : Action) (conditions : List Condition)
    (arch : Arch) : withRule call action conditions arch none = none := by
  rw [withRule]
  split <;> rfl

theorem Filter.modify_eq_bind (filter : Filter) (change : FilterState → FilterState) :
    filter.modify change = filter.state >>= fun state =>
      .ok { filter with state? := some (change state) } := by
  rw [modify]
  cases filter.state with
  | error error => rfl
  | ok state => rfl

namespace Procedure

variable {session : Session} {name : String} {filter : Filter} {state : FilterState}
  {calls : List LoadCall}

theorem run_find (h : session.filter? name = some filter) :
    (find name).run ⟨session, calls⟩ = .ok filter ⟨session, calls⟩ := by
  simp only [find, EStateM.run_bind, EStateM.run_get, h, EStateM.run_pure]

theorem run_find_bind {α : Type} {next : Filter → Procedure α}
    (h : session.filter? name = some filter) :
    (find name >>= next).run ⟨session, calls⟩ = (next filter).run ⟨session, calls⟩ := by
  rw [EStateM.run_bind, run_find h]

theorem run_find_none (h : session.filter? name = none) :
    (find name).run ⟨session, calls⟩ = .error .noSuchFilter ⟨session, calls⟩ := by
  simp only [find, EStateM.run_bind, EStateM.run_get, h]
  rfl

/-- Without a filter under the name a procedure ends where it looks for one. -/
theorem run_find_bind_none {α : Type} {next : Filter → Procedure α}
    (h : session.filter? name = none) :
    (find name >>= next).run ⟨session, calls⟩ = .error .noSuchFilter ⟨session, calls⟩ := by
  rw [EStateM.run_bind, run_find_none h]

theorem run_held_bind {α : Type} {next : FilterState → Procedure α}
    (h : session.filter? name = some filter) :
    (held name >>= next).run ⟨session, calls⟩ =
      (demand filter.state >>= next).run ⟨session, calls⟩ := by
  simp only [held, EStateM.run_bind, run_find h]

theorem run_change (h : session.filter? name = some filter) (hs : filter.state = .ok state)
    (how : FilterState → FilterState) :
    (change name how).run ⟨session, calls⟩ =
      .ok () ⟨session.put name { filter with state? := some (how state) }, calls⟩ := by
  rw [change, run_find_bind h, place, EStateM.run_modify, Filter.state?_of_state hs, Option.map_some]

/-- Where each step changes what a filter holds, so do all steps in a row. -/
theorem run_forM {α : Type} {step : α → Procedure Unit} {how : α → FilterState → FilterState}
    (hstep : ∀ a {session : Session} {filter : Filter} {state : FilterState},
      session.filter? name = some filter → filter.state = .ok state →
      (step a).run ⟨session, calls⟩ =
        .ok () ⟨session.put name { filter with state? := some (how a state) }, calls⟩)
    (h : session.filter? name = some filter) (hs : filter.state = .ok state) (steps : List α) :
    (steps.forM step).run ⟨session, calls⟩ =
      .ok () ⟨session.put name
        { filter with state? := some (steps.foldl (fun state a => how a state) state) }, calls⟩ := by
  induction steps generalizing session filter state with
  | nil =>
    rw [List.foldl_nil, ← Filter.state?_of_state hs, Session.put_of_filter? h]
    rfl
  | cons a rest ih =>
    -- The next step finds the filter that this one has put in place.
    rw [List.forM, EStateM.run_bind, hstep a h hs]
    dsimp only
    rw [ih (by rw [Session.filter?_put, if_pos rfl]) rfl, Session.put_put, List.foldl_cons]

/-- How a procedure ends that comes to a result for the filter under a name: the filter is replaced,
or nothing is. -/
def ended (session : Session) (name : String) (calls : List LoadCall) :
    Except Error Filter → EStateM.Result RequestError Progress Unit
  | .ok after => .ok () ⟨session.put name after, calls⟩
  | .error error => .error (.refused error) ⟨session, calls⟩

/-- A procedure that first demands something ends at once, or as it goes on. -/
theorem run_demand_bind {α : Type} {result : Except Error α} {next : α → Procedure Unit}
    {whole : α → Except Error Filter}
    (h : ∀ value, result = .ok value →
      (next value).run ⟨session, calls⟩ = ended session name calls (whole value)) :
    (demand result >>= next).run ⟨session, calls⟩ =
      ended session name calls (result >>= whole) := by
  cases result with
  | error error => rfl
  | ok value => exact h value rfl

theorem run_edit (h : session.filter? name = some filter)
    (check : Capabilities → Except Error Unit) (how : FilterState → FilterState) :
    (edit name check how).run ⟨session, calls⟩ =
      ended session name calls (check filter.capabilities >>= fun _ => filter.modify how) := by
  rw [edit, run_find_bind h]
  refine run_demand_bind fun _ _ => ?_
  rw [run_held_bind h, Filter.modify_eq_bind]
  refine run_demand_bind fun state hs => ?_
  rw [run_change h hs]
  rfl

theorem run_removeArch (h : session.filter? name = some filter) (arch : Arch) :
    (removeArch name arch).run ⟨session, calls⟩ =
      ended session name calls (filter.removeArch arch) := by
  rw [removeArch, run_held_bind h, Filter.removeArch]
  refine run_demand_bind fun state hs => ?_
  by_cases ha : state.ruleset.arches = [arch]
  · rw [if_pos ha, if_pos ha]
    rfl
  · rw [if_neg ha, if_neg ha, Filter.modify_eq_bind, hs]
    exact run_change h hs _

theorem run_addTo (h : session.filter? name = some filter) (hs : filter.state = .ok state)
    (call : Syscall) (action : Action) (conditions : List Condition) (arch : Arch) :
    (addTo name call action conditions arch).run ⟨session, calls⟩ =
      .ok () ⟨session.put name
        { filter with
          state? := some (state.alterList arch (Filter.withRule call action conditions arch)) },
        calls⟩ := by
  rw [addTo]
  cases hc : call.counterpart? .native arch with
  | some own =>
    have hadds : Filter.withRule call action conditions arch = fun rules? =>
        rules?.map fun rules => rules ++ [⟨own, action, conditions⟩] := by
      funext rules?
      rw [Filter.withRule, hc]
    rw [hadds]
    exact run_change h hs _
  | none =>
    have hkeeps : Filter.withRule call action conditions arch = fun rules? => rules? := by
      funext rules?
      rw [Filter.withRule, hc]
    rw [hkeeps, FilterState.alterList_self, ← Filter.state?_of_state hs, Session.put_of_filter? h]
    rfl

/-- The rule is added list by list, and by then nothing is left that could fail. -/
theorem run_addRule (h : session.filter? name = some filter) (call : Syscall) (action : Action)
    (conditions : List Condition) :
    (addRule name call action conditions).run ⟨session, calls⟩ =
      ended session name calls (filter.addRule call action conditions) := by
  rw [addRule, run_find_bind h, Filter.addRule]
  refine run_demand_bind fun _ _ => run_demand_bind fun _ _ => run_demand_bind fun _ _ => ?_
  rw [run_held_bind h, Filter.modify_eq_bind]
  refine run_demand_bind fun state hs => ?_
  have hadded := state.ruleset.map_covered (Filter.withRule_none call action conditions)
  rw [run_forM (fun arch => (run_addTo · · call action conditions arch)) h hs,
    FilterState.foldl_alterList _ state.ruleset.nodup_arches, hadded]
  rfl

/-- An installation is noted after the kernel has accepted it, and noting it cannot fail. -/
theorem run_noteInstalled (h : session.filter? name = some filter) (hs : filter.state = .ok state)
    (flags : InstallFlags) (answer : Int) :
    (noteInstalled name flags answer).run ⟨session, calls⟩ =
      ended session name calls
        ((state.installed flags answer).map fun state => { filter with state? := some state }) := by
  have hplaced {changed : Filter} : (session.put name changed).filter? name = some changed := by
    rw [Session.filter?_put, if_pos rfl]
  rw [noteInstalled, InstallFlags.handedOut, FilterState.installed]
  split_ifs with hneg hlistener hpos
  · rfl
  · simp only [demand, pure_bind, EStateM.run_bind, run_change h hs]
    rw [run_change hplaced rfl, Session.put_put]
    rfl
  · rfl
  · simp only [demand, pure_bind, run_change h hs]
    rfl

/-- The filter is changed only after the last call to the kernel, by steps that cannot fail. -/
theorem run_load (h : session.filter? name = some filter) (kernel : LoadKernel) :
    (load name kernel).run ⟨session, calls⟩ =
      ended session name (calls ++ (filter.load kernel).calls) (filter.load kernel).result := by
  rw [load, run_find_bind h]
  cases hp : filter.program with
  | error error =>
    have hl : filter.load kernel = ⟨.error error, []⟩ := by
      rw [Filter.load, hp]
      cases hs : filter.state with
      | ok state => rfl
      | error refusal =>
        -- A released filter has no program for the same reason.
        rw [Filter.program, hs] at hp
        rw [← Except.error.inj hp]
    rw [hl, List.append_nil]
    rfl
  | ok program =>
    obtain ⟨state, hstate, -⟩ := Filter.exists_of_program_eq_ok hp
    have hs : filter.state = .ok state := by rw [Filter.state, hstate]
    rw [Filter.load, hs, hp]
    simp only [demand, pure_bind]
    rw [run_held_bind h, hs]
    simp only [demand, pure_bind]
    cases hban : state.attributes.noNewPrivs with
    | false =>
      simp only [Bool.false_eq_true, if_false, EStateM.run_bind, call, EStateM.run_modify,
        List.nil_append]
      exact run_noteInstalled h hs _ _
    | true =>
      cases kernel.noNewPrivs with
      | error number => rfl
      | ok _ =>
        simp only [if_true, EStateM.run_bind, call, EStateM.run_modify, Except.mapError,
          EStateM.run_pure, ← List.append_assoc]
        exact run_noteInstalled h hs _ _

/-- Taking what a filter holds out of it leaves a released filter. -/
theorem run_take (h : session.filter? name = some filter) (hs : filter.state = .ok state) :
    (take name).run ⟨session, calls⟩ = .ok state ⟨session.put name filter.release, calls⟩ := by
  rw [take, run_held_bind h, hs]
  simp only [demand, pure_bind]
  rw [run_find_bind h]
  rfl

/-- The source is released before its lists are moved, and moving them cannot fail. -/
theorem run_merge {source : String} {target other : Filter} (hne : source ≠ name)
    (ht : session.filter? name = some target) (ho : session.filter? source = some other) :
    (merge name source).run ⟨session, calls⟩ =
      match target.merge other with
      | .ok (merged, released) =>
        .ok () ⟨(session.put name merged).put source released, calls⟩
      | .error error => .error (.refused error) ⟨session, calls⟩ := by
  rw [merge, if_neg hne, run_find_bind ht, run_find_bind ho, run_held_bind ht, Filter.merge]
  cases hts : target.state with
  | error error => rfl
  | ok held =>
    simp only [demand, pure_bind]
    rw [run_held_bind ho]
    cases hos : other.state with
    | error error => rfl
    | ok given =>
      simp only [demand, pure_bind]
      cases hc : held.conflict? given with
      | some conflict =>
        simp only [bind, Except.bind, hc]
        rfl
      | none =>
        -- By now the source is released, and the target is looked at once more.
        have hstill : (session.put source other.release).filter? name = some target := by
          rw [Session.filter?_put, if_neg hne.symm, ht]
        simp only [EStateM.run_bind, run_take ho hos]
        rw [← EStateM.run_bind, run_held_bind hstill, hts]
        simp only [demand, pure_bind]
        rw [run_forM (fun arch => (run_change · · _)) hstill hts,
          FilterState.foldl_alterList_absorb, Session.put_comm hne]
        simp only [bind, Except.bind, hc]
        rfl

end Procedure

namespace Session

variable {session : Session} {name : String} {filter : Filter}

open Procedure in
/-- Worked off step by step, a change of one filter comes to what it comes to as a whole. -/
theorem run_change_procedure (h : session.filter? name = some filter) (change : Change) :
    (change.procedure name).run ⟨session, []⟩ = ended session name [] (filter.apply change) := by
  cases change with
  | release =>
    rw [Change.procedure, run_find_bind h]
    rfl
  | removeArch arch => exact run_removeArch h arch
  | addRule call action conditions => exact run_addRule h call action conditions
  | _ =>
    rw [Change.procedure, run_edit h]
    rfl

open Procedure in
/-- Without a filter under the name no change begins. -/
theorem run_change_procedure_none (h : session.filter? name = none) (change : Change) :
    (change.procedure name).run ⟨session, []⟩ = .error .noSuchFilter ⟨session, []⟩ := by
  cases change with
  | removeArch arch => simp only [Change.procedure, removeArch, held, EStateM.run_bind, run_find_none h]
  | _ => exact run_find_bind_none h

theorem workOff_of_ended {operation : Operation} {calls : List LoadCall}
    {result : Except Error Filter}
    (h : (operation.procedure name).run ⟨session, []⟩ =
      Procedure.ended session name calls result) :
    session.workOff name operation = session.keep name calls result := by
  rw [workOff, h]
  cases result with
  | error error => rfl
  | ok after => rfl

open Procedure in
/-- Worked off step by step, a merge comes to what it comes to as a whole. -/
theorem workOff_merge (session : Session) (name source : String) :
    session.workOff name (.request (.merge source)) = session.merge name source := by
  rw [workOff, Operation.procedure, Request.procedure, Session.merge]
  by_cases hne : source = name
  · rw [if_pos hne, Procedure.merge, if_pos hne]
    cases session.filter? name <;> rfl
  rw [if_neg hne]
  cases ht : session.filter? name with
  | none =>
    rw [Procedure.merge, if_neg hne, run_find_bind_none ht]
  | some target =>
    cases ho : session.filter? source with
    | none =>
      rw [Procedure.merge, if_neg hne, run_find_bind ht, run_find_bind_none ho]
    | some other =>
      rw [run_merge hne ht ho]
      dsimp only
      cases target.merge other with
      | error error => rfl
      | ok both => rfl

/-- Worked off step by step, every request comes to what it comes to as a whole. -/
theorem workOff_request (session : Session) (name : String) (request : Request) :
    session.workOff name (.request request) = session.step name request := by
  cases request with
  | make action capabilities =>
    refine workOff_of_ended ?_
    rw [Operation.procedure, Request.procedure]
    cases Filter.make action capabilities with
    | error error => rfl
    | ok made => rfl
  | change change =>
    cases hf : session.filter? name with
    | none =>
      rw [workOff, Operation.procedure, Request.procedure, run_change_procedure_none hf, step, hf]
    | some filter =>
      rw [step, hf]
      exact workOff_of_ended (run_change_procedure hf change)
  | merge source => exact workOff_merge session name source
  | load kernel =>
    cases hf : session.filter? name with
    | none =>
      rw [workOff, step, hf]
      simp only [Operation.procedure, Request.procedure, Procedure.load, Procedure.run_find_bind_none hf]
    | some filter =>
      rw [step, hf]
      exact workOff_of_ended (Procedure.run_load hf kernel)

/-- A question leaves everything as it is, whether it is answered or not. -/
theorem workOff_query (session : Session) (name : String) (query : Query) :
    (session.workOff name (.query query)).1 = session := by
  rw [workOff, Operation.procedure]
  cases hf : session.filter? name with
  | none => rw [Procedure.run_find_bind_none hf]
  | some filter =>
    rw [Procedure.run_find_bind hf]
    cases filter.answer query with
    | error error => rfl
    | ok answer => rfl

/-- An operation that fails leaves every filter in every part as it was, although it works on the
filters where they stand and puts nothing back; and what a request does step by step is what it does
as a whole. -/
theorem refused_changes_nothing (session : Session) (name : String) :
    (∀ operation error, (session.workOff name operation).2.result = .error error →
      (session.workOff name operation).1 = session) ∧
    ∀ request, session.workOff name (.request request) = session.step name request := by
  refine ⟨fun operation error hrefused => ?_, session.workOff_request name⟩
  cases operation with
  | query query => exact session.workOff_query name query
  | request request =>
    rw [workOff_request] at hrefused ⊢
    obtain ⟨hok, -⟩ | ⟨-, hkept⟩ := session.step_cases name request
    · rw [hok] at hrefused
      nomatch hrefused
    · exact hkept

/-- The kernel takes the ban on new privileges and then names a thread that it could not reach: both
calls have been made, and the filter is as it was. -/
theorem refused_changes_nothing_thread :
    let session := Session.empty.run
      [("a", .make .allow ⟨6, none⟩), ("a", .change (.setThreadSync true)),
        ("a", .change (.addRule ⟨1⟩ .trap [])), ("b", .make .trap ⟨2, none⟩)]
    let load : Operation := .request (.load ⟨.ok (), fun _ _ => 4711⟩)
    (session.workOff "a" load).2.result = .error (.refused (.os Errno.noProcess)) ∧
      (session.workOff "a" load).2.calls.length = 2 ∧ (session.workOff "a" load).1 = session := by
  intro session load
  have hrefused :
      (session.workOff "a" load).2.result = .error (.refused (.os Errno.noProcess)) := by
    decide +kernel
  exact ⟨hrefused, by decide +kernel, (refused_changes_nothing session "a").1 load _ hrefused⟩

end Session

end SyscallFilter
