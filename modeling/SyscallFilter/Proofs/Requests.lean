import Mathlib.Tactic
import SyscallFilter.Session

/-!
What a request does to a session: it is carried out, with a new session for each kind of request, or
it is refused and leaves the session as it was.
-/

namespace SyscallFilter

namespace Session

/-- A request that is carried out under a name, and the session after it. -/
inductive Carries (session : Session) (name : String) : Request → Session → Prop
  | make {action : Action} {capabilities : Capabilities} {filter : Filter}
      (made : Filter.make action capabilities = .ok filter) :
      Carries session name (.make action capabilities) (session.put name filter)
  | change {change : Change} {filter after : Filter} (found : session.filter? name = some filter)
      (applied : filter.apply change = .ok after) :
      Carries session name (.change change) (session.put name after)
  | merge {source : String} {target other merged released : Filter} (distinct : source ≠ name)
      (found : session.filter? name = some target) (foundSource : session.filter? source = some other)
      (joined : target.merge other = .ok (merged, released)) :
      Carries session name (.merge source) ((session.put name merged).put source released)
  | load {kernel : LoadKernel} {filter after : Filter} (found : session.filter? name = some filter)
      (loaded : (filter.load kernel).result = .ok after) :
      Carries session name (.load kernel) (session.put name after)

variable {session : Session} {name : String}

/-- A request is carried out or refused, and a refused one leaves the session as it was. -/
theorem step_cases (session : Session) (name : String) (request : Request) :
    ((session.step name request).2.result = .ok () ∧
        session.Carries name request (session.step name request).1) ∨
      ((session.step name request).2.result.isOk = false ∧
        (session.step name request).1 = session) := by
  cases request with
  | make action capabilities =>
    rw [step]
    cases hm : Filter.make action capabilities with
    | error _ => exact .inr ⟨rfl, rfl⟩
    | ok filter => exact .inl ⟨rfl, .make hm⟩
  | change change =>
    rw [step]
    cases hf : session.filter? name with
    | none => exact .inr ⟨rfl, rfl⟩
    | some filter =>
      dsimp only
      cases ha : filter.apply change with
      | error _ => exact .inr ⟨rfl, rfl⟩
      | ok after => exact .inl ⟨rfl, .change hf ha⟩
  | merge source =>
    rw [step, Session.merge]
    split
    · next target other ht ho =>
      split_ifs at ho with hs
      cases hm : target.merge other with
      | error _ => exact .inr ⟨rfl, rfl⟩
      | ok both => exact .inl ⟨rfl, .merge hs ht ho hm⟩
    · exact .inr ⟨rfl, rfl⟩
  | load kernel =>
    rw [step]
    cases hf : session.filter? name with
    | none => exact .inr ⟨rfl, rfl⟩
    | some filter =>
      dsimp only
      cases hl : (filter.load kernel).result with
      | error _ => exact .inr ⟨rfl, rfl⟩
      | ok after => exact .inl ⟨rfl, .load hf hl⟩

/-- A run without variables is evaluated to find the filter under a name, what it holds and its
program, together with what is to be shown of them. -/
theorem exists_of_evaluated {P : Filter → FilterState → Program → Prop}
    [∀ filter state program, Decidable (P filter state program)]
    (h : ((session.filter? name).any fun filter => filter.state?.any fun state =>
      filter.program.toOption.any fun program => decide (P filter state program)) = true) :
    ∃ filter state program, session.filter? name = some filter ∧ filter.state? = some state ∧
      filter.program = .ok program ∧ P filter state program := by
  obtain ⟨filter, hf, h⟩ := (Option.any_eq_true _ _).mp h
  obtain ⟨state, hs, h⟩ := (Option.any_eq_true _ _).mp h
  obtain ⟨program, hp, h⟩ := exists_ok_of_any h
  exact ⟨filter, state, program, hf, hs, hp, of_decide_eq_true h⟩

end Session

end SyscallFilter
