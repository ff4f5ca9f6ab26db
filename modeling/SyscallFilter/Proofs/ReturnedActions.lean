import Mathlib.Tactic
import SyscallFilter.Proofs.ActionWord
import SyscallFilter.Proofs.Decision

/-!
What can be read off the words that programs return. A program returns the word of an action that
stands in its rule set, and the word tells the action with its payload.
-/

namespace SyscallFilter

namespace Ruleset

/-- The actions that stand in a rule set: the one for calls that no rule decides, the one for bad
architectures, and those of the rules. -/
def actions (set : Ruleset) : List Action :=
  set.defaultAction :: set.badArchAction ::
    set.blocks.flatMap fun block => block.2.map fun rule => rule.action

theorem verdict_mem_actions (set : Ruleset) (data : CallData) : set.verdict data ∈ set.actions := by
  rw [actions, List.mem_cons, List.mem_cons]
  rcases set.verdict_cases data with ⟨-, hbad⟩ | ⟨block, hb, -, hdefault | ⟨rule, hr, hrule⟩⟩
  · exact .inr (.inl hbad)
  · exact .inl hdefault
  · rw [hrule]
    exact .inr (.inr (List.mem_flatMap.mpr ⟨block, hb, List.mem_map.mpr ⟨rule, hr, rfl⟩⟩))

/-- A compiled program returns the word of an action that stands in its rule set. -/
theorem exists_action_of_compile {set : Ruleset} {program : Program}
    (h : set.compile = .ok program) (data : CallData) :
    ∃ action ∈ set.actions, program.run data = action.toWord? ∧
      (program.run data).map Action.ofWord = some action := by
  obtain ⟨hrun, hword⟩ := run_of_compile data h
  refine ⟨set.verdict data, set.verdict_mem_actions data, ?_, ?_⟩
  · rw [hrun, hword]
  · rw [hrun, Option.map_some, Action.ofWord_of_toWord? hword]

end Ruleset

namespace Action

/-- Every action but the invalid one has a word of its own, from which it is read again. A word names
no action exactly if its upper half is none of eight; any other word is kept by reading and writing
it, but for a payload that its action does not have. So the word that a program returns tells which
action of its rule set it stands for. -/
theorem words_tell_actions :
    (∀ action, action ≠ invalid → action.toWord?.map ofWord = some action) ∧
    (∀ (a b : Action) (word : UInt32),
      a.toWord? = some word → b.toWord? = some word → a = b) ∧
    (∀ word, ofWord word = invalid ↔ upperHalf word ∉ codes.map upperHalf) ∧
    (∀ word, ofWord word ≠ invalid →
      ∃ again, (ofWord word).toWord? = some again ∧ upperHalf again = upperHalf word ∧
        again.toUInt16 = if (ofWord word).code?.isSome then word.toUInt16 else 0) ∧
    ∀ (set : Ruleset) (program : Program) (data : CallData), set.compile = .ok program →
      ∃ action ∈ set.actions, program.run data = action.toWord? ∧
        (program.run data).map ofWord = some action := by
  refine ⟨?_, ?_, ofWord_eq_invalid_iff, ?_, ?_⟩
  · intro action hvalid
    have hword : action.toWord? = some action.word := toWord?_eq (bne_iff_ne.mpr hvalid)
    rw [hword, Option.map_some, ofWord_of_toWord? hword]
  · intro a b word ha hb
    rw [← ofWord_of_toWord? ha, ofWord_of_toWord? hb]
  · intro word hnamed
    obtain ⟨again, hword, hupper, hlower⟩ := exists_toWord?_ofWord hnamed
    refine ⟨again, hword, hupper, ?_⟩
    rcases code?_ofWord word with hcode | hcode
    · rw [hlower, hcode]
      rfl
    · rw [hlower, hcode]
      rfl
  · intro set program data hp
    exact Ruleset.exists_action_of_compile hp data

/-- A rule set with two actions that have payloads, and a word with a payload that means nothing. -/
theorem words_tell_actions_traced :
    let traced : Rule := ⟨⟨2⟩, .trace 0x1234, [⟨1, .masked 3 1⟩]⟩
    let set : Ruleset := ⟨.errno 38, .killThread, ⟨some [], some [traced], none, none, none⟩⟩
    let call : CallData := ⟨2, 0xc000003e, 0, #v[0, 0x8000000000000041, 0, 0, 0, 0]⟩
    ((trace 0x1234).toWord?.map ofWord = some (trace 0x1234) ∧
      ofWord 0x12340000 = invalid ∧
      ∃ again, log.toWord? = some again ∧ upperHalf again = 0x7ffc ∧ again.toUInt16 = 0) ∧
      ∃ program action, set.compile = .ok program ∧ action ∈ set.actions ∧
        (program.run call).map ofWord = some action := by
  intro traced set call
  obtain ⟨hread, -, hnone, hagain, hreturned⟩ := words_tell_actions
  obtain ⟨program, hp⟩ : ∃ program, set.compile = .ok program :=
    exists_ok_of_isOk (by decide +kernel)
  obtain ⟨action, hm, -, haction⟩ := hreturned set program call hp
  obtain ⟨again, hword, hupper, hlower⟩ := hagain 0x7ffcbeef (by decide)
  exact ⟨⟨hread _ (by decide), (hnone _).mpr (by decide), again, hword, hupper, hlower⟩, program,
    action, hp, hm, haction⟩

end Action

end SyscallFilter
