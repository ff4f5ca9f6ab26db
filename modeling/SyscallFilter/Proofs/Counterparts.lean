import SyscallFilter.Proofs.History

/-!
The same call on other architectures. Two numbers on two architectures are counterparts just where
they have a name in common, so counterparts can be followed back and along further architectures.
On its own architecture a number is its own counterpart, whether or not it has a name.
-/

namespace SyscallFilter

namespace Syscall

variable {a b c : Arch} {call other third : Syscall}

theorem counterpart?_eq_some_iff :
    counterpart? a b call = some other ↔
      a = b ∧ call = other ∨ ∃ name, name? a call = some name ∧ name? b other = some name := by
  rw [counterpart?]
  split_ifs with hab
  · subst hab
    constructor
    · intro h
      exact .inl ⟨rfl, Option.some.inj h⟩
    · rintro (⟨-, rfl⟩ | ⟨name, hcall, hother⟩)
      · rfl
      · -- What the name means is both of the calls.
        rw [← name?_eq_some_iff.mp hcall, ← name?_eq_some_iff.mp hother]
  · constructor
    · intro h
      obtain ⟨name, hcall, hother⟩ := Option.bind_eq_some_iff.mp h
      exact .inr ⟨name, hcall, name?_eq_some_iff.mpr hother⟩
    · rintro (⟨he, -⟩ | ⟨name, hcall, hother⟩)
      · exact absurd he hab
      · exact Option.bind_eq_some_iff.mpr ⟨name, hcall, name?_eq_some_iff.mp hother⟩

theorem counterpart?_symm (h : counterpart? a b call = some other) :
    counterpart? b a other = some call := by
  rw [counterpart?_eq_some_iff] at h ⊢
  rcases h with ⟨rfl, rfl⟩ | ⟨name, hcall, hother⟩
  · exact .inl ⟨rfl, rfl⟩
  · exact .inr ⟨name, hother, hcall⟩

theorem counterpart?_trans (h : counterpart? a b call = some other)
    (h' : counterpart? b c other = some third) : counterpart? a c call = some third := by
  rcases counterpart?_eq_some_iff.mp h with ⟨rfl, rfl⟩ | ⟨name, hcall, hother⟩
  · exact h'
  · rcases counterpart?_eq_some_iff.mp h' with ⟨rfl, rfl⟩ | ⟨name', hother', hthird⟩
    · exact h
    · -- The call in the middle has one name only.
      obtain rfl : name = name' := Option.some.inj (hother.symm.trans hother')
      exact counterpart?_eq_some_iff.mpr (.inr ⟨name, hcall, hthird⟩)

theorem exists_nameOn_of_counterpart? (h : counterpart? a b call = some other) (hab : a ≠ b) :
    ∃ name, nameOn a call = .ok name ∧ nameOn b other = .ok name := by
  rcases counterpart?_eq_some_iff.mp h with ⟨he, -⟩ | ⟨name, hcall, hother⟩
  · exact absurd he hab
  · exact ⟨name, nameOn_eq_ok_iff.mpr hcall, nameOn_eq_ok_iff.mpr hother⟩

end Syscall

/-- A rule stands behind the others of each architecture that has the call, for the call of the same
name, and the architectures without the call keep the rules they have. -/
theorem Filter.nameOn_of_addRule {filter after : Filter} {call : Syscall} {action : Action}
    {conditions : List Condition} (ha : filter.addRule call action conditions = .ok after) :
    ∃ name, call.nameOn .native = .ok name ∧ ∀ arch rules, after.list? arch = some rules →
      ∃ own, filter.list? arch = some own ∧
        match call.counterpart? .native arch with
        | none => rules = own
        | some counterpart =>
          rules = own ++ [⟨counterpart, action, conditions⟩] ∧
            counterpart.nameOn arch = .ok name := by
  obtain ⟨_, -, hchecked⟩ := exists_of_bind_eq_ok ha
  obtain ⟨name, hn, -⟩ := exists_of_bind_eq_ok hchecked
  have hnative : call.nameOn .native = .ok name := mapError_eq_ok hn
  have hname : call.name? .native = some name := Syscall.nameOn_eq_ok_iff.mp hnative
  refine ⟨name, hnative, fun arch rules hrules => ?_⟩
  obtain ⟨own, hown, hall⟩ := list?_of_addRule ha hrules
  refine ⟨own, hown, ?_⟩
  rw [AskedRule.entry?, hname, Option.bind_some] at hall
  rw [Syscall.counterpart?_of_name? hname]
  cases hc : Syscall.ofName? arch name with
  | none =>
    rw [hall, hc]
    exact List.append_nil own
  | some counterpart =>
    rw [hc] at hall
    exact ⟨hall, Syscall.nameOn_eq_ok_iff.mpr (Syscall.name?_of_ofName? hc)⟩

namespace Syscall

/-- A call carried to another architecture is carried back to where it came from, and further on to
where it would have gone at once. No other call is carried to the same number, and the name stays as
it is. So a rule is about the call of one name on all architectures. -/
theorem counterparts_keep_names :
    (∀ a b call other, counterpart? a b call = some other →
      counterpart? b a other = some call ∧
      (∀ c third, counterpart? b c other = some third → counterpart? a c call = some third) ∧
      (∀ another, counterpart? a b another = some other → another = call) ∧
      (a ≠ b → ∃ name, nameOn a call = .ok name ∧ nameOn b other = .ok name)) ∧
    ∀ (filter after : Filter) (call : Syscall) (action : Action) (conditions : List Condition),
      filter.addRule call action conditions = .ok after →
      ∃ name, call.nameOn .native = .ok name ∧ ∀ arch rules, after.list? arch = some rules →
        ∃ own, filter.list? arch = some own ∧
          match call.counterpart? .native arch with
          | none => rules = own
          | some counterpart =>
            rules = own ++ [⟨counterpart, action, conditions⟩] ∧
              counterpart.nameOn arch = .ok name := by
  constructor
  · intro a b call other h
    have hback := counterpart?_symm h
    refine ⟨hback, fun c third => counterpart?_trans h, fun another hanother => ?_,
      exists_nameOn_of_counterpart? h⟩
    have hsame := counterpart?_symm hanother
    rw [hback] at hsame
    exact (Option.some.inj hsame).symm
  · intro filter after call action conditions ha
    exact Filter.nameOn_of_addRule ha

/-- The call chdir on three architectures, and a rule about it on two. -/
theorem counterparts_keep_names_chdir :
    let rules : PerArch (Option (List Rule)) := ⟨some [], some [], none, none, none⟩
    let filter : Filter := ⟨some ⟨⟨.allow, .killThread, rules⟩, .initial, false, none⟩, ⟨6, none⟩⟩
    (counterpart? .x86 .aarch64 ⟨12⟩ = some ⟨49⟩ ∧
      counterpart? .native .aarch64 ⟨80⟩ = some ⟨49⟩) ∧
      ∃ after name, filter.addRule ⟨80⟩ (.errno 13) [] = .ok after ∧
        after.list? .x86 = some [⟨⟨12⟩, .errno 13, []⟩] ∧
        nameOn .native ⟨80⟩ = .ok name ∧ nameOn .x86 ⟨12⟩ = .ok name := by
  intro rules filter
  obtain ⟨hcalls, hrules⟩ := counterparts_keep_names
  have hfirst : counterpart? .native .x86 ⟨80⟩ = some ⟨12⟩ := by decide +kernel
  have hsecond : counterpart? .x86 .aarch64 ⟨12⟩ = some ⟨49⟩ := by decide +kernel
  obtain ⟨-, hfurther, -, -⟩ := hcalls _ _ _ _ hfirst
  refine ⟨⟨hsecond, hfurther _ _ hsecond⟩, ?_⟩
  have hadded : ((filter.addRule ⟨80⟩ (.errno 13) []).toOption.any fun after =>
      (after.list? .x86).isSome) = true := by decide +kernel
  obtain ⟨after, ha, hcovered⟩ := exists_ok_of_any hadded
  obtain ⟨own, hown⟩ := Option.isSome_iff_exists.mp hcovered
  obtain ⟨name, hname, hall⟩ := hrules _ _ _ _ _ ha
  obtain ⟨before, hbefore, hrule⟩ := hall .x86 own hown
  obtain rfl : [] = before := Option.some.inj hbefore
  rw [hfirst] at hrule
  obtain ⟨rfl, hsame⟩ := hrule
  exact ⟨after, name, ha, hown, hname, hsame⟩

end Syscall

end SyscallFilter
