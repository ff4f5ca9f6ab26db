import Mathlib.Tactic
import SyscallFilter.Proofs.JsonReading
import SyscallFilter.Proofs.JsonYield

/-!
Policies and their JSON text. Every policy whose actions and operators are valid has a text, and the
text is read as that policy. Whatever text is read, the policy it states is one of these, so that
writing it and reading again changes nothing.
-/

namespace SyscallFilter

open Json Json.Reader

/-- The operator of the condition has a name. -/
def ConditionClause.Expressible (clause : ConditionClause) : Prop :=
  clause.operator ≠ .invalid

/-- The action of the rule has a name, and so have the operators of its conditions. -/
structure RuleClause.Expressible (clause : RuleClause) : Prop where
  action : clause.action ≠ .invalid
  conditions : ∀ condition ∈ clause.conditions, condition.Expressible

/-- No action of the policy is invalid, and no operator. -/
structure Policy.Expressible (policy : Policy) : Prop where
  defaultAction : policy.defaultAction ≠ .invalid
  badArchAction : ∀ action ∈ policy.badArchAction, action ≠ .invalid
  rules : ∀ rule ∈ policy.rules, rule.Expressible

instance (clause : ConditionClause) : Decidable clause.Expressible :=
  inferInstanceAs (Decidable (clause.operator ≠ .invalid))

instance (clause : RuleClause) : Decidable clause.Expressible :=
  decidable_of_iff
    (clause.action ≠ .invalid ∧ ∀ condition ∈ clause.conditions, condition.Expressible)
    ⟨fun h => ⟨h.1, h.2⟩, fun h => ⟨h.action, h.conditions⟩⟩

instance (policy : Policy) : Decidable policy.Expressible :=
  decidable_of_iff
    (policy.defaultAction ≠ .invalid ∧ (∀ action ∈ policy.badArchAction, action ≠ .invalid) ∧
      ∀ rule ∈ policy.rules, rule.Expressible)
    ⟨fun h => ⟨h.1, h.2.1, h.2.2⟩, fun h => ⟨h.defaultAction, h.badArchAction, h.rules⟩⟩

section

variable {α : Type} {write? : α → Option (List Char)} {reader : Reader α}

theorem exists_mapM_eq_some {values : List α} (h : ∀ a ∈ values, ∃ text, write? a = some text) :
    ∃ texts, values.mapM write? = some texts := by
  induction values with
  | nil => exact ⟨[], rfl⟩
  | cons a values ih =>
    obtain ⟨text, ha⟩ := h a List.mem_cons_self
    obtain ⟨texts, hs⟩ := ih fun other hm => h other (List.mem_cons_of_mem a hm)
    refine ⟨text :: texts, ?_⟩
    rw [List.mapM_cons, ha, hs]
    rfl

/-- What is written for a list is read member by member. -/
theorem reads_of_mapM (h : ∀ a text, write? a = some text → Reads reader text a) {values : List α}
    {texts : List (List Char)} (hm : values.mapM write? = some texts) :
    List.Forall₂ (Reads reader) texts values := by
  induction values generalizing texts with
  | nil =>
    obtain rfl : [] = texts := Option.some.inj hm
    exact .nil
  | cons a values ih =>
    rw [List.mapM_cons] at hm
    obtain ⟨text, ha, hm⟩ := Option.bind_eq_some_iff.mp hm
    obtain ⟨rest, hrest, hm⟩ := Option.bind_eq_some_iff.mp hm
    obtain rfl : text :: rest = texts := Option.some.inj hm
    exact .cons (h a text ha) (ih hrest)

theorem reads_chosen {write : α → List Char} (h : ∀ a, Reads reader (write a) a)
    (choice : Option α) :
    Option.Rel (fun written a => Reads reader (write written) a) choice choice := by
  cases choice with
  | none => exact .none
  | some a => exact .some (h a)

theorem join_map_some (choice : Option α) : (choice.map some).join = choice := by
  cases choice with
  | none => rfl
  | some a => rfl

theorem getD_of_isEmpty (values : List α) :
    (if values.isEmpty then none else some values).getD [] = values := by
  cases values with
  | nil => rfl
  | cons a values => rfl

end

namespace Action

theorem exists_write {action : Action} (h : action ≠ .invalid) :
    ∃ text, action.write? = some text := by
  cases action with
  | invalid => exact absurd rfl h
  | _ => exact ⟨_, rfl⟩

theorem reads_of_write {action : Action} {text : List Char} (h : action.write? = some text) :
    Reads reader text action := by
  cases action with
  | invalid => nomatch h
  | errno code =>
    obtain rfl := Option.some.inj h
    exact .code rfl code
  | trace code =>
    obtain rfl := Option.some.inj h
    exact .code rfl code
  | _ =>
    obtain rfl := Option.some.inj h
    exact .unit rfl

end Action

namespace Operator

theorem exists_write {operator : Operator} (h : operator ≠ .invalid) :
    ∃ text, operator.write? = some text := by
  cases operator with
  | invalid => exact absurd rfl h
  | _ => exact ⟨_, rfl⟩

theorem reads_of_write {operator : Operator} {text : List Char}
    (h : operator.write? = some text) : Reads (variant variants) text operator := by
  cases operator with
  | invalid => nomatch h
  | _ =>
    obtain rfl := Option.some.inj h
    exact .unit rfl

end Operator

namespace ConditionClause

theorem exists_write {clause : ConditionClause} (h : clause.Expressible) :
    ∃ text, clause.write? = some text := by
  obtain ⟨operator, ho⟩ := Operator.exists_write h
  rw [write?, ho]
  exact ⟨_, rfl⟩

theorem reads_of_write {clause : ConditionClause} {text : List Char}
    (h : clause.write? = some text) : Reads reader text clause := by
  obtain ⟨arg, operator, value, mask⟩ := clause
  obtain ⟨name, ho, rfl⟩ := Option.map_eq_some_iff.mp h
  have hfills : Fills ConditionDraft.fields ⟨none, none, none, none⟩
      ([("arg", number arg.toNat), ("op", name), ("value", number value.toNat)] ++
        (optionalMember "mask" (fun mask => number mask.toNat) mask ++ []))
      ⟨some arg, some operator, some value, mask.map some⟩ := by
    apply Fills.member rfl (.uint32 arg)
    apply Fills.member rfl (Operator.reads_of_write ho)
    apply Fills.member rfl (.uint64 value)
    apply Fills.optional rfl rfl (reads_chosen Reads.uint64 mask)
    exact .done _
  rw [List.append_nil] at hfills
  apply (Reads.record "ConditionSpec" hfills (by decide) rfl).bind
  show finish (some _) = _
  rw [join_map_some]
  rfl

end ConditionClause

namespace RuleClause

theorem exists_write {clause : RuleClause} (h : clause.Expressible) :
    ∃ text, clause.write? = some text := by
  obtain ⟨action, ha⟩ := Action.exists_write h.action
  obtain ⟨conditions, hc⟩ := exists_mapM_eq_some fun condition hm =>
    ConditionClause.exists_write (h.conditions condition hm)
  rw [write?, ha, hc]
  exact ⟨_, rfl⟩

theorem reads_of_write {clause : RuleClause} {text : List Char} (h : clause.write? = some text) :
    Reads reader text clause := by
  obtain ⟨syscall, action, conditions⟩ := clause
  rw [write?] at h
  split at h
  · next name texts ha hc =>
    obtain rfl := Option.some.inj h
    have hfills : Fills RuleDraft.fields ⟨none, none, none⟩
        ([("syscall", quote syscall.toList), ("action", name)] ++
          (sequenceMember "conditions" texts ++ []))
        ⟨some syscall, some action, if conditions.isEmpty then none else some conditions⟩ := by
      apply Fills.member rfl (.string syscall)
      apply Fills.member rfl (Action.reads_of_write ha)
      apply Fills.sequence rfl rfl
        (reads_of_mapM (fun _ _ => ConditionClause.reads_of_write) hc)
      exact .done _
    rw [List.append_nil] at hfills
    apply (Reads.record "RuleSpec" hfills (by decide) rfl).bind
    show finish (some _) = _
    rw [getD_of_isEmpty]
    rfl
  · nomatch h

end RuleClause

theorem AttributeClause.reads_write (clause : AttributeClause) :
    Reads reader clause.write clause := by
  obtain ⟨noNewPrivs, log, speculation, threadSync⟩ := clause
  have hfills : Fills AttributeDraft.fields ⟨none, none, none, none⟩
      (optionalMember "no_new_privs" Json.boolean noNewPrivs ++
        (optionalMember "log" Json.boolean log ++ (optionalMember "ssb" Json.boolean speculation ++
          (optionalMember "tsync" Json.boolean threadSync ++ []))))
      ⟨noNewPrivs.map some, log.map some, speculation.map some, threadSync.map some⟩ := by
    apply Fills.optional rfl rfl (reads_chosen Reads.boolean noNewPrivs)
    apply Fills.optional rfl rfl (reads_chosen Reads.boolean log)
    apply Fills.optional rfl rfl (reads_chosen Reads.boolean speculation)
    apply Fills.optional rfl rfl (reads_chosen Reads.boolean threadSync)
    exact .done _
  rw [List.append_nil, ← List.append_assoc, ← List.append_assoc] at hfills
  apply (Reads.record "PolicyAttributes" hfills (by decide) rfl).bind
  simp only [AttributeDraft.complete, join_map_some]

namespace Policy

theorem exists_write {policy : Policy} (h : policy.Expressible) :
    ∃ text, policy.write? = some text := by
  obtain ⟨defaultAction, hd⟩ := Action.exists_write h.defaultAction
  obtain ⟨badArchAction, hb⟩ : ∃ text?, policy.badArchAction.mapM Action.write? = some text? := by
    cases hb : policy.badArchAction with
    | none => exact ⟨none, rfl⟩
    | some action =>
      obtain ⟨text, ha⟩ := Action.exists_write (h.badArchAction action hb)
      exact ⟨some text, congrArg (Option.map some) ha⟩
  obtain ⟨rules, hr⟩ := exists_mapM_eq_some fun rule hm => RuleClause.exists_write (h.rules rule hm)
  rw [write?, hd, hb, hr]
  exact ⟨_, rfl⟩

theorem reads_of_write {policy : Policy} {text : List Char} (h : policy.write? = some text) :
    Reads reader text policy := by
  obtain ⟨defaultAction, badArchAction, arches, attributes, level, rules⟩ := policy
  rw [write?] at h
  split at h
  · next first bad texts hd hb hr =>
    obtain rfl := Option.some.inj h
    have hbad : Option.Rel (fun text action => Reads Action.reader (id text) action) bad
        badArchAction := by
      cases badArchAction with
      | none =>
        obtain rfl : none = bad := Option.some.inj hb
        exact .none
      | some action =>
        obtain ⟨text, ha, rfl⟩ := Option.map_eq_some_iff.mp hb
        exact .some (Action.reads_of_write ha)
    have harches : List.Forall₂ (Reads string) (arches.map fun arch => quote arch.toList) arches :=
      List.forall₂_map_left_iff.mpr (List.forall₂_same.mpr fun arch _ => .string arch)
    have hfills : Fills PolicyDraft.fields ⟨none, none, none, none, none, none⟩
        (("default_action", first) :: (optionalMember "bad_arch_action" id bad ++
          (sequenceMember "arches" (arches.map fun arch => quote arch.toList) ++
            (("attributes", attributes.write) ::
              (optionalMember "api_level" (fun level => number level.toNat) level ++
                [("rules", array texts)])))))
        ⟨some defaultAction, badArchAction.map some,
          if arches.isEmpty then none else some arches, some attributes, level.map some,
          some rules⟩ := by
      apply Fills.member rfl (Action.reads_of_write hd)
      apply Fills.optional rfl rfl hbad
      apply Fills.sequence rfl rfl harches
      apply Fills.member rfl (AttributeClause.reads_write attributes)
      apply Fills.optional rfl rfl (reads_chosen Reads.uint32 level)
      apply Fills.member rfl
        (Reads.sequence (reads_of_mapM (fun _ _ => RuleClause.reads_of_write) hr))
      exact .done _
    simp only [List.cons_append, List.append_assoc]
    apply (Reads.record "Policy" hfills (by decide) rfl).bind
    simp only [PolicyDraft.complete?, Option.map_some, join_map_some, getD_of_isEmpty,
      Option.getD_some]
    rfl
  · nomatch h

end Policy

/-- No name stands for the invalid action. -/
theorem Action.yields : Yields Action.reader fun action => action ≠ .invalid := by
  refine .variant fun entry hm => ?_
  fin_cases hm
  all_goals simp [Payload.Gives]

/-- No name stands for the invalid operator. -/
theorem Operator.yields :
    Yields (variant Operator.variants) fun operator => operator ≠ .invalid := by
  refine .variant fun entry hm => ?_
  fin_cases hm
  all_goals simp [Payload.Gives]

/-- What a condition has of its operator so far is expressible. -/
def ConditionDraft.Expressible (draft : ConditionDraft) : Prop :=
  ∀ operator ∈ draft.operator, operator ≠ .invalid

/-- What a rule has of its action and its conditions so far is expressible. -/
structure RuleDraft.Expressible (draft : RuleDraft) : Prop where
  action : ∀ action ∈ draft.action, action ≠ .invalid
  conditions : ∀ conditions ∈ draft.conditions, ∀ condition ∈ conditions, condition.Expressible

/-- What a policy has of its actions and its rules so far is expressible. -/
structure PolicyDraft.Expressible (draft : PolicyDraft) : Prop where
  defaultAction : ∀ action ∈ draft.defaultAction, action ≠ .invalid
  badArchAction : ∀ choice ∈ draft.badArchAction, ∀ action ∈ choice, action ≠ .invalid
  rules : ∀ rules ∈ draft.rules, ∀ rule ∈ rules, rule.Expressible

theorem ConditionClause.yields : Yields ConditionClause.reader Expressible := by
  have hfields : ∀ field ∈ ConditionDraft.fields, ∀ draft, ConditionDraft.Expressible draft →
      Yields (field.read draft) ConditionDraft.Expressible := by
    simp only [ConditionDraft.fields, List.forall_mem_cons]
    refine ⟨?_, ?_, ?_, ?_, nofun⟩
    · exact fun draft => .field (.anything _) fun _ _ hd _ => hd
    · exact fun draft => .field Operator.yields fun _ _ _ ho _ hm => Option.some.inj hm ▸ ho
    · exact fun draft => .field (.anything _) fun _ _ hd _ => hd
    · exact fun draft => .field (.anything _) fun _ _ hd _ => hd
  have hstart : ConditionDraft.Expressible ⟨none, none, none, none⟩ := by
    intro operator hm
    nomatch hm
  refine (Yields.record hfields hstart "ConditionSpec").bind fun draft hd => yields_finish ?_
  intro clause hc
  simp only [ConditionDraft.complete?] at hc
  split at hc
  · next arg operator value mask =>
    obtain rfl := Option.some.inj hc
    exact hd operator rfl
  · nomatch hc

theorem RuleClause.yields : Yields RuleClause.reader Expressible := by
  have hfields : ∀ field ∈ RuleDraft.fields, ∀ draft, RuleDraft.Expressible draft →
      Yields (field.read draft) RuleDraft.Expressible := by
    simp only [RuleDraft.fields, List.forall_mem_cons]
    refine ⟨?_, ?_, ?_, nofun⟩
    · exact fun draft => .field (.anything _) fun _ _ hd _ => ⟨hd.action, hd.conditions⟩
    · exact fun draft => .field Action.yields fun _ _ hd ha =>
        ⟨fun _ hm => Option.some.inj hm ▸ ha, hd.conditions⟩
    · exact fun draft => .field (Yields.sequence ConditionClause.yields) fun _ _ hd hs =>
        ⟨hd.action, fun _ hm => Option.some.inj hm ▸ hs⟩
  have hstart : RuleDraft.Expressible ⟨none, none, none⟩ := by
    constructor
    all_goals
      intro _ hm
      nomatch hm
  refine (Yields.record hfields hstart "RuleSpec").bind fun draft hd => yields_finish ?_
  intro clause hc
  simp only [RuleDraft.complete?] at hc
  split at hc
  · next syscall action conditions =>
    obtain rfl := Option.some.inj hc
    refine ⟨hd.action action rfl, fun condition hm => ?_⟩
    cases conditions with
    | none => nomatch hm
    | some conditions => exact hd.conditions conditions rfl condition hm
  · nomatch hc

theorem Policy.yields : Yields Policy.reader Expressible := by
  have hfields : ∀ field ∈ PolicyDraft.fields, ∀ draft, PolicyDraft.Expressible draft →
      Yields (field.read draft) PolicyDraft.Expressible := by
    simp only [PolicyDraft.fields, List.forall_mem_cons]
    refine ⟨?_, ?_, ?_, ?_, ?_, ?_, nofun⟩
    · exact fun draft => .field Action.yields fun _ _ hd ha =>
        ⟨fun _ hm => Option.some.inj hm ▸ ha, hd.badArchAction, hd.rules⟩
    · exact fun draft => .field (Yields.optional Action.yields) fun _ _ hd ha =>
        ⟨hd.defaultAction, fun _ hm => Option.some.inj hm ▸ ha, hd.rules⟩
    · exact fun draft => .field (.anything _) fun _ _ hd _ => ⟨hd.1, hd.2, hd.3⟩
    · exact fun draft => .field (.anything _) fun _ _ hd _ => ⟨hd.1, hd.2, hd.3⟩
    · exact fun draft => .field (.anything _) fun _ _ hd _ => ⟨hd.1, hd.2, hd.3⟩
    · exact fun draft => .field (Yields.sequence RuleClause.yields) fun _ _ hd hs =>
        ⟨hd.defaultAction, hd.badArchAction, fun _ hm => Option.some.inj hm ▸ hs⟩
  have hstart : PolicyDraft.Expressible ⟨none, none, none, none, none, none⟩ := by
    constructor
    all_goals
      intro _ hm
      nomatch hm
  refine (Yields.record hfields hstart "Policy").bind fun draft hd => yields_finish ?_
  intro policy hc
  obtain ⟨action, ha, rfl⟩ := Option.map_eq_some_iff.mp hc
  refine ⟨hd.defaultAction action ha, fun other hm => ?_, fun rule hm => ?_⟩
  · have hb : draft.badArchAction = some (some other) := Option.join_eq_some_iff.mp hm
    exact hd.badArchAction (some other) hb other rfl
  · cases hr : draft.rules with
    | none =>
      rw [hr] at hm
      nomatch hm
    | some rules =>
      rw [hr] at hm
      exact hd.rules rules hr rule hm

namespace Policy

theorem ofJson_of_reads {text : List Char} {policy : Policy} (h : Reads reader text policy) :
    ofJson (String.ofList text) = .ok policy := by
  rw [ofJson, String.toList_ofList, h.readAll]
  rfl

/-- Writing a policy without invalid parts succeeds, and reading what is written gives the policy
back. So does writing what was read from any text. -/
theorem json_round_trip :
    (∀ policy : Policy, policy.Expressible →
      ∃ text, policy.write? = some text ∧ ofJson (String.ofList text) = .ok policy) ∧
    ∀ json policy, ofJson json = .ok policy →
      ∃ text, policy.write? = some text ∧ ofJson (String.ofList text) = .ok policy := by
  have hwritten : ∀ policy : Policy, policy.Expressible →
      ∃ text, policy.write? = some text ∧ ofJson (String.ofList text) = .ok policy := by
    intro policy h
    obtain ⟨text, ht⟩ := exists_write h
    exact ⟨text, ht, ofJson_of_reads (reads_of_write ht)⟩
  refine ⟨hwritten, fun json policy h => hwritten policy ?_⟩
  exact yields.of_readAll (mapError_eq_ok h)

/-- The first policy has every kind of part, and strings that cannot stand in a literal as they are.
The text is no written form: its records are given by position, and it has blanks and an escape that
are not needed. -/
theorem json_round_trip_marked :
    let policy : Policy := ⟨.trace 65535, some (.errno 0), ["x86_64", "é\"\\\n😀\x07"],
      ⟨some true, none, some false, none⟩, some 4294967295,
      [⟨"", .notify, [⟨5, .maskedEq, 18446744073709551615, some 0⟩, ⟨0, .ne, 1, none⟩]⟩,
        ⟨"read", .log, []⟩]⟩
    let json := "[ \"log\", null, [\"n\\u0061tive\"], [], 6,\n" ++
      "[[\"getpid\", \"trap\", [[0, \"lt\", 7]]]] ]"
    let stated : Policy := ⟨.log, none, ["native"], .empty, some 6,
      [⟨"getpid", .trap, [⟨0, .lt, 7, none⟩]⟩]⟩
    policy.Expressible ∧
      (∃ text, policy.write? = some text ∧ ofJson (String.ofList text) = .ok policy) ∧
      ofJson json = .ok stated ∧
      ∃ text, stated.write? = some text ∧ ofJson (String.ofList text) = .ok stated := by
  intro policy json stated
  have hpolicy : policy.Expressible := by decide
  have hjson : ofJson json = .ok stated := by decide +kernel
  exact ⟨hpolicy, json_round_trip.1 policy hpolicy, hjson, json_round_trip.2 json stated hjson⟩

end Policy

end SyscallFilter
