import Mathlib.Tactic
import SyscallFilter.Condition

/-!
Conditions on distinct arguments. The search for an argument that repeats keeps the arguments it has
met as the bits of a mask. Each step marks one argument more, so a whole search passes the lists
without a repetition, and stops in any other list at the first argument that was there before.
-/

namespace SyscallFilter

theorem or_and_distrib (a b c : UInt8) : (a ||| b) &&& c = (a &&& c) ||| (b &&& c) := by
  rw [← UInt8.toBitVec_inj]
  exact BitVec.and_or_distrib_right

/-- The number at which a list repeats itself for the first time. -/
def FirstRepeat (numbers : List Nat) (number : Nat) : Prop :=
  ∃ before after, numbers = before ++ number :: after ∧ before.Nodup ∧ number ∈ before

namespace FirstRepeat

variable {numbers : List Nat} {a b : Nat}

theorem not_nodup (h : FirstRepeat numbers a) : ¬ numbers.Nodup := by
  obtain ⟨before, after, rfl, -, hm⟩ := h
  intro hd
  exact List.disjoint_of_nodup_append hd hm List.mem_cons_self

/-- A list without repetitions ends before a number that it holds comes again. -/
theorem eq_nil_of_nodup {before between after rest : List Nat} (hm : a ∈ before)
    (hd : (before ++ between).Nodup) (hr : a :: after = between ++ rest) : between = [] := by
  cases between with
  | nil => rfl
  | cons number others =>
    have hfirst : a = number := (List.cons.inj hr).1
    rw [← hfirst] at hd
    exact absurd List.mem_cons_self (List.disjoint_of_nodup_append hd hm)

theorem unique (ha : FirstRepeat numbers a) (hb : FirstRepeat numbers b) : a = b := by
  obtain ⟨before, after, rfl, hd, hm⟩ := ha
  obtain ⟨before', after', he, hd', hm'⟩ := hb
  -- One of the two numbers comes first, and the list up to the other one would hold it twice.
  rcases List.append_eq_append_iff.mp he with ⟨between, rfl, hr⟩ | ⟨between, rfl, hr⟩
  · rw [eq_nil_of_nodup hm hd' hr] at hr
    exact (List.cons.inj hr).1
  · rw [eq_nil_of_nodup hm' hd hr] at hr
    exact (List.cons.inj hr).1.symm

end FirstRepeat

namespace Condition

/-- A set of arguments in the form of a mask. -/
def Marks (seen : UInt8) (earlier : List Nat) : Prop :=
  ∀ arg : Fin argCount, seen &&& argBit arg ≠ 0 ↔ arg.val ∈ earlier

theorem marks_zero : Marks 0 [] := by
  intro arg
  rw [UInt8.zero_and]
  simp

theorem Marks.insert {seen : UInt8} {earlier : List Nat} (h : Marks seen earlier)
    (arg : Fin argCount) : Marks (seen ||| argBit arg) (arg.val :: earlier) := by
  intro other
  have hbits : ∀ a b : Fin argCount, argBit a &&& argBit b = 0 ↔ ¬ b = a := by decide
  have hval : other.val = arg.val ↔ other = arg := Fin.val_inj
  rw [or_and_distrib, Ne, UInt8.or_eq_zero_iff, not_and_or, List.mem_cons, ← h other, hbits,
    not_not, hval]
  exact or_comm

/-- A search that has met distinct arguments goes on through the conditions without a repetition, or
finds the first one in the whole list. -/
theorem Marks.duplicateFrom?_spec {seen : UInt8} {earlier : List Nat} (h : Marks seen earlier)
    (hd : earlier.Nodup) (conditions : List Condition) :
    match duplicateFrom? seen conditions with
    | none => (earlier.reverse ++ conditions.map (·.arg.val)).Nodup
    | some arg => FirstRepeat (earlier.reverse ++ conditions.map (·.arg.val)) arg.val := by
  induction conditions generalizing seen earlier with
  | nil =>
    change (earlier.reverse ++ []).Nodup
    rwa [List.append_nil, List.nodup_reverse]
  | cons condition rest ih =>
    rw [duplicateFrom?]
    by_cases hmem : condition.arg.val ∈ earlier
    · rw [if_pos (bne_iff_ne.mpr ((h condition.arg).mpr hmem))]
      exact ⟨earlier.reverse, rest.map (·.arg.val), rfl, List.nodup_reverse.mpr hd,
        List.mem_reverse.mpr hmem⟩
    · -- The argument is a new one, so the mask of the rest marks distinct arguments again.
      have hfree : ¬ (seen &&& argBit condition.arg != 0) = true := by
        rw [bne_iff_ne]
        exact mt (h condition.arg).mp hmem
      have hnext := ih (h.insert condition.arg) (List.nodup_cons.mpr ⟨hmem, hd⟩)
      rw [List.reverse_cons, List.append_assoc, List.singleton_append] at hnext
      rw [if_neg hfree, List.map_cons]
      exact hnext

/-- A list of conditions is checked by the numbers of its arguments alone. -/
theorem checkDistinct_spec (conditions : List Condition) :
    match checkDistinct conditions with
    | .ok () => (conditions.map (·.arg.val)).Nodup
    | .error error =>
      ∃ arg, error = .duplicateArg arg ∧ FirstRepeat (conditions.map (·.arg.val)) arg.val := by
  have hsearch := marks_zero.duplicateFrom?_spec List.nodup_nil conditions
  rw [List.reverse_nil, List.nil_append] at hsearch
  rw [checkDistinct]
  cases hfound : duplicateFrom? 0 conditions with
  | none =>
    rw [hfound] at hsearch
    exact hsearch
  | some arg =>
    rw [hfound] at hsearch
    exact ⟨arg, rfl, hsearch⟩

variable {conditions : List Condition}

theorem checkDistinct_eq_ok_iff_nodup_val :
    checkDistinct conditions = .ok () ↔ (conditions.map (·.arg.val)).Nodup := by
  have hspec := checkDistinct_spec conditions
  cases hc : checkDistinct conditions with
  | ok done =>
    rw [hc] at hspec
    exact ⟨fun _ => hspec, fun _ => rfl⟩
  | error error =>
    rw [hc] at hspec
    obtain ⟨arg, -, hfirst⟩ := hspec
    exact ⟨(nomatch ·), fun hd => absurd hd hfirst.not_nodup⟩

/-- The conditions that pass the check are those on distinct arguments. -/
theorem checkDistinct_eq_ok_iff :
    checkDistinct conditions = .ok () ↔ (conditions.map (·.arg)).Nodup := by
  have hval : conditions.map (·.arg.val) = (conditions.map (·.arg)).map Fin.val := by
    rw [List.map_map]
    rfl
  rw [checkDistinct_eq_ok_iff_nodup_val, hval]
  exact List.nodup_map_iff Fin.val_injective

/-- The check names the argument that repeats first, and fails for no other reason. -/
theorem checkDistinct_eq_error_iff {error : ConditionError} :
    checkDistinct conditions = .error error ↔
      ∃ arg, error = .duplicateArg arg ∧ FirstRepeat (conditions.map (·.arg.val)) arg.val := by
  have hspec := checkDistinct_spec conditions
  cases hc : checkDistinct conditions with
  | ok done =>
    rw [hc] at hspec
    refine ⟨(nomatch ·), ?_⟩
    rintro ⟨arg, -, hfirst⟩
    exact absurd hspec hfirst.not_nodup
  | error found =>
    rw [hc] at hspec
    obtain ⟨arg, rfl, hfirst⟩ := hspec
    constructor
    · intro he
      exact ⟨arg, (Except.error.inj he).symm, hfirst⟩
    · rintro ⟨other, rfl, hother⟩
      rw [Fin.ext (hfirst.unique hother)]

/-- Conditions on distinct arguments are no more than there are arguments. -/
theorem length_le_of_nodup (hd : (conditions.map (·.arg)).Nodup) : conditions.length ≤ argCount := by
  calc
    conditions.length = (conditions.map (·.arg)).length := (List.length_map _).symm
    _ ≤ Fintype.card (Fin argCount) := hd.length_le_card
    _ = argCount := Fintype.card_fin argCount

/-- A condition that some request for an argument has made. -/
def MadeFor (arg : Nat) (condition : Condition) : Prop :=
  ∃ operator operands, make arg operator operands = .ok condition

/-- The bit of a condition is moved up by the number of the argument that was asked for, and no
further than the mask is wide. -/
structure ShiftsBy (arg : Nat) (condition : Condition) : Prop where
  amount : (UInt8.ofNat condition.arg).toNat = arg
  inside : arg < 8
  bit : (argBit condition.arg).toNat = 2 ^ arg

theorem MadeFor.arg_eq {arg : Nat} {condition : Condition} (h : MadeFor arg condition) :
    condition.arg.val = arg := by
  obtain ⟨operator, operands, hm⟩ := h
  by_cases harg : arg < argCount
  · have hmake : make arg operator operands =
        (testOf operator operands).map fun test => ⟨⟨arg, harg⟩, test⟩ := dif_pos harg
    rw [hmake] at hm
    cases ht : testOf operator operands with
    | error _ =>
      rw [ht] at hm
      nomatch hm
    | ok test =>
      rw [ht] at hm
      rw [← Except.ok.inj hm]
  · have hmake : make arg operator operands = .error (.argOutOfRange arg) := dif_neg harg
    rw [hmake] at hm
    nomatch hm

theorem MadeFor.shiftsBy {arg : Nat} {condition : Condition} (h : MadeFor arg condition) :
    ShiftsBy arg condition := by
  have hall : ∀ arg : Fin argCount,
      (UInt8.ofNat arg).toNat = arg ∧ arg.val < 8 ∧ (argBit arg).toNat = 2 ^ arg.val := by decide
  obtain ⟨hamount, hinside, hbit⟩ := hall condition.arg
  have harg := h.arg_eq
  constructor
  · rw [hamount, harg]
  · rwa [harg] at hinside
  · rw [hbit, harg]

theorem map_arg_of_made {args : List Nat} (h : List.Forall₂ MadeFor args conditions) :
    conditions.map (·.arg.val) = args := by
  induction h with
  | nil => rfl
  | cons hmade _ ih => rw [List.map_cons, hmade.arg_eq, ih]

/-- Conditions that were made for arguments pass the check if the arguments are distinct, which more
than six are not. Any others are refused with the argument that repeats first, and for no other
reason. No bit that the check looks at is moved out of the mask. -/
theorem checkDistinct_finds_first_repeat {args : List Nat}
    (h : List.Forall₂ MadeFor args conditions) :
    (checkDistinct conditions = .ok () ↔ args.Nodup) ∧
      (argCount < conditions.length → checkDistinct conditions ≠ .ok ()) ∧
      (∀ error, checkDistinct conditions = .error error ↔
        ∃ arg, error = .duplicateArg arg ∧ FirstRepeat args arg.val) ∧
      List.Forall₂ ShiftsBy args conditions := by
  have hargs := map_arg_of_made h
  refine ⟨?_, ?_, ?_, ?_⟩
  · rw [checkDistinct_eq_ok_iff_nodup_val, hargs]
  · intro hlong hok
    have hshort := length_le_of_nodup (checkDistinct_eq_ok_iff.mp hok)
    omega
  · intro error
    rw [checkDistinct_eq_error_iff, hargs]
  · exact h.imp fun _ _ => MadeFor.shiftsBy

/-- Two arguments repeat, and the one that comes again first is named. -/
theorem checkDistinct_finds_first_repeat_four :
    let conditions : List Condition :=
      [⟨1, .compare .eq 7⟩, ⟨4, .masked 3 1⟩, ⟨0, .compare .ne 0⟩, ⟨4, .compare .lt 9⟩,
        ⟨1, .compare .ge 2⟩]
    List.Forall₂ MadeFor [1, 4, 0, 4, 1] conditions ∧
      checkDistinct conditions = .error (.duplicateArg 4) := by
  intro conditions
  have hmade : List.Forall₂ MadeFor [1, 4, 0, 4, 1] conditions :=
    .cons ⟨.eq, [7], rfl⟩ <| .cons ⟨.maskedEq, [3, 1], rfl⟩ <| .cons ⟨.ne, [0], rfl⟩ <|
      .cons ⟨.lt, [9], rfl⟩ <| .cons ⟨.ge, [2], rfl⟩ .nil
  obtain ⟨-, -, hrefused, -⟩ := checkDistinct_finds_first_repeat hmade
  refine ⟨hmade, (hrefused _).mpr ⟨4, rfl, [1, 4, 0], [1], rfl, ?_, ?_⟩⟩
  · decide
  · decide

end Condition

end SyscallFilter
