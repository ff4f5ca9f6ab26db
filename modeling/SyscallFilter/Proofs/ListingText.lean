import Mathlib.Tactic
import SyscallFilter.Listing
import SyscallFilter.Proofs.PseudoCode

/-!
The pieces of a listing, read back. Numerals, tests, actions and statements are read as what they were
written for, where the action is one that may stand in a filter.
-/

namespace SyscallFilter

section Numerals

theorem decimal_toList (n : Nat) : (decimal n).toList = Nat.toDigits 10 n := by
  rw [decimal, String.toList_ofList]

theorem hexadecimal_toList (n : Nat) : (hexadecimal n).toList = '0' :: 'x' :: Nat.toDigits 16 n := by
  have hdigits : (String.ofList (Nat.toDigits 16 n)).toList = Nat.toDigits 16 n :=
    String.toList_ofList
  rw [hexadecimal, String.toList_append, hdigits]
  rfl

theorem mem_of_mem_toDigits {base n : Nat} {c : Char} (hb : 1 < base) (hle : base ≤ 16)
    (h : c ∈ Nat.toDigits base n) : c ∈ "0123456789abcdef".toList := by
  have hdigit : ∀ d < 16, Nat.digitChar d ∈ "0123456789abcdef".toList := by decide
  induction n using Nat.strong_induction_on with
  | _ n ih =>
    rw [Nat.toDigits_eq_if hb] at h
    split_ifs at h with hn
    · rw [List.mem_singleton.mp h]
      exact hdigit n (by omega)
    · rcases List.mem_append.mp h with h | h
      · exact ih (n / base) (Nat.div_lt_self (by omega) hb) h
      · rw [List.mem_singleton.mp h]
        have hmod : n % base < base := Nat.mod_lt n (by omega)
        exact hdigit (n % base) (by omega)

namespace PseudoCode

theorem continueNatural?_append (base n : Nat) (xs ys : List Char) :
    continueNatural? base n (xs ++ ys) =
      (continueNatural? base n xs).bind fun m => continueNatural? base m ys := by
  induction xs generalizing n with
  | nil => rfl
  | cons c rest ih =>
    rw [List.cons_append, continueNatural?, continueNatural?]
    cases digit? base c with
    | none => rfl
    | some d => exact ih (base * n + d)

theorem natural?_toDigits {base : Nat} (hb : base = 10 ∨ base = 16) (n : Nat) :
    natural? base (Nat.toDigits base n) = some n := by
  have hone : 1 < base := by omega
  have hdigit : ∀ d < base, digit? base (Nat.digitChar d) = some d := by
    rcases hb with rfl | rfl
    · decide
    · decide
  -- The last digit is read behind the digits of the quotient.
  have hcontinue : continueNatural? base 0 (Nat.toDigits base n) = some n := by
    induction n using Nat.strong_induction_on with
    | _ n ih =>
      rw [Nat.toDigits_eq_if hone]
      split_ifs with hn
      · simp [continueNatural?, hdigit n hn]
      · have hdiv : n / base < n := Nat.div_lt_self (by omega) hone
        have hmod : n % base < base := Nat.mod_lt n (by omega)
        rw [continueNatural?_append, ih (n / base) hdiv, Option.bind_some, continueNatural?,
          hdigit _ hmod]
        exact congrArg some (Nat.div_add_mod n base)
  cases hd : Nat.toDigits base n with
  | nil => exact absurd hd Nat.toDigits_ne_nil
  | cons c rest =>
    rw [natural?, ← hd]
    exact hcontinue

theorem integer?_signedDecimal (i : Int) : integer? (signedDecimal i).toList = some i := by
  rw [signedDecimal]
  split_ifs with hi
  · rw [String.toList_append, decimal_toList]
    have hread := natural?_toDigits (.inl rfl) i.natAbs
    have habs : -Int.ofNat i.natAbs = i := by
      rw [Int.ofNat_eq_natCast]
      omega
    change (natural? 10 (Nat.toDigits 10 i.natAbs)).map (fun n => -Int.ofNat n) = some i
    rw [hread, Option.map_some, habs]
  · have hread := natural?_toDigits (.inl rfl) i.natAbs
    have habs : Int.ofNat i.natAbs = i := by
      rw [Int.ofNat_eq_natCast]
      omega
    rw [decimal_toList, integer?]
    · rw [hread, Option.map_some, habs]
    · -- No digit is a minus sign.
      intro rest he
      have hminus : '-' ∈ Nat.toDigits 10 i.natAbs := by
        rw [he]
        exact List.mem_cons_self
      have hmem := mem_of_mem_toDigits (by omega) (by omega) hminus
      revert hmem
      decide

theorem constant?_hexadecimal (n : Nat) : constant? (hexadecimal n).toList = some n := by
  rw [hexadecimal_toList]
  exact natural?_toDigits (.inr rfl) n

end PseudoCode

end Numerals

section Joining

variable {α : Type}

theorem intercalate_append (joint : List α) {xs ys : List (List α)} (hx : xs ≠ []) (hy : ys ≠ []) :
    joint.intercalate (xs ++ ys) = joint.intercalate xs ++ joint ++ joint.intercalate ys := by
  induction xs with
  | nil => exact absurd rfl hx
  | cons x xs ih =>
    cases xs with
    | nil =>
      obtain ⟨y, rest, rfl⟩ := List.exists_cons_of_ne_nil hy
      rw [List.singleton_append, List.intercalate_cons_cons, List.intercalate_singleton]
    | cons x' xs =>
      rw [List.cons_append, List.cons_append, List.intercalate_cons_cons,
        List.intercalate_cons_cons, ← List.cons_append, ih (List.cons_ne_nil _ _)]
      simp only [List.append_assoc]

theorem mem_of_mem_intercalate {joint : List α} {pieces : List (List α)} {a : α}
    (h : a ∈ joint.intercalate pieces) : a ∈ joint ∨ ∃ piece ∈ pieces, a ∈ piece := by
  induction pieces with
  | nil => nomatch h
  | cons piece rest ih =>
    cases rest with
    | nil =>
      rw [List.intercalate_singleton] at h
      exact .inr ⟨piece, List.mem_cons_self, h⟩
    | cons next rest =>
      rw [List.intercalate_cons_cons] at h
      rcases List.mem_append.mp h with h | h
      · rcases List.mem_append.mp h with h | h
        · exact .inr ⟨piece, List.mem_cons_self, h⟩
        · exact .inl h
      · rcases ih h with h | ⟨found, hf, h⟩
        · exact .inl h
        · exact .inr ⟨found, List.mem_cons_of_mem _ hf, h⟩

theorem exists_intercalate_cons (joint piece : List α) (rest : List (List α)) :
    ∃ behind, joint.intercalate (piece :: rest) = piece ++ behind := by
  cases rest with
  | nil => exact ⟨[], by rw [List.intercalate_singleton, List.append_nil]⟩
  | cons next rest =>
    exact ⟨joint ++ joint.intercalate (next :: rest), by
      rw [List.intercalate_cons_cons, List.append_assoc]⟩

theorem intercalate_ne_nil {joint : List α} {piece : List α} {rest : List (List α)}
    (h : piece ≠ []) : joint.intercalate (piece :: rest) ≠ [] := by
  obtain ⟨behind, he⟩ := exists_intercalate_cons joint piece rest
  rw [he]
  exact List.append_ne_nil_of_left_ne_nil h _

/-- Pieces whose words are divided by spaces, with a word between spaces as their joint, are all the
words divided by spaces, with that word between the words of the pieces. -/
theorem intercalate_words (space : α) (word : List α) {pieces : List (List (List α))}
    (h : ∀ piece ∈ pieces, piece ≠ []) :
    ([space] ++ word ++ [space]).intercalate (pieces.map [space].intercalate) =
      [space].intercalate ([word].intercalate pieces) := by
  induction pieces with
  | nil => rfl
  | cons piece rest ih =>
    obtain ⟨hpiece, hrest⟩ := List.forall_mem_cons.mp h
    cases rest with
    | nil => simp only [List.map_cons, List.map_nil, List.intercalate_singleton]
    | cons next rest =>
      -- Both sides are the first piece, the word between spaces, and what is behind.
      let behind := [word].intercalate (next :: rest)
      have hbehind : behind ≠ [] := intercalate_ne_nil (hrest next List.mem_cons_self)
      have hword : [space].intercalate ([word] ++ behind) =
          word ++ [space] ++ [space].intercalate behind := by
        rw [intercalate_append [space] (List.cons_ne_nil _ _) hbehind, List.intercalate_singleton]
      have hall : [space].intercalate (piece ++ ([word] ++ behind)) =
          [space].intercalate piece ++ [space] ++ [space].intercalate ([word] ++ behind) :=
        intercalate_append [space] hpiece (List.cons_ne_nil _ _)
      calc
        ([space] ++ word ++ [space]).intercalate ((piece :: next :: rest).map [space].intercalate)
            = [space].intercalate piece ++ ([space] ++ word ++ [space]) ++
                ([space] ++ word ++ [space]).intercalate
                  ((next :: rest).map [space].intercalate) := by
              rw [List.map_cons, List.map_cons, List.intercalate_cons_cons]
        _ = [space].intercalate piece ++ ([space] ++ word ++ [space]) ++
              [space].intercalate behind := by rw [ih hrest]
        _ = [space].intercalate (piece ++ ([word] ++ behind)) := by
              rw [hall, hword]
              simp only [List.append_assoc]
        _ = [space].intercalate ([word].intercalate (piece :: next :: rest)) := by
              rw [List.intercalate_cons_cons, List.append_assoc]

end Joining

namespace PseudoCode

theorem between?_eq_some_iff {start stop text middle : List Char} :
    between? start stop text = some middle ↔ text = start ++ middle ++ stop := by
  rw [between?, Option.bind_eq_some_iff]
  constructor
  · rintro ⟨rest, hs, hm⟩
    obtain ⟨start', rfl, he⟩ := List.dropPrefix?_eq_some_iff.mp hs
    obtain ⟨stop', rfl, he'⟩ := List.dropSuffix?_eq_some_iff.mp hm
    rw [beq_iff_eq.mp he, beq_iff_eq.mp he', List.append_assoc]
  · rintro rfl
    refine ⟨middle ++ stop, List.dropPrefix?_eq_some_iff.mpr ⟨start, ?_, beq_self_eq_true _⟩,
      List.dropSuffix?_eq_some_iff.mpr ⟨stop, rfl, beq_self_eq_true _⟩⟩
    rw [List.append_assoc]

theorem between?_append (start middle stop : List Char) :
    between? start stop (start ++ middle ++ stop) = some middle :=
  between?_eq_some_iff.mpr rfl

section Actions

theorem payload?_decimal (code : UInt16) : payload? (decimal code.toNat).toList = some code := by
  have hlt : code.toNat < 65536 := code.toNat_lt
  rw [payload?, decimal_toList, natural?_toDigits (.inl rfl), Option.bind_some, if_pos hlt,
    UInt16.ofNat_toNat]

/-- The name of an action is read as the action, unless it is the one that may not stand in a
filter. -/
theorem action?_text {action : Action} (h : action.isValid) :
    action? action.text.toList = some action := by
  cases action with
  | invalid => nomatch h
  | errno code =>
    have htext : (Action.errno code).text.toList =
        "ERRNO(".toList ++ (decimal code.toNat).toList ++ [')'] := by
      rw [Action.text, String.toList_append, String.toList_append]
      rfl
    rw [action?, htext, between?_append]
    simp only [payload?_decimal, Option.map_some]
  | trace code =>
    have htext : (Action.trace code).text.toList =
        "TRACE(".toList ++ (decimal code.toNat).toList ++ [')'] := by
      rw [Action.text, String.toList_append, String.toList_append]
      rfl
    have hother : between? "ERRNO(".toList [')']
        ("TRACE(".toList ++ (decimal code.toNat).toList ++ [')']) = none := rfl
    rw [action?, htext, hother, between?_append]
    simp only [payload?_decimal, Option.map_some]
  | _ => decide

end Actions

section Tests

/-- What a condition is read as. -/
def ArgTest.ofCondition (condition : Condition) : ArgTest :=
  match condition.test with
  | .compare comparison value => ⟨condition.arg, none, comparison, value.toNat⟩
  | .masked mask value => ⟨condition.arg, some mask.toNat, .eq, value.toNat⟩

/-- The words of a condition's text. -/
def words (condition : Condition) : List (List Char) :=
  let arg := '$' :: 'a' :: Nat.toDigits 10 condition.arg
  match condition.test with
  | .compare comparison value =>
    [arg, comparison.sign.toList, (hexadecimal value.toNat).toList]
  | .masked mask value =>
    [arg, ['&'], (hexadecimal mask.toNat).toList, ['=', '='], (hexadecimal value.toNat).toList]

theorem text_eq_words (condition : Condition) :
    condition.text.toList = [' '].intercalate (words condition) := by
  obtain ⟨arg, test⟩ := condition
  cases test with
  | compare comparison value =>
    simp only [Condition.text, words, String.toList_append, decimal_toList,
      List.intercalate_cons_cons, List.intercalate_singleton, List.append_assoc]
    rfl
  | masked mask value =>
    simp only [Condition.text, words, String.toList_append, decimal_toList,
      List.intercalate_cons_cons, List.intercalate_singleton, List.append_assoc]
    rfl

theorem comparison?_sign (comparison : Comparison) :
    comparison? comparison.sign.toList = some comparison := by
  cases comparison <;> decide

theorem test?_words (condition : Condition) :
    test? (words condition) = some (.ofCondition condition) := by
  obtain ⟨arg, test⟩ := condition
  have harg : argument? ('$' :: 'a' :: Nat.toDigits 10 arg) = some arg.val :=
    natural?_toDigits (.inl rfl) arg
  cases test with
  | compare comparison value =>
    simp [words, test?, harg, comparison?_sign, constant?_hexadecimal, ArgTest.ofCondition]
  | masked mask value =>
    have hsign : comparison? ['=', '='] = some .eq := comparison?_sign .eq
    simp [words, test?, harg, hsign, constant?_hexadecimal, ArgTest.ofCondition]

theorem not_mem_of_digits {base n : Nat} {c : Char} (hb : 1 < base) (hle : base ≤ 16)
    (hc : c ∉ "0123456789abcdef".toList) : c ∉ Nat.toDigits base n :=
  fun h => hc (mem_of_mem_toDigits hb hle h)

theorem not_mem_hexadecimal {n : Nat} {c : Char} (hx : c ≠ 'x')
    (hc : c ∉ "0123456789abcdef".toList) : c ∉ (hexadecimal n).toList := by
  have hzero : c ≠ '0' := by
    rintro rfl
    exact hc (by decide)
  have hdigits : c ∉ Nat.toDigits 16 n := not_mem_of_digits (by omega) (by omega) hc
  rw [hexadecimal_toList]
  simp [hzero, hx, hdigits]

/-- The words of a condition are divided by spaces, and none of them joins conditions. -/
theorem words_apart (condition : Condition) :
    (∀ word ∈ words condition, ' ' ∉ word) ∧ ['&', '&'] ∉ words condition := by
  obtain ⟨arg, test⟩ := condition
  have harg : ' ' ∉ Nat.toDigits 10 arg := not_mem_of_digits (by omega) (by omega) (by decide)
  have hspace (n : Nat) : ' ' ∉ (hexadecimal n).toList := not_mem_hexadecimal (by decide) (by decide)
  have hconstant (n : Nat) : ['&', '&'] ≠ (hexadecimal n).toList := by
    rw [hexadecimal_toList]
    simp
  cases test with
  | compare comparison value =>
    have hsign : ' ' ∉ comparison.sign.toList ∧ ['&', '&'] ≠ comparison.sign.toList := by
      cases comparison <;> decide
    simp [words, harg, hspace, hsign, hconstant]
  | masked mask value => simp [words, harg, hspace, hconstant]

theorem words_ne_nil (condition : Condition) : words condition ≠ [] := by
  rw [words]
  split <;> exact List.cons_ne_nil _ _

theorem mapM_words (conditions : List Condition) :
    (conditions.map words).mapM test? = some (conditions.map .ofCondition) := by
  induction conditions with
  | nil => rfl
  | cons condition rest ih => simp [test?_words, ih]

/-- The texts of conditions, joined, are read as their tests. -/
theorem tests?_text {conditions : List Condition} (hne : conditions ≠ []) :
    tests? (String.intercalate " && " (conditions.map Condition.text)).toList =
      some (conditions.map .ofCondition) := by
  have hmem : ∀ piece ∈ conditions.map words, ∃ condition, words condition = piece := by
    intro piece hp
    obtain ⟨condition, -, he⟩ := List.mem_map.mp hp
    exact ⟨condition, he⟩
  have hnonempty : ∀ piece ∈ conditions.map words, piece ≠ [] := by
    intro piece hp
    obtain ⟨condition, rfl⟩ := hmem piece hp
    exact words_ne_nil condition
  have htext : (String.intercalate " && " (conditions.map Condition.text)).toList =
      [' '].intercalate ([['&', '&']].intercalate (conditions.map words)) := by
    have htexts : (conditions.map Condition.text).map String.toList =
        (conditions.map words).map [' '].intercalate := by
      rw [List.map_map, List.map_map]
      exact List.map_congr_left fun condition _ => text_eq_words condition
    rw [String.toList_intercalate, htexts]
    exact intercalate_words ' ' ['&', '&'] hnonempty
  -- First the words are found again, and then the conditions.
  have hspace : ∀ word ∈ [['&', '&']].intercalate (conditions.map words), ' ' ∉ word := by
    intro word hw
    rcases mem_of_mem_intercalate hw with hjoint | ⟨piece, hp, hword⟩
    · rw [List.mem_singleton.mp hjoint]
      decide
    · obtain ⟨condition, rfl⟩ := hmem piece hp
      exact (words_apart condition).1 word hword
  have hjoint : ∀ piece ∈ conditions.map words, ['&', '&'] ∉ piece := by
    intro piece hp
    obtain ⟨condition, rfl⟩ := hmem piece hp
    exact (words_apart condition).2
  have hsome : [['&', '&']].intercalate (conditions.map words) ≠ [] := by
    obtain ⟨condition, rest, rfl⟩ := List.exists_cons_of_ne_nil hne
    exact intercalate_ne_nil (words_ne_nil condition)
  have hpieces : conditions.map words ≠ [] := by simpa using hne
  rw [tests?, htext, List.splitOn_intercalate ' ' hspace hsome,
    List.splitOn_intercalate ['&', '&'] hjoint hpieces, mapM_words]

end Tests

section Statements

theorem statement?_ifArch (word : Nat) :
    statement? ("if ($arch == ".toList ++ (decimal word).toList ++ [')']) =
      some (.ifArch word) := by
  rw [statement?, between?_append, decimal_toList]
  dsimp only
  rw [natural?_toDigits (.inl rfl), Option.map_some]

theorem statement?_ifSyscall (call : Syscall) :
    statement? ("if ($syscall == ".toList ++ call.numeral.toList ++ [')']) =
      some (.ifSyscall call.number.toInt) := by
  have harch : between? "if ($arch == ".toList [')']
      ("if ($syscall == ".toList ++ call.numeral.toList ++ [')']) = none := rfl
  rw [statement?, harch, between?_append, Syscall.numeral]
  dsimp only
  rw [integer?_signedDecimal, Option.map_some]

/-- The text of a condition starts with its argument, which has one digit. -/
theorem exists_text_start (condition : Condition) :
    ∃ behind, condition.text.toList =
      '$' :: 'a' :: Nat.digitChar condition.arg :: behind := by
  obtain ⟨arg, test⟩ := condition
  have hdigit : ∀ arg : Fin argCount, Nat.toDigits 10 arg = [Nat.digitChar arg] := by decide
  cases test with
  | compare comparison value =>
    simp only [Condition.text, String.toList_append, decimal_toList, hdigit]
    exact ⟨_, rfl⟩
  | masked mask value =>
    simp only [Condition.text, String.toList_append, decimal_toList, hdigit]
    exact ⟨_, rfl⟩

theorem statement?_ifArgs {conditions : List Condition} (hne : conditions ≠ []) :
    statement? ("if (".toList ++
        (String.intercalate " && " (conditions.map Condition.text)).toList ++ [')']) =
      some (.ifArgs (conditions.map .ofCondition)) := by
  -- The digit of the first argument tells the statement from the other two.
  obtain ⟨arg, behind, hstart⟩ : ∃ (arg : Fin argCount) (behind : List Char),
      (String.intercalate " && " (conditions.map Condition.text)).toList =
        '$' :: 'a' :: Nat.digitChar arg :: behind := by
    obtain ⟨condition, rest, rfl⟩ := List.exists_cons_of_ne_nil hne
    obtain ⟨own, hown⟩ := exists_text_start condition
    obtain ⟨others, hjoined⟩ := exists_intercalate_cons " && ".toList condition.text.toList
      ((rest.map Condition.text).map String.toList)
    refine ⟨condition.arg, own ++ others, ?_⟩
    rw [String.toList_intercalate, List.map_cons, List.map_cons, hjoined, hown]
    rfl
  have htests := tests?_text hne
  rw [hstart] at htests ⊢
  have harch : between? "if ($arch == ".toList [')']
      ("if (".toList ++ '$' :: 'a' :: Nat.digitChar arg :: behind ++ [')']) = none := by
    fin_cases arg <;> rfl
  have hsyscall : between? "if ($syscall == ".toList [')']
      ("if (".toList ++ '$' :: 'a' :: Nat.digitChar arg :: behind ++ [')']) = none := rfl
  rw [statement?, harch, hsyscall, between?_append]
  dsimp only
  rw [htests, Option.map_some]

theorem statement?_act {action : Action} (h : action.isValid) :
    statement? action.listing.toList = some (.act action) := by
  have htext : action.listing.toList = "action ".toList ++ action.text.toList ++ [';'] := by
    rw [Action.listing, String.toList_append, String.toList_append]
    rfl
  have harch : between? "if ($arch == ".toList [')']
      ("action ".toList ++ action.text.toList ++ [';']) = none := rfl
  have hsyscall : between? "if ($syscall == ".toList [')']
      ("action ".toList ++ action.text.toList ++ [';']) = none := rfl
  have hargs : between? "if (".toList [')']
      ("action ".toList ++ action.text.toList ++ [';']) = none := rfl
  rw [htext, statement?, harch, hsyscall, hargs, between?_append]
  dsimp only
  rw [Option.bind_some, action?_text h, Option.map_some]

end Statements

end PseudoCode

end SyscallFilter
