import Mathlib.Tactic
import SyscallFilter.Proofs.Digits
import SyscallFilter.Release

/-!
How a release is read from its text. A text is cut at its dots before the digits in it are looked
at. So what follows the digits of a major, minor or patch number is passed over as long as it has no
dot, and behind the minor number a dot of a vendor's suffix counts like the one in front of a patch
number. A major or minor number beyond 32 bits is turned down, and never wraps around.
-/

namespace SyscallFilter

namespace Release

variable {text digits rest field first second third major minor patch suffix : List Char}
  {n a b c : Nat}

/-- A text starts with the digits of a number, and no more digits follow. -/
def StartsWith (text : List Char) (n : Nat) : Prop :=
  ∃ digits rest, text = digits ++ rest ∧ Numeral digits n ∧ NoDigitFirst rest

/-- The digits of a number stand right behind the first dot. -/
def BehindDot (text : List Char) (n : Nat) : Prop :=
  ∃ before after, text = before ++ '.' :: after ∧ '.' ∉ before ∧ StartsWith after n

section Digits

theorem dot_not_mem (h : Numeral digits n) : '.' ∉ digits := by
  intro hdot
  exact absurd (h.isDigit '.' hdot) (by decide)

/-- What follows the digits at the start of a field is passed over. -/
theorem numberAtStart?_append (h : Numeral digits n) (hrest : NoDigitFirst rest) :
    numberAtStart? (digits ++ rest) = if n < UInt32.size then some n else none := by
  have hsome : ¬ digits.isEmpty = true := by
    rw [h.isEmpty_eq_false]
    exact Bool.false_ne_true
  rw [numberAtStart?]
  dsimp only
  rw [h.takeWhile_append hrest, if_neg hsome, h.value]

theorem numberAtStart?_eq_some_iff :
    numberAtStart? field = some n ↔ StartsWith field n ∧ n < 2 ^ 32 := by
  constructor
  · intro h
    rw [numberAtStart?] at h
    dsimp only at h
    split_ifs at h with hnone hsmall
    obtain rfl := Option.some.inj h
    refine ⟨⟨_, _, List.takeWhile_append_dropWhile.symm, ?_, noDigitFirst_dropWhile field⟩,
      hsmall⟩
    constructor
    · rwa [List.isEmpty_iff] at hnone
    · exact List.all_eq_true.mp List.all_takeWhile
    · rfl
  · rintro ⟨⟨digits, rest, rfl, hdigits, hrest⟩, hsmall⟩
    rw [numberAtStart?_append hdigits hrest]
    exact if_pos hsmall

end Digits

section Fields

theorem ne_dot (hfield : '.' ∉ field) : ∀ char ∈ field, (char != '.') = true := by
  intro char hchar
  rw [bne_iff_ne]
  rintro rfl
  exact hfield hchar

theorem atDot?_append (hfield : '.' ∉ field) (rest : List Char) :
    atDot? (field ++ '.' :: rest) = some (field, rest) := by
  rw [atDot?, List.dropWhile_append_of_pos (ne_dot hfield),
    List.dropWhile_cons_of_neg (by decide)]
  dsimp only
  rw [List.takeWhile_append_of_pos (ne_dot hfield), List.takeWhile_cons_of_neg (by decide),
    List.append_nil]

theorem atDot?_eq_none (htext : '.' ∉ text) : atDot? text = none := by
  have hdrop : text.dropWhile (· != '.') = [] := by
    rw [← text.append_nil, List.dropWhile_append_of_pos (ne_dot htext), List.dropWhile_nil]
  rw [atDot?, hdrop]

theorem behindDot_append_iff (hfield : '.' ∉ field) :
    BehindDot (field ++ '.' :: rest) n ↔ StartsWith rest n := by
  constructor
  · rintro ⟨before, after, hsame, hbefore, hafter⟩
    have hcut : some (field, rest) = some (before, after) := by
      rw [← atDot?_append hfield rest, hsame, atDot?_append hbefore after]
    obtain ⟨-, rfl⟩ := Prod.mk.inj (Option.some.inj hcut)
    exact hafter
  · intro hrest
    exact ⟨field, rest, rfl, hfield, hrest⟩

/-- The digits of a number end before the next dot, and what follows them may have one or not. -/
theorem atDot?_digits (h : Numeral digits n) (hrest : NoDigitFirst rest) :
    ('.' ∉ rest ∧ atDot? (digits ++ rest) = none) ∨
      ∃ before after, rest = before ++ '.' :: after ∧ '.' ∉ before ∧ NoDigitFirst before ∧
        atDot? (digits ++ rest) = some (digits ++ before, after) := by
  by_cases hdot : '.' ∈ rest
  · obtain ⟨before, after, rfl, hbefore⟩ := List.eq_append_cons_of_mem hdot
    have hfield : '.' ∉ digits ++ before := by
      rw [List.mem_append]
      exact not_or_intro (dot_not_mem h) hbefore
    refine .inr ⟨before, after, rfl, hbefore, hrest.of_append, ?_⟩
    rw [← List.append_assoc, atDot?_append hfield]
  · have hall : '.' ∉ digits ++ rest := by
      rw [List.mem_append]
      exact not_or_intro (dot_not_mem h) hdot
    exact .inl ⟨hdot, atDot?_eq_none hall⟩

/-- The text behind a first dot gives the number it starts with, and the one behind its own dot. -/
theorem cut_digits (h : Numeral digits n) (hrest : NoDigitFirst rest) :
    ∃ second third, (atDot? (digits ++ rest)).getD (digits ++ rest, []) = (second, third) ∧
      numberAtStart? second = (if n < UInt32.size then some n else none) ∧
      ∀ patch, numberAtStart? third = some patch ↔ BehindDot rest patch ∧ patch < 2 ^ 32 := by
  obtain ⟨hdot, hcut⟩ | ⟨before, after, rfl, hbefore, hfirst, hcut⟩ := atDot?_digits h hrest
  · -- No text behind a dot reads like the empty text, which has no number.
    refine ⟨digits ++ rest, [], by rw [hcut]; rfl, numberAtStart?_append h hrest, ?_⟩
    intro patch
    constructor
    · intro hpatch
      nomatch hpatch
    · rintro ⟨⟨before, after, rfl, -, -⟩, -⟩
      exact absurd (List.mem_append_right before List.mem_cons_self) hdot
  · refine ⟨digits ++ before, after, by rw [hcut]; rfl, numberAtStart?_append h hfirst, ?_⟩
    intro patch
    rw [numberAtStart?_eq_some_iff, behindDot_append_iff hbefore]

/-- A release is read from the fields in front of the first dot, behind it up to the second one, and
behind that one. -/
theorem parse?_fields (hfirst : '.' ∉ first)
    (hcut : (atDot? rest).getD (rest, []) = (second, third)) :
    parse? (first ++ '.' :: rest) = (numberAtStart? first).bind fun major =>
      (numberAtStart? second).map fun minor => ⟨major, minor, (numberAtStart? third).getD 0⟩ := by
  rw [parse?, atDot?_append hfirst]
  dsimp only
  rw [hcut]
  cases numberAtStart? first with
  | none => rfl
  | some major =>
    cases numberAtStart? second with
    | none => rfl
    | some minor => rfl

end Fields

section Numbers

section Fitting

variable (hmajor : Numeral major a) (hminor : Numeral minor b) (hsuffix : NoDigitFirst suffix)
  (ha : a < 2 ^ 32) (hb : b < 2 ^ 32)

include hmajor hminor hsuffix ha hb

/-- After two numbers that fit, the patch number is the one behind the next dot, if there is one. -/
theorem parse?_two_numbers :
    ∃ found : Option Nat, (∀ n, found = some n ↔ BehindDot suffix n ∧ n < 2 ^ 32) ∧
      parse? (major ++ '.' :: (minor ++ suffix)) = some ⟨a, b, found.getD 0⟩ := by
  obtain ⟨second, third, hcut, hsecond, hthird⟩ := cut_digits hminor hsuffix
  have hfirst : numberAtStart? major = some a := by
    rw [← List.append_nil major, numberAtStart?_append hmajor noDigitFirst_nil]
    exact if_pos ha
  have hfits : b < UInt32.size := hb
  refine ⟨numberAtStart? third, hthird, ?_⟩
  rw [parse?_fields (dot_not_mem hmajor) hcut, hfirst, hsecond, if_pos hfits, Option.bind_some,
    Option.map_some]

theorem parse?_behindDot (hn : n < 2 ^ 32) (hdot : BehindDot suffix n) :
    parse? (major ++ '.' :: (minor ++ suffix)) = some ⟨a, b, n⟩ := by
  obtain ⟨found, hfound, hread⟩ := parse?_two_numbers hmajor hminor hsuffix ha hb
  have hpatch : found = some n := (hfound n).mpr ⟨hdot, hn⟩
  rw [hread, hpatch, Option.getD_some]

theorem parse?_no_patch (hnone : ∀ n < 2 ^ 32, ¬ BehindDot suffix n) :
    parse? (major ++ '.' :: (minor ++ suffix)) = some ⟨a, b, 0⟩ := by
  obtain ⟨found, hfound, hread⟩ := parse?_two_numbers hmajor hminor hsuffix ha hb
  have hpatch : found = none := by
    rw [Option.eq_none_iff_forall_ne_some]
    intro n hn
    obtain ⟨hdot, hsmall⟩ := (hfound n).mp hn
    exact hnone n hsmall hdot
  rw [hread, hpatch, Option.getD_none]

/-- Three numbers are two in front of a text whose first character is the next dot. -/
theorem parse?_three_numbers (hpatch : Numeral patch c) (hc : c < 2 ^ 32) :
    parse? (major ++ '.' :: (minor ++ '.' :: (patch ++ suffix))) = some ⟨a, b, c⟩ := by
  have hfirst : NoDigitFirst ('.' :: (patch ++ suffix)) := noDigitFirst_cons (by decide) _
  have hdot : BehindDot ('.' :: (patch ++ suffix)) c :=
    ⟨[], patch ++ suffix, rfl, List.not_mem_nil, patch, suffix, rfl, hpatch, hsuffix⟩
  exact parse?_behindDot hmajor hminor hfirst ha hb hc hdot

end Fitting

theorem parse?_large_major (hmajor : Numeral major a) (hsuffix : NoDigitFirst suffix)
    (ha : 2 ^ 32 ≤ a) : parse? (major ++ suffix) = none := by
  have hlarge : ¬ a < UInt32.size := Nat.not_lt_of_le ha
  obtain ⟨-, hcut⟩ | ⟨before, after, -, -, hbefore, hcut⟩ := atDot?_digits hmajor hsuffix
  · rw [parse?, hcut]
  · rw [parse?, hcut]
    dsimp only
    rw [numberAtStart?_append hmajor hbefore, if_neg hlarge]

theorem parse?_large_minor (hminor : Numeral minor b) (hsuffix : NoDigitFirst suffix)
    (hb : 2 ^ 32 ≤ b) (hfield : '.' ∉ field) :
    parse? (field ++ '.' :: (minor ++ suffix)) = none := by
  have hlarge : ¬ b < UInt32.size := Nat.not_lt_of_le hb
  obtain ⟨second, third, hcut, hsecond, -⟩ := cut_digits hminor hsuffix
  rw [parse?_fields hfield hcut, hsecond, if_neg hlarge]
  exact Option.bind_fun_none _

/-- A release that is printed is read back. -/
theorem parse?_text {release : Release} (hmajor : release.major < 2 ^ 32)
    (hminor : release.minor < 2 ^ 32) (hpatch : release.patch < 2 ^ 32) :
    parse? release.text.toList = some release := by
  have htext : release.text.toList = Nat.toDigits 10 release.major ++
      '.' :: (Nat.toDigits 10 release.minor ++ '.' :: (Nat.toDigits 10 release.patch ++ [])) := by
    simp only [text, decimal, String.toList_append, String.toList_ofList, List.append_assoc]
    rw [List.append_nil]
    rfl
  rw [htext]
  exact parse?_three_numbers (numeral_toDigits _) (numeral_toDigits _) noDigitFirst_nil hmajor
    hminor (numeral_toDigits _) hpatch

/-- Three numbers that fit are read, whatever suffix follows. Two numbers that fit are read with
zero for the patch number, unless the digits of a number stand behind the first dot of the suffix:
then it is that number. A major or minor number that does not fit is turned down, whatever stands
around it. -/
theorem parse?_goes_by_dots (hmajor : Numeral major a) (hminor : Numeral minor b)
    (hpatch : Numeral patch c) (hsuffix : NoDigitFirst suffix) :
    (a < 2 ^ 32 → b < 2 ^ 32 →
      (c < 2 ^ 32 →
        parse? (major ++ '.' :: (minor ++ '.' :: (patch ++ suffix))) = some ⟨a, b, c⟩) ∧
      (∀ n < 2 ^ 32, BehindDot suffix n →
        parse? (major ++ '.' :: (minor ++ suffix)) = some ⟨a, b, n⟩) ∧
      ((∀ n < 2 ^ 32, ¬ BehindDot suffix n) →
        parse? (major ++ '.' :: (minor ++ suffix)) = some ⟨a, b, 0⟩)) ∧
    (2 ^ 32 ≤ a → parse? (major ++ suffix) = none) ∧
    (2 ^ 32 ≤ b → ∀ field, '.' ∉ field →
      parse? (field ++ '.' :: (minor ++ suffix)) = none) := by
  refine ⟨?_, parse?_large_major hmajor hsuffix, ?_⟩
  · intro ha hb
    refine ⟨parse?_three_numbers hmajor hminor hsuffix ha hb hpatch, ?_,
      parse?_no_patch hmajor hminor hsuffix ha hb⟩
    intro n hn hdot
    exact parse?_behindDot hmajor hminor hsuffix ha hb hn hdot
  · intro hb field hfield
    exact parse?_large_minor hminor hsuffix hb hfield

/-- A release candidate is read by its numbers, up to a number behind the dot in its suffix. Numbers
that would wrap around to 6 and 8 are turned down. -/
theorem parse?_goes_by_dots_candidate :
    parse? "6.8.12-rc1.5".toList = some ⟨6, 8, 12⟩ ∧ parse? "6.8-rc1.5".toList = some ⟨6, 8, 5⟩ ∧
      parse? "6.8-rc1.x".toList = some ⟨6, 8, 0⟩ ∧ parse? "4294967302.8-rc1.x".toList = none ∧
      parse? "6.4294967304-rc1.x".toList = none := by
  have hsix : Numeral ['6'] 6 := numeral_toDigits 6
  have height : Numeral ['8'] 8 := numeral_toDigits 8
  have htwelve : Numeral ['1', '2'] 12 := numeral_toDigits 12
  have hlargeMajor : Numeral "4294967302".toList 4294967302 := numeral_toDigits 4294967302
  have hlargeMinor : Numeral "4294967304".toList 4294967304 := numeral_toDigits 4294967304
  have hnumbered : BehindDot "-rc1.5".toList 5 :=
    ⟨"-rc1".toList, ['5'], rfl, by decide, ['5'], [], rfl, numeral_toDigits 5, nofun⟩
  have hlettered : ∀ n < 2 ^ 32, ¬ BehindDot "-rc1.x".toList n := by
    intro n hn hdot
    have hfield : '.' ∉ "-rc1".toList := by decide
    have hstart : StartsWith ['x'] n := (behindDot_append_iff hfield).mp hdot
    have hread := numberAtStart?_eq_some_iff.mpr ⟨hstart, hn⟩
    nomatch hread
  have hdotNumber : NoDigitFirst "-rc1.5".toList := noDigitFirst_cons (by decide) _
  have hdotLetter : NoDigitFirst "-rc1.x".toList := noDigitFirst_cons (by decide) _
  have hbehindMajor : NoDigitFirst ".8-rc1.x".toList := noDigitFirst_cons (by decide) _
  obtain ⟨hfit, -, -⟩ := parse?_goes_by_dots hsix height htwelve hdotNumber
  obtain ⟨hthree, htwo, -⟩ := hfit (by omega) (by omega)
  obtain ⟨hother, -, -⟩ := parse?_goes_by_dots hsix height htwelve hdotLetter
  obtain ⟨-, -, hnone⟩ := hother (by omega) (by omega)
  obtain ⟨-, hmajor, -⟩ := parse?_goes_by_dots hlargeMajor height htwelve hbehindMajor
  obtain ⟨-, -, hminor⟩ := parse?_goes_by_dots hsix hlargeMinor htwelve hdotLetter
  exact ⟨hthree (by omega), htwo 5 (by omega) hnumbered, hnone hlettered, hmajor (by omega),
    hminor (by omega) ['6'] (by decide)⟩

/-- Two numbers with a suffix are not always read with zero for the patch number. -/
theorem suffix_number_read_as_patch :
    ¬ ∀ a b : Nat, a < 2 ^ 32 → b < 2 ^ 32 → ∀ suffix : List Char,
      (∀ char ∈ suffix.head?, char.isDigit = false ∧ char ≠ '.') →
        parse? (Nat.toDigits 10 a ++ '.' :: (Nat.toDigits 10 b ++ suffix)) = some ⟨a, b, 0⟩ := by
  intro hzero
  have hsuffix : ∀ char ∈ "-rc1.5".toList.head?, char.isDigit = false ∧ char ≠ '.' := by
    intro char hchar
    obtain rfl := Option.some.inj hchar
    decide
  have hread := hzero 6 8 (by omega) (by omega) "-rc1.5".toList hsuffix
  have hfive : parse? (Nat.toDigits 10 6 ++ '.' :: (Nat.toDigits 10 8 ++ "-rc1.5".toList)) =
      some ⟨6, 8, 5⟩ := by decide
  rw [hfive] at hread
  nomatch hread

end Numbers

end Release

end SyscallFilter
