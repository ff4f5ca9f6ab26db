import Mathlib.Tactic

/-!
Numbers written with decimal digits, in front of a text that goes on with something else. What takes
the digits from the start of such a text takes those of the number, and leaves the rest.
-/

namespace SyscallFilter

variable {digits front rest : List Char} {n : Nat}

/-- Digits that stand for a number, perhaps with zeros in front. -/
structure Numeral (digits : List Char) (n : Nat) : Prop where
  ne_nil : digits ≠ []
  isDigit : ∀ char ∈ digits, char.isDigit = true
  value : Nat.ofDigitChars 10 digits 0 = n

/-- A text that does not start with a digit. -/
def NoDigitFirst (text : List Char) : Prop :=
  ∀ char ∈ text.head?, char.isDigit = false

theorem numeral_toDigits (n : Nat) : Numeral (Nat.toDigits 10 n) n where
  ne_nil := Nat.toDigits_ne_nil
  isDigit char hchar := Nat.isDigit_of_mem_toDigits (by omega) (by omega) hchar
  value := Nat.ofDigitChars_toDigits (by omega) (by omega)

theorem noDigitFirst_nil : NoDigitFirst [] :=
  nofun

theorem noDigitFirst_cons {char : Char} (h : char.isDigit = false) (rest : List Char) :
    NoDigitFirst (char :: rest) := by
  intro first hfirst
  obtain rfl := Option.some.inj hfirst
  exact h

theorem NoDigitFirst.of_append (h : NoDigitFirst (front ++ rest)) : NoDigitFirst front := by
  intro char hchar
  apply h char
  rw [List.head?_append, Option.mem_def.mp hchar]
  rfl

theorem noDigitFirst_dropWhile (text : List Char) : NoDigitFirst (text.dropWhile Char.isDigit) := by
  intro char hchar
  have hhead := List.head?_dropWhile_not Char.isDigit text
  rw [Option.mem_def.mp hchar] at hhead
  exact hhead

namespace Numeral

theorem isEmpty_eq_false (h : Numeral digits n) : digits.isEmpty = false :=
  List.isEmpty_eq_false_iff.mpr h.ne_nil

theorem takeWhile_append (h : Numeral digits n) (hrest : NoDigitFirst rest) :
    (digits ++ rest).takeWhile Char.isDigit = digits := by
  rw [List.takeWhile_append_of_pos h.isDigit]
  cases rest with
  | nil => exact List.append_nil digits
  | cons char rest =>
    have hchar : ¬ char.isDigit = true := by
      rw [hrest char rfl]
      exact Bool.false_ne_true
    rw [List.takeWhile_cons_of_neg hchar, List.append_nil]

theorem dropWhile_append (h : Numeral digits n) (hrest : NoDigitFirst rest) :
    (digits ++ rest).dropWhile Char.isDigit = rest := by
  have hwhole : digits ++ (digits ++ rest).dropWhile Char.isDigit = digits ++ rest := by
    calc digits ++ (digits ++ rest).dropWhile Char.isDigit
        = (digits ++ rest).takeWhile Char.isDigit ++ (digits ++ rest).dropWhile Char.isDigit := by
          rw [h.takeWhile_append hrest]
      _ = digits ++ rest := List.takeWhile_append_dropWhile
  exact List.append_cancel_left hwhole

end Numeral

end SyscallFilter
