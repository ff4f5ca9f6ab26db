import Mathlib.Tactic
import SyscallFilter.Json.Reader
import SyscallFilter.Policy.Writer
import SyscallFilter.Proofs.Digits

/-!
Strings and numbers of JSON: what is written for one is taken up to its end and read as the same
one, whatever stands behind a string, and as long as a number is not followed by more of it.
-/

namespace SyscallFilter.Json

theorem unit?_control {n : Nat} (h : n < 0x20) :
    unit? '0' '0' (hexDigit (n / 16)) (hexDigit (n % 16)) = some n := by
  revert n
  decide

theorem unquote_escape (c : Char) (rest : List Char) :
    unquote (escape c ++ rest) = (unquote rest).map fun (text, rest) => (c :: text, rest) := by
  fun_cases escape c with
  | case8 c hquote hbackslash _ _ _ _ _ hcontrol =>
    -- The digits of a control character make no surrogate.
    have hsurrogate : c.toNat < 0xd800 ∨ 0xe000 ≤ c.toNat := by omega
    simp only [List.cons_append, List.nil_append, unquote, unit?_control hcontrol,
      if_pos hsurrogate, Char.ofNat_toNat]
  | case9 c hquote hbackslash _ _ _ _ _ hcontrol =>
    -- What has no escape is neither the end of the literal nor the start of an escape.
    have hplain : ¬ (c.toNat < 0x20 ∨ c = '\\') := by
      intro hc
      exact hc.elim hcontrol hbackslash
    rw [List.singleton_append, unquote, if_neg hplain]
    · exact hquote
    · exact fun _ _ _ _ _ hc => absurd hc hbackslash
    · exact fun _ _ hc => absurd hc hbackslash
  | _ => rfl

/-- A literal is read up to its closing quote. -/
theorem unquote_literal (text rest : List Char) :
    unquote (text.flatMap escape ++ '"' :: rest) = some (text, rest) := by
  induction text with
  | nil => rfl
  | cons c text ih => rw [List.flatMap_cons, List.append_assoc, unquote_escape, ih, Option.map_some]

theorem head?_toDigits {n : Nat} (hn : 0 < n) : (Nat.toDigits 10 n).head? ≠ some '0' := by
  have hdigit : ∀ d < 10, 0 < d → Nat.digitChar d ≠ '0' := by decide
  induction n using Nat.strong_induction_on with
  | _ n ih =>
    rw [Nat.toDigits_eq_if (by omega)]
    split_ifs with hsmall
    · intro hc
      exact hdigit n hsmall hn (Option.some.inj hc)
    · -- The first digit is that of the quotient.
      have hdiv : 0 < n / 10 := by omega
      have hfirst := ih (n / 10) (by omega) hdiv
      cases hd : Nat.toDigits 10 (n / 10) with
      | nil => exact absurd hd Nat.toDigits_ne_nil
      | cons c _ =>
        rw [hd] at hfirst
        exact hfirst

theorem exists_toDigits_eq_cons (n : Nat) :
    ∃ c digits, Nat.toDigits 10 n = c :: digits ∧ c.isDigit = true := by
  cases hd : Nat.toDigits 10 n with
  | nil => exact absurd hd Nat.toDigits_ne_nil
  | cons c digits =>
    have hc : c ∈ Nat.toDigits 10 n := by
      rw [hd]
      exact List.mem_cons_self
    exact ⟨c, digits, rfl, Nat.isDigit_of_mem_toDigits (by omega) (by omega) hc⟩

/-- What may follow a value in its surroundings: nothing, or a sign that goes on with them or ends
them. -/
def Ended (rest : List Char) : Prop :=
  ∀ c ∈ rest.head?, c = ',' ∨ c = ']' ∨ c = '}'

theorem Ended.noDigitFirst {rest : List Char} (h : Ended rest) : NoDigitFirst rest := by
  intro c hc
  obtain rfl | rfl | rfl := h c hc
  all_goals rfl

namespace Reader

theorem magnitude?_toDigits (n : Nat) {rest : List Char} (h : Ended rest) :
    magnitude? (Nat.toDigits 10 n ++ rest) = some (n, rest) := by
  have hnumeral := numeral_toDigits n
  have htake := hnumeral.takeWhile_append h.noDigitFirst
  have hdrop := hnumeral.dropWhile_append h.noDigitFirst
  -- Only the number zero starts with a zero, and it has no other digit.
  have hzero : ((Nat.toDigits 10 n).head? == some '0' && (Nat.toDigits 10 n).length != 1) =
      false := by
    rcases Nat.eq_zero_or_pos n with hn | hn
    · rw [hn]
      decide
    · rw [beq_eq_false_iff_ne.mpr (head?_toDigits hn), Bool.false_and]
  simp only [magnitude?, htake, hdrop, hnumeral.value, hnumeral.isEmpty_eq_false, hzero,
    Bool.or_self]
  -- No sign that may follow is part of a number.
  cases rest with
  | nil => rfl
  | cons c rest =>
    obtain rfl | rfl | rfl := h c rfl
    all_goals rfl

theorem integer?_toDigits {n : Nat} (hn : n < UInt64.size) {rest : List Char} (h : Ended rest) :
    integer? (Nat.toDigits 10 n ++ rest) = some ((n : Int), rest) := by
  -- A digit is no sign.
  have hsign : ∀ text, Nat.toDigits 10 n ++ rest ≠ '-' :: text := by
    intro text he
    obtain ⟨c, digits, hd, hc⟩ := exists_toDigits_eq_cons n
    rw [hd] at he
    rw [(List.cons.inj he).1] at hc
    nomatch hc
  rw [integer?]
  · rw [magnitude?_toDigits n h]
    dsimp only
    rw [if_pos hn]
  · exact hsign

end Reader

end SyscallFilter.Json
