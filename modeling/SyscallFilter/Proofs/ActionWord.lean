import Mathlib.Tactic
import SyscallFilter.Action

/-!
Actions and their words: a word that stands for an action is read as that action. The payload has
the lower half of the word to itself, so it neither changes the name nor is changed by it. The other
way round, a word is read as an action just if its upper half is one of eight, and the action's own
word has that upper half again.
-/

namespace SyscallFilter

/-- The half of a word that names an action. -/
def upperHalf (word : UInt32) : UInt16 :=
  (word >>> 16).toUInt16

theorem toNat_upperHalf (word : UInt32) : (upperHalf word).toNat = word.toNat / 2 ^ 16 := by
  have hlt : word.toNat < 2 ^ 32 := word.toNat_lt
  rw [upperHalf, UInt32.toNat_toUInt16, UInt32.toNat_shiftRight]
  change word.toNat >>> 16 % 2 ^ 16 = word.toNat / 2 ^ 16
  rw [Nat.shiftRight_eq_div_pow]
  omega

/-- A word without its payload is its upper half, moved up. -/
theorem toNat_and_upper (word : UInt32) :
    (word &&& 0xffff0000).toNat = word.toNat / 2 ^ 16 * 2 ^ 16 := by
  have hlt : word.toNat < 2 ^ 32 := word.toNat_lt
  change word.toNat &&& 0xffff0000 = _
  have hupper : (word.toNat &&& 0xffff0000) / 2 ^ 16 = word.toNat / 2 ^ 16 := by
    rw [Nat.and_div_two_pow]
    change word.toNat / 2 ^ 16 &&& (2 ^ 16 - 1) = _
    rw [Nat.and_two_pow_sub_one_eq_mod]
    omega
  have hlower : (word.toNat &&& 0xffff0000) % 2 ^ 16 = 0 := by
    rw [Nat.and_mod_two_pow]
    exact Nat.and_zero _
  omega

/-- Words with the same upper half are those that differ in their payload only. -/
theorem upperHalf_eq_iff {a b : UInt32} :
    upperHalf a = upperHalf b ↔ a &&& 0xffff0000 = b &&& 0xffff0000 := by
  rw [← UInt16.toNat_inj, ← UInt32.toNat_inj, toNat_upperHalf, toNat_upperHalf, toNat_and_upper,
    toNat_and_upper]
  omega

/-- A payload reaches no bit of the upper half. -/
theorem payload_and_upper (code : UInt16) : code.toUInt32 &&& 0xffff0000 = 0 := by
  have hlt : code.toNat < 2 ^ 16 := code.toNat_lt
  rw [← UInt32.toNat_inj, toNat_and_upper, UInt16.toNat_toUInt32, Nat.div_eq_of_lt hlt]
  rfl

/-- The name of a word is not changed by the payload. -/
theorem upper_or_payload (name : UInt32) (code : UInt16) :
    (name ||| code.toUInt32) &&& 0xffff0000 = name &&& 0xffff0000 := by
  have hd : (name ||| code.toUInt32) &&& 0xffff0000 =
      (name &&& 0xffff0000) ||| (code.toUInt32 &&& 0xffff0000) := by
    rw [← UInt32.toBitVec_inj]
    exact BitVec.and_or_distrib_right
  rw [hd, payload_and_upper, UInt32.or_zero]

/-- The payload of a word is not changed by a name that leaves the lower half free. -/
theorem lower_or_payload {name : UInt32} (hn : name.toUInt16 = 0) (code : UInt16) :
    (name ||| code.toUInt32).toUInt16 = code := by
  rw [UInt32.toUInt16_or, hn, UInt16.toUInt16_toUInt32, UInt16.zero_or]

namespace Action

/-- The word of an action is read as the action. -/
theorem ofWord_of_toWord? {action : Action} {word : UInt32} (h : action.toWord? = some word) :
    ofWord word = action := by
  cases action with
  | errno code =>
    obtain rfl := Option.some.inj h
    have hname : UInt32.toUInt16 0x00050000 = 0 := rfl
    simp only [ofWord, upper_or_payload, lower_or_payload hname]
    rfl
  | trace code =>
    obtain rfl := Option.some.inj h
    have hname : UInt32.toUInt16 0x7ff00000 = 0 := rfl
    simp only [ofWord, upper_or_payload, lower_or_payload hname]
    rfl
  | invalid => nomatch h
  | _ =>
    obtain rfl := Option.some.inj h
    decide

/-- The words that name the actions, without a payload. -/
def codes : List UInt32 :=
  [0x80000000, 0, 0x00030000, 0x00050000, 0x7fc00000, 0x7ff00000, 0x7ffc0000, 0x7fff0000]

/-- A word has the upper half of a code if it is the code but for the payload. -/
theorem upperHalf_mem_codes_iff (word : UInt32) :
    upperHalf word ∈ codes.map upperHalf ↔ word &&& 0xffff0000 ∈ codes := by
  have hcleared : codes.map (· &&& 0xffff0000) = codes := by decide
  calc
    upperHalf word ∈ codes.map upperHalf ↔
        word &&& 0xffff0000 ∈ codes.map (· &&& 0xffff0000) := by
      simp only [List.mem_map, upperHalf_eq_iff]
    _ ↔ word &&& 0xffff0000 ∈ codes := by rw [hcleared]

/-- A word is read as no action exactly if its upper half is that of no code. -/
theorem ofWord_eq_invalid_iff (word : UInt32) :
    ofWord word = .invalid ↔ upperHalf word ∉ codes.map upperHalf := by
  rw [upperHalf_mem_codes_iff, ofWord]
  -- One case for each code, in the order in which they are tried, and one for any other word.
  split_ifs with hprocess hthread htrap herrno hnotify htrace hlog hallow
  · exact iff_of_false (nomatch ·) (by rw [hprocess]; decide)
  · exact iff_of_false (nomatch ·) (by rw [hthread]; decide)
  · exact iff_of_false (nomatch ·) (by rw [htrap]; decide)
  · exact iff_of_false (nomatch ·) (by rw [herrno]; decide)
  · exact iff_of_false (nomatch ·) (by rw [hnotify]; decide)
  · exact iff_of_false (nomatch ·) (by rw [htrace]; decide)
  · exact iff_of_false (nomatch ·) (by rw [hlog]; decide)
  · exact iff_of_false (nomatch ·) (by rw [hallow]; decide)
  · exact iff_of_true rfl (by simp [codes, *])

/-- The payload of an action that was read is the lower half of the word. -/
theorem code?_ofWord (word : UInt32) :
    (ofWord word).code? = none ∨ (ofWord word).code? = some word.toUInt16 := by
  rw [ofWord]
  split_ifs
  all_goals simp [code?]

/-- The word of an action that was read has the upper half of the word it was read from, and below it
the payload of the action. -/
theorem exists_toWord?_ofWord {word : UInt32} (h : ofWord word ≠ .invalid) :
    ∃ again, (ofWord word).toWord? = some again ∧ upperHalf again = upperHalf word ∧
      again.toUInt16 = (ofWord word).code?.getD 0 := by
  simp only [upperHalf_eq_iff]
  rw [ofWord] at h ⊢
  split_ifs at h ⊢ with hprocess hthread htrap herrno hnotify htrace hlog hallow
  · exact ⟨0x80000000, rfl, by rw [hprocess]; rfl, rfl⟩
  · exact ⟨0, rfl, by rw [hthread]; rfl, rfl⟩
  · exact ⟨0x00030000, rfl, by rw [htrap]; rfl, rfl⟩
  · exact ⟨_, rfl, by rw [upper_or_payload, herrno]; rfl, lower_or_payload rfl _⟩
  · exact ⟨0x7fc00000, rfl, by rw [hnotify]; rfl, rfl⟩
  · exact ⟨_, rfl, by rw [upper_or_payload, htrace]; rfl, lower_or_payload rfl _⟩
  · exact ⟨0x7ffc0000, rfl, by rw [hlog]; rfl, rfl⟩
  · exact ⟨0x7fff0000, rfl, by rw [hallow]; rfl, rfl⟩
  · exact absurd rfl h

end Action

end SyscallFilter
