import Mathlib.Tactic
import SyscallFilter.Notify.TargetString

/-!
Which strings are read from the memory of another process. One read delivers the bytes from an
address on, up to a limit or to the end of what is mapped. A string is what stands in them in front
of the first zero byte; without a zero byte there is none, so that a longer string is turned down
and never cut.
-/

namespace SyscallFilter

/-- The bytes that a text is written with. -/
def textBytes (text : String) : List UInt8 :=
  text.toUTF8.data.toList

/-- Bytes are decoded as the text that is written with them, where there is one. -/
theorem fromUTF8?_eq_some_iff {bytes : List UInt8} {text : String} :
    String.fromUTF8? (ByteArray.mk bytes.toArray) = some text ↔ textBytes text = bytes := by
  constructor
  · intro h
    rw [String.fromUTF8?] at h
    split_ifs at h with hvalid
    rw [← Option.some.inj h]
    rfl
  · rintro rfl
    rw [String.fromUTF8?]
    exact dif_pos text.isValidUTF8

theorem fromUTF8?_eq_none_iff {bytes : List UInt8} :
    String.fromUTF8? (ByteArray.mk bytes.toArray) = none ↔ ∀ text, textBytes text ≠ bytes := by
  rw [Option.eq_none_iff_forall_ne_some]
  apply forall_congr'
  intro text
  rw [ne_eq, fromUTF8?_eq_some_iff]

namespace TargetMemory

variable {memory : TargetMemory} {address count : Nat} {bytes other before : List UInt8}
  {text : String}

/-- Bytes stand in memory from an address on. -/
def Holds (memory : TargetMemory) (address : Nat) (bytes : List UInt8) : Prop :=
  ∀ i < bytes.length, memory (address + i) = bytes[i]?

/-- What one read delivers: the bytes from an address on, as many as are wanted unless one of them
is not mapped. -/
structure Delivers (memory : TargetMemory) (address count : Nat) (bytes : List UInt8) : Prop where
  holds : memory.Holds address bytes
  length_le : bytes.length ≤ count
  unmapped : bytes.length < count → memory (address + bytes.length) = none

theorem holds_nil : memory.Holds address [] := by
  intro i hi
  exact absurd hi (Nat.not_lt_zero i)

theorem Holds.cons {byte : UInt8} (hbyte : memory address = some byte)
    (h : memory.Holds (address + 1) bytes) : memory.Holds address (byte :: bytes) := by
  intro i hi
  cases i with
  | zero => exact hbyte
  | succ i =>
    rw [List.getElem?_cons_succ, ← h i (Nat.lt_of_succ_lt_succ hi)]
    congr 1
    omega

theorem delivers_read (memory : TargetMemory) (address count : Nat) :
    memory.Delivers address count (memory.read address count) := by
  induction count generalizing address with
  | zero => exact ⟨holds_nil, Nat.le_refl 0, fun hshort => absurd hshort (Nat.lt_irrefl 0)⟩
  | succ count ih =>
    rw [read]
    -- The read ends in front of the first byte that is not mapped.
    cases hm : memory address with
    | none => exact ⟨holds_nil, Nat.zero_le _, fun _ => hm⟩
    | some byte =>
      obtain ⟨hholds, hlength, hunmapped⟩ := ih (address + 1)
      dsimp only
      constructor
      · exact hholds.cons hm
      · rw [List.length_cons]
        omega
      · intro hshort
        rw [List.length_cons] at hshort ⊢
        rw [← hunmapped (by omega)]
        congr 1
        omega

/-- A read delivers the beginning of whatever bytes stand at its address. -/
theorem Delivers.isPrefix (h : memory.Delivers address count bytes)
    (ho : memory.Holds address other) (hcount : other.length ≤ count) : other <+: bytes := by
  have hlength : other.length ≤ bytes.length := by
    by_contra hshort
    have hnone := h.unmapped (by omega)
    rw [ho bytes.length (by omega), List.getElem?_eq_getElem (by omega)] at hnone
    nomatch hnone
  apply List.prefix_iff_getElem?.mpr
  intro i hi
  rw [← h.holds i (by omega), ho i hi, List.getElem?_eq_getElem hi]

theorem Holds.take (h : memory.Holds address bytes) (n : Nat) :
    memory.Holds address (bytes.take n) := by
  intro i hi
  rw [List.length_take] at hi
  rw [List.getElem?_take_of_lt (by omega)]
  exact h i (by omega)

/-- The first zero byte ends a string, and what stands in front of it has to be a text. -/
theorem stringOf_terminated (hbefore : 0 ∉ before) (rest : List UInt8) :
    stringOf (before ++ 0 :: rest) = (String.fromUTF8? (ByteArray.mk before.toArray)).elim
      (.error (.transfer .invalidString)) .ok := by
  have hzero : (before ++ 0 :: rest).contains 0 = true := by
    rw [List.contains_iff_mem]
    exact List.mem_append_right before List.mem_cons_self
  have htake : (before ++ 0 :: rest).takeWhile (· != 0) = before := by
    have hall : ∀ byte ∈ before, (byte != 0) = true := by
      intro byte hbyte
      rw [bne_iff_ne]
      rintro rfl
      exact hbefore hbyte
    rw [List.takeWhile_append_of_pos hall, List.takeWhile_cons_of_neg (by decide), List.append_nil]
  rw [stringOf, if_pos hzero, htake]
  cases String.fromUTF8? (ByteArray.mk before.toArray) with
  | none => rfl
  | some text => rfl

theorem stringOf_unterminated (h : 0 ∉ bytes) :
    stringOf bytes = .error (.transfer .unterminatedString) := by
  have hzero : ¬ bytes.contains 0 = true := by rwa [List.contains_iff_mem]
  rw [stringOf, if_neg hzero]

theorem stringOf_text (hbefore : 0 ∉ textBytes text) (rest : List UInt8) :
    stringOf (textBytes text ++ 0 :: rest) = .ok text := by
  rw [stringOf_terminated hbefore, fromUTF8?_eq_some_iff.mpr rfl, Option.elim_some]

theorem stringOf_invalid (hbefore : 0 ∉ before) (hinvalid : ∀ text, textBytes text ≠ before)
    (rest : List UInt8) :
    stringOf (before ++ 0 :: rest) = .error (.transfer .invalidString) := by
  rw [stringOf_terminated hbefore, fromUTF8?_eq_none_iff.mpr hinvalid, Option.elim_none]

/-- Bytes have no zero byte, or a text in front of the first one, or no text there. -/
theorem stringOf_cases (bytes : List UInt8) :
    (0 ∉ bytes ∧ stringOf bytes = .error (.transfer .unterminatedString)) ∨
    (∃ text rest, bytes = textBytes text ++ 0 :: rest ∧ 0 ∉ textBytes text ∧
      stringOf bytes = .ok text) ∨
    ∃ before rest, bytes = before ++ 0 :: rest ∧ 0 ∉ before ∧
      (∀ text, textBytes text ≠ before) ∧
      stringOf bytes = .error (.transfer .invalidString) := by
  by_cases hzero : 0 ∈ bytes
  · obtain ⟨before, rest, rfl, hbefore⟩ := List.eq_append_cons_of_mem hzero
    by_cases htext : ∃ text, textBytes text = before
    · obtain ⟨text, rfl⟩ := htext
      exact .inr (.inl ⟨text, rest, rfl, hbefore, stringOf_text hbefore rest⟩)
    · have hinvalid := not_exists.mp htext
      exact .inr (.inr ⟨before, rest, rfl, hbefore, hinvalid,
        stringOf_invalid hbefore hinvalid rest⟩)
  · exact .inl ⟨hzero, stringOf_unterminated hzero⟩

theorem stringOf_eq_ok_iff :
    stringOf bytes = .ok text ↔
      ∃ rest, bytes = textBytes text ++ 0 :: rest ∧ 0 ∉ textBytes text := by
  constructor
  · intro h
    obtain ⟨-, ho⟩ | ⟨found, rest, hbytes, hbefore, ho⟩ | ⟨_, _, _, _, _, ho⟩ :=
      stringOf_cases bytes
    · nomatch h.symm.trans ho
    · obtain rfl := Except.ok.inj (h.symm.trans ho)
      exact ⟨rest, hbytes, hbefore⟩
    · nomatch h.symm.trans ho
  · rintro ⟨rest, rfl, hbefore⟩
    exact stringOf_text hbefore rest

theorem stringOf_eq_unterminated_iff :
    stringOf bytes = .error (.transfer .unterminatedString) ↔ 0 ∉ bytes := by
  constructor
  · intro h
    obtain ⟨hzero, -⟩ | ⟨_, _, _, _, ho⟩ | ⟨_, _, _, _, _, ho⟩ := stringOf_cases bytes
    · exact hzero
    · nomatch h.symm.trans ho
    · nomatch h.symm.trans ho
  · exact stringOf_unterminated

theorem stringOf_eq_invalid_iff :
    stringOf bytes = .error (.transfer .invalidString) ↔
      ∃ before rest, bytes = before ++ 0 :: rest ∧ 0 ∉ before ∧
        ∀ text, textBytes text ≠ before := by
  constructor
  · intro h
    obtain ⟨-, ho⟩ | ⟨_, _, _, _, ho⟩ | ⟨before, rest, hbytes, hbefore, hinvalid, -⟩ :=
      stringOf_cases bytes
    · nomatch h.symm.trans ho
    · nomatch h.symm.trans ho
    · exact ⟨before, rest, hbytes, hbefore, hinvalid⟩
  · rintro ⟨before, rest, rfl, hbefore, hinvalid⟩
    exact stringOf_invalid hbefore hinvalid rest

/-- There is one thing that a read delivers. -/
theorem Delivers.eq_read (h : memory.Delivers address count bytes) :
    bytes = memory.read address count := by
  have hread := memory.delivers_read address count
  have hle : bytes <+: memory.read address count := hread.isPrefix h.holds h.length_le
  have hge : memory.read address count <+: bytes := h.isPrefix hread.holds hread.length_le
  exact hle.eq_of_length_le hge.length_le

theorem stringOf?_eq_stringOf (hread : memory.Delivers address maxString bytes)
    (hsome : bytes ≠ []) : stringOf? (some memory) address = stringOf bytes := by
  obtain ⟨byte, rest, hcons⟩ := List.exists_cons_of_ne_nil hsome
  rw [stringOf?, string, ← hread.eq_read, hcons]

/-- A string is read exactly where the bytes that one read delivers have a zero byte and start with
a text in front of the first one, and that text is the string. Without a zero byte there is no
string, whatever the bytes are. So a text is read if it fits the limit with its zero byte, and a
longer one is turned down. -/
theorem string_goes_by_terminator (hread : memory.Delivers address 4096 bytes)
    (hsome : bytes ≠ []) :
    (∀ text, stringOf? (some memory) address = .ok text ↔
      ∃ rest, bytes = textBytes text ++ 0 :: rest ∧ 0 ∉ textBytes text) ∧
    (stringOf? (some memory) address = .error (.transfer .unterminatedString) ↔ 0 ∉ bytes) ∧
    (stringOf? (some memory) address = .error (.transfer .invalidString) ↔
      ∃ before rest, bytes = before ++ 0 :: rest ∧ 0 ∉ before ∧
        ∀ text, textBytes text ≠ before) ∧
    (∀ text, 0 ∉ textBytes text → (textBytes text).length ≤ 4095 →
      memory.Holds address (textBytes text ++ [0]) →
        stringOf? (some memory) address = .ok text) ∧
    ∀ text, 0 ∉ textBytes text → 4096 ≤ (textBytes text).length →
      memory.Holds address (textBytes text) →
        stringOf? (some memory) address = .error (.transfer .unterminatedString) := by
  rw [stringOf?_eq_stringOf hread hsome]
  refine ⟨fun text => stringOf_eq_ok_iff, stringOf_eq_unterminated_iff, stringOf_eq_invalid_iff,
    ?_, ?_⟩
  · intro text hzero hfits hholds
    have hlength : (textBytes text ++ [0]).length ≤ 4096 := by
      rw [List.length_append, List.length_singleton]
      omega
    obtain ⟨rest, hrest⟩ := hread.isPrefix hholds hlength
    rw [List.append_assoc, List.singleton_append] at hrest
    exact stringOf_eq_ok_iff.mpr ⟨rest, hrest.symm, hzero⟩
  · intro text hzero hlong hholds
    -- The read is filled with bytes of the text, and none of them is zero.
    have hlength : ((textBytes text).take 4096).length = 4096 := by
      rw [List.length_take]
      omega
    have hfront : (textBytes text).take 4096 <+: bytes :=
      hread.isPrefix (hholds.take 4096) hlength.le
    have hall : (textBytes text).take 4096 = bytes := by
      apply hfront.eq_of_length_le
      rw [hlength]
      exact hread.length_le
    apply stringOf_unterminated
    rw [← hall]
    intro hmem
    exact hzero (List.mem_of_mem_take hmem)

theorem textBytes_replicate (n : Nat) :
    textBytes (String.ofList (List.replicate n 'a')) = List.replicate n 97 := by
  have hbytes : (List.replicate n 'a').flatMap String.utf8EncodeChar = List.replicate n 97 := by
    have hletter : String.utf8EncodeChar 'a' = [97] := by decide
    induction n with
    | zero => rfl
    | succ n ih =>
      rw [List.replicate_succ, List.flatMap_cons, ih, hletter, List.replicate_succ]
      rfl
  rw [textBytes, String.toUTF8, String.toByteArray_ofList, List.utf8Encode,
    List.toList_data_toByteArray, hbytes]

theorem zero_not_mem_letters (n : Nat) : (0 : UInt8) ∉ List.replicate n 97 := by
  intro hmem
  exact absurd (List.eq_of_mem_replicate hmem) (by decide)

/-- A read of memory that starts with some bytes delivers them, if no more are wanted. -/
theorem delivers_front (front behind : List UInt8) :
    Delivers (fun address => (front ++ behind)[address]?) 0 front.length front where
  holds := by
    intro i hi
    dsimp only
    rw [Nat.zero_add, List.getElem?_append_left hi]
  length_le := Nat.le_refl _
  unmapped hshort := absurd hshort (Nat.lt_irrefl _)

/-- A path of 4095 letters is read, with a byte behind its end that is in no text. One of 4096
letters is turned down, although its zero byte follows. -/
theorem string_goes_by_terminator_path :
    let short : TargetMemory := fun address => (List.replicate 4095 97 ++ [0] ++ [255])[address]?
    let long : TargetMemory := fun address => (List.replicate 4096 97 ++ [0])[address]?
    stringOf? (some short) 0 = .ok (String.ofList (List.replicate 4095 'a')) ∧
      stringOf? (some long) 0 = .error (.transfer .unterminatedString) := by
  intro short long
  constructor
  · have hread : short.Delivers 0 4096 (List.replicate 4095 97 ++ [0]) := by
      have hfront := delivers_front (List.replicate 4095 97 ++ [0]) [255]
      rwa [List.length_append, List.length_replicate] at hfront
    have hsome : List.replicate 4095 (97 : UInt8) ++ [0] ≠ [] :=
      List.append_ne_nil_of_right_ne_nil _ (List.cons_ne_nil _ _)
    obtain ⟨-, -, -, hfits, -⟩ := string_goes_by_terminator hread hsome
    apply hfits
    · rw [textBytes_replicate]
      exact zero_not_mem_letters 4095
    · rw [textBytes_replicate, List.length_replicate]
    · rw [textBytes_replicate]
      exact hread.holds
  · have hread : long.Delivers 0 4096 (List.replicate 4096 97) := by
      have hfront := delivers_front (List.replicate 4096 97) [0]
      rwa [List.length_replicate] at hfront
    have hsome : List.replicate 4096 (97 : UInt8) ≠ [] := by
      rw [ne_eq, List.replicate_eq_nil_iff]
      omega
    obtain ⟨-, hunterminated, -⟩ := string_goes_by_terminator hread hsome
    exact hunterminated.mpr (zero_not_mem_letters 4096)

end TargetMemory

end SyscallFilter
