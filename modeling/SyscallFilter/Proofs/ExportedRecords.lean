import Mathlib.Data.Nat.Digits.Lemmas
import Mathlib.Tactic
import SyscallFilter.Proofs.Installation
import SyscallFilter.Proofs.ListingOutline

/-!
Exported programs as byte strings. A record of eight bytes spells one instruction, field by field
with the least significant byte first, and every eight bytes spell one. So the bytes of an export
are cut into records that give back the program instruction by instruction, and every byte string
that can be cut into records is the export of one program.
-/

namespace SyscallFilter

section LittleEndian

/-- The number that bytes spell, the least significant byte first. -/
def littleEndian (bytes : List UInt8) : Nat :=
  Nat.ofDigits 256 (bytes.map UInt8.toNat)

theorem littleEndian_nil : littleEndian [] = 0 :=
  rfl

theorem littleEndian_cons (byte : UInt8) (rest : List UInt8) :
    littleEndian (byte :: rest) = byte.toNat + 256 * littleEndian rest := by
  rw [littleEndian, List.map_cons, Nat.ofDigits_cons]
  rfl

theorem lt_of_mem_map_toNat (bytes : List UInt8) :
    ∀ digit ∈ bytes.map UInt8.toNat, digit < 256 := by
  intro digit hdigit
  obtain ⟨byte, -, rfl⟩ := List.mem_map.mp hdigit
  exact byte.toNat_lt

theorem littleEndian_lt (bytes : List UInt8) : littleEndian bytes < 256 ^ bytes.length := by
  have hlt := Nat.ofDigits_lt_base_pow_length (by omega : 1 < 256) (lt_of_mem_map_toNat bytes)
  rwa [List.length_map] at hlt

/-- As many bytes spell each number in one way. -/
theorem eq_of_littleEndian {bytes other : List UInt8} (hlength : bytes.length = other.length)
    (h : littleEndian bytes = littleEndian other) : bytes = other := by
  have hdigits : bytes.map UInt8.toNat = other.map UInt8.toNat := by
    apply Nat.ofDigits_inj_of_len_eq (by omega : 1 < 256)
    · rw [List.length_map, List.length_map, hlength]
    · exact lt_of_mem_map_toNat bytes
    · exact lt_of_mem_map_toNat other
    · exact h
  exact List.map_injective_iff.mpr (fun _ _ => UInt8.toNat_inj.mp) hdigits

/-- A byte behind lower bits adds its multiple. -/
theorem or_mul_two_pow {low bits : Nat} (hlow : low < 2 ^ bits) (high : Nat) :
    low ||| high * 2 ^ bits = low + high * 2 ^ bits := by
  calc low ||| high * 2 ^ bits = 2 ^ bits * high ||| low := by rw [Nat.or_comm, Nat.mul_comm]
    _ = 2 ^ bits * high + low := (Nat.two_pow_add_eq_or_of_lt hlow high).symm
    _ = low + high * 2 ^ bits := by rw [Nat.add_comm, Nat.mul_comm]

theorem toNat_joined16 (b₀ b₁ : UInt8) :
    (b₀.toUInt16 ||| b₁.toUInt16 <<< 8).toNat = littleEndian [b₀, b₁] := by
  have h₀ := b₀.toNat_lt
  have h₁ := b₁.toNat_lt
  have hshifted : (b₁.toUInt16 <<< 8).toNat = b₁.toNat * 2 ^ 8 := by
    rw [UInt16.toNat_shiftLeft, UInt8.toNat_toUInt16, Nat.shiftLeft_eq]
    change b₁.toNat * 2 ^ 8 % 2 ^ 16 = b₁.toNat * 2 ^ 8
    omega
  rw [UInt16.toNat_or, UInt8.toNat_toUInt16, hshifted, or_mul_two_pow h₀]
  simp only [littleEndian_cons, littleEndian_nil]
  omega

/-- A byte is put in front of a word of 32 bits that has room for it. -/
theorem toNat_or_shift {word shift : UInt32} (hword : word.toNat < 2 ^ shift.toNat)
    (hshift : shift.toNat ≤ 24) (byte : UInt8) :
    (word ||| byte.toUInt32 <<< shift).toNat = word.toNat + byte.toNat * 2 ^ shift.toNat := by
  have hfits : byte.toNat * 2 ^ shift.toNat < 2 ^ 32 := by
    calc byte.toNat * 2 ^ shift.toNat < 2 ^ 8 * 2 ^ shift.toNat :=
          Nat.mul_lt_mul_of_pos_right byte.toNat_lt (Nat.two_pow_pos _)
      _ = 2 ^ (8 + shift.toNat) := (Nat.pow_add ..).symm
      _ ≤ 2 ^ 32 := Nat.pow_le_pow_right (by omega) (by omega)
  rw [UInt32.toNat_or, UInt32.toNat_shiftLeft, UInt8.toNat_toUInt32, Nat.shiftLeft_eq,
    Nat.mod_eq_of_lt (by omega : shift.toNat < 32), Nat.mod_eq_of_lt hfits, or_mul_two_pow hword]

theorem toNat_joined32 (b₀ b₁ b₂ b₃ : UInt8) :
    (b₀.toUInt32 ||| b₁.toUInt32 <<< 8 ||| b₂.toUInt32 <<< 16 ||| b₃.toUInt32 <<< 24).toNat =
      littleEndian [b₀, b₁, b₂, b₃] := by
  have h₀ : b₀.toUInt32.toNat < 2 ^ 8 := by
    rw [UInt8.toNat_toUInt32]
    exact b₀.toNat_lt
  have h₁ := b₁.toNat_lt
  have h₂ := b₂.toNat_lt
  have hlow : (b₀.toUInt32 ||| b₁.toUInt32 <<< 8).toNat = b₀.toUInt32.toNat + b₁.toNat * 2 ^ 8 :=
    toNat_or_shift h₀ (by decide) b₁
  have hmiddle : (b₀.toUInt32 ||| b₁.toUInt32 <<< 8 ||| b₂.toUInt32 <<< 16).toNat =
      b₀.toUInt32.toNat + b₁.toNat * 2 ^ 8 + b₂.toNat * 2 ^ 16 := by
    rw [← hlow]
    apply toNat_or_shift _ (by decide) b₂
    change _ < 2 ^ 16
    omega
  have hwhole : (b₀.toUInt32 ||| b₁.toUInt32 <<< 8 ||| b₂.toUInt32 <<< 16 |||
      b₃.toUInt32 <<< 24).toNat =
      b₀.toUInt32.toNat + b₁.toNat * 2 ^ 8 + b₂.toNat * 2 ^ 16 + b₃.toNat * 2 ^ 24 := by
    rw [← hmiddle]
    apply toNat_or_shift _ (by decide) b₃
    change _ < 2 ^ 24
    omega
  rw [hwhole, UInt8.toNat_toUInt32]
  simp only [littleEndian_cons, littleEndian_nil]
  omega

end LittleEndian

/-- The bytes of a program, record after record. -/
def Program.bytes (program : Program) : List UInt8 :=
  program.flatMap Instruction.toBytes

namespace Instruction

variable {instruction other : Instruction} {record : List UInt8}

/-- The fields of a record give an instruction: two bytes for the code, one for each distance, and
four for the constant. -/
structure SpelledBy (instruction : Instruction) (record : List UInt8) : Prop where
  length : record.length = 8
  code : littleEndian (record.take 2) = instruction.code.toNat
  jt : record[2]? = some instruction.jt
  jf : record[3]? = some instruction.jf
  k : littleEndian (record.drop 4) = instruction.k.toNat

theorem length_toBytes (instruction : Instruction) : instruction.toBytes.length = 8 :=
  rfl

theorem spelledBy_toBytes (instruction : Instruction) :
    instruction.SpelledBy instruction.toBytes where
  length := rfl
  code := by
    have hcode := instruction.code.toNat_lt
    change littleEndian [instruction.code.toUInt8, (instruction.code >>> 8).toUInt8] = _
    simp only [littleEndian_cons, littleEndian_nil, UInt16.toNat_toUInt8, UInt16.toNat_shiftRight,
      Nat.shiftRight_eq_div_pow]
    change instruction.code.toNat % 2 ^ 8 +
      256 * (instruction.code.toNat / 2 ^ 8 % 2 ^ 8 + 256 * 0) = instruction.code.toNat
    omega
  jt := rfl
  jf := rfl
  k := by
    have hk := instruction.k.toNat_lt
    change littleEndian [instruction.k.toUInt8, (instruction.k >>> 8).toUInt8,
      (instruction.k >>> 16).toUInt8, (instruction.k >>> 24).toUInt8] = _
    simp only [littleEndian_cons, littleEndian_nil, UInt32.toNat_toUInt8, UInt32.toNat_shiftRight,
      Nat.shiftRight_eq_div_pow]
    change instruction.k.toNat % 2 ^ 8 + 256 * (instruction.k.toNat / 2 ^ 8 % 2 ^ 8 +
      256 * (instruction.k.toNat / 2 ^ 16 % 2 ^ 8 +
        256 * (instruction.k.toNat / 2 ^ 24 % 2 ^ 8 + 256 * 0))) = instruction.k.toNat
    omega

/-- A record spells one instruction at most. -/
theorem SpelledBy.unique (h : instruction.SpelledBy record) (ho : other.SpelledBy record) :
    instruction = other := by
  obtain ⟨code, jt, jf, k⟩ := instruction
  obtain ⟨otherCode, otherJt, otherJf, otherK⟩ := other
  have hcode : code = otherCode := UInt16.toNat_inj.mp (h.code.symm.trans ho.code)
  have hjt : jt = otherJt := Option.some.inj (h.jt.symm.trans ho.jt)
  have hjf : jf = otherJf := Option.some.inj (h.jf.symm.trans ho.jf)
  have hk : k = otherK := UInt32.toNat_inj.mp (h.k.symm.trans ho.k)
  rw [hcode, hjt, hjf, hk]

/-- One record at most spells an instruction. -/
theorem SpelledBy.eq_toBytes (h : instruction.SpelledBy record) : record = instruction.toBytes := by
  have ho := instruction.spelledBy_toBytes
  have hlength := instruction.length_toBytes
  have hcode : record.take 2 = instruction.toBytes.take 2 := by
    apply eq_of_littleEndian
    · rw [List.length_take, List.length_take, h.length, hlength]
    · rw [h.code, ho.code]
  have hk : record.drop 4 = instruction.toBytes.drop 4 := by
    apply eq_of_littleEndian
    · rw [List.length_drop, List.length_drop, h.length, hlength]
    · rw [h.k, ho.k]
  apply List.ext_getElem?
  intro i
  -- A place lies in the code, is that of a distance, or lies in the constant.
  obtain hi | rfl | rfl | hi : i < 2 ∨ i = 2 ∨ i = 3 ∨ 4 ≤ i := by omega
  · rw [← List.getElem?_take_of_lt hi, hcode, List.getElem?_take_of_lt hi]
  · rw [h.jt, ho.jt]
  · rw [h.jf, ho.jf]
  · obtain ⟨j, rfl⟩ := Nat.exists_eq_add_of_le hi
    rw [← List.getElem?_drop, hk, List.getElem?_drop]

theorem exists_spelledBy (hlength : record.length = 8) :
    ∃ instruction : Instruction, instruction.SpelledBy record := by
  have hcode : littleEndian (record.take 2) < 256 ^ 2 := by
    have hlt := littleEndian_lt (record.take 2)
    rwa [List.length_take, hlength] at hlt
  have hk : littleEndian (record.drop 4) < 256 ^ 4 := by
    have hlt := littleEndian_lt (record.drop 4)
    rwa [List.length_drop, hlength] at hlt
  refine ⟨⟨.ofNat (littleEndian (record.take 2)), record[2], record[3],
    .ofNat (littleEndian (record.drop 4))⟩, ?_⟩
  constructor
  · exact hlength
  · exact (UInt16.toNat_ofNat_of_lt' hcode).symm
  · exact List.getElem?_eq_getElem (by omega)
  · exact List.getElem?_eq_getElem (by omega)
  · exact (UInt32.toNat_ofNat_of_lt' hk).symm

/-- A record in front of others is read as its instruction. -/
theorem ofBytes?_toBytes_append (instruction : Instruction) (bytes : List UInt8) :
    ofBytes? (instruction.toBytes ++ bytes) = (ofBytes? bytes).map (instruction :: ·) := by
  let joined : Instruction :=
    ⟨instruction.code.toUInt8.toUInt16 ||| (instruction.code >>> 8).toUInt8.toUInt16 <<< 8,
      instruction.jt, instruction.jf,
      instruction.k.toUInt8.toUInt32 ||| (instruction.k >>> 8).toUInt8.toUInt32 <<< 8 |||
        (instruction.k >>> 16).toUInt8.toUInt32 <<< 16 |||
        (instruction.k >>> 24).toUInt8.toUInt32 <<< 24⟩
  -- What the reader joins is spelled by the record, and only one instruction is.
  have hjoined : joined.SpelledBy instruction.toBytes := by
    constructor
    · rfl
    · exact (toNat_joined16 _ _).symm
    · rfl
    · rfl
    · exact (toNat_joined32 _ _ _ _).symm
  have hsame : joined = instruction := hjoined.unique instruction.spelledBy_toBytes
  calc ofBytes? (instruction.toBytes ++ bytes) = (ofBytes? bytes).map (joined :: ·) := rfl
    _ = (ofBytes? bytes).map (instruction :: ·) := by rw [hsame]

end Instruction

namespace Program

open Instruction

theorem bytes_cons (instruction : Instruction) (rest : Program) :
    bytes (instruction :: rest) = instruction.toBytes ++ rest.bytes :=
  List.flatMap_cons ..

theorem length_bytes (program : Program) : program.bytes.length = 8 * program.length := by
  induction program with
  | nil => rfl
  | cons instruction rest ih =>
    rw [bytes_cons, List.length_append, length_toBytes, ih, List.length_cons]
    omega

/-- The records of a program stand where its instructions do. -/
theorem record_bytes (program : Program) {i : Nat} (hi : i < program.length) :
    (program.bytes.drop (8 * i)).take 8 = program[i].toBytes := by
  induction program generalizing i with
  | nil => exact absurd hi (Nat.not_lt_zero i)
  | cons instruction rest ih =>
    rw [bytes_cons]
    cases i with
    | zero => exact List.take_left' instruction.length_toBytes
    | succ i =>
      have hplace : 8 * (i + 1) = instruction.toBytes.length + 8 * i := by
        rw [length_toBytes]
        omega
      rw [hplace, List.drop_length_add_append, List.getElem_cons_succ]
      exact ih (Nat.lt_of_succ_lt_succ hi)

theorem ofBytes?_bytes (program : Program) : ofBytes? program.bytes = some program := by
  induction program with
  | nil => rfl
  | cons instruction rest ih => rw [bytes_cons, ofBytes?_toBytes_append, ih, Option.map_some]

theorem bytes_injective : Function.Injective bytes := by
  intro program other h
  apply Option.some.inj
  rw [← ofBytes?_bytes program, ← ofBytes?_bytes other, h]

/-- Bytes that can be cut into records are those of a program. -/
theorem exists_bytes_eq {bytes : List UInt8} {count : Nat}
    (hlength : bytes.length = 8 * count) : ∃ program : Program, program.bytes = bytes := by
  induction count generalizing bytes with
  | zero => exact ⟨[], (List.eq_nil_of_length_eq_zero hlength).symm⟩
  | succ count ih =>
    have hfirst : (bytes.take 8).length = 8 := by
      rw [List.length_take]
      omega
    have hrest : (bytes.drop 8).length = 8 * count := by
      rw [List.length_drop]
      omega
    obtain ⟨instruction, hspelled⟩ := exists_spelledBy hfirst
    obtain ⟨rest, hbytes⟩ := ih hrest
    refine ⟨instruction :: rest, ?_⟩
    rw [bytes_cons, ← hspelled.eq_toBytes, hbytes, List.take_append_drop]

end Program

namespace Filter

variable {filter : Filter} {program : Program}

theorem exportProgram_none (hp : filter.program = .ok program) :
    filter.exportProgram none = ⟨program.bytes, .ok ()⟩ := by
  rw [exportProgram, hp]
  dsimp only
  rw [Delivery.ofPieces_none, ← List.flatMap_def]
  rfl

/-- What a filter exports is cut into records of eight bytes that spell its program, instruction by
instruction, and so spell whatever a load of the filter installs. Any bytes that can be cut into
records are those of exactly one program. -/
theorem exported_records_spell_program (hp : filter.program = .ok program) :
    (∃ bytes, filter.exportProgram none = ⟨bytes, .ok ()⟩ ∧ bytes.length = 8 * program.length ∧
      (∀ i (hi : i < program.length) (instruction : Instruction),
        instruction.SpelledBy ((bytes.drop (8 * i)).take 8) ↔ instruction = program[i]) ∧
      Instruction.ofBytes? bytes = some program ∧
      ∀ kernel flags installed, .install flags installed ∈ (filter.load kernel).calls →
        Instruction.ofBytes? bytes = some installed) ∧
      ∀ bytes : List UInt8, 8 ∣ bytes.length → ∃! program : Program, program.bytes = bytes := by
  have hdecoded := program.ofBytes?_bytes
  constructor
  · refine ⟨program.bytes, exportProgram_none hp, program.length_bytes, ?_, hdecoded, ?_⟩
    · intro i hi instruction
      rw [program.record_bytes hi]
      constructor
      · intro hspelled
        exact hspelled.unique program[i].spelledBy_toBytes
      · rintro rfl
        exact Instruction.spelledBy_toBytes _
    · intro kernel flags installed hi
      have hinstalled : filter.program = .ok installed := program_of_installed hi
      rw [hdecoded, Except.ok.inj (hp.symm.trans hinstalled)]
  · intro bytes hdvd
    obtain ⟨count, hcount⟩ := hdvd
    obtain ⟨own, hown⟩ := Program.exists_bytes_eq hcount
    refine ⟨own, hown, ?_⟩
    intro other hother
    apply Program.bytes_injective
    rw [hother, hown]

/-- Sixteen instructions are exported and installed. The one that masks the lower half of an
argument is the thirteenth, and its constant is written from the last byte to the first. -/
theorem exported_records_spell_program_masked :
    let requests : List (String × Request) :=
      [("a", .make .allow ⟨6, none⟩),
        ("a", .change (.addRule ⟨83⟩ (.errno 1) [⟨1, .masked 0xff00000012345678 0x10⟩]))]
    let kernel : LoadKernel := ⟨.ok (), fun _ _ => 0⟩
    let flags : InstallFlags := ⟨false, false, false, false, false⟩
    ∃ filter program bytes, (Session.empty.run requests).filter? "a" = some filter ∧
      filter.program = .ok program ∧ program[12]? = some ⟨Opcode.mask, 0, 0, 0x12345678⟩ ∧
      filter.exportProgram none = ⟨bytes, .ok ()⟩ ∧ bytes.length = 128 ∧
      (bytes.drop (8 * 12)).take 8 = [0x54, 0, 0, 0, 0x78, 0x56, 0x34, 0x12] ∧
      (filter.load kernel).calls = [.noNewPrivs, .install flags program] ∧
      Instruction.ofBytes? bytes = some program := by
  intro requests kernel flags
  obtain ⟨filter, -, program, hf, -, hp, hlength, hmask, hcalls⟩ :
      ∃ filter state program, (Session.empty.run requests).filter? "a" = some filter ∧
        filter.state? = some state ∧ filter.program = .ok program ∧ program.length = 16 ∧
        program[12]? = some ⟨Opcode.mask, 0, 0, 0x12345678⟩ ∧
        (filter.load kernel).calls = [.noNewPrivs, .install flags program] :=
    Session.exists_of_evaluated (by decide +kernel)
  obtain ⟨⟨bytes, hexport, hbytes, hrecords, -, hinstalled⟩, -⟩ :=
    exported_records_spell_program hp
  have hi : 12 < program.length := by omega
  have hmasking : program[12] = ⟨Opcode.mask, 0, 0, 0x12345678⟩ := by
    rw [List.getElem?_eq_getElem hi] at hmask
    exact Option.some.inj hmask
  have hspelled := (hrecords 12 hi ⟨Opcode.mask, 0, 0, 0x12345678⟩).mpr hmasking.symm
  have hi' : .install flags program ∈ (filter.load kernel).calls := by
    rw [hcalls]
    exact List.mem_cons_of_mem _ (List.mem_singleton_self _)
  refine ⟨filter, program, bytes, hf, hp, hmask, hexport, ?_, ?_, hcalls,
    hinstalled kernel flags program hi'⟩
  · rw [hbytes, hlength]
  · exact hspelled.eq_toBytes

end Filter

end SyscallFilter
