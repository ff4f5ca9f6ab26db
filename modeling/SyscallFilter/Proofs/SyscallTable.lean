import Mathlib.Tactic
import SyscallFilter.Syscall

/-!
What the table of system calls guarantees: its numbers have thirty bits, a name has one row, and on
each architecture a number belongs to one name. So the call that a name means is found again under
its name, and a call that has a name is what the name means.
-/

namespace SyscallFilter.Syscall

/-- Whether numbers are distinct, and none of them is a bit of `seen`. -/
def distinctFrom (seen : Nat) : List Nat → Bool
  | [] => true
  | number :: rest => !seen.testBit number && distinctFrom (seen ||| 2 ^ number) rest

theorem nodup_of_distinctFrom {seen : Nat} {numbers : List Nat} (h : distinctFrom seen numbers) :
    numbers.Nodup ∧ ∀ number ∈ numbers, seen.testBit number = false := by
  induction numbers generalizing seen with
  | nil => exact ⟨List.nodup_nil, by simp⟩
  | cons number rest ih =>
    obtain ⟨hn, hr⟩ : seen.testBit number = false ∧ distinctFrom (seen ||| 2 ^ number) rest := by
      simpa [distinctFrom] using h
    obtain ⟨hd, hseen⟩ := ih hr
    -- The bits taken later are free now, and are not the bit of this number.
    have hother (other : Nat) (ho : other ∈ rest) : seen.testBit other = false ∧ number ≠ other := by
      have hb := hseen other ho
      rw [Nat.testBit_or, Nat.testBit_two_pow, Bool.or_eq_false_iff] at hb
      exact ⟨hb.1, by simpa using hb.2⟩
    refine ⟨List.nodup_cons.mpr ⟨fun hm => (hother number hm).2 rfl, hd⟩, ?_⟩
    exact List.forall_mem_cons.mpr ⟨hn, fun other ho => (hother other ho).1⟩

/-- No two rows give their calls the same number on an architecture. -/
theorem nodup_numbers (arch : Arch) : (table.filterMap fun row => row.number? arch).Nodup := by
  have hall : ∀ arch ∈ Arch.all, distinctFrom 0 (table.filterMap fun row => row.number? arch) := by
    decide +kernel
  exact (nodup_of_distinctFrom (hall arch arch.mem_all)).1

theorem number_lt {row : Row} (hr : row ∈ table) {arch : Arch} {number : Nat}
    (hn : row.number? arch = some number) : number < 2 ^ 30 := by
  have hall : ∀ row ∈ table, ∀ arch ∈ Arch.all, ∀ number ∈ row.number? arch, number < 2 ^ 30 := by
    decide +kernel
  exact hall row hr arch arch.mem_all number hn

/-- A number on an architecture tells the row. -/
theorem eq_of_number {a b : Row} (ha : a ∈ table) (hb : b ∈ table) {arch : Arch} {number : Nat}
    (hna : a.number? arch = some number) (hnb : b.number? arch = some number) : a = b := by
  have hp := List.pairwise_filterMap.mp (nodup_numbers arch)
  -- Two rows in either order that share a number would be one.
  have hall : ∀ a ∈ table, ∀ b ∈ table, a.number? arch = some number →
      b.number? arch = some number → a = b := by
    apply List.Pairwise.forall_of_forall_of_flip
    · intro _ _ _ _
      rfl
    · exact hp.imp fun h hx hy => absurd rfl (h _ hx _ hy)
    · exact hp.imp fun h hx hy => absurd rfl (h _ hy _ hx)
  exact hall a ha b hb hna hnb

/-- The bytes in which a name is written. -/
def Row.nameBytes (row : Row) : List UInt8 :=
  row.name.toUTF8.data.toList

/-- The rows stand in the order of their names, so no name has two rows. -/
theorem nodup_names : (table.map Row.nameBytes).Nodup := by
  have hs : (table.map Row.nameBytes).IsChain (· < ·) := by decide +kernel
  have hp : (table.map Row.nameBytes).Pairwise (· < ·) := List.isChain_iff_pairwise.mp hs
  apply hp.imp
  intro a b hlt he
  rw [he] at hlt
  exact List.lt_irrefl b hlt

/-- A name tells the row. -/
theorem eq_of_name {a b : Row} (ha : a ∈ table) (hb : b ∈ table) (h : a.name = b.name) : a = b := by
  have hbytes : a.nameBytes = b.nameBytes := by rw [Row.nameBytes, h, Row.nameBytes]
  exact List.inj_on_of_nodup_map nodup_names ha hb hbytes

/-- Names are written on one line and without question marks. -/
theorem not_mem_name {row : Row} (hr : row ∈ table) {c : Char} (hc : c = '\n' ∨ c = '?') :
    c ∉ row.name.toList := by
  intro hm
  have hbytes : row.nameBytes = row.name.toList.flatMap String.utf8EncodeChar := by
    rw [Row.nameBytes, String.toUTF8, ← String.utf8Encode_toList, List.utf8Encode,
      List.toList_data_toByteArray]
  -- Each of the two characters is one byte, which would be among the bytes of the name.
  have hbyte : ∀ byte ∈ String.utf8EncodeChar c, byte ∈ row.nameBytes := by
    intro byte hb
    rw [hbytes]
    exact List.mem_flatMap.mpr ⟨c, hm, hb⟩
  have hall : ∀ row ∈ table, 10 ∉ row.nameBytes ∧ 63 ∉ row.nameBytes := by decide +kernel
  rcases hc with rfl | rfl
  · exact (hall row hr).1 (hbyte 10 (by decide))
  · exact (hall row hr).2 (hbyte 63 (by decide))

theorem ofName?_of_resolve {arch : Arch} {name : String} {call : Syscall}
    (h : resolve arch name = .ok call) : ofName? arch name = some call := by
  rw [resolve] at h
  split at h
  · next found hn => rw [hn, Except.ok.inj h]
  · nomatch h

/-- A call is found to have just the name that it has. -/
theorem nameOn_eq_ok_iff {arch : Arch} {call : Syscall} {name : String} :
    nameOn arch call = .ok name ↔ name? arch call = some name := by
  rw [nameOn]
  split_ifs with hneg
  · rw [name?, if_pos hneg]
    simp
  · cases name? arch call with
    | none => simp
    | some found => simp

/-- A call that has a name is a row of the table with its number on the architecture. -/
theorem exists_of_ofName? {arch : Arch} {name : String} {call : Syscall}
    (h : ofName? arch name = some call) :
    ∃ row ∈ table, row.name = name ∧
      ∃ number, row.number? arch = some number ∧ call = ⟨Int32.ofNat number⟩ := by
  obtain ⟨row, hf, hm⟩ := Option.bind_eq_some_iff.mp h
  obtain ⟨number, hn, hc⟩ := Option.map_eq_some_iff.mp hm
  have hname : row.name = name := by simpa using List.find?_some hf
  exact ⟨row, List.mem_of_find?_eq_some hf, hname, number, hn, hc.symm⟩

/-- The search by a number of a row comes to the row. -/
theorem name?_of_number {arch : Arch} {row : Row} {number : Nat} (hr : row ∈ table)
    (hn : row.number? arch = some number) : name? arch ⟨Int32.ofNat number⟩ = some row.name := by
  have hlt : number < 2 ^ 31 := (number_lt hr hn).trans (by decide)
  have hclamp : (Int32.ofNat number).toNatClampNeg = number := Int32.toNatClampNeg_ofNat_of_lt hlt
  have hneg : ¬ Int32.ofNat number < 0 := by
    rw [Int32.lt_iff_toInt_lt, Int32.toInt_ofNat_of_lt hlt, Int32.toInt_zero]
    omega
  -- The row itself is a candidate for the search.
  cases hf : table.find? fun row => row.number? arch == some number with
  | none =>
    have hnone := List.find?_eq_none.mp hf row hr
    simp [hn] at hnone
  | some found =>
    have hfn : found.number? arch = some number := by simpa using List.find?_some hf
    have hsame : found = row := eq_of_number (List.mem_of_find?_eq_some hf) hr hfn hn
    simp only [name?, if_neg hneg, hclamp, hf, Option.map_some, hsame]

/-- A call that is resolved by a name has that name. -/
theorem name?_of_ofName? {arch : Arch} {name : String} {call : Syscall}
    (h : ofName? arch name = some call) : name? arch call = some name := by
  obtain ⟨row, hr, rfl, number, hn, rfl⟩ := exists_of_ofName? h
  exact name?_of_number hr hn

/-- A call that is named on an architecture is a row of the table with its number there, which is
not negative. -/
theorem exists_of_name? {arch : Arch} {call : Syscall} {name : String}
    (h : name? arch call = some name) :
    0 ≤ call.number ∧ ∃ row ∈ table, row.name = name ∧
      row.number? arch = some call.number.toNatClampNeg := by
  rw [name?] at h
  split_ifs at h with hneg
  obtain ⟨row, hf, hn⟩ := Option.map_eq_some_iff.mp h
  have hnum : row.number? arch = some call.number.toNatClampNeg := by simpa using List.find?_some hf
  exact ⟨Int32.not_lt.mp hneg, row, List.mem_of_find?_eq_some hf, hn, hnum⟩

/-- The search by the name of a row comes to the row. -/
theorem find?_name {row : Row} (hr : row ∈ table) :
    table.find? (fun other => other.name == row.name) = some row := by
  -- The row itself is a candidate for the search.
  cases hf : table.find? fun other => other.name == row.name with
  | none =>
    have hnone := List.find?_eq_none.mp hf row hr
    simp at hnone
  | some found =>
    have hname : found.name = row.name := by simpa using List.find?_some hf
    rw [eq_of_name (List.mem_of_find?_eq_some hf) hr hname]

/-- A name that a call has on an architecture means the call there. -/
theorem ofName?_of_name? {arch : Arch} {call : Syscall} {name : String}
    (h : name? arch call = some name) : ofName? arch name = some call := by
  obtain ⟨hneg, row, hr, rfl, hn⟩ := exists_of_name? h
  rw [ofName?, find?_name hr, Option.bind_some, hn, Option.map_some,
    Int32.ofNat_toNatClampNeg _ hneg]

/-- A call has the names on an architecture that mean the call there. -/
theorem name?_eq_some_iff {arch : Arch} {call : Syscall} {name : String} :
    name? arch call = some name ↔ ofName? arch name = some call :=
  ⟨ofName?_of_name?, name?_of_ofName?⟩

/-- The counterpart of a native call with a name is what the name means elsewhere. -/
theorem counterpart?_of_name? {call : Syscall} {name : String} (h : name? .native call = some name)
    (arch : Arch) : counterpart? .native arch call = ofName? arch name := by
  rw [counterpart?]
  split_ifs with ha
  · rw [← ha, ofName?_of_name? h]
  · rw [h, Option.bind_some]

/-- The counterpart of a call that is resolved by a native name is what the name means elsewhere. -/
theorem counterpart?_of_ofName? {name : String} {call : Syscall}
    (h : ofName? .native name = some call) (arch : Arch) :
    counterpart? .native arch call = ofName? arch name :=
  counterpart?_of_name? (name?_of_ofName? h) arch

/-- The counterparts of a native call with a name have names too. -/
theorem name?_isSome_of_counterpart? {arch : Arch} {call own : Syscall}
    (hc : (name? .native call).isSome) (h : counterpart? .native arch call = some own) :
    (name? arch own).isSome := by
  rw [counterpart?] at h
  split_ifs at h with ha
  · obtain rfl := Option.some.inj h
    rwa [← ha]
  · obtain ⟨name, -, ho⟩ := Option.bind_eq_some_iff.mp h
    exact Option.isSome_of_eq_some (name?_of_ofName? ho)

end SyscallFilter.Syscall
