import Mathlib.Tactic
import SyscallFilter.Proofs.Layout

/-!
The assembler gives every program its layout. A label is bound once, so the places of the labels at
the end serve for every piece of code on the way; under these places the pending instructions of a
piece represent the operations of its layout.
-/

namespace SyscallFilter

namespace Assembler

/-- The labels that are bound have the places that a table gives them. -/
def Within (asm : Assembler) (places : Label → Option Nat) : Prop :=
  ∀ label place, asm.place? label = some place → places label = some place

/-- Labels are only added, and the old ones stay as they are. -/
structure Frame (before after : Assembler) : Prop where
  size_le : before.labels.size ≤ after.labels.size
  place_eq : ∀ label : Label, label.index < before.labels.size →
    after.place? label = before.place? label

theorem lt_size_of_place? {asm : Assembler} {label : Label} {place : Nat}
    (h : asm.place? label = some place) : label.index < asm.labels.size := by
  by_contra hge
  rw [place?, Array.getElem?_eq_none (by omega)] at h
  simp at h

theorem Frame.refl (asm : Assembler) : asm.Frame asm :=
  ⟨le_rfl, fun _ _ => rfl⟩

theorem Frame.trans {a b c : Assembler} (hab : a.Frame b) (hbc : b.Frame c) : a.Frame c where
  size_le := hab.size_le.trans hbc.size_le
  place_eq label hl :=
    (hbc.place_eq label (lt_of_lt_of_le hl hab.size_le)).trans (hab.place_eq label hl)

theorem Frame.within {before after : Assembler} {places : Label → Option Nat}
    (h : before.Frame after) (hw : after.Within places) : before.Within places := by
  intro label place hp
  have hl : label.index < before.labels.size := lt_size_of_place? hp
  exact hw label place ((h.place_eq label hl).trans hp)

@[simp] theorem labels_emit (asm : Assembler) (pending : List Pending) :
    (asm.emit pending).labels = asm.labels := rfl

theorem size_emit (asm : Assembler) (pending : List Pending) :
    (asm.emit pending).code.size = asm.code.size + pending.length := by
  rw [← Array.length_toList, ← Array.length_toList, ← List.length_append]
  congr 1
  simp [emit]

theorem frame_label (asm : Assembler) : asm.Frame asm.label.2 where
  size_le := by simp [label]
  place_eq label hl := by
    simp only [Assembler.label, place?, Array.getElem?_push, if_neg (Nat.ne_of_lt hl)]

theorem frame_emit (asm : Assembler) (pending : List Pending) : asm.Frame (asm.emit pending) :=
  ⟨le_rfl, fun _ _ => rfl⟩

/-- A label is bound to the end of the code, and no other label changes. -/
theorem place?_bind (asm : Assembler) (label other : Label)
    (hl : label.index < asm.labels.size) :
    (asm.bind label).place? other =
      if other = label then some asm.code.size else asm.place? other := by
  by_cases ho : other = label
  · simp [bind, place?, ho, hl]
  · have hi : label.index ≠ other.index := fun h => ho (by cases label; cases other; simp_all)
    simp [bind, place?, ho, hi]

theorem Frame.bind {before mid : Assembler} (h : before.Frame mid) {label : Label}
    (hl : before.labels.size ≤ label.index) (hm : label.index < mid.labels.size) :
    before.Frame (mid.bind label) where
  size_le := by simpa [Assembler.bind] using h.size_le
  place_eq other ho := by
    have hne : other ≠ label := by
      rintro rfl
      omega
    rw [place?_bind mid label other hm, if_neg hne]
    exact h.place_eq other ho

/-- What holds after a label is bound held before, if the label was unbound. -/
theorem within_of_bind {asm : Assembler} {places : Label → Option Nat} {label : Label}
    (hl : label.index < asm.labels.size) (hn : asm.place? label = none)
    (hw : (asm.bind label).Within places) :
    asm.Within places ∧ places label = some asm.code.size := by
  refine ⟨fun other place hp => hw other place ?_, hw label _ ?_⟩
  · -- A place that was there already belongs to another label.
    have hne : other ≠ label := by
      rintro rfl
      rw [hn] at hp
      simp at hp
    rw [place?_bind asm label other hl, if_neg hne, hp]
  · rw [place?_bind asm label label hl, if_pos rfl]

/-- A label that has just been created is unbound, and stays so until it is bound. -/
theorem place?_of_frame_label {asm after : Assembler} (h : asm.label.2.Frame after) :
    after.place? asm.label.1 = none := by
  have hl : asm.label.1.index < asm.label.2.labels.size := by simp [label]
  rw [h.place_eq _ hl]
  simp [label, place?]

@[simp] theorem length_createLabels (asm : Assembler) (count : Nat) :
    (asm.createLabels count).1.length = count := by
  induction count generalizing asm with
  | zero => rfl
  | succ count ih => exact congrArg (· + 1) (ih _)

@[simp] theorem code_createLabels (asm : Assembler) (count : Nat) :
    (asm.createLabels count).2.code = asm.code := by
  induction count generalizing asm with
  | zero => rfl
  | succ count ih => exact ih asm.label.2

theorem frame_createLabels (asm : Assembler) (count : Nat) :
    asm.Frame (asm.createLabels count).2 := by
  induction count generalizing asm with
  | zero => exact Frame.refl asm
  | succ count ih => exact asm.frame_label.trans (ih asm.label.2)

/-- Labels that exist and are unbound. -/
def Unbound (asm : Assembler) (labels : List Label) : Prop :=
  ∀ label ∈ labels, label.index < asm.labels.size ∧ asm.place? label = none

theorem Frame.unbound {before after : Assembler} {labels : List Label} (h : before.Frame after)
    (hu : before.Unbound labels) : after.Unbound labels := by
  intro label hm
  obtain ⟨hl, hn⟩ := hu label hm
  exact ⟨lt_of_lt_of_le hl h.size_le, (h.place_eq label hl).trans hn⟩

theorem le_index_of_mem_createLabels {asm : Assembler} {count : Nat} {label : Label}
    (h : label ∈ (asm.createLabels count).1) : asm.labels.size ≤ label.index := by
  induction count generalizing asm with
  | zero => simp [createLabels] at h
  | succ count ih =>
    rcases List.mem_cons.mp h with rfl | hm
    · exact le_rfl
    · exact asm.frame_label.size_le.trans (ih hm)

theorem unbound_createLabels (asm : Assembler) (count : Nat) :
    (asm.createLabels count).2.Unbound (asm.createLabels count).1 := by
  induction count generalizing asm with
  | zero => simp [createLabels, Unbound]
  | succ count ih =>
    intro label hm
    rcases List.mem_cons.mp hm with rfl | hm
    · -- The labels created after the first leave it as it is.
      have hf := asm.label.2.frame_createLabels count
      exact ⟨lt_of_lt_of_le (by simp [Assembler.label]) hf.size_le, place?_of_frame_label hf⟩
    · exact ih asm.label.2 label hm

theorem nodup_createLabels (asm : Assembler) (count : Nat) :
    (asm.createLabels count).1.Nodup := by
  induction count generalizing asm with
  | zero => exact List.nodup_nil
  | succ count ih =>
    refine List.nodup_cons.mpr ⟨fun hm => ?_, ih asm.label.2⟩
    -- Later labels have higher numbers.
    have hle := le_index_of_mem_createLabels hm
    simp at hle

end Assembler

section
variable (places : Label → Option Nat)

/-- A target is so many instructions behind the one after a branch. -/
def Target.Lands (pc : Nat) : Target → Nat → Prop
  | .next, distance => distance = 0
  | .label l, distance => places l = some (pc + 1 + distance)

/-- A pending instruction becomes an operation when the labels have their places. -/
def Pending.Represents (pc : Nat) (pending : Pending) : Operation → Prop
  | .load offset => pending = .load offset
  | .mask k => pending = .mask k
  | .jump distance => ∃ label, pending = .goto label ∧ places label = some (pc + 1 + distance)
  | .branch relation k ifTrue ifFalse => ∃ onTrue onFalse,
      pending = .branch relation k onTrue onFalse ∧
        onTrue.Lands places pc ifTrue ∧ onFalse.Lands places pc ifFalse
  | .ret word => pending = .ret word

/-- The instructions from a place on become operations, one by one. -/
def Pending.RepresentAll (pc : Nat) : List Pending → List Operation → Prop
  | [], [] => True
  | pending :: rest, operation :: operations =>
    pending.Represents places pc operation ∧ RepresentAll (pc + 1) rest operations
  | _, _ => False

end

namespace Pending

variable {places : Label → Option Nat}

theorem RepresentAll.length_eq {pc : Nat} {pending : List Pending} {operations : List Operation}
    (h : RepresentAll places pc pending operations) : pending.length = operations.length := by
  induction pending generalizing pc operations with
  | nil =>
    cases operations with
    | nil => rfl
    | cons _ _ => exact False.elim h
  | cons first rest ih =>
    cases operations with
    | nil => exact False.elim h
    | cons _ _ => exact congrArg (· + 1) (ih h.2)

/-- The second piece stands behind the operations of the first. -/
theorem RepresentAll.append {pc : Nat} {xs ys : List Pending} {us vs : List Operation}
    (hx : RepresentAll places pc xs us) (hy : RepresentAll places (pc + us.length) ys vs) :
    RepresentAll places pc (xs ++ ys) (us ++ vs) := by
  induction xs generalizing pc us with
  | nil =>
    cases us with
    | nil => exact hy
    | cons _ _ => exact False.elim hx
  | cons first rest ih =>
    cases us with
    | nil => exact False.elim hx
    | cons _ us =>
      refine ⟨hx.1, ih hx.2 ?_⟩
      rwa [List.length_cons, Nat.add_comm us.length, ← Nat.add_assoc] at hy

end Pending

namespace Assembler

/-- From one state to a later one, the code grows by instructions that become operations. -/
def Emits (places : Label → Option Nat) (before after : Assembler)
    (operations : List Operation) : Prop :=
  ∃ pending, after.code.toList = before.code.toList ++ pending ∧
    Pending.RepresentAll places before.code.size pending operations

variable {places : Label → Option Nat}

theorem Emits.size_eq {before after : Assembler} {operations : List Operation}
    (h : before.Emits places after operations) :
    after.code.size = before.code.size + operations.length := by
  obtain ⟨pending, hc, hr⟩ := h
  rw [← Array.length_toList, hc, List.length_append, Array.length_toList, hr.length_eq]

theorem Emits.nil (asm : Assembler) : asm.Emits places asm [] :=
  ⟨[], by simp, trivial⟩

theorem Emits.trans {a b c : Assembler} {us vs : List Operation}
    (hab : a.Emits places b us) (hbc : b.Emits places c vs) : a.Emits places c (us ++ vs) := by
  have hs := hab.size_eq
  obtain ⟨xs, hx, hxr⟩ := hab
  obtain ⟨ys, hy, hyr⟩ := hbc
  rw [hs] at hyr
  exact ⟨xs ++ ys, by rw [hy, hx, List.append_assoc], hxr.append hyr⟩

theorem emits_emit {asm : Assembler} {pending : List Pending} {operations : List Operation}
    (h : Pending.RepresentAll places asm.code.size pending operations) :
    asm.Emits places (asm.emit pending) operations :=
  ⟨pending, by simp [emit], h⟩

/-- Labels may be created before a piece of code and bound behind it. -/
theorem Emits.of_code_eq {a a' b b' : Assembler} {operations : List Operation}
    (h : a.Emits places b operations) (ha : a'.code = a.code) (hb : b'.code = b.code) :
    a'.Emits places b' operations := by
  rw [Emits, ha, hb]
  exact h

theorem emits_ret (asm : Assembler) (word : UInt32) :
    asm.Emits places (asm.emit [.ret word]) [.ret word] :=
  emits_emit ⟨rfl, trivial⟩

/-- A run can end with every action but the invalid one. -/
theorem emitRet_eq (asm : Assembler) (action : Action) :
    asm.emitRet action =
      if action.isValid then .ok (asm.emit [.ret action.word]) else .error .invalidAction := by
  cases action <;> rfl

theorem of_emitRet_eq_ok {asm after : Assembler} {action : Action}
    (h : asm.emitRet action = .ok after) :
    action.isValid ∧ after = asm.emit [.ret action.word] := by
  rw [emitRet_eq] at h
  split_ifs at h with hv
  exact ⟨hv, (Except.ok.inj h).symm⟩

end Assembler

/-- The distances of a branch have eight bits. -/
def Operation.Short : Operation → Prop
  | .branch _ _ ifTrue ifFalse => ifTrue < 256 ∧ ifFalse < 256
  | _ => True

/-- The distance of a jump has 32 bits. -/
def Operation.Near : Operation → Prop
  | .jump distance => distance < 2 ^ 32
  | _ => True

/-- The instructions of a program perform operations, one each. -/
def Program.Performs (program : Program) (operations : List Operation) : Prop :=
  program.map Instruction.operation? = operations.map some

namespace Assembler

variable {asm : Assembler} {pc : Nat}

/-- No label that a target lands on is unbound or behind its jump. -/
theorem distance_eq {label : Label} {distance : Nat}
    (h : asm.place? label = some (pc + 1 + distance)) : asm.distance pc label = .ok distance := by
  simp only [Assembler.distance, h]
  rw [if_neg (by omega), Nat.add_sub_cancel_left]

theorem shortDistance_eq {target : Target} {distance : Nat}
    (h : target.Lands asm.place? pc distance) :
    asm.shortDistance pc target =
      if distance < 256 then .ok (UInt8.ofNat distance)
      else .error (.programTooLarge asm.code.size Program.maxLength) := by
  cases target with
  | next =>
    obtain rfl : distance = 0 := h
    rfl
  | label l =>
    simp only [shortDistance, distance_eq h]
    rfl

theorem shortDistance_eq_ok {target : Target} {distance : Nat} {field : UInt8}
    (h : target.Lands asm.place? pc distance) (hf : asm.shortDistance pc target = .ok field) :
    field.toNat = distance := by
  rw [shortDistance_eq h] at hf
  split_ifs at hf with hd
  obtain rfl := Except.ok.inj hf
  exact UInt8.toNat_ofNat_of_lt hd

theorem resolve_branch (relation : Relation) (k : UInt32) (onTrue onFalse : Target) :
    asm.resolve pc (.branch relation k onTrue onFalse) =
      asm.shortDistance pc onTrue >>= fun jt =>
        asm.shortDistance pc onFalse >>= fun jf => .ok ⟨Opcode.branch relation, jt, jf, k⟩ := by
  rfl

theorem resolve_goto (label : Label) :
    asm.resolve pc (.goto label) =
      asm.distance pc label >>= fun distance =>
        .ok ⟨Opcode.jump, 0, 0, UInt32.ofNat distance⟩ := by
  rfl

/-- An instruction that can be resolved performs the operation it stands for. -/
theorem operation?_of_resolve {pending : Pending} {operation : Operation}
    {instruction : Instruction} (hr : pending.Represents asm.place? pc operation)
    (hn : operation.Near) (h : asm.resolve pc pending = .ok instruction) :
    instruction.operation? = some operation := by
  cases operation with
  | load offset =>
    obtain rfl := hr
    obtain rfl := Except.ok.inj h
    rfl
  | mask k =>
    obtain rfl := hr
    obtain rfl := Except.ok.inj h
    rfl
  | ret word =>
    obtain rfl := hr
    obtain rfl := Except.ok.inj h
    rfl
  | jump distance =>
    obtain ⟨label, rfl, hp⟩ := hr
    rw [resolve_goto, distance_eq hp] at h
    obtain rfl := Except.ok.inj h
    -- The distance goes into the 32-bit constant, which holds it.
    have hk : (UInt32.ofNat distance).toNat = distance := UInt32.toNat_ofNat_of_lt hn
    simp [Instruction.operation?, Opcode.jump, Opcode.load, Opcode.mask, hk]
  | branch relation k ifTrue ifFalse =>
    obtain ⟨onTrue, onFalse, rfl, ht, hf⟩ := hr
    rw [resolve_branch] at h
    obtain ⟨jt, hjt, h⟩ := exists_of_bind_eq_ok h
    obtain ⟨jf, hjf, h⟩ := exists_of_bind_eq_ok h
    obtain rfl := Except.ok.inj h
    rw [← shortDistance_eq_ok ht hjt, ← shortDistance_eq_ok hf hjf]
    cases relation <;> rfl

/-- Only a branch that is too far cannot be resolved. -/
theorem exists_resolve {pending : Pending} {operation : Operation}
    (hr : pending.Represents asm.place? pc operation) (hs : operation.Short) :
    ∃ instruction, asm.resolve pc pending = .ok instruction := by
  cases operation with
  | load offset =>
    obtain rfl := hr
    exact ⟨_, rfl⟩
  | mask k =>
    obtain rfl := hr
    exact ⟨_, rfl⟩
  | ret word =>
    obtain rfl := hr
    exact ⟨_, rfl⟩
  | jump distance =>
    obtain ⟨label, rfl, hp⟩ := hr
    rw [resolve_goto, distance_eq hp]
    exact ⟨_, rfl⟩
  | branch relation k ifTrue ifFalse =>
    obtain ⟨onTrue, onFalse, rfl, ht, hf⟩ := hr
    rw [resolve_branch, shortDistance_eq ht, shortDistance_eq hf, if_pos hs.1, if_pos hs.2]
    exact ⟨_, rfl⟩

theorem performs_of_resolveFrom {pending : List Pending} {operations : List Operation}
    {program : Program} (hr : Pending.RepresentAll asm.place? pc pending operations)
    (hn : ∀ operation ∈ operations, operation.Near)
    (h : asm.resolveFrom pc pending = .ok program) : program.Performs operations := by
  induction pending generalizing pc operations program with
  | nil =>
    obtain rfl := Except.ok.inj h
    cases operations with
    | nil => rfl
    | cons _ _ => exact False.elim hr
  | cons first rest ih =>
    cases operations with
    | nil => exact False.elim hr
    | cons operation operations =>
      obtain ⟨instruction, hi, h⟩ := exists_of_bind_eq_ok h
      obtain ⟨tail, ht, h⟩ := exists_of_bind_eq_ok h
      obtain rfl := Except.ok.inj h
      obtain ⟨hfirst, hrest⟩ := List.forall_mem_cons.mp hn
      have htail : tail.Performs operations := ih hr.2 hrest ht
      rw [Program.Performs, List.map_cons, List.map_cons, htail,
        operation?_of_resolve hr.1 hfirst hi]

theorem exists_resolveFrom {pending : List Pending} {operations : List Operation}
    (hr : Pending.RepresentAll asm.place? pc pending operations)
    (hs : ∀ operation ∈ operations, operation.Short) :
    ∃ program, asm.resolveFrom pc pending = .ok program := by
  induction pending generalizing pc operations with
  | nil => exact ⟨[], rfl⟩
  | cons first rest ih =>
    cases operations with
    | nil => exact False.elim hr
    | cons operation operations =>
      obtain ⟨hfirst, hrest⟩ := List.forall_mem_cons.mp hs
      obtain ⟨instruction, hi⟩ := exists_resolve hr.1 hfirst
      obtain ⟨program, hp⟩ := ih hr.2 hrest
      exact ⟨instruction :: program, by simp only [resolveFrom, hi, hp]; rfl⟩

end Assembler

end SyscallFilter
