/-!
The calling conventions a filter can tell apart, the 32-bit word by which the kernel reports each
of them, and values held per architecture.
-/

namespace SyscallFilter

/-- The supported architectures, in the order in which filters list them. -/
inductive Arch
  | x86
  | x8664
  | arm
  | aarch64
  | riscv64
  deriving DecidableEq, Repr, Inhabited

namespace Arch

/-- Every architecture, in listing order. -/
def all : List Arch :=
  [x86, x8664, arm, aarch64, riscv64]

theorem mem_all (arch : Arch) : arch ∈ all := by
  cases arch <;> decide

/-- The architecture whose syscall numbers callers use. -/
def native : Arch := x8664

/-- The word by which the kernel reports a call through this architecture. -/
def auditWord : Arch → UInt32
  | x86 => 0x40000003
  | x8664 => 0xc000003e
  | arm => 0x40000028
  | aarch64 => 0xc00000b7
  | riscv64 => 0xc00000f3

theorem auditWord_inj {a b : Arch} : a.auditWord = b.auditWord ↔ a = b := by
  cases a <;> cases b <;> decide

/-- The architecture behind an audit word, if the word is one. -/
def ofAuditWord? (word : UInt32) : Option Arch :=
  all.find? fun arch => arch.auditWord == word

theorem ofAuditWord?_auditWord (arch : Arch) : ofAuditWord? arch.auditWord = some arch := by
  cases arch <;> decide

/-- The name of an architecture in listings and policies. -/
def name : Arch → String
  | x86 => "x86"
  | x8664 => "x86_64"
  | arm => "arm"
  | aarch64 => "aarch64"
  | riscv64 => "riscv64"

/-- Reads a name or a common alias; ASCII letters count in either case. -/
def ofName? (text : String) : Option Arch :=
  match text.map Char.toLower with
  | "native" => some native
  | "x86" => some x86
  | "i386" => some x86
  | "i686" => some x86
  | "x86_64" => some x8664
  | "amd64" => some x8664
  | "arm" => some arm
  | "aarch64" => some aarch64
  | "arm64" => some aarch64
  | "riscv64" => some riscv64
  | _ => none

end Arch

/-- One value for each architecture. -/
structure PerArch (α : Type) where
  x86 : α
  x8664 : α
  arm : α
  aarch64 : α
  riscv64 : α
  deriving DecidableEq, Repr

namespace PerArch

variable {α β : Type}

/-- The value held for an architecture. -/
def get (values : PerArch α) : Arch → α
  | .x86 => values.x86
  | .x8664 => values.x8664
  | .arm => values.arm
  | .aarch64 => values.aarch64
  | .riscv64 => values.riscv64

/-- Tabulates a function on architectures. -/
def ofFn (f : Arch → α) : PerArch α :=
  ⟨f .x86, f .x8664, f .arm, f .aarch64, f .riscv64⟩

@[simp] theorem get_ofFn (f : Arch → α) (arch : Arch) : (ofFn f).get arch = f arch := by
  cases arch <;> rfl

/-- Two tables that agree at every architecture are equal. -/
theorem ext_get {a b : PerArch α} (h : ∀ arch, a.get arch = b.get arch) : a = b := by
  cases a
  cases b
  have h₁ := h .x86
  have h₂ := h .x8664
  have h₃ := h .arm
  have h₄ := h .aarch64
  have h₅ := h .riscv64
  simp only [get] at h₁ h₂ h₃ h₄ h₅
  rw [h₁, h₂, h₃, h₄, h₅]

/-- Replaces the value at one architecture. -/
def set (values : PerArch α) (arch : Arch) (value : α) : PerArch α :=
  ofFn fun other => if other = arch then value else values.get other

@[simp] theorem get_set (values : PerArch α) (arch other : Arch) (value : α) :
    (values.set arch value).get other = if other = arch then value else values.get other :=
  get_ofFn _ _

/-- Applies a function that may look at the architecture to every value. -/
def map (values : PerArch α) (f : Arch → α → β) : PerArch β :=
  ofFn fun arch => f arch (values.get arch)

@[simp] theorem get_map (values : PerArch α) (f : Arch → α → β) (arch : Arch) :
    (values.map f).get arch = f arch (values.get arch) :=
  get_ofFn _ _

end PerArch

end SyscallFilter
