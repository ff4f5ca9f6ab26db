import SyscallFilter.Error

/-!
What a kernel can do for a filter. Its features come in a fixed order, so that one number, the API
level, says which of them it has.
-/

namespace SyscallFilter

/-- The features that a level grants from some point on. -/
inductive Feature
  | threadSync
  | log
  | speculation
  | notification
  deriving DecidableEq, Repr

namespace Feature

/-- The first level with a feature. -/
def level : Feature → Nat
  | threadSync => 2
  | log => 3
  | speculation => 4
  | notification => 6

/-- The name of a feature in messages. -/
def text : Feature → String
  | threadSync => "thread sync"
  | log => "log bit"
  | speculation => "ssb bit"
  | notification => "notification"

end Feature

/-- The API level that a filter may use, and the kernel's release where it is known. -/
structure Capabilities where
  level : Nat
  kernel : Option Release
  deriving DecidableEq, Repr

namespace Capabilities

/-- The highest level there is. -/
def maxLevel : Nat := 6

/-- A chosen level, cut to the highest there is, on an unknown kernel. -/
def ofLevel (level : Nat) : Capabilities :=
  ⟨min level maxLevel, none⟩

/-- Whether a feature comes with the level. -/
def supports (capabilities : Capabilities) (feature : Feature) : Bool :=
  feature.level ≤ capabilities.level

/-- Fails where the level is below the one that something named in the message needs. -/
def requireLevel (capabilities : Capabilities) (name : String) (required : Nat) :
    Except Error Unit :=
  if capabilities.level < required then
    .error (.notSupported name required capabilities.level)
  else .ok ()

/-- Fails where a feature does not come with the level. -/
def require (capabilities : Capabilities) (feature : Feature) : Except Error Unit :=
  capabilities.requireLevel feature.text feature.level

/-- Lowers the level to one between 1 and the present one. -/
def request (capabilities : Capabilities) (level : Nat) : Except Error Capabilities :=
  if level = 0 ∨ capabilities.level < level then
    .error (.notSupported "api level" level capabilities.level)
  else .ok { capabilities with level }

end Capabilities

end SyscallFilter
