import SyscallFilter.Numeral

/-!
What a filter does with a system call. An action travels as one 32-bit word: the upper half names
the action, the lower half is a payload that only `errno` and `trace` use.
-/

namespace SyscallFilter

/-- The outcomes of a filter, and `invalid` for a word that names none of them. -/
inductive Action
  | killProcess
  | killThread
  | allow
  | trap
  | errno (code : UInt16)
  | trace (code : UInt16)
  | log
  | notify
  | invalid
  deriving DecidableEq, Repr, Inhabited

namespace Action

/-- Replaces the payload of an action that has one and leaves the others alone. -/
def withCode (code : UInt16) : Action → Action
  | errno _ => errno code
  | trace _ => trace code
  | action => action

/-- The payload of an action that has one. -/
def code? : Action → Option UInt16
  | errno code => some code
  | trace code => some code
  | _ => none

/-- Every action but `invalid` may stand in a filter. -/
def isValid (action : Action) : Bool :=
  action != invalid

/-- The word of an action that may stand in a filter. -/
def toWord? : Action → Option UInt32
  | killProcess => some 0x80000000
  | killThread => some 0
  | trap => some 0x00030000
  | errno code => some (0x00050000 ||| code.toUInt32)
  | notify => some 0x7fc00000
  | trace code => some (0x7ff00000 ||| code.toUInt32)
  | log => some 0x7ffc0000
  | allow => some 0x7fff0000
  | invalid => none

/-- Reads the upper half of a word as the action and the lower half as the payload. -/
def ofWord (word : UInt32) : Action :=
  let payload := word.toUInt16
  let name := word &&& 0xffff0000
  if name = 0x80000000 then killProcess
  else if name = 0 then killThread
  else if name = 0x00030000 then trap
  else if name = 0x00050000 then errno payload
  else if name = 0x7fc00000 then notify
  else if name = 0x7ff00000 then trace payload
  else if name = 0x7ffc0000 then log
  else if name = 0x7fff0000 then allow
  else invalid

/-- The name of an action in listings, its payload in parentheses. -/
def text : Action → String
  | killProcess => "KILL_PROCESS"
  | killThread => "KILL"
  | allow => "ALLOW"
  | trap => "TRAP"
  | errno code => "ERRNO(" ++ decimal code.toNat ++ ")"
  | trace code => "TRACE(" ++ decimal code.toNat ++ ")"
  | log => "LOG"
  | notify => "NOTIFY"
  | invalid => "INVALID"

end Action

end SyscallFilter
