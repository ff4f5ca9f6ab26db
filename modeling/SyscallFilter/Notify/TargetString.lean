import SyscallFilter.Error

/-!
Strings in the memory of a waiting call's process. A string ends at its first zero byte, and one
that does not end within the bytes of a single read is not taken.
-/

namespace SyscallFilter

/-- The memory of a process: what stands at each address, where anything is mapped. -/
abbrev TargetMemory := Nat → Option UInt8

namespace TargetMemory

/-- The bytes from an address on, as many as are wanted or up to the first that is not mapped. -/
def read (memory : TargetMemory) (address : Nat) : (count : Nat) → List UInt8
  | 0 => []
  | count + 1 =>
    match memory address with
    | some byte => byte :: memory.read (address + 1) count
    | none => []

/-- The most bytes that one read asks for. -/
def maxString : Nat := 4096

/-- The string at the start of a run of bytes. -/
def stringOf (bytes : List UInt8) : Except Error String :=
  if bytes.contains 0 then
    match String.fromUTF8? (ByteArray.mk (bytes.takeWhile (· != 0)).toArray) with
    | some text => .ok text
    | none => .error (.transfer .invalidString)
  else .error (.transfer .unterminatedString)

/-- The string at an address; reading where nothing is mapped fails. -/
def string (memory : TargetMemory) (address : Nat) : Except Error String :=
  match memory.read address maxString with
  | [] => .error (.transfer (.errno Errno.inputOutput))
  | bytes => stringOf bytes

/-- The string at an address of a process that may be gone. -/
def stringOf? (target : Option TargetMemory) (address : Nat) : Except Error String :=
  match target with
  | some memory => memory.string address
  | none => .error (.transfer (.errno Errno.noEntry))

end TargetMemory

end SyscallFilter
