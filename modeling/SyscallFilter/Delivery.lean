import SyscallFilter.Error

/-!
Delivering bytes to a place that may have room for only so many. A piece that does not fit fills
the room up and fails, and nothing is delivered after a failure.
-/

namespace SyscallFilter

/-- The bytes that arrived, and whether all did. -/
structure Delivery where
  bytes : List UInt8
  result : Except Error Unit

namespace Delivery

/-- Nothing arrived, because of an error before the first byte. -/
def failed (error : Error) : Delivery :=
  ⟨[], .error error⟩

/-- Puts the bytes of a piece in front of what arrived after it. -/
def after (piece : List UInt8) (rest : Delivery) : Delivery :=
  ⟨piece ++ rest.bytes, rest.result⟩

/-- Delivers pieces in order. Without a limit there is room for everything. -/
def ofPieces (room : Option Nat) : List (List UInt8) → Delivery
  | [] => ⟨[], .ok ()⟩
  | piece :: rest =>
    match room with
    | none => after piece (ofPieces none rest)
    | some room =>
      if piece.length ≤ room then after piece (ofPieces (some (room - piece.length)) rest)
      else ⟨piece.take room, .error (.transfer .incompleteWrite)⟩

end Delivery

end SyscallFilter
