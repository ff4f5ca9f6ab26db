import SyscallFilter.Delivery
import SyscallFilter.Filter.Basic
import SyscallFilter.Listing

/-!
Writing a filter out, as the records of its program or as its listing, to a place with room for
everything or for a given number of bytes.
-/

namespace SyscallFilter

/-- The bytes of a line with its end. -/
def lineBytes (line : String) : List UInt8 :=
  (line ++ "\n").toUTF8.data.toList

namespace Filter

/-- Writes the instruction records. A filter that does not compile writes nothing. -/
def exportProgram (filter : Filter) (room : Option Nat) : Delivery :=
  match filter.program with
  | .ok program => .ofPieces room (program.map Instruction.toBytes)
  | .error error => .failed error

/-- Writes the listing. A released filter writes nothing. -/
def exportListing (filter : Filter) (room : Option Nat) : Delivery :=
  match filter.state with
  | .ok state => .ofPieces room (state.ruleset.listing.map lineBytes)
  | .error error => .failed error

end Filter

end SyscallFilter
