import SyscallFilter.Filter.Export
import SyscallFilter.Filter.Listen

/-!
What a filter can be asked without being changed: for what it holds, for its program, for its
listener or a channel on it, and to be written out.
-/

namespace SyscallFilter

/-- A question to a filter. Writing out is one, to a place with room for everything or for a number
of bytes. -/
inductive Query
  | arches
  | hasArch (arch : Arch)
  | defaultAction
  | badArchAction
  | attributes
  | noNewPrivs
  | log
  | speculation
  | threadSync
  | rules (arch : Arch)
  | program
  | listener
  | channel
  | exportProgram (room : Option Nat)
  | exportListing (room : Option Nat)
  deriving DecidableEq, Repr

/-- What a question is answered with; writing out has no answer but that it is done. -/
def Query.Answer : Query → Type
  | arches => List Arch
  | hasArch _ => Bool
  | defaultAction => Action
  | badArchAction => Action
  | attributes => Attributes
  | noNewPrivs => Bool
  | log => Bool
  | speculation => Bool
  | threadSync => Bool
  | rules _ => List Rule
  | program => Program
  | listener => Nat
  | channel => Channel
  | exportProgram _ => Unit
  | exportListing _ => Unit

namespace Filter

/-- Answers a question. -/
def answer (filter : Filter) : (query : Query) → Except Error query.Answer
  | .arches => filter.arches
  | .hasArch arch => filter.hasArch arch
  | .defaultAction => filter.defaultAction
  | .badArchAction => filter.badArchAction
  | .attributes => filter.attributes
  | .noNewPrivs => filter.noNewPrivs
  | .log => filter.log
  | .speculation => filter.speculation
  | .threadSync => filter.threadSync
  | .rules arch => filter.rules arch
  | .program => filter.program
  | .listener => filter.listener
  | .channel => filter.openChannel
  | .exportProgram room => (filter.exportProgram room).result
  | .exportListing room => (filter.exportListing room).result

/-- The bytes that a question makes a filter write. -/
def written (filter : Filter) : Query → List UInt8
  | .exportProgram room => (filter.exportProgram room).bytes
  | .exportListing room => (filter.exportListing room).bytes
  | _ => []

end Filter

end SyscallFilter
