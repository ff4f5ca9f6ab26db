import SyscallFilter.Filter.Export

/-!
Exports to any writer. A writer takes bytes as it likes: what it does not take is offered once more,
as is everything after an interruption, until all is taken or the writer gives up. Memory with room
for so many bytes is one such writer.
-/

namespace SyscallFilter

/-- The cause with which a call fails that a signal has interrupted. -/
def TransferError.interrupted : TransferError :=
  .errno Errno.interrupted

/-- Something that takes bytes, no more than it is offered, and keeps a memory of its own. It is not
interrupted for ever, but at most so many times in a row. -/
structure Writer (σ : Type) where
  write : σ → List UInt8 → σ × Except TransferError Nat
  flush : σ → σ × Except TransferError Unit
  patience : σ → Nat
  taken_le : ∀ memory bytes count, (write memory bytes).2 = .ok count → count ≤ bytes.length
  patience_lt : ∀ memory bytes, (write memory bytes).2 = .error .interrupted →
    patience (write memory bytes).1 < patience memory

namespace Writer

variable {σ : Type}

/-- Offers bytes until all are taken. A writer that takes none of them ends the delivery, and so
does one that fails, unless it was interrupted. -/
def writeAll (writer : Writer σ) (memory : σ) (bytes : List UInt8) : σ × Delivery :=
  if _hnone : bytes = [] then (memory, ⟨[], .ok ()⟩)
  else
    match _hwrite : writer.write memory bytes with
    | (next, .ok count) =>
      if _hzero : count = 0 then (next, .failed (.transfer .incompleteWrite))
      else
        let (last, rest) := writer.writeAll next (bytes.drop count)
        (last, rest.after (bytes.take count))
    | (next, .error cause) =>
      if _hagain : cause = .interrupted then writer.writeAll next bytes
      else (next, .failed (.transfer cause))
termination_by (bytes.length, writer.patience memory)
decreasing_by
  · have hpos := List.length_pos_iff.mpr _hnone
    rw [List.length_drop]
    exact Prod.Lex.left _ _ (by omega)
  · have hlt := writer.patience_lt memory bytes
    rw [_hwrite, _hagain] at hlt
    exact Prod.Lex.right _ (hlt rfl)

/-- Writes pieces in order, and flushes the writer behind the last one. A piece that is not taken as
a whole ends the delivery. -/
def deliver (writer : Writer σ) (memory : σ) : List (List UInt8) → σ × Delivery
  | [] =>
    let (last, result) := writer.flush memory
    (last, ⟨[], result.mapError Error.transfer⟩)
  | piece :: rest =>
    let (next, written) := writer.writeAll memory piece
    match written.result with
    | .error _ => (next, written)
    | .ok () =>
      let (last, delivery) := writer.deliver next rest
      (last, delivery.after written.bytes)

/-- Memory takes as many bytes as it has room for, and then none. -/
def memory : Writer Nat where
  write room bytes := (room - bytes.length, .ok (min room bytes.length))
  flush room := (room, .ok ())
  patience _ := 0
  taken_le room bytes count h := by
    obtain rfl := Except.ok.inj h
    exact Nat.min_le_right room bytes.length
  patience_lt _ _ h := nomatch h

end Writer

/-- How the bytes of a line are divided on their way through formatting. -/
structure Division where
  cut : List UInt8 → List (List UInt8)
  flatten_cut : ∀ bytes, (cut bytes).flatten = bytes

namespace Filter

variable {σ : Type}

/-- Writes the instruction records to a writer, one at a time. A filter that does not compile writes
nothing. -/
def exportProgramTo (filter : Filter) (writer : Writer σ) (memory : σ) : σ × Delivery :=
  match filter.program with
  | .ok program => writer.deliver memory (program.map Instruction.toBytes)
  | .error error => (memory, .failed error)

/-- Writes the listing to a writer, in the parts that formatting divides its lines into. A released
filter writes nothing. -/
def exportListingTo (filter : Filter) (writer : Writer σ) (division : Division) (memory : σ) :
    σ × Delivery :=
  match filter.state with
  | .ok state =>
    writer.deliver memory ((state.ruleset.listing.map lineBytes).flatMap division.cut)
  | .error error => (memory, .failed error)

end Filter

end SyscallFilter
