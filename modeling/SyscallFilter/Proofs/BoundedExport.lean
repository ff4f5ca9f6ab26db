import Mathlib.Tactic
import SyscallFilter.Filter.ExportTo
import SyscallFilter.Proofs.ListingOutline
import SyscallFilter.Proofs.Released

/-!
What a writer receives of an export if it takes only so many bytes in all. It receives the beginning
of the export, exactly as much as it takes, and the export fails with what the writer gave as the
reason, unless all was taken. Nothing is offered to the writer before the program or the listing is
known to exist.
-/

namespace SyscallFilter

namespace Writer

variable {σ : Type} {writer : Writer σ} {room : σ → Nat} {memory next : σ} {bytes : List UInt8}

/-- A writer takes something as long as it has room, however little at a time, and fails or takes
nothing once it has no more. -/
structure Limited (writer : Writer σ) (room : σ → Nat) : Prop where
  taken : ∀ {memory bytes next count}, bytes ≠ [] →
    writer.write memory bytes = (next, .ok count) →
      count ≤ room memory ∧ room next = room memory - count ∧ (count = 0 → room memory = 0)
  interrupted : ∀ {memory bytes next}, bytes ≠ [] →
    writer.write memory bytes = (next, .error .interrupted) → room next = room memory
  failed : ∀ {memory bytes next cause}, bytes ≠ [] →
    writer.write memory bytes = (next, .error cause) → cause ≠ .interrupted → room memory = 0
  flushed : ∀ memory, (writer.flush memory).2 = .ok ()

/-- A writer takes none of the bytes that it is offered, for a cause. -/
def Refuses (writer : Writer σ) (memory : σ) (cause : TransferError) (next : σ) : Prop :=
  ∃ bytes, bytes ≠ [] ∧
    (writer.write memory bytes = (next, .error cause) ∧ cause ≠ .interrupted ∨
      writer.write memory bytes = (next, .ok 0) ∧ cause = .incompleteWrite)

/-- As much is received of a whole as there was room for. All is well where that is the whole, and
otherwise the failure is what the writer refused the next bytes with. -/
structure Receives (writer : Writer σ) (room : σ → Nat) (whole : List UInt8) (memory : σ)
    (outcome : σ × Delivery) : Prop where
  bytes_eq : outcome.2.bytes = whole.take (room memory)
  ok_iff : outcome.2.result = .ok () ↔ whole.length ≤ room memory
  refused : room memory < whole.length → ∃ before cause, room before = 0 ∧
    writer.Refuses before cause outcome.1 ∧ outcome.2.result = .error (.transfer cause)

theorem receives_nil : writer.Receives room [] memory (next, ⟨[], .ok ()⟩) where
  bytes_eq := List.take_nil.symm
  ok_iff := iff_of_true rfl (Nat.zero_le _)
  refused h := absurd h (Nat.not_lt_zero _)

/-- A writer without room receives nothing of what it is offered. -/
theorem Refuses.receives {cause : TransferError} (h : writer.Refuses memory cause next)
    (hfull : room memory = 0) (hbytes : bytes ≠ []) :
    writer.Receives room bytes memory (next, .failed (.transfer cause)) where
  bytes_eq := by
    rw [hfull, List.take_zero]
    rfl
  ok_iff := by
    have hpos := List.length_pos_iff.mpr hbytes
    exact iff_of_false nofun (by omega)
  refused _ := ⟨memory, cause, hfull, h, rfl⟩

/-- What is received behind bytes that there was room for. -/
theorem Receives.after {rest : List UInt8} {outcome : σ × Delivery}
    (h : writer.Receives room rest next outcome) (taken : List UInt8)
    (hfits : taken.length ≤ room memory)
    (hroom : room next = room memory - taken.length) :
    writer.Receives room (taken ++ rest) memory (outcome.1, outcome.2.after taken) where
  bytes_eq := by
    rw [Delivery.after, h.bytes_eq, hroom, List.take_append, List.take_of_length_le hfits]
  ok_iff := by
    rw [Delivery.after, h.ok_iff, hroom, List.length_append]
    omega
  refused hlow := by
    rw [List.length_append] at hlow
    exact h.refused (by omega)

/-- Where there was no room for all of some bytes, more bytes behind them make no difference. -/
theorem Receives.append {outcome : σ × Delivery} (h : writer.Receives room bytes memory outcome)
    (hlow : room memory < bytes.length) (rest : List UInt8) :
    writer.Receives room (bytes ++ rest) memory outcome where
  bytes_eq := by rw [h.bytes_eq, List.take_append_of_le_length hlow.le]
  ok_iff := by
    rw [h.ok_iff, List.length_append]
    omega
  refused _ := h.refused hlow

/-- Bytes that are refused where there is no room for them end the delivery. -/
theorem Refuses.ends {cause : TransferError} (h : writer.Refuses memory cause next)
    (hfull : room memory = 0) (hbytes : bytes ≠ []) :
    writer.Receives room bytes memory (next, .failed (.transfer cause)) ∧
      (bytes.length ≤ room memory → room next = room memory - bytes.length) := by
  have hpos := List.length_pos_iff.mpr hbytes
  exact ⟨h.receives hfull hbytes, fun hfits => absurd hfits (by omega)⟩

/-- All bytes are taken that there is room for, and room is left for so many fewer. -/
theorem Limited.writeAll (h : writer.Limited room) (memory : σ) (bytes : List UInt8) :
    writer.Receives room bytes memory (writer.writeAll memory bytes) ∧
      (bytes.length ≤ room memory →
        room (writer.writeAll memory bytes).1 = room memory - bytes.length) := by
  -- A writer that is offered bytes takes none, takes some, was interrupted, or fails.
  fun_induction writer.writeAll memory bytes with
  | case1 memory => exact ⟨receives_nil, fun _ => rfl⟩
  | case2 memory bytes hbytes next hwrite =>
    have hfull : room memory = 0 := (h.taken hbytes hwrite).2.2 rfl
    have hrefuses : writer.Refuses memory .incompleteWrite next :=
      ⟨bytes, hbytes, .inr ⟨hwrite, rfl⟩⟩
    exact hrefuses.ends hfull hbytes
  | case3 memory bytes hbytes next count hwrite hcount last rest hlast ih =>
    obtain ⟨hfits, hroom, -⟩ := h.taken hbytes hwrite
    obtain ⟨hrest, hleft⟩ := ih
    rw [hlast] at hrest hleft
    have hle : count ≤ bytes.length :=
      writer.taken_le memory bytes count (congrArg Prod.snd hwrite)
    have hlength : (bytes.take count).length = count := by
      rw [List.length_take, Nat.min_eq_left hle]
    have htaken : writer.Receives room (bytes.take count ++ bytes.drop count) memory
        (last, rest.after (bytes.take count)) :=
      hrest.after _ (by rwa [hlength]) (by rw [hlength, hroom])
    rw [List.take_append_drop] at htaken
    refine ⟨htaken, fun hall => ?_⟩
    rw [List.length_drop] at hleft
    calc room last = room next - (bytes.length - count) := hleft (by omega)
      _ = room memory - (count + (bytes.length - count)) := by rw [hroom, Nat.sub_sub]
      _ = room memory - bytes.length := by rw [Nat.add_sub_cancel' hle]
  | case4 memory bytes hbytes next hwrite ih =>
    have hroom : room next = room memory := h.interrupted hbytes hwrite
    obtain ⟨hreceives, hleft⟩ := ih
    refine ⟨hreceives.after [] (Nat.zero_le _) hroom, fun hfits => ?_⟩
    rw [hleft (by omega), hroom]
  | case5 memory bytes hbytes next cause hwrite hagain =>
    have hrefuses : writer.Refuses memory cause next := ⟨bytes, hbytes, .inl ⟨hwrite, hagain⟩⟩
    exact hrefuses.ends (h.failed hbytes hwrite hagain) hbytes

/-- What is received of pieces is received of the whole that they make up. -/
theorem Limited.deliver (h : writer.Limited room) (memory : σ) (pieces : List (List UInt8)) :
    writer.Receives room pieces.flatten memory (writer.deliver memory pieces) := by
  induction pieces generalizing memory with
  | nil =>
    change writer.Receives room [] memory
      ((writer.flush memory).1, ⟨[], (writer.flush memory).2.mapError Error.transfer⟩)
    rw [h.flushed memory]
    exact receives_nil
  | cons piece rest ih =>
    obtain ⟨hpiece, hleft⟩ := h.writeAll memory piece
    rw [Writer.deliver, List.flatten_cons]
    -- The pieces behind one that did not fit are never offered.
    by_cases hfits : piece.length ≤ room memory
    · have hok := hpiece.ok_iff.mpr hfits
      have hbytes : (writer.writeAll memory piece).2.bytes = piece := by
        rw [hpiece.bytes_eq, List.take_of_length_le hfits]
      dsimp only
      rw [hok, hbytes]
      exact (ih _).after piece hfits (hleft hfits)
    · obtain ⟨_, cause, -, -, herror⟩ := hpiece.refused (Nat.not_le.mp hfits)
      dsimp only
      rw [herror]
      exact hpiece.append (Nat.not_le.mp hfits) rest.flatten

/-- Memory takes all that it has room for at once. -/
theorem limited_memory : Writer.memory.Limited fun room => room where
  taken := by
    rintro room bytes next count hbytes ⟨⟩
    have hpos := List.length_pos_iff.mpr hbytes
    refine ⟨Nat.min_le_left _ _, ?_, ?_⟩
    · omega
    · omega
  interrupted _ h := nomatch h
  failed _ h _ := nomatch h
  flushed _ := rfl

end Writer

section Memory

/-- Memory with little room receives the beginning of what is delivered to it. -/
theorem Delivery.ofPieces_some (room : Nat) (pieces : List (List UInt8)) :
    ofPieces (some room) pieces =
      ⟨pieces.flatten.take room, if pieces.flatten.length ≤ room then .ok ()
        else .error (.transfer .incompleteWrite)⟩ := by
  induction pieces generalizing room with
  | nil => simp [ofPieces]
  | cons piece rest ih =>
    rw [ofPieces, List.flatten_cons, List.length_append]
    by_cases hfits : piece.length ≤ room
    · have hiff : piece.length + rest.flatten.length ≤ room ↔
          rest.flatten.length ≤ room - piece.length := by omega
      rw [if_pos hfits, ih, after, List.take_append, List.take_of_length_le hfits]
      simp only [hiff]
    · rw [if_neg hfits, if_neg (by omega), List.take_append_of_le_length (by omega)]

theorem Writer.deliver_memory (room : Nat) (pieces : List (List UInt8)) :
    (Writer.memory.deliver room pieces).2 = .ofPieces (some room) pieces := by
  have hreceives := Writer.limited_memory.deliver room pieces
  rw [Delivery.ofPieces_some, ← hreceives.bytes_eq]
  split_ifs with hfits
  · rw [← hreceives.ok_iff.mpr hfits]
  · obtain ⟨before, cause, -, ⟨bytes, hbytes, ⟨hfailed, -⟩ | ⟨-, rfl⟩⟩, herror⟩ :=
      hreceives.refused (Nat.not_le.mp hfits)
    · nomatch (Prod.ext_iff.mp hfailed).2
    · rw [← herror]

theorem Division.flatten_flatMap (division : Division) (lines : List (List UInt8)) :
    (lines.flatMap division.cut).flatten = lines.flatten := by
  induction lines with
  | nil => rfl
  | cons line rest ih =>
    rw [List.flatMap_cons, List.flatten_append, division.flatten_cut, ih, List.flatten_cons]

end Memory

namespace Filter

variable {filter : Filter}

/-- The export of a program to a place with room for so many bytes is its export to memory. -/
theorem exportProgramTo_memory (filter : Filter) (room : Nat) :
    (filter.exportProgramTo .memory room).2 = filter.exportProgram (some room) := by
  rw [exportProgramTo, exportProgram]
  cases filter.program with
  | error _ => rfl
  | ok program => exact Writer.deliver_memory room _

/-- So is the export of a listing, however its lines are divided. -/
theorem exportListingTo_memory (filter : Filter) (division : Division) (room : Nat) :
    (filter.exportListingTo .memory division room).2 = filter.exportListing (some room) := by
  rw [exportListingTo, exportListing]
  cases filter.state with
  | error _ => rfl
  | ok state =>
    dsimp only
    rw [Writer.deliver_memory, Delivery.ofPieces_some, division.flatten_flatMap,
      Delivery.ofPieces_some]

/-- A writer that takes only so many bytes receives the beginning of either export, as much as it
takes, and the export fails with what the writer gave as the reason unless that is all. A filter
that does not compile, or that has been released, delivers nothing and leaves the writer alone. -/
theorem export_to_limited_writer {σ : Type} {writer : Writer σ} {room : σ → Nat}
    (hlimited : writer.Limited room) (division : Division) (memory : σ) (filter : Filter) :
    (∀ program, filter.program = .ok program →
      writer.Receives room (filter.exportProgram none).bytes memory
        (filter.exportProgramTo writer memory)) ∧
      (∀ error, filter.program = .error error →
        filter.exportProgramTo writer memory = (memory, .failed error)) ∧
      (filter.isValid = true →
        writer.Receives room (filter.exportListing none).bytes memory
          (filter.exportListingTo writer division memory)) ∧
      (filter.isValid = false →
        filter.exportProgramTo writer memory = (memory, .failed .filterReleased) ∧
          filter.exportListingTo writer division memory = (memory, .failed .filterReleased)) := by
  have hrefused (error : Error) (h : filter.program = .error error) :
      filter.exportProgramTo writer memory = (memory, .failed error) := by
    rw [exportProgramTo, h]
  refine ⟨fun program hp => ?_, hrefused, fun hvalid => ?_, fun hreleased => ?_⟩
  · rw [exportProgramTo, exportProgram, hp]
    dsimp only
    rw [Delivery.ofPieces_none]
    exact hlimited.deliver memory _
  · obtain ⟨state, hs⟩ := Option.isSome_iff_exists.mp hvalid
    have hstate : filter.state = .ok state := by rw [Filter.state, hs]
    rw [exportListingTo, exportListing_eq hs, hstate, Delivery.ofPieces_none,
      ← division.flatten_flatMap]
    exact hlimited.deliver memory _
  · have hs : filter.state? = none := by simpa [isValid] using hreleased
    refine ⟨hrefused .filterReleased (program_of_released hs), ?_⟩
    rw [exportListingTo, state_of_released hs]

/-- A disk with so many bytes free, which is interrupted before every write and then takes at most
three bytes. -/
def reluctantDisk : Writer (Nat × Bool) where
  write memory bytes :=
    match memory with
    | (free, true) => ((free, false), .error .interrupted)
    | (0, false) => ((0, false), .error (.errno Errno.noSpace))
    | (free + 1, false) =>
      let count := min (min 3 (free + 1)) bytes.length
      ((free + 1 - count, true), .ok count)
  flush memory := (memory, .ok ())
  patience memory := if memory.2 then 1 else 0
  taken_le memory bytes count h := by
    match memory with
    | (free + 1, false) =>
      obtain rfl := Except.ok.inj h
      exact Nat.min_le_right _ _
  patience_lt memory bytes h := by
    match memory with
    | (free, true) => exact Nat.zero_lt_one
    | (0, false) => nomatch h
    | (free + 1, false) => nomatch h

theorem limited_reluctantDisk : reluctantDisk.Limited Prod.fst where
  taken {memory bytes next count} hbytes h := by
    match memory with
    | (free + 1, false) =>
      obtain ⟨⟩ := h
      have hpos := List.length_pos_iff.mpr hbytes
      exact ⟨by omega, rfl, by omega⟩
  interrupted {memory bytes next} _ h := by
    match memory with
    | (free, true) =>
      obtain ⟨⟩ := h
      rfl
    | (0, false) => nomatch h
    | (free + 1, false) => nomatch h
  failed {memory bytes next cause} _ h hcause := by
    match memory with
    | (free, true) =>
      obtain ⟨⟩ := h
      exact absurd rfl hcause
    | (0, false) => rfl
  flushed _ := rfl

theorem eq_noSpace_of_refuses {before next : Nat × Bool} {cause : TransferError}
    (h : reluctantDisk.Refuses before cause next) (hfull : before.1 = 0) :
    cause = .errno Errno.noSpace := by
  obtain ⟨free, pending⟩ := before
  obtain rfl : free = 0 := hfull
  obtain ⟨bytes, -, ⟨hfailed, hcause⟩ | ⟨htaken, -⟩⟩ := h
  · cases pending with
    | true =>
      obtain ⟨⟩ := hfailed
      exact absurd rfl hcause
    | false =>
      obtain ⟨⟩ := hfailed
      rfl
  · cases pending with
    | true => nomatch htaken
    | false => nomatch htaken

/-- Formatting that writes one byte after the other. -/
def bytewise : Division where
  cut bytes := bytes.map fun byte => [byte]
  flatten_cut bytes := by
    induction bytes with
    | nil => rfl
    | cons byte rest ih => rw [List.map_cons, List.flatten_cons, ih, List.singleton_append]

/-- A disk with 2000 bytes free has room for a program, and one with 20 bytes free is full before
the listing has come to its end. -/
theorem export_to_limited_writer_full :
    let requests : List (String × Request) :=
      [("a", .make .allow ⟨6, none⟩), ("a", .change (.addRule ⟨83⟩ (.errno 1) []))]
    ∃ filter, (Session.empty.run requests).filter? "a" = some filter ∧
      (filter.exportProgramTo reluctantDisk (2000, true)).2.bytes =
        (filter.exportProgram none).bytes ∧
      (filter.exportProgramTo reluctantDisk (2000, true)).2.result = .ok () ∧
      (filter.exportListingTo reluctantDisk bytewise (20, true)).2.bytes =
        (filter.exportListing none).bytes.take 20 ∧
      (filter.exportListingTo reluctantDisk bytewise (20, true)).2.result =
        .error (.transfer (.errno Errno.noSpace)) := by
  intro requests
  obtain ⟨filter, state, program, hf, hs, hp, hfits, hlow⟩ :
      ∃ filter state program, (Session.empty.run requests).filter? "a" = some filter ∧
        filter.state? = some state ∧ filter.program = .ok program ∧
        (filter.exportProgram none).bytes.length ≤ 2000 ∧
        20 < (filter.exportListing none).bytes.length :=
    Session.exists_of_evaluated (by decide +kernel)
  have hvalid : filter.isValid = true := by rw [isValid, hs]; rfl
  obtain ⟨hprogram, -⟩ :=
    export_to_limited_writer limited_reluctantDisk bytewise (2000, true) filter
  obtain ⟨-, -, hlisting, -⟩ :=
    export_to_limited_writer limited_reluctantDisk bytewise (20, true) filter
  have hwhole := hprogram program hp
  have hpart := hlisting hvalid
  obtain ⟨before, cause, hfull, hrefuses, herror⟩ := hpart.refused hlow
  rw [eq_noSpace_of_refuses hrefuses hfull] at herror
  refine ⟨filter, hf, ?_, hwhole.ok_iff.mpr hfits, hpart.bytes_eq, herror⟩
  rw [hwhole.bytes_eq, List.take_of_length_le hfits]

end Filter

end SyscallFilter
