import Mathlib.Tactic
import SyscallFilter.Proofs.JsonScalars

/-!
Readers on written text. A reader that fits the text of a value takes that text and nothing of what
stands behind it. Sequences, records and variants fit what is written for them wherever the readers
of their parts do, so that a format is checked part by part.
-/

namespace SyscallFilter.Json

/-- Texts with commas between them, and one in front where they are not the first. -/
def separated (first : Bool) : List (List Char) → List Char
  | [] => []
  | text :: texts => (if first then text else ',' :: text) ++ separated false texts

theorem separated_true (texts : List (List Char)) :
    separated true texts = commaSeparated texts := by
  induction texts with
  | nil => rfl
  | cons text texts ih =>
    cases texts with
    | nil => exact List.append_nil text
    | cons next texts =>
      rw [commaSeparated, ← ih]
      · rfl
      · exact List.cons_ne_nil _ _

theorem ended_separated {close : Char} (hc : close = ']' ∨ close = '}') (texts : List (List Char))
    (rest : List Char) : Ended (separated false texts ++ close :: rest) := by
  intro c hm
  cases texts with
  | nil =>
    obtain rfl : close = c := Option.some.inj hm
    exact .inr hc
  | cons text texts =>
    obtain rfl : ',' = c := Option.some.inj hm
    exact .inl rfl

namespace Reader

variable {α β δ : Type}

theorem run_bind_of_ok {first : Reader α} {second : α → Reader β} {text rest : List Char} {a : α}
    (h : first.run text = .ok (a, rest)) :
    (first >>= second).run text = (second a).run rest := by
  rw [StateT.run_bind, h]
  rfl

theorem run_get (text : List Char) : (get : Reader (List Char)).run text = .ok (text, text) := rfl

theorem run_peek {c : Char} (h : isBlank c = false) (text : List Char) :
    peek.run (c :: text) = .ok (some c, c :: text) := by
  have hdrop : (c :: text).dropWhile isBlank = c :: text := by
    rw [List.dropWhile_cons_of_neg]
    simp [h]
  show Except.ok (((c :: text).dropWhile isBlank).head?, (c :: text).dropWhile isBlank) = _
  rw [hdrop]
  rfl

theorem run_peek_quote (text rest : List Char) :
    peek.run (quote text ++ rest) = .ok (some '"', quote text ++ rest) :=
  run_peek rfl _

theorem run_literal (text : String) (rest : List Char) :
    literal.run (quote text.toList ++ rest) = .ok (text, rest) := by
  have htail : (quote text.toList ++ rest).tail = text.toList.flatMap escape ++ '"' :: rest := by
    simp [quote]
  rw [literal, run_bind_of_ok (run_get _), htail, unquote_literal]
  show Except.ok (String.ofList text.toList, rest) = _
  rw [String.ofList_toList]

theorem run_integer {n : Nat} (hn : n < UInt64.size) {rest : List Char} (h : Ended rest) :
    integer.run (number n ++ rest) = .ok ((n : Int), rest) := by
  rw [integer, run_bind_of_ok (run_get _), number, integer?_toDigits hn h]
  rfl

/-- How the text of a value may begin: neither with what a reader passes over, nor with the end of
a sequence, nor with what stands for the lack of a value. -/
def Begins (text : List Char) : Prop :=
  ∃ c ∈ text.head?, isBlank c = false ∧ c ≠ ']' ∧ c ≠ 'n'

theorem Begins.run_peek {text : List Char} (h : Begins text) (rest : List Char) :
    ∃ c, c ≠ ']' ∧ c ≠ 'n' ∧ peek.run (text ++ rest) = .ok (some c, text ++ rest) := by
  obtain ⟨c, hm, hblank, hend, hnull⟩ := h
  obtain ⟨tail, rfl⟩ := List.head?_eq_some_iff.mp hm
  exact ⟨c, hend, hnull, Reader.run_peek hblank _⟩

/-- A reader takes a text as a value, and leaves all that follows. -/
structure Reads (reader : Reader α) (text : List Char) (value : α) : Prop where
  begins : Begins text
  run : ∀ rest, Ended rest → reader.run (text ++ rest) = .ok (value, rest)

theorem begins_quote (text : List Char) : Begins (quote text) :=
  ⟨'"', rfl, rfl, by decide, by decide⟩

theorem begins_array (values : List (List Char)) : Begins (array values) :=
  ⟨'[', rfl, rfl, by decide, by decide⟩

theorem begins_object (members : List (String × List Char)) : Begins (object members) :=
  ⟨'{', rfl, rfl, by decide, by decide⟩

theorem begins_number (n : Nat) : Begins (number n) := by
  obtain ⟨c, digits, hd, hc⟩ := exists_toDigits_eq_cons n
  have hne : ∀ other : Char, other.isDigit = false → c ≠ other := by
    intro other ho he
    rw [he, ho] at hc
    nomatch hc
  refine ⟨c, ?_, ?_, hne ']' rfl, hne 'n' rfl⟩
  · rw [number, hd]
    rfl
  · simp [isBlank, hne ' ' rfl, hne '\n' rfl, hne '\t' rfl, hne '\r' rfl]

namespace Reads

variable {reader : Reader α} {text : List Char} {value : α}

theorem map (h : Reads reader text value) (f : α → β) : Reads (f <$> reader) text (f value) := by
  refine ⟨h.begins, fun rest hr => ?_⟩
  rw [StateT.run_map, h.run rest hr]
  rfl

/-- What is done behind a reader, without taking more, is done to the value. -/
theorem bind (h : Reads reader text value) {after : α → Reader β} {result : β}
    (ha : after value = pure result) : Reads (reader >>= after) text result := by
  refine ⟨h.begins, fun rest hr => ?_⟩
  rw [run_bind_of_ok (h.run rest hr), ha]
  rfl

theorem string (text : String) : Reads Reader.string (quote text.toList) text := by
  refine ⟨begins_quote _, fun rest _ => ?_⟩
  rw [Reader.string, run_bind_of_ok (run_peek_quote _ rest)]
  exact run_literal text rest

theorem boolean (value : Bool) : Reads Reader.boolean (Json.boolean value) value := by
  cases value with
  | true => exact ⟨⟨'t', rfl, rfl, by decide, by decide⟩, fun rest _ => rfl⟩
  | false => exact ⟨⟨'f', rfl, rfl, by decide, by decide⟩, fun rest _ => rfl⟩

theorem below {limit n : Nat} (hn : n < limit) (hl : limit ≤ UInt64.size) (expected : String) :
    Reads (Reader.below limit expected) (number n) n := by
  refine ⟨begins_number n, fun rest hr => ?_⟩
  obtain ⟨c, digits, hd, hc⟩ := exists_toDigits_eq_cons n
  have hpeek : peek.run (number n ++ rest) = .ok (some c, number n ++ rest) := by
    obtain ⟨first, hm, hblank, -⟩ := begins_number n
    rw [number, hd] at hm ⊢
    obtain rfl : c = first := Option.some.inj hm
    exact run_peek hblank _
  have hstart : startsNumber c = true := by rw [startsNumber, hc, Bool.or_true]
  have hbound : (0 : Int) ≤ n ∧ (n : Int) < limit := by omega
  rw [Reader.below, run_bind_of_ok hpeek]
  dsimp only
  rw [if_pos hstart, run_bind_of_ok (run_integer (by omega) hr), if_pos hbound]
  rfl

theorem uint16 (n : UInt16) : Reads Reader.uint16 (number n.toNat) n := by
  have h := (below n.toNat_lt_size (by decide) "u16").map UInt16.ofNat
  rwa [UInt16.ofNat_toNat] at h

theorem uint32 (n : UInt32) : Reads Reader.uint32 (number n.toNat) n := by
  have h := (below n.toNat_lt_size (by decide) "u32").map UInt32.ofNat
  rwa [UInt32.ofNat_toNat] at h

theorem uint64 (n : UInt64) : Reads Reader.uint64 (number n.toNat) n := by
  have h := (below n.toNat_lt_size (by decide) "u64").map UInt64.ofNat
  rwa [UInt64.ofNat_toNat] at h

theorem optional (h : Reads reader text value) :
    Reads (Reader.optional reader) text (some value) := by
  refine ⟨h.begins, fun rest hr => ?_⟩
  obtain ⟨c, -, hnull, hpeek⟩ := h.begins.run_peek rest
  rw [Reader.optional, run_bind_of_ok hpeek]
  split
  · next he => exact absurd (Option.some.inj he) hnull
  · exact (h.map some).run rest hr

theorem readAll (h : Reads reader text value) : readAll reader text = .ok value := by
  have hrun := h.run [] fun _ hm => nomatch hm
  rw [List.append_nil] at hrun
  rw [Reader.readAll, hrun]
  rfl

end Reads

theorem run_hasElement (first : Bool) {text : List Char} (h : Begins text) (rest : List Char) :
    (hasElement first).run ((if first then text else ',' :: text) ++ rest) =
      .ok (true, text ++ rest) := by
  obtain ⟨c, hend, -, hpeek⟩ := h.run_peek rest
  cases first with
  | true =>
    rw [if_pos rfl, hasElement, run_bind_of_ok hpeek]
    split
    · next he => exact absurd (Option.some.inj he) hend
    · rfl
    · next he => nomatch he
  | false =>
    have hcomma : peek.run (',' :: (text ++ rest)) = .ok (some ',', ',' :: (text ++ rest)) :=
      run_peek rfl _
    have hadvance : advance.run (',' :: (text ++ rest)) = .ok ((), text ++ rest) := rfl
    rw [if_neg Bool.false_ne_true, List.cons_append, hasElement, run_bind_of_ok hcomma]
    show (advance >>= fun _ => _).run _ = _
    rw [run_bind_of_ok hadvance, run_bind_of_ok hpeek]
    split
    · next he => exact absurd (Option.some.inj he) hend
    · rfl
    · next he => nomatch he

/-- Elements are taken up to the closing bracket. -/
theorem run_elements {element : Reader α} {texts : List (List Char)} {values : List α}
    (h : List.Forall₂ (Reads element) texts values) (first : Bool) (rest bound : List Char)
    (hb : texts.length < bound.length) :
    (elements element first bound).run (separated first texts ++ ']' :: rest) =
      .ok (values, rest) := by
  induction h generalizing first bound with
  | nil =>
    obtain ⟨_, bound, rfl⟩ := List.exists_cons_of_length_pos hb
    have hend : (hasElement first).run (']' :: rest) = .ok (false, ']' :: rest) := rfl
    rw [elements, separated, List.nil_append, run_bind_of_ok hend]
    rfl
  | @cons text value texts values hvalue _ ih =>
    obtain ⟨_, bound, rfl⟩ := List.exists_cons_of_length_pos (by omega : 0 < bound.length)
    -- Behind the element there is a comma or the bracket, so its reader stops there.
    rw [elements, separated, List.append_assoc,
      run_bind_of_ok (run_hasElement first hvalue.begins _)]
    show (element >>= fun _ => _).run _ = _
    rw [run_bind_of_ok (hvalue.run _ (ended_separated (.inl rfl) texts rest)),
      run_bind_of_ok (ih false bound (by simpa using hb))]
    rfl

theorem length_le_separated {element : Reader α} {texts : List (List Char)} {values : List α}
    (h : List.Forall₂ (Reads element) texts values) (first : Bool) :
    texts.length ≤ (separated first texts).length := by
  induction h generalizing first with
  | nil => exact Nat.zero_le _
  | @cons text value texts values hvalue _ ih =>
    have hrest := ih false
    have hpos : 0 < text.length := by
      obtain ⟨c, hm, -⟩ := hvalue.begins
      obtain ⟨tail, rfl⟩ := List.head?_eq_some_iff.mp hm
      exact Nat.succ_pos _
    rw [separated, List.length_append, List.length_cons]
    cases first with
    | true =>
      rw [if_pos rfl]
      omega
    | false =>
      rw [if_neg Bool.false_ne_true, List.length_cons]
      omega

/-- A sequence is read as the list of what its elements are read as. -/
theorem Reads.sequence {element : Reader α} {texts : List (List Char)} {values : List α}
    (h : List.Forall₂ (Reads element) texts values) :
    Reads (Reader.sequence element) (array texts) values := by
  refine ⟨begins_array _, fun rest _ => ?_⟩
  let body := separated true texts ++ ']' :: rest
  have htext : array texts ++ rest = '[' :: body := by
    simp only [array, ← separated_true, body, List.cons_append, List.append_assoc,
      List.nil_append]
  -- No element has an empty text, and the bracket is one character more.
  have hbound : texts.length < body.length := by
    have hle := length_le_separated h true
    rw [List.length_append, List.length_cons]
    omega
  have hopen : (Reader.sequence element).run ('[' :: body) =
      (elements element true body).run body := rfl
  rw [htext, hopen]
  exact run_elements h true rest body hbound

/-- Members fill a draft. The fields are gone through in order, and each is left alone or takes the
text of the next member, where the draft does not have it yet. -/
inductive Fills : List (FieldReader δ) → δ → List (String × List Char) → δ → Prop
  | done (draft : δ) : Fills [] draft [] draft
  | leave {field : FieldReader δ} {fields : List (FieldReader δ)} {draft final : δ}
      {members : List (String × List Char)} (rest : Fills fields draft members final) :
      Fills (field :: fields) draft members final
  | take {field : FieldReader δ} {fields : List (FieldReader δ)} {draft next final : δ}
      {text : List Char} {members : List (String × List Char)} (unset : field.isSet draft = false)
      (reads : Reads (field.read draft) text next) (rest : Fills fields next members final) :
      Fills (field :: fields) draft ((field.name, text) :: members) final

/-- A member as it is written. -/
def memberText (member : String × List Char) : List Char :=
  quote member.1.toList ++ ':' :: member.2

theorem run_hasMember (first : Bool) (text rest : List Char) :
    (hasMember first).run ((if first then quote text else ',' :: quote text) ++ rest) =
      .ok (true, quote text ++ rest) := by
  cases first with
  | true => rfl
  | false => rfl

theorem find?_name {fields : List (FieldReader δ)} (hnames : (fields.map (·.name)).Nodup)
    {field : FieldReader δ} (hm : field ∈ fields) :
    (fields.find? fun other => other.name == field.name) = some field := by
  induction fields with
  | nil => nomatch hm
  | cons first fields ih =>
    obtain ⟨hfirst, hrest⟩ := List.nodup_cons.mp hnames
    rcases List.mem_cons.mp hm with rfl | hm
    · exact List.find?_cons_of_pos (beq_self_eq_true _)
    · have hne : ¬ (first.name == field.name) = true := by
        intro he
        apply hfirst
        show first.name ∈ fields.map (·.name)
        rw [eq_of_beq he]
        exact List.mem_map_of_mem hm
      calc
        (first :: fields).find? (fun other => other.name == field.name) =
            fields.find? fun other => other.name == field.name := List.find?_cons_of_neg hne
        _ = some field := ih hrest hm

/-- Members are taken up to the closing brace, into the fields that they name. -/
theorem run_members {all fields : List (FieldReader δ)} {draft final : δ}
    {texts : List (String × List Char)} (h : Fills fields draft texts final)
    (hnames : (all.map (·.name)).Nodup) (hsub : fields.Sublist all)
    (hfinal : (all.find? fun field => field.required && !field.isSet final) = none)
    (first : Bool) (rest : List Char) {fuel : Nat} (hfuel : texts.length < fuel) :
    (members all first draft fuel).run (separated first (texts.map memberText) ++ '}' :: rest) =
      .ok (final, rest) := by
  -- The fields are used up one by one, while names are looked up among all of them.
  induction h generalizing first fuel with
  | done draft =>
    obtain ⟨fuel, rfl⟩ := Nat.exists_eq_succ_of_ne_zero (by omega : fuel ≠ 0)
    have hend : (hasMember first).run ('}' :: rest) = .ok (false, '}' :: rest) := rfl
    rw [List.map_nil, separated, List.nil_append, members, run_bind_of_ok hend,
      if_neg Bool.false_ne_true, hfinal]
    rfl
  | leave _ ih => exact ih ((List.sublist_cons_self _ _).trans hsub) hfinal first hfuel
  | @take field fields draft next final text texts unset reads _ ih =>
    obtain ⟨fuel, rfl⟩ := Nat.exists_eq_succ_of_ne_zero (by omega : fuel ≠ 0)
    have hfind : (all.find? fun other => other.name == field.name) = some field :=
      find?_name hnames (hsub.subset List.mem_cons_self)
    let behind := separated false (texts.map memberText) ++ '}' :: rest
    have hnext := ih ((List.sublist_cons_self _ _).trans hsub) hfinal false
      (by simpa using hfuel : texts.length < fuel)
    have htext : separated first (((field.name, text) :: texts).map memberText) ++ '}' :: rest =
        (if first then quote field.name.toList else ',' :: quote field.name.toList) ++
          (':' :: (text ++ behind)) := by
      cases first with
      | true => simp [separated, memberText, behind]
      | false => simp [separated, memberText, behind]
    have hcolon : colon.run (':' :: (text ++ behind)) = .ok ((), text ++ behind) := rfl
    rw [htext, members, run_bind_of_ok (run_hasMember first _ _), if_pos rfl,
      run_bind_of_ok (run_literal _ _), hfind]
    dsimp only
    rw [unset, if_neg Bool.false_ne_true, run_bind_of_ok hcolon,
      run_bind_of_ok (reads.run behind (ended_separated (.inr rfl) _ rest))]
    exact hnext

theorem Fills.length_le {fields : List (FieldReader δ)} {draft final : δ}
    {texts : List (String × List Char)} (h : Fills fields draft texts final) :
    texts.length ≤ fields.length := by
  induction h with
  | done => exact Nat.le_refl _
  | leave _ ih => exact Nat.le_succ_of_le ih
  | take _ _ _ ih => exact Nat.succ_le_succ ih

/-- A record is read as the draft that its members fill. -/
theorem Reads.record (name : String) {fields : List (FieldReader δ)} {start final : δ}
    {texts : List (String × List Char)} (h : Fills fields start texts final)
    (hnames : (fields.map (·.name)).Nodup)
    (hfinal : (fields.find? fun field => field.required && !field.isSet final) = none) :
    Reads (Reader.record name fields start) (object texts) final := by
  refine ⟨begins_object _, fun rest _ => ?_⟩
  let body := separated true (texts.map memberText) ++ '}' :: rest
  have htext : object texts ++ rest = '{' :: body := by
    simp only [object, ← separated_true, body, List.cons_append, List.append_assoc,
      List.nil_append]
    rfl
  have hopen : (Reader.record name fields start).run ('{' :: body) =
      (members fields true start (fields.length + 1)).run body := rfl
  rw [htext, hopen]
  exact run_members h hnames (List.Sublist.refl _) hfinal true rest (Nat.lt_succ_of_le h.length_le)

namespace Fills

variable {fields : List (FieldReader δ)} {draft final : δ} {members : List (String × List Char)}
  {name : String} {value : Reader α} {get : δ → Option α} {put : δ → Option α → δ}

theorem member {required : Bool} {text : List Char} {a : α} (hunset : get draft = none)
    (h : Reads value text a) (rest : Fills fields (put draft (some a)) members final) :
    Fills (.of name required value get put :: fields) draft ((name, text) :: members) final := by
  have hread : Reads ((FieldReader.of name required value get put).read draft) text
      (put draft (some a)) := h.bind rfl
  refine take ?_ hread rest
  show (get draft).isSome = false
  rw [hunset]
  rfl

/-- A member that may be left out leaves its field alone where it is. -/
theorem optional {γ : Type} {write : γ → List Char} {written : Option γ} {choice : Option α}
    {get : δ → Option (Option α)} {put : δ → Option (Option α) → δ} (hunset : get draft = none)
    (hput : put draft none = draft)
    (h : Option.Rel (fun w a => Reads value (write w) a) written choice)
    (rest : Fills fields (put draft (choice.map some)) members final) :
    Fills (.of name false (Reader.optional value) get put :: fields) draft
      (optionalMember name write written ++ members) final := by
  cases h with
  | none =>
    rw [Option.map_none, hput] at rest
    exact leave rest
  | some h => exact member hunset h.optional rest

/-- A sequence that is left out where it is empty leaves its field alone where it is. -/
theorem sequence {texts : List (List Char)} {values : List α} {get : δ → Option (List α)}
    {put : δ → Option (List α) → δ} (hunset : get draft = none) (hput : put draft none = draft)
    (h : List.Forall₂ (Reads value) texts values)
    (rest : Fills fields (put draft (if values.isEmpty then none else some values)) members final) :
    Fills (.of name false (Reader.sequence value) get put :: fields) draft
      (sequenceMember name texts ++ members) final := by
  cases h with
  | nil =>
    rw [List.isEmpty_nil, if_pos rfl, hput] at rest
    exact leave rest
  | cons hvalue hvalues => exact member hunset (Reads.sequence (.cons hvalue hvalues)) rest

end Fills

namespace Reads

variable {variants : List (String × Payload α)} {name : String}

/-- A variant without a payload is read from its name. -/
theorem unit {value : α} (h : variants.lookup name = some (.unit value)) :
    Reads (variant variants) (quote name.toList) value := by
  refine ⟨begins_quote _, fun rest _ => ?_⟩
  rw [variant, run_bind_of_ok (run_peek_quote _ rest)]
  show (literal >>= fun _ => _).run _ = _
  rw [run_bind_of_ok (run_literal name rest), payloadOf, h]
  rfl

/-- A variant with a payload is read from an object with its name as the only key. -/
theorem code {build : UInt16 → α} (h : variants.lookup name = some (.code build)) (n : UInt16) :
    Reads (variant variants) (object [(name, number n.toNat)]) (build n) := by
  refine ⟨begins_object _, fun rest _ => ?_⟩
  let payload := number n.toNat ++ '}' :: rest
  have htext : object [(name, number n.toNat)] ++ rest =
      '{' :: (quote name.toList ++ ':' :: payload) := by
    simp [object, commaSeparated, payload]
  have hpeek : peek.run ('{' :: (quote name.toList ++ ':' :: payload)) =
      .ok (some '{', '{' :: (quote name.toList ++ ':' :: payload)) := run_peek rfl _
  have hadvance : advance.run ('{' :: (quote name.toList ++ ':' :: payload)) =
      .ok ((), quote name.toList ++ ':' :: payload) := rfl
  have hkey : key.run (quote name.toList ++ ':' :: payload) = .ok (name, ':' :: payload) :=
    run_literal name _
  have hcolon : colon.run (':' :: payload) = .ok ((), payload) := rfl
  have hcode := ((Reads.uint16 n).map build).run ('}' :: rest) (ended_separated (.inr rfl) [] rest)
  rw [htext, variant, run_bind_of_ok hpeek]
  show (advance >>= fun _ => _).run _ = _
  rw [run_bind_of_ok hadvance, run_bind_of_ok hkey, payloadOf, h, pure_bind, run_bind_of_ok hcolon]
  show ((build <$> Reader.uint16) >>= fun _ => _).run _ = _
  rw [run_bind_of_ok hcode]
  rfl

end Reads

end Reader

end SyscallFilter.Json
