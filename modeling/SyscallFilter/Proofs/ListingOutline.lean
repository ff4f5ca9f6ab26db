import Mathlib.Tactic
import SyscallFilter.Filter.Export
import SyscallFilter.Proofs.Invariant
import SyscallFilter.Proofs.ListingText

/-!
The listing of a rule set, read back as a whole. The listing of what a sound filter holds is read as
an outline of its rule set: a block for each covered architecture, with an entry for each rule. All
that is written is plain, so the reader finds the lines again, and no call is left without a name.
-/

namespace SyscallFilter

namespace PseudoCode

section Assembling

/-- The lines of an entry. -/
def Entry.lines (entry : Entry) : List Line :=
  match entry.tests with
  | [] => [⟨2, .ifSyscall entry.number⟩, ⟨4, .act entry.action⟩]
  | tests => [⟨2, .ifSyscall entry.number⟩, ⟨4, .ifArgs tests⟩, ⟨6, .act entry.action⟩]

/-- The lines of a block. -/
def Block.lines (block : Block) : List Line :=
  ⟨0, .ifArch block.word⟩ :: (block.entries.flatMap Entry.lines ++ [⟨2, .act block.otherwise⟩])

/-- The lines of pseudo code. -/
def lines (code : PseudoCode) : List Line :=
  code.blocks.flatMap Block.lines ++ [⟨0, .act code.otherwise⟩]

/-- The lines of entries are put together behind the entries before them. -/
theorem assemble?_entries (blocks : List Block) (word : Nat) (before entries : List Entry)
    (rest : List Line) :
    assemble? blocks (some (word, before)) (entries.flatMap Entry.lines ++ rest) =
      assemble? blocks (some (word, before ++ entries)) rest := by
  induction entries generalizing before with
  | nil => rw [List.flatMap_nil, List.nil_append, List.append_nil]
  | cons entry entries ih =>
    have hentry (behind : List Line) :
        assemble? blocks (some (word, before)) (entry.lines ++ behind) =
          assemble? blocks (some (word, before ++ [entry])) behind := by
      obtain ⟨number, tests, action⟩ := entry
      cases tests with
      | nil => rfl
      | cons test tests => rfl
    rw [List.flatMap_cons, List.append_assoc, hentry, ih, List.append_assoc, List.singleton_append]

/-- The lines of blocks are put together behind the blocks before them. -/
theorem assemble?_blocks (before blocks : List Block) (rest : List Line) :
    assemble? before none (blocks.flatMap Block.lines ++ rest) =
      assemble? (before ++ blocks) none rest := by
  induction blocks generalizing before with
  | nil => rw [List.flatMap_nil, List.nil_append, List.append_nil]
  | cons block blocks ih =>
    have hblock (behind : List Line) :
        assemble? before none (block.lines ++ behind) =
          assemble? (before ++ [block]) none behind := by
      rw [Block.lines, List.cons_append, List.append_assoc, assemble?, assemble?_entries]
      rfl
    rw [List.flatMap_cons, List.append_assoc, hblock, ih, List.append_assoc, List.singleton_append]

/-- The lines of pseudo code are put together to it. -/
theorem assemble?_lines (code : PseudoCode) : assemble? [] none code.lines = some code := by
  rw [lines, assemble?_blocks, List.nil_append]
  rfl

end Assembling

section Reading

/-- The statements in texts are read as lines. -/
def Reads (texts : List String) (found : List Line) : Prop :=
  lines? (texts.map String.toList) = some found

theorem lines?_append {xs ys : List (List Char)} {found others : List Line}
    (hx : lines? xs = some found) (hy : lines? ys = some others) :
    lines? (xs ++ ys) = some (found ++ others) := by
  induction xs generalizing found with
  | nil =>
    obtain rfl := Option.some.inj hx
    exact hy
  | cons x xs ih =>
    rw [lines?] at hx
    rw [List.cons_append, lines?]
    -- A text without a statement is passed over, in front of more texts as well.
    split_ifs at hx ⊢
    · split at hx
      · next line behind hline hbehind =>
        obtain rfl := Option.some.inj hx
        rw [hline, ih hbehind]
        rfl
      · nomatch hx
    · exact ih hx

theorem Reads.append {texts others : List String} {found behind : List Line}
    (h : Reads texts found) (ho : Reads others behind) : Reads (texts ++ others) (found ++ behind) := by
  rw [Reads, List.map_append]
  exact lines?_append h ho

theorem Reads.flatMap {α β : Type} {xs : List α} {texts : α → List String} {f : α → β}
    {found : β → List Line} (h : ∀ x ∈ xs, Reads (texts x) (found (f x))) :
    Reads (xs.flatMap texts) ((xs.map f).flatMap found) := by
  induction xs with
  | nil => rfl
  | cons x xs ih =>
    obtain ⟨hx, hxs⟩ := List.forall_mem_cons.mp h
    exact hx.append (ih hxs)

theorem reads_comment {text : String} (h : isStatement text.toList = false) : Reads [text] [] := by
  rw [Reads, List.map_singleton, lines?, if_neg (by simp [h])]
  rfl

/-- A statement starts neither with a space nor with a hash. -/
theorem exists_cons_of_statement? {text : List Char} {statement : Statement}
    (h : statement? text = some statement) :
    ∃ c rest, text = c :: rest ∧ c ≠ ' ' ∧ c ≠ '#' := by
  have hstart (c : Char) (start middle stop : List Char) (hc : c ≠ ' ' ∧ c ≠ '#') :
      ∃ d rest, (c :: start) ++ middle ++ stop = d :: rest ∧ d ≠ ' ' ∧ d ≠ '#' :=
    ⟨c, start ++ middle ++ stop, rfl, hc⟩
  -- Three of the four kinds start with the same letter, and all with a text of their own.
  rw [statement?] at h
  split at h
  · next word hb =>
    rw [between?_eq_some_iff.mp hb]
    exact hstart 'i' _ word _ (by decide)
  · split at h
    · next number hb =>
      rw [between?_eq_some_iff.mp hb]
      exact hstart 'i' _ number _ (by decide)
    · split at h
      · next tests hb =>
        rw [between?_eq_some_iff.mp hb]
        exact hstart 'i' _ tests _ (by decide)
      · obtain ⟨action, hb, -⟩ := Option.map_eq_some_iff.mp h
        obtain ⟨name, hn, -⟩ := Option.bind_eq_some_iff.mp hb
        rw [between?_eq_some_iff.mp hn]
        exact hstart 'a' _ name _ (by decide)

/-- A statement is read behind any number of spaces. -/
theorem reads_statement {text : String} {spaces : Nat} {own : List Char} {statement : Statement}
    (ht : text.toList = List.replicate spaces ' ' ++ own) (h : statement? own = some statement) :
    Reads [text] [⟨spaces, statement⟩] := by
  obtain ⟨c, rest, rfl, hspace, hhash⟩ := exists_cons_of_statement? h
  -- All spaces are dropped and nothing else, so their number is the difference in length.
  have hown : unindented text.toList = c :: rest := by
    rw [ht, unindented, List.dropWhile_append_of_pos, List.dropWhile_cons_of_neg]
    · simpa using hspace
    · intro d hd
      rw [List.eq_of_mem_replicate hd]
      rfl
  have hstatement : isStatement text.toList = true := by
    rw [isStatement, hown]
    simpa using hhash
  have hline : line? text.toList = some ⟨spaces, statement⟩ := by
    rw [line?, hown, h, Option.map_some, ht, List.length_append, List.length_replicate,
      Nat.add_sub_cancel]
  rw [Reads, List.map_singleton, lines?, if_pos hstatement, hline]
  rfl

end Reading

end PseudoCode

open PseudoCode

section Outline

/-- What a rule is read as. -/
def Rule.entry (rule : Rule) : Entry :=
  ⟨rule.call.number.toInt, rule.conditions.map .ofCondition, rule.action⟩

/-- What the block of an architecture is read as. -/
def Ruleset.outlineBlock (set : Ruleset) (block : Arch × List Rule) : Block :=
  ⟨block.1.auditWord.toNat, block.2.map Rule.entry, set.defaultAction⟩

/-- What the listing of a rule set is read as. -/
def Ruleset.outline (set : Ruleset) : PseudoCode :=
  ⟨set.blocks.map set.outlineBlock, set.badArchAction⟩

/-- A statement is read that is written around a text. -/
theorem reads_around {first middle last : String} {spaces : Nat} {start stop : List Char}
    {statement : Statement} (hf : first.toList = List.replicate spaces ' ' ++ start)
    (hl : last.toList = stop) (h : statement? (start ++ middle.toList ++ stop) = some statement) :
    Reads [first ++ middle ++ last] [⟨spaces, statement⟩] := by
  refine reads_statement ?_ h
  rw [String.toList_append, String.toList_append, hf, hl]
  simp only [List.append_assoc]

/-- An action is read as itself, behind any number of spaces. -/
theorem reads_action {action : Action} {text : String} {spaces : Nat} (h : action.isValid)
    (ht : text.toList = List.replicate spaces ' ' ++ action.listing.toList) :
    Reads [text] [⟨spaces, .act action⟩] :=
  reads_statement ht (statement?_act h)

theorem Rule.reads_listing {rule : Rule} (h : rule.action.isValid) (arch : Arch) :
    Reads (rule.listing arch) rule.entry.lines := by
  have hcomment (name : String) :
      Reads ["  # filter for syscall \"" ++ name ++ "\" (" ++ rule.call.numeral ++ ")"] [] := by
    apply reads_comment
    rw [String.toList_append, String.toList_append, String.toList_append, String.toList_append]
    rfl
  have hcall : Reads ["  if ($syscall == " ++ rule.call.numeral ++ ")"]
      [⟨2, .ifSyscall rule.call.number.toInt⟩] :=
    reads_around rfl rfl (statement?_ifSyscall rule.call)
  have hhead := (hcomment ((rule.call.name? arch).getD "?")).append hcall
  rw [listing]
  -- A rule without conditions has one line less, and its action one step less of indentation.
  split
  · next hc =>
    have haction : Reads ["    " ++ rule.action.listing] [⟨4, .act rule.action⟩] :=
      reads_action h String.toList_append
    rw [entry, hc]
    exact hhead.append haction
  · next conditions hc =>
    have hargs : Reads
        ["    if (" ++ String.intercalate " && " (rule.conditions.map Condition.text) ++ ")"]
        [⟨4, .ifArgs (rule.conditions.map .ofCondition)⟩] :=
      reads_around rfl rfl (statement?_ifArgs hc)
    have haction : Reads ["      " ++ rule.action.listing] [⟨6, .act rule.action⟩] :=
      reads_action h String.toList_append
    have hlines : rule.entry.lines = [] ++ [⟨2, .ifSyscall rule.call.number.toInt⟩] ++
        ([⟨4, .ifArgs (rule.conditions.map .ofCondition)⟩] ++ [⟨6, .act rule.action⟩]) := by
      obtain ⟨condition, rest, he⟩ := List.exists_cons_of_ne_nil hc
      rw [Entry.lines, entry, he]
      rfl
    rw [hlines]
    exact hhead.append (hargs.append haction)

theorem Ruleset.reads_blockListing {set : Ruleset} {block : Arch × List Rule}
    (hd : set.defaultAction.isValid) (hr : ∀ rule ∈ block.2, rule.action.isValid) :
    Reads (set.blockListing block.1 block.2) (set.outlineBlock block).lines := by
  let word := decimal block.1.auditWord.toNat
  have hcomment : Reads ["# filter for arch " ++ block.1.name ++ " (" ++ word ++ ")"] [] := by
    apply reads_comment
    rw [String.toList_append, String.toList_append, String.toList_append, String.toList_append]
    rfl
  have harch : Reads ["if ($arch == " ++ word ++ ")"] [⟨0, .ifArch block.1.auditWord.toNat⟩] :=
    reads_around rfl rfl (statement?_ifArch block.1.auditWord.toNat)
  have hrules : Reads (block.2.flatMap fun rule => rule.listing block.1)
      ((block.2.map Rule.entry).flatMap Entry.lines) :=
    Reads.flatMap fun rule hm => rule.reads_listing (hr rule hm) block.1
  have hdefault : Reads ["  # default action"] [] := reads_comment rfl
  have haction : Reads ["  " ++ set.defaultAction.listing] [⟨2, .act set.defaultAction⟩] :=
    reads_action hd String.toList_append
  exact ((hcomment.append harch).append hrules).append (hdefault.append haction)

theorem Ruleset.reads_listing {set : Ruleset} (hd : set.defaultAction.isValid)
    (hb : set.badArchAction.isValid)
    (hr : ∀ block ∈ set.blocks, ∀ rule ∈ block.2, rule.action.isValid) :
    Reads set.listing set.outline.lines := by
  have hstart : Reads ["#", "# pseudo filter code start", "#"] [] := rfl
  have hblocks : Reads (set.blocks.flatMap fun block => set.blockListing block.1 block.2)
      (set.outline.blocks.flatMap Block.lines) :=
    Reads.flatMap fun block hm => set.reads_blockListing hd (hr block hm)
  have hbad : Reads ["# invalid architecture action"] [] := reads_comment rfl
  have haction : Reads [set.badArchAction.listing] [⟨0, .act set.badArchAction⟩] :=
    reads_action hb rfl
  have hend : Reads ["#", "# pseudo filter code end", "#"] [] := rfl
  exact (hstart.append hblocks).append (hbad.append (haction.append hend))

end Outline

section Plain

/-- A text of one line without question marks. -/
def Plain (text : String) : Prop :=
  '\n' ∉ text.toList ∧ '?' ∉ text.toList

instance : DecidablePred Plain :=
  fun text => inferInstanceAs (Decidable ('\n' ∉ text.toList ∧ '?' ∉ text.toList))

variable {text other : String}

@[simp] theorem plain_append : Plain (text ++ other) ↔ Plain text ∧ Plain other := by
  simp only [Plain, String.toList_append, List.mem_append, not_or]
  exact and_and_and_comm

theorem plain_digits {base : Nat} (hb : 1 < base) (hle : base ≤ 16) (n : Nat) :
    Plain (String.ofList (Nat.toDigits base n)) := by
  rw [Plain, String.toList_ofList]
  exact ⟨not_mem_of_digits hb hle (by decide), not_mem_of_digits hb hle (by decide)⟩

@[simp] theorem plain_decimal (n : Nat) : Plain (decimal n) :=
  plain_digits (by omega) (by omega) n

@[simp] theorem plain_hexadecimal (n : Nat) : Plain (hexadecimal n) :=
  plain_append.mpr ⟨by decide, plain_digits (by omega) (by omega) n⟩

@[simp] theorem plain_signedDecimal (i : Int) : Plain (signedDecimal i) := by
  rw [signedDecimal]
  split_ifs
  · exact plain_append.mpr ⟨by decide, plain_decimal _⟩
  · exact plain_decimal _

theorem plain_intercalate {joint : String} {pieces : List String} (hj : Plain joint)
    (h : ∀ piece ∈ pieces, Plain piece) : Plain (String.intercalate joint pieces) := by
  have hnot {c : Char} (hc : c ∉ joint.toList) (hp : ∀ piece ∈ pieces, c ∉ piece.toList) :
      c ∉ (String.intercalate joint pieces).toList := by
    rw [String.toList_intercalate]
    intro hm
    rcases mem_of_mem_intercalate hm with hm | ⟨chars, hchars, hm⟩
    · exact hc hm
    · obtain ⟨piece, hpiece, rfl⟩ := List.mem_map.mp hchars
      exact hp piece hpiece hm
  exact ⟨hnot hj.1 fun piece hp => (h piece hp).1, hnot hj.2 fun piece hp => (h piece hp).2⟩

theorem Action.plain_listing (action : Action) : Plain action.listing := by
  have htext : Plain action.text := by
    cases action with
    | errno code => simp +decide [Action.text]
    | trace code => simp +decide [Action.text]
    | _ => decide
  exact plain_append.mpr ⟨plain_append.mpr ⟨by decide, htext⟩, by decide⟩

theorem Condition.plain_text (condition : Condition) : Plain condition.text := by
  obtain ⟨arg, test⟩ := condition
  cases test with
  | compare comparison value =>
    have hsign : Plain comparison.sign := by cases comparison <;> decide
    simp +decide [Condition.text, hsign]
  | masked mask value => simp +decide [Condition.text]

/-- Every line of a rule is plain, if its architecture has a name for the call. -/
theorem Rule.Sound.plain_listing {rule : Rule} {arch : Arch} (h : rule.Sound arch) :
    ∀ line ∈ rule.listing arch, Plain line := by
  obtain ⟨name, hname⟩ := Option.isSome_iff_exists.mp h.named
  obtain ⟨-, row, hrow, rfl, -⟩ := Syscall.exists_of_name? hname
  have hplain : Plain row.name :=
    ⟨Syscall.not_mem_name hrow (.inl rfl), Syscall.not_mem_name hrow (.inr rfl)⟩
  have hconditions : Plain (String.intercalate " && " (rule.conditions.map Condition.text)) := by
    refine plain_intercalate (by decide) fun piece hp => ?_
    obtain ⟨condition, -, rfl⟩ := List.mem_map.mp hp
    exact condition.plain_text
  have haction := rule.action.plain_listing
  rw [listing, hname]
  split
  · simp +decide [Syscall.numeral, hplain, haction]
  · simp +decide [Syscall.numeral, hplain, hconditions, haction]

variable {capabilities : Capabilities} {state : FilterState}

theorem FilterState.Sound.plain_listing (h : state.Sound capabilities) :
    ∀ line ∈ state.ruleset.listing, Plain line := by
  have hname (arch : Arch) : Plain arch.name := by cases arch <;> decide
  have hdefault := state.ruleset.defaultAction.plain_listing
  have hbad := state.ruleset.badArchAction.plain_listing
  have hblock : ∀ block ∈ state.ruleset.blocks,
      ∀ line ∈ state.ruleset.blockListing block.1 block.2, Plain line := by
    intro block hb line hl
    simp only [Ruleset.blockListing, List.mem_append, List.mem_flatMap] at hl
    rcases hl with (hl | ⟨rule, hr, hl⟩) | hl
    · revert line
      simp +decide [hname]
    · exact (h.rule_sound block hb rule hr).plain_listing line hl
    · revert line
      simp +decide [hdefault]
  intro line hl
  simp only [Ruleset.listing, List.mem_append, List.mem_flatMap] at hl
  rcases hl with (hl | ⟨block, hb, hl⟩) | hl
  · revert line
    simp +decide
  · exact hblock block hb line hl
  · revert line
    simp +decide [hbad]

end Plain

section Text

variable {capabilities : Capabilities} {state : FilterState}

/-- The text of a listing. -/
def Ruleset.listingText (set : Ruleset) : String :=
  String.join (set.listing.map fun line => line ++ "\n")

theorem Delivery.ofPieces_none (pieces : List (List UInt8)) :
    ofPieces none pieces = ⟨pieces.flatten, .ok ()⟩ := by
  induction pieces with
  | nil => rfl
  | cons piece rest ih =>
    rw [ofPieces, ih]
    rfl

theorem bytes_join (texts : List String) :
    (String.join texts).toUTF8.data.toList = texts.flatMap fun text => text.toUTF8.data.toList := by
  induction texts with
  | nil => rfl
  | cons text rest ih =>
    rw [String.join_cons, String.toUTF8, String.toByteArray_append, ByteArray.data_append,
      Array.toList_append, List.flatMap_cons]
    exact congrArg _ ih

theorem Ruleset.bytes_listingText (set : Ruleset) :
    set.listingText.toUTF8.data.toList = (set.listing.map lineBytes).flatten := by
  rw [listingText, bytes_join, List.flatMap_map]
  rfl

theorem Filter.exportListing_eq {filter : Filter} (hs : filter.state? = some state)
    (room : Option Nat) :
    filter.exportListing room = .ofPieces room (state.ruleset.listing.map lineBytes) := by
  rw [exportListing, Filter.state, hs]

/-- A place with room for everything receives the text of the listing. -/
theorem Filter.exportListing_none {filter : Filter} (hs : filter.state? = some state) :
    filter.exportListing none = ⟨state.ruleset.listingText.toUTF8.data.toList, .ok ()⟩ := by
  rw [exportListing_eq hs, Delivery.ofPieces_none, Ruleset.bytes_listingText]

/-- Lines that are written with their ends are found again, and an empty one behind them. -/
theorem splitOn_join {lines : List String} (h : ∀ line ∈ lines, '\n' ∉ line.toList) :
    (String.join (lines.map fun line => line ++ "\n")).toList.splitOn '\n' =
      lines.map String.toList ++ [[]] := by
  -- The end of the last line stands between it and an empty line.
  have htext : (String.join (lines.map fun line => line ++ "\n")).toList =
      ['\n'].intercalate (lines.map String.toList ++ [[]]) := by
    clear h
    induction lines with
    | nil => rfl
    | cons line rest ih =>
      rw [List.map_cons, String.join_cons, String.toList_append, ih, String.toList_append,
        List.map_cons, List.cons_append, List.intercalate_cons_of_ne_nil (by simp)]
      rfl
  rw [htext]
  apply List.splitOn_intercalate
  · intro chars hc
    rcases List.mem_append.mp hc with hm | hm
    · obtain ⟨line, hl, rfl⟩ := List.mem_map.mp hm
      exact h line hl
    · rw [List.mem_singleton.mp hm]
      exact List.not_mem_nil
  · simp

namespace FilterState

/-- The listing of what a sound filter holds is read as the outline of its rule set. -/
theorem Sound.read?_listingText (h : state.Sound capabilities) :
    read? state.ruleset.listingText = some state.ruleset.outline := by
  have hlines : ∀ line ∈ state.ruleset.listing, '\n' ∉ line.toList :=
    fun line hl => (h.plain_listing line hl).1
  have hread : Reads state.ruleset.listing state.ruleset.outline.lines :=
    Ruleset.reads_listing h.default_valid h.bad_valid fun block hb rule hr =>
      (h.rule_sound block hb rule hr).action_valid
  have hempty : lines? [[]] = some [] := rfl
  rw [read?, Ruleset.listingText, splitOn_join hlines, lines?_append hread hempty,
    Option.bind_some, List.append_nil, assemble?_lines]

/-- No line of the listing of what a sound filter holds has a question mark. -/
theorem Sound.not_mem_listingText (h : state.Sound capabilities) :
    '?' ∉ state.ruleset.listingText.toList := by
  rw [Ruleset.listingText, String.toList_join]
  intro hm
  obtain ⟨text, ht, hc⟩ := List.mem_flatMap.mp hm
  obtain ⟨line, hl, rfl⟩ := List.mem_map.mp ht
  -- It would be in a line or be the end of one.
  rw [String.toList_append] at hc
  rcases List.mem_append.mp hc with hc | hc
  · exact (h.plain_listing line hl).2 hc
  · revert hc
    decide

end FilterState

end Text

end SyscallFilter
