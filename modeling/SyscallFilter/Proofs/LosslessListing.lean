import Mathlib.Tactic
import SyscallFilter.Proofs.Decision
import SyscallFilter.Proofs.ListingOutline
import SyscallFilter.Proofs.Requests

/-!
A listing loses nothing of a rule set. It is read back as an outline, and an outline has a place for
each part of the rule set: the default action stands in every block, of which there is at least one,
and the lists of rules stand in the blocks of their architectures.
-/

namespace SyscallFilter

open PseudoCode

section Parts

/-- A condition is known from how it is read. -/
theorem PseudoCode.ArgTest.ofCondition_injective : Function.Injective ArgTest.ofCondition := by
  rintro ⟨arg, test⟩ ⟨other, otherTest⟩ h
  -- Only a masked test is read with a mask.
  cases test with
  | compare comparison value =>
    cases otherTest with
    | compare otherComparison otherValue =>
      obtain ⟨harg, -, rfl, hvalue⟩ := ArgTest.mk.inj h
      obtain rfl : arg = other := Fin.val_inj.mp harg
      rw [UInt64.toNat_inj.mp hvalue]
    | masked otherMask otherValue =>
      obtain ⟨-, hmask, -⟩ := ArgTest.mk.inj h
      nomatch hmask
  | masked mask value =>
    cases otherTest with
    | compare otherComparison otherValue =>
      obtain ⟨-, hmask, -⟩ := ArgTest.mk.inj h
      nomatch hmask
    | masked otherMask otherValue =>
      obtain ⟨harg, hmask, -, hvalue⟩ := ArgTest.mk.inj h
      obtain rfl : arg = other := Fin.val_inj.mp harg
      rw [UInt64.toNat_inj.mp (Option.some.inj hmask), UInt64.toNat_inj.mp hvalue]

theorem Rule.entry_injective : Function.Injective Rule.entry := by
  rintro ⟨⟨number⟩, action, conditions⟩ ⟨⟨otherNumber⟩, otherAction, otherConditions⟩ h
  obtain ⟨hnumber, htests, rfl⟩ := Entry.mk.inj h
  obtain rfl : number = otherNumber := Int32.toInt_inj.mp hnumber
  obtain rfl : conditions = otherConditions := ArgTest.ofCondition_injective.list_map htests
  rfl

end Parts

namespace Ruleset

variable {set other : Ruleset}

/-- A block is known from its outline, and so is the default action. -/
theorem eq_of_outlineBlock {block otherBlock : Arch × List Rule}
    (h : set.outlineBlock block = other.outlineBlock otherBlock) :
    block = otherBlock ∧ set.defaultAction = other.defaultAction := by
  obtain ⟨hword, hentries, hdefault⟩ := Block.mk.inj h
  have harch : block.1 = otherBlock.1 := Arch.auditWord_inj.mp (UInt32.toNat_inj.mp hword)
  exact ⟨Prod.ext harch (Rule.entry_injective.list_map hentries), hdefault⟩

/-- The rules of an architecture are found in its block. -/
theorem get_rules_eq (set : Ruleset) (arch : Arch) :
    set.rules.get arch =
      (set.blocks.find? fun block => block.1.auditWord == arch.auditWord).map Prod.snd := by
  rw [find?_blocks, Arch.ofAuditWord?_auditWord, Option.bind_some, Option.map_map]
  exact Option.map_id'.symm

/-- A rule set that covers an architecture is known from its outline. -/
theorem eq_of_outline (hcovers : set.blocks ≠ []) (h : set.outline = other.outline) :
    set = other := by
  obtain ⟨hblocks, hbad⟩ := PseudoCode.mk.inj h
  have hdefault : set.defaultAction = other.defaultAction := by
    -- Every block shows the default action, but without a block nothing would.
    obtain ⟨block, rest, hcons⟩ := List.exists_cons_of_ne_nil hcovers
    rw [hcons, List.map_cons] at hblocks
    obtain ⟨otherBlock, _, -, hblock, -⟩ := List.map_eq_cons_iff.mp hblocks.symm
    exact (eq_of_outlineBlock hblock).2.symm
  have hsame : set.blocks = other.blocks := by
    have houtline : set.outlineBlock = other.outlineBlock := by
      funext block
      rw [outlineBlock, outlineBlock, hdefault]
    rw [houtline] at hblocks
    exact Function.Injective.list_map (fun _ _ hblock => (eq_of_outlineBlock hblock).1) hblocks
  have hrules : set.rules = other.rules := by
    apply PerArch.ext_get
    intro arch
    rw [get_rules_eq, hsame, ← get_rules_eq]
  calc set = ⟨set.defaultAction, set.badArchAction, set.rules⟩ := rfl
    _ = ⟨other.defaultAction, other.badArchAction, other.rules⟩ := by rw [hdefault, hbad, hrules]
    _ = other := rfl

end Ruleset

theorem FilterState.Sound.blocks_ne_nil {capabilities : Capabilities} {state : FilterState}
    (h : state.Sound capabilities) : state.ruleset.blocks ≠ [] := by
  obtain ⟨arch, rules, hr⟩ := h.covers
  have hmem : (arch, rules) ∈ state.ruleset.blocks :=
    List.mem_filterMap.mpr ⟨arch, arch.mem_all, by rw [hr]; rfl⟩
  exact List.ne_nil_of_mem hmem

namespace Filter

/-- Two filters that runs of requests have left behind, and that have not been released, have the
same rule set if they are listed alike: the same default action and the same action for other
architectures, and for each architecture that is covered the same rules in the same order. -/
theorem listing_determines_ruleset {requests otherRequests : List (String × Request)}
    {name otherName : String} {filter other : Filter} {state otherState : FilterState}
    (hf : (Session.empty.run requests).filter? name = some filter)
    (hs : filter.state? = some state)
    (ho : (Session.empty.run otherRequests).filter? otherName = some other)
    (hos : other.state? = some otherState)
    (hlisting : (filter.exportListing none).bytes = (other.exportListing none).bytes) :
    state.ruleset = otherState.ruleset := by
  have hsound : state.Sound filter.capabilities :=
    Session.sound_empty.run requests name filter hf state hs
  have hother : otherState.Sound other.capabilities :=
    Session.sound_empty.run otherRequests otherName other ho otherState hos
  rw [exportListing_none hs, exportListing_none hos] at hlisting
  have htext : state.ruleset.listingText = otherState.ruleset.listingText :=
    String.toByteArray_inj.mp (ByteArray.ext (Array.toList_inj.mp hlisting))
  have hread := hsound.read?_listingText
  rw [htext, hother.read?_listingText] at hread
  exact Ruleset.eq_of_outline hsound.blocks_ne_nil (Option.some.inj hread).symm

/-- A rule with a masked condition is shown alike by two filters, one of which was reset. -/
theorem listing_determines_ruleset_reset :
    let requests : List (String × Request) :=
      [("a", .make .allow ⟨6, none⟩), ("a", .change (.addArch .arm)),
        ("a", .change (.addRule ⟨1⟩ (.errno 1) [⟨0, .compare .eq 2⟩, ⟨2, .masked 0xff 0x10⟩])),
        ("b", .make .trap ⟨2, none⟩), ("b", .change (.addRule ⟨1⟩ .log [])),
        ("b", .change (.reset .allow)), ("b", .change (.addArch .arm)),
        ("b", .change (.addRule ⟨1⟩ (.errno 1) [⟨0, .compare .eq 2⟩, ⟨2, .masked 0xff 0x10⟩]))]
    ∃ filter other state otherState,
      (Session.empty.run requests).filter? "a" = some filter ∧ filter.state? = some state ∧
      (Session.empty.run requests).filter? "b" = some other ∧ other.state? = some otherState ∧
      (filter.exportListing none).bytes = (other.exportListing none).bytes ∧
      state.ruleset = otherState.ruleset := by
  intro requests
  have hshown : (((Session.empty.run requests).filter? "a").any fun filter =>
      filter.state?.any fun _ => ((Session.empty.run requests).filter? "b").any fun other =>
        other.state?.any fun _ =>
          (filter.exportListing none).bytes == (other.exportListing none).bytes) = true := by
    decide +kernel
  obtain ⟨filter, hf, hshown⟩ := (Option.any_eq_true _ _).mp hshown
  obtain ⟨state, hs, hshown⟩ := (Option.any_eq_true _ _).mp hshown
  obtain ⟨other, ho, hshown⟩ := (Option.any_eq_true _ _).mp hshown
  obtain ⟨otherState, hos, hshown⟩ := (Option.any_eq_true _ _).mp hshown
  have hlisting := beq_iff_eq.mp hshown
  exact ⟨filter, other, state, otherState, hf, hs, ho, hos, hlisting,
    listing_determines_ruleset hf hs ho hos hlisting⟩

end Filter

end SyscallFilter
