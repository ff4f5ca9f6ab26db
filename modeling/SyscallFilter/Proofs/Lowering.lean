import SyscallFilter.Proofs.Assembly

/-!
Every piece of a rule set is assembled into its layout: conditions, rules, blocks, and at last the
whole program.
-/

namespace SyscallFilter

variable {places : Label → Option Nat}

namespace Condition

theorem length_code (condition : Condition) (pass fail : Target) :
    (condition.code pass fail).length = condition.cost := by
  obtain ⟨arg, test⟩ := condition
  cases test with
  | compare comparison value => cases comparison <;> rfl
  | masked mask value => rfl

theorem length_layout (condition : Condition) (after : Nat) :
    (condition.layout after).length = condition.cost := by
  obtain ⟨arg, test⟩ := condition
  cases test with
  | compare comparison value => cases comparison <;> rfl
  | masked mask value => rfl

/-- Passing ends behind the code of a condition, and failing so many operations further. -/
theorem represents_code (condition : Condition) {pc after : Nat} {pass fail : Label}
    (hp : places pass = some (pc + condition.cost))
    (hf : places fail = some (pc + condition.cost + after)) :
    Pending.RepresentAll places pc (condition.code (.label pass) (.label fail))
      (condition.layout after) := by
  -- The instruction `i` of the code reaches both ends by the distances of the layout.
  have pass_lands (i d : Nat) (h : i + 1 + d = condition.cost) :
      (Target.label pass).Lands places (pc + i) d := by
    rw [Target.Lands, hp, ← h]
    congr 1
    omega
  have fail_lands (i d : Nat) (h : i + 1 + d = condition.cost + after) :
      (Target.label fail).Lands places (pc + i) d := by
    rw [Target.Lands, hf, Nat.add_assoc pc, ← h]
    congr 1
    omega
  obtain ⟨arg, test⟩ := condition
  cases test with
  | masked mask value =>
    exact ⟨rfl, rfl, ⟨_, _, rfl, rfl, fail_lands 2 _ (by simp only [cost]; omega)⟩,
      rfl, rfl, ⟨_, _, rfl, pass_lands 5 _ rfl, fail_lands 5 _ (by simp only [cost])⟩, trivial⟩
  | compare comparison value =>
    cases comparison with
    | eq =>
      exact ⟨rfl, ⟨_, _, rfl, rfl, fail_lands 1 _ (by simp only [cost]; omega)⟩,
        rfl, ⟨_, _, rfl, pass_lands 3 _ rfl, fail_lands 3 _ (by simp only [cost])⟩, trivial⟩
    | ne =>
      exact ⟨rfl, ⟨_, _, rfl, rfl, pass_lands 1 _ rfl⟩,
        rfl, ⟨_, _, rfl, fail_lands 3 _ (by simp only [cost]), pass_lands 3 _ rfl⟩, trivial⟩
    | gt =>
      exact ⟨rfl, ⟨_, _, rfl, pass_lands 1 _ rfl, rfl⟩,
        ⟨_, _, rfl, rfl, fail_lands 2 _ (by simp only [cost]; omega)⟩,
        rfl, ⟨_, _, rfl, pass_lands 4 _ rfl, fail_lands 4 _ (by simp only [cost])⟩, trivial⟩
    | ge =>
      exact ⟨rfl, ⟨_, _, rfl, pass_lands 1 _ rfl, rfl⟩,
        ⟨_, _, rfl, rfl, fail_lands 2 _ (by simp only [cost]; omega)⟩,
        rfl, ⟨_, _, rfl, pass_lands 4 _ rfl, fail_lands 4 _ (by simp only [cost])⟩, trivial⟩
    | lt =>
      exact ⟨rfl, ⟨_, _, rfl, fail_lands 1 _ (by simp only [cost]; omega), rfl⟩,
        ⟨_, _, rfl, rfl, pass_lands 2 _ rfl⟩,
        rfl, ⟨_, _, rfl, fail_lands 4 _ (by simp only [cost]), pass_lands 4 _ rfl⟩, trivial⟩
    | le =>
      exact ⟨rfl, ⟨_, _, rfl, fail_lands 1 _ (by simp only [cost]; omega), rfl⟩,
        ⟨_, _, rfl, rfl, pass_lands 2 _ rfl⟩,
        rfl, ⟨_, _, rfl, fail_lands 4 _ (by simp only [cost]), pass_lands 4 _ rfl⟩, trivial⟩

theorem frame_lower (condition : Condition) (fail : Label) (asm : Assembler) :
    asm.Frame (condition.lower fail asm) := by
  have hm : asm.Frame (asm.label.2.emit (condition.code (.label asm.label.1) (.label fail))) :=
    asm.frame_label.trans (Assembler.frame_emit _ _)
  exact hm.bind le_rfl (by simp [Assembler.label, Assembler.emit])

theorem frame_lowerAll (conditions : List Condition) (fail : Label) (asm : Assembler) :
    asm.Frame (lowerAll conditions fail asm) := by
  induction conditions generalizing asm with
  | nil => exact Assembler.Frame.refl asm
  | cons condition rest ih => exact (condition.frame_lower fail asm).trans (ih _)

theorem emits_lower (condition : Condition) {fail : Label} {asm : Assembler} {after : Nat}
    (hw : (condition.lower fail asm).Within places)
    (hf : places fail = some ((condition.lower fail asm).code.size + after)) :
    asm.Emits places (condition.lower fail asm) (condition.layout after) := by
  let mid := asm.label.2.emit (condition.code (.label asm.label.1) (.label fail))
  have hs : mid.code.size = asm.code.size + condition.cost := by
    rw [Assembler.size_emit, length_code]
    rfl
  have hl : asm.label.1.index < mid.labels.size := by
    simp [mid, Assembler.emit, Assembler.label]
  have hn : mid.place? asm.label.1 = none :=
    Assembler.place?_of_frame_label (Assembler.frame_emit _ _)
  -- The label for success has just been created, so binding it behind the code fixes its place.
  obtain ⟨-, hp⟩ := Assembler.within_of_bind hl hn hw
  change places fail = some (mid.code.size + after) at hf
  rw [hs] at hp hf
  have he : asm.label.2.Emits places mid (condition.layout after) :=
    Assembler.emits_emit (condition.represents_code hp hf)
  exact he.of_code_eq rfl rfl

theorem emits_lowerAll (conditions : List Condition) {fail : Label} {asm : Assembler}
    {after : Nat} (hw : (lowerAll conditions fail asm).Within places)
    (hf : places fail = some ((lowerAll conditions fail asm).code.size + after)) :
    asm.Emits places (lowerAll conditions fail asm) (layoutAll conditions after) := by
  induction conditions generalizing asm with
  | nil => exact Assembler.Emits.nil asm
  | cons condition rest ih =>
    have hwc : (condition.lower fail asm).Within places := (frame_lowerAll rest fail _).within hw
    have hr : (condition.lower fail asm).Emits places
        (lowerAll rest fail (condition.lower fail asm)) (layoutAll rest after) := ih hw hf
    refine (condition.emits_lower hwc ?_).trans hr
    -- Failing passes over the rest of the conditions as well.
    rw [← Nat.add_assoc, ← hr.size_eq]
    exact hf

end Condition

namespace Rule

/-- The state behind the test of the number and the conditions of a rule, before its return. -/
def tested (rule : Rule) (reload : Bool) (asm : Assembler) : Assembler :=
  let start := if reload then asm.label.2.emit [.load CallData.numberOffset] else asm.label.2
  Condition.lowerAll rule.conditions asm.label.1
    (start.emit [.branch .eq rule.call.number.toUInt32 .next (.label asm.label.1)])

theorem lower_eq (rule : Rule) (reload : Bool) (asm : Assembler) :
    rule.lower reload asm =
      (rule.tested reload asm).emitRet rule.action >>= fun mid => .ok (mid.bind asm.label.1) := by
  rfl

theorem of_lower_eq_ok {rule : Rule} {reload : Bool} {asm after : Assembler}
    (h : rule.lower reload asm = .ok after) :
    rule.action.isValid ∧
      after = ((rule.tested reload asm).emit [.ret rule.action.word]).bind asm.label.1 := by
  rw [lower_eq] at h
  obtain ⟨mid, hm, ha⟩ := exists_of_bind_eq_ok h
  obtain ⟨hv, rfl⟩ := Assembler.of_emitRet_eq_ok hm
  exact ⟨hv, (Except.ok.inj ha).symm⟩

theorem frame_tested (rule : Rule) (reload : Bool) (asm : Assembler) :
    asm.label.2.Frame (rule.tested reload asm) := by
  have hs : asm.label.2.Frame
      (if reload then asm.label.2.emit [.load CallData.numberOffset] else asm.label.2) := by
    cases reload
    · exact Assembler.Frame.refl _
    · exact Assembler.frame_emit _ _
  exact (hs.trans (Assembler.frame_emit _ _)).trans (Condition.frame_lowerAll _ _ _)

theorem frame_lower {rule : Rule} {reload : Bool} {asm after : Assembler}
    (h : rule.lower reload asm = .ok after) : asm.Frame after := by
  obtain ⟨-, rfl⟩ := of_lower_eq_ok h
  have ht := rule.frame_tested reload asm
  have hf := asm.frame_label.trans (ht.trans (Assembler.frame_emit _ [.ret rule.action.word]))
  refine hf.bind le_rfl (lt_of_lt_of_le ?_ ht.size_le)
  simp [Assembler.label]

theorem emits_lower {rule : Rule} {reload : Bool} {asm after : Assembler}
    (h : rule.lower reload asm = .ok after) (hw : after.Within places) :
    asm.Emits places after (rule.layout reload) := by
  obtain ⟨-, rfl⟩ := of_lower_eq_ok h
  let next := asm.label.1
  let start := if reload then asm.label.2.emit [.load CallData.numberOffset] else asm.label.2
  let branch := start.emit [.branch .eq rule.call.number.toUInt32 .next (.label next)]
  let tests := Condition.layoutAll rule.conditions 1
  let mid := (rule.tested reload asm).emit [.ret rule.action.word]
  have ht := rule.frame_tested reload asm
  have hl : next.index < mid.labels.size :=
    lt_of_lt_of_le (by simp [next, Assembler.label]) ht.size_le
  have hn : mid.place? next = none :=
    Assembler.place?_of_frame_label (ht.trans (Assembler.frame_emit _ _))
  obtain ⟨hwm, hp⟩ := Assembler.within_of_bind hl hn hw
  rw [Assembler.size_emit, List.length_singleton] at hp
  -- The piece in four parts: the load, the test of the number, the conditions and the return.
  have hloaded : asm.Emits places start
      (if reload then [.load CallData.numberOffset] else []) := by
    cases reload
    · exact (Assembler.Emits.nil asm).of_code_eq rfl rfl
    · have he : asm.label.2.Emits places (asm.label.2.emit [.load CallData.numberOffset])
          [.load CallData.numberOffset] := Assembler.emits_emit ⟨rfl, trivial⟩
      exact he.of_code_eq rfl rfl
  have htests : branch.Emits places (rule.tested reload asm) tests :=
    Condition.emits_lowerAll rule.conditions ((Assembler.frame_emit _ _).within hwm) hp
  -- Another number passes over the conditions and the return.
  have hbranch : start.Emits places branch
      [.branch .eq rule.call.number.toUInt32 0 (tests.length + 1)] := by
    refine Assembler.emits_emit ⟨⟨_, _, rfl, rfl, ?_⟩, trivial⟩
    rw [Target.Lands, hp, htests.size_eq, Assembler.size_emit, List.length_singleton]
    congr 1
  have hret : (rule.tested reload asm).Emits places mid [.ret rule.action.word] :=
    Assembler.emits_ret _ _
  exact (hloaded.trans (hbranch.trans (htests.trans hret))).of_code_eq rfl rfl

theorem frame_lowerAll {rules : List Rule} {reload : Bool} {asm after : Assembler}
    (h : lowerAll rules reload asm = .ok after) : asm.Frame after := by
  induction rules generalizing reload asm with
  | nil =>
    obtain rfl : asm = after := Except.ok.inj h
    exact Assembler.Frame.refl asm
  | cons rule rest ih =>
    obtain ⟨mid, hm, hr⟩ := exists_of_bind_eq_ok h
    exact (frame_lower hm).trans (ih hr)

theorem emits_lowerAll {rules : List Rule} {reload : Bool} {asm after : Assembler}
    (h : lowerAll rules reload asm = .ok after) (hw : after.Within places) :
    asm.Emits places after (layoutAll rules reload) := by
  induction rules generalizing reload asm with
  | nil =>
    obtain rfl : asm = after := Except.ok.inj h
    exact Assembler.Emits.nil asm
  | cons rule rest ih =>
    obtain ⟨mid, hm, hr⟩ := exists_of_bind_eq_ok h
    exact (emits_lower hm ((frame_lowerAll hr).within hw)).trans (ih hr)

end Rule

namespace Ruleset

variable {set : Ruleset}

theorem lowerGuard_eq (arch : Arch) (asm : Assembler) :
    set.lowerGuard arch asm =
      if arch = .x8664 then
        (asm.label.2.emit [.branch .ge x32Bit .next (.label asm.label.1)]).emitRet
          set.badArchAction >>= fun mid => .ok (mid.bind asm.label.1)
      else .ok asm := by
  rfl

/-- The guard is assembled into its layout, and changes no label that was there before. -/
theorem emits_lowerGuard (places : Label → Option Nat) {arch : Arch} {asm after : Assembler}
    (h : set.lowerGuard arch asm = .ok after) :
    asm.Frame after ∧
      (after.Within places → asm.Emits places after (set.guardLayout arch)) := by
  rw [lowerGuard_eq] at h
  rw [guardLayout]
  split_ifs at h ⊢
  · let native := asm.label.1
    let branch := asm.label.2.emit [.branch .ge x32Bit .next (.label native)]
    let mid := branch.emit [.ret set.badArchAction.word]
    obtain ⟨_, hm, ha⟩ := exists_of_bind_eq_ok h
    obtain ⟨-, rfl⟩ := Assembler.of_emitRet_eq_ok hm
    obtain rfl : mid.bind native = after := Except.ok.inj ha
    have hf : asm.label.2.Frame mid :=
      (Assembler.frame_emit _ _).trans (Assembler.frame_emit _ _)
    have hl : native.index < mid.labels.size := by
      simp [mid, branch, native, Assembler.label, Assembler.emit]
    refine ⟨(asm.frame_label.trans hf).bind le_rfl hl, fun hw => ?_⟩
    -- A native call passes over the return.
    obtain ⟨-, hp⟩ := Assembler.within_of_bind hl (Assembler.place?_of_frame_label hf) hw
    have hbranch : asm.label.2.Emits places branch [.branch .ge x32Bit 0 1] := by
      refine Assembler.emits_emit ⟨⟨_, _, rfl, rfl, ?_⟩, trivial⟩
      rw [Target.Lands, hp, Assembler.size_emit, Assembler.size_emit]
      rfl
    have hret : branch.Emits places mid [.ret set.badArchAction.word] := Assembler.emits_ret _ _
    exact (hbranch.trans hret).of_code_eq rfl rfl
  · obtain rfl := Except.ok.inj h
    exact ⟨Assembler.Frame.refl _, fun _ => Assembler.Emits.nil _⟩

/-- A block binds its label to its start and is assembled into its layout. -/
theorem emits_lowerBlock (places : Label → Option Nat) {block : Arch × List Rule} {label : Label}
    {asm after : Assembler} (h : set.lowerBlock block.1 block.2 label asm = .ok after) :
    (asm.bind label).Frame after ∧
      (after.Within places → asm.Emits places after (set.blockLayout block)) := by
  let start := (asm.bind label).emit [.load CallData.numberOffset]
  obtain ⟨guarded, hg, h⟩ := exists_of_bind_eq_ok h
  obtain ⟨ruled, hr, h⟩ := exists_of_bind_eq_ok h
  obtain ⟨-, rfl⟩ := Assembler.of_emitRet_eq_ok h
  obtain ⟨hfg, heg⟩ := emits_lowerGuard places hg
  have hfr : guarded.Frame ruled := Rule.frame_lowerAll hr
  have hfe : ruled.Frame (ruled.emit [.ret set.defaultAction.word]) := Assembler.frame_emit _ _
  refine ⟨(Assembler.frame_emit _ _).trans (hfg.trans (hfr.trans hfe)), fun hw => ?_⟩
  have hwr : ruled.Within places := hfe.within hw
  have hload : (asm.bind label).Emits places start [.load CallData.numberOffset] :=
    Assembler.emits_emit ⟨rfl, trivial⟩
  have hrules : guarded.Emits places ruled (Rule.layoutAll block.2 false) :=
    Rule.emits_lowerAll hr hwr
  have hret : ruled.Emits places _ [.ret set.defaultAction.word] := Assembler.emits_ret _ _
  exact (hload.trans ((heg (hfr.within hwr)).trans (hrules.trans hret))).of_code_eq rfl rfl

/-- The labels are at the starts of blocks that follow each other from a place on. -/
def StartFrom (set : Ruleset) (places : Label → Option Nat) (pc : Nat) :
    List ((Arch × List Rule) × Label) → Prop
  | [] => True
  | (block, label) :: rest =>
    places label = some pc ∧ set.StartFrom places (pc + (set.blockLayout block).length) rest

theorem emits_lowerBlocks {pairs : List ((Arch × List Rule) × Label)} {asm after : Assembler}
    (h : set.lowerBlocks pairs asm = .ok after) (hu : asm.Unbound (pairs.map (·.2)))
    (hd : (pairs.map (·.2)).Nodup) (hw : after.Within places) :
    asm.Within places ∧ asm.Emits places after ((pairs.map (·.1)).flatMap set.blockLayout) ∧
      set.StartFrom places asm.code.size pairs := by
  induction pairs generalizing asm with
  | nil =>
    obtain rfl : asm = after := Except.ok.inj h
    exact ⟨hw, Assembler.Emits.nil asm, trivial⟩
  | cons pair rest ih =>
    obtain ⟨block, label⟩ := pair
    obtain ⟨mid, hm, hr⟩ := exists_of_bind_eq_ok h
    obtain ⟨hl, hn⟩ := hu label List.mem_cons_self
    obtain ⟨hlr, hdr⟩ := List.nodup_cons.mp hd
    obtain ⟨hf, he⟩ := emits_lowerBlock places hm
    -- Binding the label of this block leaves the labels of the later blocks unbound.
    have hub : (asm.bind label).Unbound (rest.map (·.2)) := by
      intro other ho
      obtain ⟨hol, hon⟩ := hu other (List.mem_cons_of_mem _ ho)
      refine ⟨by simpa [Assembler.bind] using hol, ?_⟩
      rw [Assembler.place?_bind asm label other hl, if_neg (ne_of_mem_of_not_mem ho hlr), hon]
    obtain ⟨hwm, hem, hs⟩ := ih hr (hf.unbound hub) hdr
    -- So the label keeps the place it is given here.
    obtain ⟨hwa, hp⟩ := Assembler.within_of_bind hl hn (hf.within hwm)
    have heb := he hwm
    rw [heb.size_eq] at hs
    exact ⟨hwa, heb.trans hem, hp, hs⟩

theorem frame_lowerDispatch (pairs : List (Arch × Label)) (asm : Assembler) :
    asm.Frame (lowerDispatch pairs asm) := by
  induction pairs generalizing asm with
  | nil => exact Assembler.Frame.refl asm
  | cons pair rest ih =>
    have hs := (asm.frame_label.trans (Assembler.frame_emit _ [.branch .eq pair.1.auditWord .next
      (.label asm.label.1), .goto pair.2])).bind le_rfl (by simp [Assembler.label])
    exact hs.trans (ih _)

theorem size_lowerDispatch (pairs : List (Arch × Label)) (asm : Assembler) :
    (lowerDispatch pairs asm).code.size = asm.code.size + 2 * pairs.length := by
  induction pairs generalizing asm with
  | nil => rfl
  | cons pair rest ih =>
    rw [lowerDispatch, ih, List.length_cons]
    change (Assembler.emit _ _).code.size + _ = _
    rw [Assembler.size_emit]
    simp only [List.length_cons, List.length_nil, Assembler.label]
    omega

/-- The dispatch jumps to the blocks when these follow it with `before` operations between. -/
theorem emits_lowerDispatch {pairs : List ((Arch × List Rule) × Label)} {asm : Assembler}
    {before : Nat}
    (hs : set.StartFrom places (asm.code.size + 2 * pairs.length + 1 + before) pairs)
    (hw : (lowerDispatch (pairs.map fun pair => (pair.1.1, pair.2)) asm).Within places) :
    asm.Emits places (lowerDispatch (pairs.map fun pair => (pair.1.1, pair.2)) asm)
      (set.dispatchLayout (pairs.map (·.1)) before) := by
  induction pairs generalizing asm before with
  | nil => exact Assembler.Emits.nil asm
  | cons pair rest ih =>
    obtain ⟨block, label⟩ := pair
    obtain ⟨hp, hsr⟩ := hs
    let skip := asm.label.1
    let mid := asm.label.2.emit [.branch .eq block.1.auditWord .next (.label skip), .goto label]
    have hm : mid.code.size = asm.code.size + 2 := Assembler.size_emit _ _
    have hl : skip.index < mid.labels.size := by simp [mid, skip, Assembler.label]
    have hn : mid.place? skip = none := Assembler.place?_of_frame_label (Assembler.frame_emit _ _)
    let after := lowerDispatch (rest.map fun pair => (pair.1.1, pair.2)) (mid.bind skip)
    -- The remaining tests have this block between themselves and theirs.
    have hr : (mid.bind skip).Emits places after
        (set.dispatchLayout (rest.map (·.1)) (before + (set.blockLayout block).length)) := by
      refine ih ?_ hw
      rw [show (mid.bind skip).code.size = asm.code.size + 2 from hm]
      convert hsr using 1
      simp only [List.length_cons]
      omega
    obtain ⟨-, hps⟩ := Assembler.within_of_bind hl hn ((frame_lowerDispatch _ _).within hw)
    have he : asm.label.2.Emits places mid
        [.branch .eq block.1.auditWord 0 1, .jump (2 * rest.length + 1 + before)] := by
      refine Assembler.emits_emit ⟨⟨_, _, rfl, rfl, ?_⟩, ⟨_, rfl, ?_⟩, trivial⟩
      · rw [Target.Lands, hps, hm]
        rfl
      · rw [hp, List.length_cons]
        congr 1
        simp only [Assembler.label]
        omega
    have hj : asm.Emits places (mid.bind skip) _ := he.of_code_eq rfl rfl
    simp only [List.map_cons, dispatchLayout, List.length_map]
    exact hj.trans hr

theorem map_fst_blocks (set : Ruleset) : set.blocks.map (·.1) = set.arches := by
  rw [blocks, arches, List.map_filterMap, ← List.filterMap_eq_filter]
  congr 1
  funext arch
  cases h : set.rules.get arch <;> simp [h, Option.guard]

/-- Every instruction of an assembled rule set stands for the operation of the layout in its
place. -/
theorem represents_assemble {asm : Assembler} (h : set.assemble = .ok asm) :
    Pending.RepresentAll asm.place? 0 asm.code.toList set.layout := by
  let labels := (Assembler.empty.createLabels set.blocks.length).1
  let start := (Assembler.empty.createLabels set.blocks.length).2
  let loaded := start.emit [.load CallData.archOffset]
  let pairs := set.blocks.zip labels
  have hl : labels.length = set.blocks.length := Assembler.length_createLabels _ _
  -- The labels of the blocks are zipped twice: with the architectures, and with the blocks.
  have hb : pairs.map (·.1) = set.blocks := List.map_fst_zip (by omega)
  have hp : pairs.map (·.2) = labels := List.map_snd_zip (by omega)
  have ha : set.arches.zip labels = pairs.map fun pair => (pair.1.1, pair.2) := by
    rw [← map_fst_blocks, List.zip_map_left]
    rfl
  let sent := lowerDispatch (pairs.map fun pair => (pair.1.1, pair.2)) loaded
  obtain ⟨bad, hm, hr⟩ := exists_of_bind_eq_ok h
  change (lowerDispatch (set.arches.zip labels) loaded).emitRet _ = _ at hm
  rw [ha] at hm
  obtain ⟨-, rfl⟩ := Assembler.of_emitRet_eq_ok hm
  let bad := sent.emit [.ret set.badArchAction.word]
  -- The dispatch binds labels of its own only, so those of the blocks are still unbound behind it.
  have hf : start.Frame bad := (Assembler.frame_emit _ _).trans
    ((frame_lowerDispatch _ loaded).trans (Assembler.frame_emit _ _))
  have hu : bad.Unbound (pairs.map (·.2)) := by
    rw [hp]
    exact hf.unbound (Assembler.unbound_createLabels _ _)
  have hd : (pairs.map (·.2)).Nodup := by
    rw [hp]
    exact Assembler.nodup_createLabels _ _
  -- The places at the end serve for all that was emitted before.
  obtain ⟨hwb, hblocks, hs⟩ := emits_lowerBlocks hr hu hd (fun _ _ hplace => hplace)
  have hsize : bad.code.size = loaded.code.size + 2 * pairs.length + 1 + 0 := by
    rw [Assembler.size_emit, size_lowerDispatch, List.length_map]
    rfl
  rw [hsize] at hs
  have hload : start.Emits asm.place? loaded [.load CallData.archOffset] :=
    Assembler.emits_emit ⟨rfl, trivial⟩
  have hdispatch : loaded.Emits asm.place? sent (set.dispatchLayout (pairs.map (·.1)) 0) :=
    emits_lowerDispatch hs ((Assembler.frame_emit _ _).within hwb)
  have hret : sent.Emits asm.place? bad [.ret set.badArchAction.word] := Assembler.emits_ret _ _
  rw [hb] at hdispatch hblocks
  -- All pieces together, from an empty code on.
  have hz : start.code = #[] := Assembler.code_createLabels _ _
  obtain ⟨pending, hc, hall⟩ := hload.trans (hdispatch.trans (hret.trans hblocks))
  rw [hz] at hc hall
  rw [hc]
  exact hall

end Ruleset

end SyscallFilter
