import Mathlib.Order.Bounds.Basic
import Mathlib.Tactic
import SyscallFilter.Probe
import SyscallFilter.Proofs.Installation

/-!
What the probe of a kernel finds, and what it asks. The questions are asked in turn, from filter
mode through the levels, and the first one that is answered with no is the last. The level that is
found is the greatest that the kernel reaches. A process probes its kernel when it first wants to
know, and every later inquiry is told the same.
-/

namespace SyscallFilter

/-- A release before 3.5.0, the first with filter mode. -/
def Release.Early (release : Release) : Prop :=
  release.major < 3 ∨ release.major = 3 ∧ release.minor < 5

theorem Release.precedes_baseline_iff (release : Release) :
    release.precedes ReleaseError.baseline = true ↔ release.Early := by
  change (release.major < 3 || release.major == 3 &&
    (release.minor < 5 || release.minor == 5 && release.patch < 0)) = true ↔ release.Early
  rw [Early]
  simp only [Bool.or_eq_true, Bool.and_eq_true, decide_eq_true_eq, beq_iff_eq]
  omega

namespace Question

/-- The question whether an action is known. -/
def ofAction (action : Action) : List Question :=
  action.toWord?.toList.map .action

/-- The flags and the actions that a level has beyond the level below it. -/
def ofLevel : Nat → List Question
  | 2 => [.flag InstallFlag.threadSync.bit]
  | 3 => ofAction .log ++ ofAction .killProcess ++ [.flag InstallFlag.log.bit]
  | 4 => [.flag InstallFlag.speculation.bit]
  | 5 => ofAction .notify ++ [.flag InstallFlag.newListener.bit]
  | 6 => [.flag InstallFlag.threadSyncError.bit]
  | _ => []

/-- The questions of all levels in rising order. -/
theorem levels_eq_map : levels = (List.range' 2 5).map ofLevel :=
  rfl

end Question

namespace ProbeKernel

variable {kernel richer : ProbeKernel} {questions asked more : List Question}

/-- A kernel knows every flag and action of a level and of the levels below it. -/
def Reaches (kernel : ProbeKernel) (level : Nat) : Prop :=
  1 ≤ level ∧ level ≤ 6 ∧
    ∀ below, 2 ≤ below → below ≤ level → ∀ question ∈ Question.ofLevel below,
      kernel.answer question = true

/-- Questions are asked one after the other, until one is answered with no. -/
inductive AsksInTurn (kernel : ProbeKernel) : List Question → List Question → Prop
  | done : AsksInTurn kernel [] []
  | refused {question rest} (no : kernel.answer question = false) :
      AsksInTurn kernel (question :: rest) [question]
  | agreed {question rest asked} (yes : kernel.answer question = true)
      (next : AsksInTurn kernel rest asked) :
      AsksInTurn kernel (question :: rest) (question :: asked)

/-- What there is to find out about a kernel, with the questions that it takes. -/
inductive Finds (kernel : ProbeKernel) : Except ProbeError Capabilities → List Question → Prop
  | unreadable (unread : Release.ofBytes? kernel.release = none) :
      Finds kernel (.error .unreadableRelease) []
  | tooOld {release} (read : Release.ofBytes? kernel.release = some release)
      (early : release.Early) : Finds kernel (.error (.tooOld release)) []
  | notAvailable {release} (read : Release.ofBytes? kernel.release = some release)
      (recent : ¬ release.Early) (no : kernel.answer .filterMode = false) :
      Finds kernel (.error .notAvailable) [.filterMode]
  | capable {release level asked} (read : Release.ofBytes? kernel.release = some release)
      (recent : ¬ release.Early) (yes : kernel.answer .filterMode = true)
      (greatest : IsGreatest {level | kernel.Reaches level} level)
      (inTurn : kernel.AsksInTurn ((List.range' 2 5).flatMap Question.ofLevel) asked) :
      Finds kernel (.ok ⟨level, some release⟩) (.filterMode :: asked)

section Asking

theorem AsksInTurn.isPrefix (h : kernel.AsksInTurn questions asked) : asked <+: questions := by
  induction h with
  | done => exact List.prefix_rfl
  | refused _ => exact List.prefix_append [_] _
  | agreed _ _ ih => exact (List.prefix_cons_inj _).mpr ih

/-- Where all questions are answered with yes, those that follow are asked too. -/
theorem AsksInTurn.append {following : List Question} (h : kernel.AsksInTurn questions asked)
    (hyes : questions.all kernel.answer = true) (hm : kernel.AsksInTurn following more) :
    kernel.AsksInTurn (questions ++ following) (asked ++ more) := by
  induction h with
  | done => exact hm
  | refused hno =>
    rw [List.all_cons, hno] at hyes
    nomatch hyes
  | agreed hfirst _ ih =>
    rw [List.all_cons, hfirst] at hyes
    exact .agreed hfirst (ih hyes)

/-- Where one of them is answered with no, nothing that follows is asked. -/
theorem AsksInTurn.stop (h : kernel.AsksInTurn questions asked)
    (hno : questions.all kernel.answer = false) (following : List Question) :
    kernel.AsksInTurn (questions ++ following) asked := by
  induction h with
  | done => nomatch hno
  | refused hfirst => exact .refused hfirst
  | agreed hfirst _ ih =>
    rw [List.all_cons, hfirst] at hno
    exact .agreed hfirst (ih hno)

theorem askAll_spec (kernel : ProbeKernel) (questions : List Question) :
    (kernel.askAll questions).1 = questions.all kernel.answer ∧
      kernel.AsksInTurn questions (kernel.askAll questions).2 := by
  induction questions with
  | nil => exact ⟨rfl, .done⟩
  | cons question rest ih =>
    rw [askAll, List.all_cons]
    cases hanswer : kernel.answer question with
    | false => exact ⟨rfl, .refused hanswer⟩
    | true => exact ⟨ih.1, .agreed hanswer ih.2⟩

/-- A climb asks its levels in turn. -/
theorem asksInTurn_climb (kernel : ProbeKernel) (levels : List (List Question)) :
    kernel.AsksInTurn levels.flatten (kernel.climb levels).2 := by
  induction levels with
  | nil => exact .done
  | cons level rest ih =>
    obtain ⟨hall, hasked⟩ := kernel.askAll_spec level
    rw [climb, List.flatten_cons]
    generalize hone : kernel.askAll level = one at hall hasked
    obtain ⟨passed, asked⟩ := one
    cases passed with
    | false => exact hasked.stop hall.symm rest.flatten
    | true => exact hasked.append hall.symm ih

/-- A climb counts as many levels as possible from the first on. -/
theorem isGreatest_climb (kernel : ProbeKernel) (levels : List (List Question)) :
    IsGreatest {count | count ≤ levels.length ∧
      ∀ level ∈ levels.take count, level.all kernel.answer = true} (kernel.climb levels).1 := by
  induction levels with
  | nil =>
    constructor
    · exact ⟨Nat.le_refl 0, nofun⟩
    · intro count hcount
      exact hcount.1
  | cons level rest ih =>
    obtain ⟨hall, -⟩ := kernel.askAll_spec level
    rw [climb]
    generalize kernel.askAll level = one at hall
    obtain ⟨passed, asked⟩ := one
    obtain ⟨⟨hle, hreached⟩, hgreatest⟩ := ih
    cases passed with
    | false =>
      -- No count but zero leaves the first level out.
      constructor
      · exact ⟨Nat.zero_le _, nofun⟩
      · rintro count ⟨-, hcount⟩
        by_contra hpos
        obtain ⟨below, rfl⟩ := Nat.exists_eq_add_one_of_ne_zero (by omega : count ≠ 0)
        have hfirst := hcount level List.mem_cons_self
        rw [← hall] at hfirst
        nomatch hfirst
    | true =>
      -- A count that is not zero is one more than a count of the levels behind the first.
      constructor
      · refine ⟨Nat.succ_le_succ hle, ?_⟩
        rw [List.take_succ_cons, List.forall_mem_cons]
        exact ⟨hall.symm, hreached⟩
      · rintro count ⟨hcount, hpassed⟩
        cases count with
        | zero => exact Nat.zero_le _
        | succ count =>
          rw [List.take_succ_cons, List.forall_mem_cons] at hpassed
          exact Nat.succ_le_succ (hgreatest ⟨Nat.le_of_succ_le_succ hcount, hpassed.2⟩)

end Asking

theorem reaches_iff (kernel : ProbeKernel) (count : Nat) :
    kernel.Reaches (1 + count) ↔ count ≤ Question.levels.length ∧
      ∀ level ∈ Question.levels.take count, level.all kernel.answer = true := by
  have htake (hle : count ≤ 5) :
      Question.levels.take count = (List.range' 2 count).map Question.ofLevel := by
    rw [Question.levels_eq_map, ← List.map_take, List.take_range'_of_length_ge hle]
  constructor
  · rintro ⟨-, hle, hall⟩
    refine ⟨by change count ≤ 5; omega, ?_⟩
    rw [htake (by omega), List.forall_mem_map]
    intro below hbelow
    rw [List.mem_range'_1] at hbelow
    rw [List.all_eq_true]
    exact hall below hbelow.1 (by omega)
  · rintro ⟨hle, hall⟩
    change count ≤ 5 at hle
    refine ⟨by omega, by omega, ?_⟩
    intro below htwo hbelow
    rw [htake hle, List.forall_mem_map] at hall
    have hlevel := hall below (by rw [List.mem_range'_1]; omega)
    rwa [List.all_eq_true] at hlevel

/-- The level that is reported is the greatest that the kernel reaches. -/
theorem isGreatest_level (kernel : ProbeKernel) :
    IsGreatest {level | kernel.Reaches level} (1 + (kernel.climb Question.levels).1) := by
  obtain ⟨hreached, hgreatest⟩ := kernel.isGreatest_climb Question.levels
  constructor
  · exact (kernel.reaches_iff _).mpr hreached
  · intro level hlevel
    obtain ⟨count, rfl⟩ := Nat.exists_eq_add_of_le hlevel.1
    exact Nat.add_le_add_left (hgreatest ((kernel.reaches_iff count).mp hlevel)) 1

/-- The probe finds what there is to find, with the questions that it takes. -/
theorem finds_probe (kernel : ProbeKernel) : kernel.Finds kernel.probe.1 kernel.probe.2 := by
  rw [probe, checkRelease]
  cases hread : Release.ofBytes? kernel.release with
  | none => exact .unreadable hread
  | some release =>
    dsimp only
    by_cases hearly : release.precedes ReleaseError.baseline = true
    · rw [if_pos hearly]
      exact .tooOld hread (release.precedes_baseline_iff.mp hearly)
    · have hrecent : ¬ release.Early := fun h => hearly (release.precedes_baseline_iff.mpr h)
      rw [if_neg hearly]
      cases hmode : kernel.answer .filterMode with
      | false => exact .notAvailable hread hrecent hmode
      | true =>
        have hasked := kernel.asksInTurn_climb Question.levels
        exact .capable hread hrecent hmode kernel.isGreatest_level hasked

/-- No question is asked twice. -/
theorem Finds.nodup {outcome : Except ProbeError Capabilities}
    (h : kernel.Finds outcome asked) : asked.Nodup := by
  cases h with
  | unreadable _ => exact List.nodup_nil
  | tooOld _ _ => exact List.nodup_nil
  | notAvailable _ _ _ => exact List.nodup_singleton _
  | capable _ _ _ _ hasked =>
    have hall : (.filterMode :: (List.range' 2 5).flatMap Question.ofLevel).Nodup := by decide
    exact hall.sublist ((List.prefix_cons_inj _).mpr hasked.isPrefix).sublist

/-- A kernel that knows no less reaches no lower level. -/
theorem Reaches.mono {level : Nat} (h : kernel.Reaches level)
    (hricher : ∀ question, kernel.answer question = true → richer.answer question = true) :
    richer.Reaches level := by
  obtain ⟨hone, hsix, hall⟩ := h
  refine ⟨hone, hsix, ?_⟩
  intro below htwo hbelow question hquestion
  exact hricher question (hall below htwo hbelow question hquestion)

/-- A kernel that knows no less is found capable of no less. -/
theorem Finds.mono {capabilities : Capabilities} {outcome : Except ProbeError Capabilities}
    (h : kernel.Finds (.ok capabilities) asked) (ho : richer.Finds outcome more)
    (hrelease : richer.release = kernel.release)
    (hricher : ∀ question, kernel.answer question = true → richer.answer question = true) :
    ∃ others, outcome = .ok others ∧ capabilities.level ≤ others.level := by
  cases h with
  | capable hread hrecent hyes hgreatest _ =>
    rw [← hrelease] at hread
    -- What stops a probe before the levels would have stopped the first one too.
    cases ho with
    | unreadable hunread =>
      rw [hread] at hunread
      nomatch hunread
    | tooOld hother hearly =>
      obtain rfl := Option.some.inj (hread.symm.trans hother)
      exact absurd hearly hrecent
    | notAvailable _ _ hno =>
      rw [hricher .filterMode hyes] at hno
      nomatch hno
    | capable _ _ _ hgreatestOther _ =>
      exact ⟨_, rfl, hgreatestOther.2 (hgreatest.1.mono hricher)⟩

end ProbeKernel

/-- What a process can want to know of its kernel, or build for it. -/
inductive Inquiry
  | check
  | detect
  | makeFilter (defaultAction : Action)
  | buildPolicy (policy : Policy)

/-- What a process is told in reply to an inquiry. -/
inductive Report
  | checked (outcome : Except ProbeError Capabilities)
  | detected (outcome : Except Error Capabilities)
  | made (outcome : Except Error Filter)

/-- How the cause for which a probe fails appears to those who do not ask for the probe itself. -/
inductive ProbeError.Appears : ProbeError → Error → Prop
  | tooOld (found : Release) :
      Appears (.tooOld found)
        (.releaseTooLow ⟨found.text, some "kernel lacks seccomp filter mode", some "3.5.0"⟩)
  | notAvailable : Appears .notAvailable (.unavailable .notAvailable)
  | unreadable : Appears .unreadableRelease (.unavailable .unreadableRelease)

theorem ProbeError.appears_toError (cause : ProbeError) : cause.Appears cause.toError := by
  cases cause with
  | tooOld found => exact .tooOld found
  | notAvailable => exact .notAvailable
  | unreadableRelease => exact .unreadable

/-- What a process has to be told of an outcome. Only an invalid action, or a policy that cannot be
built, is refused by a capable kernel. -/
inductive Inquiry.Told (outcome : Except ProbeError Capabilities) : Inquiry → Report → Prop
  | check : Told outcome .check (.checked outcome)
  | detect {capabilities} (capable : outcome = .ok capabilities) :
      Told outcome .detect (.detected (.ok capabilities))
  | undetected {cause error} (failed : outcome = .error cause) (appears : cause.Appears error) :
      Told outcome .detect (.detected (.error error))
  | made {capabilities action} (capable : outcome = .ok capabilities) (valid : action ≠ .invalid) :
      Told outcome (.makeFilter action) (.made (.ok ⟨some (.initial action), capabilities⟩))
  | refused {capabilities} (capable : outcome = .ok capabilities) :
      Told outcome (.makeFilter .invalid) (.made (.error .invalidAction))
  | unmade {cause error action} (failed : outcome = .error cause) (appears : cause.Appears error) :
      Told outcome (.makeFilter action) (.made (.error error))
  | built {capabilities policy} (capable : outcome = .ok capabilities) :
      Told outcome (.buildPolicy policy) (.made (policy.build capabilities))
  | unbuilt {cause error policy} (failed : outcome = .error cause) (appears : cause.Appears error) :
      Told outcome (.buildPolicy policy) (.made (.error error))

namespace KernelView

variable {view : KernelView} {kernel : ProbeKernel}

/-- Replies to an inquiry. -/
def reply (view : KernelView) : Inquiry → KernelView × Report
  | .check => (view.check.1, .checked view.check.2)
  | .detect => (view.detect.1, .detected view.detect.2)
  | .makeFilter defaultAction =>
    ((view.makeFilter defaultAction).1, .made (view.makeFilter defaultAction).2)
  | .buildPolicy policy => ((view.buildPolicy policy).1, .made (view.buildPolicy policy).2)

/-- Replies to inquiries in order. -/
def run (view : KernelView) : List Inquiry → KernelView × List Report
  | [] => (view, [])
  | inquiry :: rest =>
    let later := (view.reply inquiry).1.run rest
    (later.1, (view.reply inquiry).2 :: later.2)

/-- A process that has probed its kernel. -/
def probed (kernel : ProbeKernel) : KernelView :=
  ⟨kernel, some kernel.probe.1, kernel.probe.2⟩

/-- A process knows of its kernel what a probe of it finds, or will know it when it first asks. -/
def Knows (view : KernelView) (kernel : ProbeKernel) : Prop :=
  view.check = (probed kernel, kernel.probe.1)

theorem knows_fresh (kernel : ProbeKernel) : (fresh kernel).Knows kernel :=
  rfl

theorem knows_probed (kernel : ProbeKernel) : (probed kernel).Knows kernel :=
  rfl

/-- One inquiry is replied to from the probe of the kernel, and leaves nothing to be asked. -/
theorem Knows.reply (h : view.Knows kernel) (inquiry : Inquiry) :
    (view.reply inquiry).1 = probed kernel ∧
      inquiry.Told kernel.probe.1 (view.reply inquiry).2 := by
  rw [Knows] at h
  have hdetect : view.detect = (probed kernel, kernel.probe.1.mapError ProbeError.toError) := by
    rw [detect, h]
  -- From here on it does not matter how the probe came by its outcome.
  generalize kernel.probe.1 = outcome at h hdetect ⊢
  cases inquiry with
  | check =>
    rw [KernelView.reply, h]
    exact ⟨rfl, .check⟩
  | detect =>
    rw [KernelView.reply, hdetect]
    cases outcome with
    | error cause => exact ⟨rfl, .undetected rfl cause.appears_toError⟩
    | ok capabilities => exact ⟨rfl, .detect rfl⟩
  | makeFilter action =>
    rw [KernelView.reply, makeFilter, hdetect]
    cases outcome with
    | error cause => exact ⟨rfl, .unmade rfl cause.appears_toError⟩
    | ok capabilities =>
      by_cases hvalid : action = .invalid
      · rw [hvalid]
        exact ⟨rfl, .refused rfl⟩
      · have hmade : Filter.make action capabilities =
            .ok ⟨some (.initial action), capabilities⟩ := by
          rw [Filter.make, Action.check, Action.isValid, if_pos (bne_iff_ne.mpr hvalid)]
          rfl
        change _ ∧ Inquiry.Told _ _ (.made (Filter.make action capabilities))
        rw [hmade]
        exact ⟨rfl, .made rfl hvalid⟩
  | buildPolicy policy =>
    rw [KernelView.reply, buildPolicy, hdetect]
    cases outcome with
    | error cause => exact ⟨rfl, .unbuilt rfl cause.appears_toError⟩
    | ok capabilities => exact ⟨rfl, .built rfl⟩

/-- So are all inquiries of a run. -/
theorem Knows.run (h : view.Knows kernel) (inquiries : List Inquiry) :
    List.Forall₂ (Inquiry.Told kernel.probe.1) inquiries (view.run inquiries).2 ∧
      (view.run inquiries).1 = if inquiries = [] then view else probed kernel := by
  induction inquiries generalizing view with
  | nil => exact ⟨.nil, rfl⟩
  | cons inquiry rest ih =>
    obtain ⟨hnext, htold⟩ := h.reply inquiry
    obtain ⟨hrest, hlast⟩ := ih (knows_probed kernel)
    rw [KernelView.run, hnext]
    refine ⟨.cons htold hrest, ?_⟩
    rw [if_neg (List.cons_ne_nil inquiry rest)]
    dsimp only
    rw [hlast, ite_self]

end KernelView

/-- There is one thing to find out about a kernel, and a fixed row of different questions that it
takes. Whatever a process wants to know, in any order and any number of times, it is told this, and
the questions are asked when it first wants to know something and never again. A kernel that knows
no less is found capable of no less. -/
theorem KernelView.inquiries_share_probe (kernel : ProbeKernel) :
    ∃ outcome asked, kernel.Finds outcome asked ∧ asked.Nodup ∧
      (∀ inquiries : List Inquiry,
        List.Forall₂ (Inquiry.Told outcome) inquiries ((fresh kernel).run inquiries).2 ∧
          ((fresh kernel).run inquiries).1.asked = if inquiries = [] then [] else asked) ∧
      ∀ capabilities, outcome = .ok capabilities → ∀ richer : ProbeKernel,
        richer.release = kernel.release →
        (∀ question, kernel.answer question = true → richer.answer question = true) →
          ∃ more, (fresh richer).check.2 = .ok more ∧ capabilities.level ≤ more.level := by
  have hfinds := kernel.finds_probe
  refine ⟨kernel.probe.1, kernel.probe.2, hfinds, hfinds.nodup, ?_, ?_⟩
  · intro inquiries
    obtain ⟨htold, hlast⟩ := (knows_fresh kernel).run inquiries
    refine ⟨htold, ?_⟩
    rw [hlast]
    split_ifs with hnone
    · rfl
    · rfl
  · intro capabilities houtcome richer hrelease hricher
    rw [houtcome] at hfinds
    exact hfinds.mono richer.finds_probe hrelease hricher

/-- A kernel that knows every flag but not the action for supervisors is asked for no flag behind
that action. -/
example :
    ProbeKernel.probe ⟨"6.1.0-13-amd64".toUTF8.toList, fun question =>
        question != .action 0x7fc00000⟩ =
      (.ok ⟨4, some ⟨6, 1, 0⟩⟩, [.filterMode, .flag 1, .action 0x7ffc0000, .action 0x80000000,
        .flag 2, .flag 4, .action 0x7fc00000]) := by
  decide +kernel

end SyscallFilter
