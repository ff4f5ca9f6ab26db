import Mathlib.Tactic
import SyscallFilter.Proofs.Invariant
import SyscallFilter.Proofs.Requests

/-!
How a load goes about its work. It compiles before it calls the kernel, forbids new privileges once
where the filter says so, and then installs the program once. The word of the installation states
the attributes of the filter and makes no choice that the level of the filter does not grant. The
answer to it decides between success and failure.
-/

namespace SyscallFilter

/-- The choices that may accompany an installation. -/
inductive InstallFlag
  | threadSync
  | log
  | speculation
  | newListener
  | threadSyncError
  deriving DecidableEq, Repr

namespace InstallFlag

/-- The bit that stands for a choice in the word of an installation. -/
def bit : InstallFlag → UInt32
  | threadSync => 1
  | log => 2
  | speculation => 4
  | newListener => 8
  | threadSyncError => 16

/-- The first level at which a choice may be made. -/
def level : InstallFlag → Nat
  | threadSync => 2
  | log => 3
  | speculation => 4
  | newListener => 6
  | threadSyncError => 6

end InstallFlag

namespace InstallFlags

/-- Whether a choice is made. -/
def choice (flags : InstallFlags) : InstallFlag → Bool
  | .threadSync => flags.threadSync
  | .log => flags.log
  | .speculation => flags.speculation
  | .newListener => flags.newListener
  | .threadSyncError => flags.threadSyncError

/-- Whether the word of an installation makes a choice. -/
def asks (flags : InstallFlags) (flag : InstallFlag) : Bool :=
  flags.word &&& flag.bit != 0

/-- The word makes the choices that it was put together from. -/
theorem asks_eq (flags : InstallFlags) (flag : InstallFlag) :
    flags.asks flag = flags.choice flag := by
  obtain ⟨threadSync, log, speculation, newListener, threadSyncError⟩ := flags
  revert threadSync log speculation newListener threadSyncError
  cases flag <;> decide

end InstallFlags

/-- What has to hold of the word that accompanies an installation. -/
structure InstallFlags.Lawful (flags : InstallFlags) (attributes : Attributes) (level : Nat) :
    Prop where
  log : flags.asks .log = attributes.log
  speculation : flags.asks .speculation = attributes.speculation
  threadSync : flags.asks .threadSync = attributes.threadSync
  threadSyncError : flags.asks .threadSyncError = (flags.asks .threadSync && flags.asks .newListener)
  granted : ∀ flag, flags.asks flag = true → flag.level ≤ level

/-- What is made of the kernel's answer to an installation. -/
structure Reply.Reports (reply : Reply) (flags : InstallFlags) (answer : Int) : Prop where
  succeeds_iff : reply.result = .ok () ↔
    if flags.asks .newListener then 0 ≤ answer else answer = 0
  negative : answer < 0 → reply.result = .error (.refused (.os answer.natAbs))
  positive : 0 < answer → flags.asks .newListener = false →
    reply.result = .error (.refused (.os Errno.noProcess))

/-- How a load of a filter goes with a kernel, and what is said of it in the end. -/
structure Filter.LoadsLawfully (filter : Filter) (kernel : LoadKernel) (reply : Reply) : Prop where
  uncompiled : ∀ error, filter.program = .error error →
    reply.calls = [] ∧ reply.result = .error (.refused error)
  compiled : ∀ program, filter.program = .ok program → ∃ state, filter.state? = some state ∧
    ((∃ number, state.attributes.noNewPrivs = true ∧ kernel.noNewPrivs = .error number ∧
        reply.calls = [.noNewPrivs] ∧ reply.result = .error (.refused (.os number))) ∨
      (state.attributes.noNewPrivs = true → kernel.noNewPrivs = .ok ()) ∧
        ∃ flags : InstallFlags, flags.Lawful state.attributes filter.capabilities.level ∧
          reply.calls = (if state.attributes.noNewPrivs then [LoadCall.noNewPrivs] else []) ++
            [.install flags program] ∧
          reply.Reports flags (kernel.install flags program))

namespace FilterState

variable {capabilities : Capabilities} {state : FilterState}

/-- The word of a sound filter is lawful: an attribute was granted when it was set, and a listener
is granted when it is asked for. -/
theorem Sound.lawful (h : state.Sound capabilities) :
    (state.installFlags capabilities).Lawful state.attributes capabilities.level := by
  have hlisten : (state.installFlags capabilities).newListener = true → 6 ≤ capabilities.level := by
    intro hl
    rw [installFlags, Bool.and_eq_true, Bool.and_eq_true] at hl
    exact of_decide_eq_true hl.1.1
  constructor
  · exact InstallFlags.asks_eq _ .log
  · exact InstallFlags.asks_eq _ .speculation
  · exact InstallFlags.asks_eq _ .threadSync
  · rw [InstallFlags.asks_eq, InstallFlags.asks_eq, InstallFlags.asks_eq]
    rfl
  · intro flag hflag
    rw [InstallFlags.asks_eq] at hflag
    cases flag with
    | threadSync => exact of_decide_eq_true (h.threadSync hflag)
    | log => exact of_decide_eq_true (h.log hflag)
    | speculation => exact of_decide_eq_true (h.speculation hflag)
    | newListener => exact hlisten hflag
    | threadSyncError => exact hlisten ((Bool.and_eq_true _ _).mp hflag).2

end FilterState

namespace Filter

variable {filter : Filter} {state : FilterState} {program : Program}

/-- What does not compile makes no call. -/
theorem load_of_uncompiled {error : Error} (hp : filter.program = .error error)
    (kernel : LoadKernel) : filter.load kernel = ⟨.error error, []⟩ := by
  rw [load, hp]
  cases hs : filter.state with
  | ok state => rfl
  | error refusal =>
    -- A released filter has no program for the same reason.
    rw [program, hs] at hp
    rw [← Except.error.inj hp]

/-- What a load of a filter that compiles comes to. -/
theorem load_of_compiled (hs : filter.state? = some state) (hp : filter.program = .ok program)
    (kernel : LoadKernel) :
    (∃ number, state.attributes.noNewPrivs = true ∧ kernel.noNewPrivs = .error number ∧
        filter.load kernel = ⟨.error (.os number), [.noNewPrivs]⟩) ∨
      (state.attributes.noNewPrivs = true → kernel.noNewPrivs = .ok ()) ∧
        filter.load kernel =
          ⟨(state.installed (state.installFlags filter.capabilities)
              (kernel.install (state.installFlags filter.capabilities) program)).map
              fun next => { filter with state? := some next },
            (if state.attributes.noNewPrivs then [LoadCall.noNewPrivs] else []) ++
              [.install (state.installFlags filter.capabilities) program]⟩ := by
  have hstate : filter.state = .ok state := by rw [Filter.state, hs]
  rw [load, hstate, hp]
  dsimp only
  cases hban : state.attributes.noNewPrivs with
  | false => exact .inr ⟨fun hban => absurd hban Bool.false_ne_true, rfl⟩
  | true =>
    cases hn : kernel.noNewPrivs with
    | error number => exact .inl ⟨number, rfl, rfl, rfl⟩
    | ok _ => exact .inr ⟨fun _ => rfl, rfl⟩

/-- What a load installs is the program of the filter. -/
theorem program_of_installed {kernel : LoadKernel} {flags : InstallFlags}
    (h : .install flags program ∈ (filter.load kernel).calls) : filter.program = .ok program := by
  cases hp : filter.program with
  | error error =>
    rw [load_of_uncompiled hp] at h
    nomatch h
  | ok own =>
    obtain ⟨state, hs, -⟩ := exists_of_program_eq_ok hp
    rcases load_of_compiled hs hp kernel with ⟨_, -, -, hload⟩ | ⟨-, hload⟩
    · rw [hload] at h
      simp at h
    · rw [hload] at h
      rcases List.mem_append.mp h with hfirst | hlast
      · split_ifs at hfirst
        · nomatch List.mem_singleton.mp hfirst
        · nomatch hfirst
      · rw [(LoadCall.install.inj (List.mem_singleton.mp hlast)).2]

end Filter

namespace Session

variable {session : Session} {name : String} {filter : Filter} {state : FilterState}

/-- The reply to a load is what the load reports. -/
theorem reply_load (hf : session.filter? name = some filter) (kernel : LoadKernel) :
    (session.step name (.load kernel)).2 =
      ⟨((filter.load kernel).result.map fun _ => ()).mapError .refused,
        (filter.load kernel).calls⟩ := by
  rw [step, hf]
  dsimp only
  cases (filter.load kernel).result <;> rfl

/-- An installation succeeds and fails as its answer demands. -/
theorem reports_installed (state : FilterState) (flags : InstallFlags) (answer : Int)
    (filter : Filter) (calls : List LoadCall) :
    Reply.Reports
      ⟨(((state.installed flags answer).map fun next => { filter with state? := some next }).map
        fun _ => ()).mapError .refused, calls⟩ flags answer := by
  have hasks : flags.asks .newListener = flags.newListener := flags.asks_eq .newListener
  rw [FilterState.installed]
  constructor
  · rw [hasks]
    rcases lt_trichotomy answer 0 with hneg | rfl | hpos
    · have hne : answer ≠ 0 := by omega
      have hnot : ¬ 0 ≤ answer := by omega
      simp [hneg, hne, hnot, Except.map, Except.mapError]
    · cases flags.newListener <;> simp [Except.map, Except.mapError]
    · have hne : answer ≠ 0 := by omega
      have hnot : ¬ answer < 0 := by omega
      cases flags.newListener <;> simp [hnot, hne, hpos, hpos.le, Except.map, Except.mapError]
  · intro hneg
    rw [if_pos hneg]
    rfl
  · intro hpos hl
    rw [hasks] at hl
    have hnot : ¬ answer < 0 := by omega
    rw [if_neg hnot, hl, if_neg Bool.false_ne_true, if_pos hpos]
    rfl

/-- Every load of a filter that some run of requests has left behind goes by the rules, whatever
the kernel answers. -/
theorem load_goes_by_rules {requests : List (String × Request)}
    (hf : (Session.empty.run requests).filter? name = some filter) (kernel : LoadKernel) :
    filter.LoadsLawfully kernel ((Session.empty.run requests).step name (.load kernel)).2 := by
  have hsound : filter.Sound := sound_empty.run requests name filter hf
  rw [reply_load hf]
  constructor
  · intro error hp
    rw [Filter.load_of_uncompiled hp]
    exact ⟨rfl, rfl⟩
  · intro program hp
    obtain ⟨state, hs, -⟩ := Filter.exists_of_program_eq_ok hp
    refine ⟨state, hs, ?_⟩
    obtain ⟨number, hban, hn, hload⟩ | ⟨hban, hload⟩ := Filter.load_of_compiled hs hp kernel
    · rw [hload]
      exact .inl ⟨number, hban, hn, rfl, rfl⟩
    · rw [hload]
      exact .inr ⟨hban, state.installFlags filter.capabilities, (hsound state hs).lawful, rfl,
        reports_installed ..⟩

/-- A filter of level 6 has taken over the rules of one of level 4, and makes every choice there is.
The answer that is a listener to its first load names a thread in the second one. -/
theorem load_goes_by_rules_synced :
    let requests : List (String × Request) :=
      [("a", .make .allow ⟨6, none⟩), ("a", .change (.setLog true)),
        ("a", .change (.setSpeculation true)), ("a", .change (.setThreadSync true)),
        ("a", .change (.addRule ⟨83⟩ .notify [])), ("b", .make .allow ⟨4, none⟩),
        ("b", .change (.addArch .arm)), ("b", .change (.removeArch .x8664)),
        ("b", .change (.setLog true)), ("b", .change (.setSpeculation true)),
        ("b", .change (.setThreadSync true)), ("a", .merge "b")]
    let kernel : LoadKernel := ⟨.ok (), fun _ _ => 5⟩
    let later := requests ++ [("a", .load kernel)]
    let first := ((Session.empty.run requests).step "a" (.load kernel)).2
    let second := ((Session.empty.run later).step "a" (.load kernel)).2
    (∃ filter program, (Session.empty.run requests).filter? "a" = some filter ∧
      filter.LoadsLawfully kernel first ∧ first.result = .ok () ∧
      first.calls = [.noNewPrivs, .install ⟨true, true, true, true, true⟩ program]) ∧
    ∃ filter program, (Session.empty.run later).filter? "a" = some filter ∧
      filter.LoadsLawfully kernel second ∧ second.result = .error (.refused (.os 3)) ∧
      second.calls = [.noNewPrivs, .install ⟨true, true, true, false, false⟩ program] := by
  intro requests kernel later first second
  constructor
  · obtain ⟨filter, -, program, hf, -, -, hresult, hcalls⟩ :
        ∃ filter state program, (Session.empty.run requests).filter? "a" = some filter ∧
          filter.state? = some state ∧ filter.program = .ok program ∧ first.result = .ok () ∧
          first.calls = [.noNewPrivs, .install ⟨true, true, true, true, true⟩ program] :=
      Session.exists_of_evaluated (by decide +kernel)
    exact ⟨filter, program, hf, load_goes_by_rules hf kernel, hresult, hcalls⟩
  · obtain ⟨filter, -, program, hf, -, -, hresult, hcalls⟩ :
        ∃ filter state program, (Session.empty.run later).filter? "a" = some filter ∧
          filter.state? = some state ∧ filter.program = .ok program ∧
          second.result = .error (.refused (.os 3)) ∧
          second.calls = [.noNewPrivs, .install ⟨true, true, true, false, false⟩ program] :=
      Session.exists_of_evaluated (by decide +kernel)
    exact ⟨filter, program, hf, load_goes_by_rules hf kernel, hresult, hcalls⟩

end Session

end SyscallFilter
