import SyscallFilter.Filter.Query
import SyscallFilter.Session

/-!
The operations as they go about their work. A procedure works step by step on filters where they
stand, and whatever it has changed by the time it fails stays changed. Nothing is put back.
-/

namespace SyscallFilter

/-- The filters as they stand at some moment, and the calls made to the kernel until then. -/
structure Progress where
  session : Session
  calls : List LoadCall

/-- A sequence of steps that ends at the first one to fail. -/
abbrev Procedure (α : Type) := EStateM RequestError Progress α

/-- Puts something else in the place of the list of an architecture. -/
def FilterState.alterList (state : FilterState) (arch : Arch)
    (change : Option (List Rule) → Option (List Rule)) : FilterState :=
  { state with
    ruleset.rules := state.ruleset.rules.set arch (change (state.ruleset.rules.get arch)) }

/-- The listener that an installation hands out, if there is one, or the reason why it failed. -/
def InstallFlags.handedOut (flags : InstallFlags) (answer : Int) : Except Error (Option Nat) :=
  if answer < 0 then .error (.os answer.natAbs)
  else if flags.newListener then .ok (some answer.toNat)
  else if 0 < answer then .error (.os Errno.noProcess)
  else .ok none

namespace Procedure

/-- Goes on with a result if there is one. -/
def demand {α : Type} (result : Except Error α) : Procedure α :=
  match result with
  | .ok value => pure value
  | .error error => throw (.refused error)

/-- The filter under a name. -/
def find (name : String) : Procedure Filter := do
  match (← get).session.filter? name with
  | some filter => pure filter
  | none => throw .noSuchFilter

/-- What the filter under a name holds, unless it has been released. -/
def held (name : String) : Procedure FilterState := do
  demand (← find name).state

/-- Puts a filter under a name. -/
def place (name : String) (filter : Filter) : Procedure Unit :=
  modify fun progress => { progress with session := progress.session.put name filter }

/-- Changes what the filter under a name holds. -/
def change (name : String) (how : FilterState → FilterState) : Procedure Unit := do
  let filter ← find name
  place name { filter with state? := filter.state?.map how }

/-- Calls the kernel. -/
def call (made : LoadCall) : Procedure Unit :=
  modify fun progress => { progress with calls := progress.calls ++ [made] }

/-- Changes what a filter holds once a check has been passed. -/
def edit (name : String) (check : Capabilities → Except Error Unit)
    (how : FilterState → FilterState) : Procedure Unit := do
  let filter ← find name
  demand (check filter.capabilities)
  let _ ← held name
  change name how

/-- Drops an architecture unless it is the last one. -/
def removeArch (name : String) (arch : Arch) : Procedure Unit := do
  let state ← held name
  if state.ruleset.arches = [arch] then throw (.refused (.arch (.lastOne arch)))
  change name fun state => state.alterList arch fun _ => none

/-- Adds a rule to the list of one architecture, unless the architecture lacks the call. -/
def addTo (name : String) (call : Syscall) (action : Action) (conditions : List Condition)
    (arch : Arch) : Procedure Unit :=
  match call.counterpart? .native arch with
  | some own => change name fun state =>
      state.alterList arch fun rules? => rules?.map fun rules => rules ++ [⟨own, action, conditions⟩]
  | none => pure ()

/-- Checks a rule and adds it to one list after the other. -/
def addRule (name : String) (call : Syscall) (action : Action) (conditions : List Condition) :
    Procedure Unit := do
  let _ ← find name
  demand action.check
  let _ ← demand ((call.nameOn .native).mapError Error.syscall)
  demand ((Condition.checkDistinct conditions).mapError Error.condition)
  let state ← held name
  state.ruleset.arches.forM (addTo name call action conditions)

/-- Notes what came of an installation: first the listener, if there is one, and then the load. -/
def noteInstalled (name : String) (flags : InstallFlags) (answer : Int) : Procedure Unit := do
  match ← demand (flags.handedOut answer) with
  | some listener => change name fun state => { state with listener := some listener }
  | none => pure ()
  change name fun state => { state with loaded := true }

/-- Compiles, calls the kernel once or twice, and notes what came of it. -/
def load (name : String) (kernel : LoadKernel) : Procedure Unit := do
  let filter ← find name
  let program ← demand filter.program
  let state ← held name
  let flags := state.installFlags filter.capabilities
  if state.attributes.noNewPrivs then
    call .noNewPrivs
    demand (kernel.noNewPrivs.mapError Error.os)
  call (.install flags program)
  noteInstalled name flags (kernel.install flags program)

/-- Takes what a filter holds out of it, which releases it. -/
def take (name : String) : Procedure FilterState := do
  let state ← held name
  place name (← find name).release
  pure state

/-- Compares two filters, takes the source's state out of it, and moves one list after the other. -/
def merge (name source : String) : Procedure Unit := do
  if source = name then throw .noSuchFilter
  let _ ← find name
  let _ ← find source
  let target ← held name
  let given ← held source
  if let some conflict := target.conflict? given then
    throw (.refused (.mergeConflict conflict))
  let taken ← take source
  let _ ← held name
  taken.ruleset.arches.forM fun arch =>
    change name fun state => state.alterList arch fun _ => taken.ruleset.rules.get arch

end Procedure

/-- A change of one filter as a procedure. -/
def Change.procedure (name : String) : Change → Procedure Unit
  | .reset defaultAction =>
    .edit name (fun _ => defaultAction.check) fun _ => .initial defaultAction
  | .release => do .place name (← .find name).release
  | .addArch arch =>
    .edit name (fun _ => .ok ()) fun state => state.alterList arch fun rules? => some (rules?.getD [])
  | .removeArch arch => .removeArch name arch
  | .setDefaultAction action =>
    .edit name (fun _ => action.check) fun state => { state with ruleset.defaultAction := action }
  | .setBadArchAction action =>
    .edit name (fun _ => action.check) fun state => { state with ruleset.badArchAction := action }
  | .setNoNewPrivs on =>
    .edit name (fun _ => .ok ()) fun state => { state with attributes.noNewPrivs := on }
  | .setLog on =>
    .edit name (·.require .log) fun state => { state with attributes.log := on }
  | .setSpeculation on =>
    .edit name (·.require .speculation) fun state => { state with attributes.speculation := on }
  | .setThreadSync on =>
    .edit name (·.require .threadSync) fun state => { state with attributes.threadSync := on }
  | .addRule call action conditions => .addRule name call action conditions

/-- A request as a procedure. -/
def Request.procedure (name : String) : Request → Procedure Unit
  | .make defaultAction capabilities => do
    .place name (← .demand (Filter.make defaultAction capabilities))
  | .change wanted => wanted.procedure name
  | .merge source => .merge name source
  | .load kernel => .load name kernel

namespace Session

/-- Anything that can be done with a filter of a session. -/
inductive Operation
  | request (request : Request)
  | query (query : Query)

/-- An operation as a procedure. -/
def Operation.procedure (name : String) : Operation → Procedure Unit
  | .request wanted => wanted.procedure name
  | .query asked => do
    let _ ← Procedure.demand ((← Procedure.find name).answer asked)

/-- Works off an operation: the session as it is left behind, and what became of the operation. -/
def workOff (session : Session) (name : String) (operation : Operation) : Session × Reply :=
  match (operation.procedure name).run ⟨session, []⟩ with
  | .ok _ progress => (progress.session, ⟨.ok (), progress.calls⟩)
  | .error error progress => (progress.session, ⟨.error error, progress.calls⟩)

end Session

end SyscallFilter
