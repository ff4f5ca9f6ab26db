import SyscallFilter.Filter.Load
import SyscallFilter.Filter.Merge

/-!
Runs over any number of named filters. A request changes one filter, or two where it merges them;
a request that fails changes none.
-/

namespace SyscallFilter

/-- The changes that concern one filter alone. -/
inductive Change
  | reset (defaultAction : Action)
  | release
  | addArch (arch : Arch)
  | removeArch (arch : Arch)
  | setDefaultAction (action : Action)
  | setBadArchAction (action : Action)
  | setNoNewPrivs (on : Bool)
  | setLog (on : Bool)
  | setSpeculation (on : Bool)
  | setThreadSync (on : Bool)
  | addRule (call : Syscall) (action : Action) (conditions : List Condition)
  deriving DecidableEq, Repr

/-- Carries out a change on a filter. -/
def Filter.apply (filter : Filter) : Change → Except Error Filter
  | .reset defaultAction => filter.reset defaultAction
  | .release => .ok filter.release
  | .addArch arch => filter.addArch arch
  | .removeArch arch => filter.removeArch arch
  | .setDefaultAction action => filter.setDefaultAction action
  | .setBadArchAction action => filter.setBadArchAction action
  | .setNoNewPrivs on => filter.setNoNewPrivs on
  | .setLog on => filter.setLog on
  | .setSpeculation on => filter.setSpeculation on
  | .setThreadSync on => filter.setThreadSync on
  | .addRule call action conditions => filter.addRule call action conditions

/-- What can be asked for under a filter's name. -/
inductive Request
  | make (defaultAction : Action) (capabilities : Capabilities)
  | change (change : Change)
  | merge (source : String)
  | load (kernel : LoadKernel)

/-- Why a request failed: no filter has the name, or the filter refused. -/
inductive RequestError
  | noSuchFilter
  | refused (error : Error)
  deriving DecidableEq, Repr

/-- The filters in use, by name. -/
structure Session where
  filter? : String → Option Filter

/-- What became of a request, and the calls it made to the kernel. -/
structure Reply where
  result : Except RequestError Unit
  calls : List LoadCall

namespace Session

/-- No filter has been made. -/
def empty : Session :=
  ⟨fun _ => none⟩

/-- Puts a filter under a name. -/
def put (session : Session) (name : String) (filter : Filter) : Session :=
  ⟨fun other => if other = name then some filter else session.filter? other⟩

@[simp] theorem filter?_put (session : Session) (name other : String) (filter : Filter) :
    (session.put name filter).filter? other =
      if other = name then some filter else session.filter? other :=
  rfl

/-- Puts the outcome of a change under a name, and leaves everything alone where the change was
refused. -/
def keep (session : Session) (name : String) (calls : List LoadCall) :
    Except Error Filter → Session × Reply
  | .ok filter => (session.put name filter, ⟨.ok (), calls⟩)
  | .error error => (session, ⟨.error (.refused error), calls⟩)

/-- Merges the filter under one name into the filter under another. -/
def merge (session : Session) (name source : String) : Session × Reply :=
  match session.filter? name, if source = name then none else session.filter? source with
  | some target, some sourceFilter =>
    match target.merge sourceFilter with
    | .ok (merged, released) => ((session.put name merged).put source released, ⟨.ok (), []⟩)
    | .error error => (session, ⟨.error (.refused error), []⟩)
  | _, _ => (session, ⟨.error .noSuchFilter, []⟩)

/-- Carries out a request under a name. Only making a filter works where none has the name. -/
def step (session : Session) (name : String) : Request → Session × Reply
  | .make defaultAction capabilities =>
    session.keep name [] (Filter.make defaultAction capabilities)
  | .change change =>
    match session.filter? name with
    | some filter => session.keep name [] (filter.apply change)
    | none => (session, ⟨.error .noSuchFilter, []⟩)
  | .merge source => session.merge name source
  | .load kernel =>
    match session.filter? name with
    | some filter =>
      let report := filter.load kernel
      session.keep name report.calls report.result
    | none => (session, ⟨.error .noSuchFilter, []⟩)

/-- The session after a run of requests. -/
def run (session : Session) : List (String × Request) → Session
  | [] => session
  | (name, request) :: rest => (session.step name request).1.run rest

end Session

end SyscallFilter
