import SyscallFilter.CommandLine.Run

/-!
A host in memory: one directory of files, with the devices and programs of a system around it. Paths
are walked name by name, and the place they lead to is read or written. A file that is put into the
directory is the one found under its name, and no other file changes.
-/

namespace SyscallFilter.CommandLine

/-- What every system has beside directories and programs: devices that take every byte or none, the
standard streams, and the list of accounts. -/
inductive Device
  | sink
  | full
  | input
  | output
  | errors
  | accounts
  deriving DecidableEq, Repr

/-- Where a path leads: to the directory of the files, to another directory, to a file, or to a
device or program of the system. -/
inductive Place
  | home
  | elsewhere (path : List String)
  | file (name : String)
  | device (device : Device)
  | program (name : String)
  deriving DecidableEq, Repr

/-- Whether a walk can go on from a place. -/
def Place.isDirectory : Place → Bool
  | home => true
  | elsewhere _ => true
  | _ => false

/-- The files of a directory, the programs that can be run from it, and what the device for standard
output was given. -/
structure Directory where
  files : List (String × List UInt8)
  programs : List String
  printed : List UInt8

namespace Directory

/-- The length in bytes that a name must not exceed. -/
def nameLimit : Nat := 255

/-- The length in bytes that a path must not exceed. -/
def pathLimit : Nat := 4095

/-- The bytes of the file with a name. -/
def bytes? (directory : Directory) (name : String) : Option (List UInt8) :=
  directory.files.lookup name

/-- Makes bytes the contents of the file with a name. -/
def put (directory : Directory) (name : String) (bytes : List UInt8) : Directory :=
  { directory with files := (name, bytes) :: directory.files.filter fun file => file.1 != name }

/-- A file that is left out is not found, and every other file still is. -/
theorem lookup_filter_ne (files : List (String × List UInt8)) (name other : String) :
    (files.filter fun file => file.1 != name).lookup other =
      if other = name then none else files.lookup other := by
  induction files with
  | nil => simp
  | cons file files ih =>
    obtain ⟨key, bytes⟩ := file
    by_cases same : key = name
    · have left : ¬ ((key, bytes).1 != name) = true := by simp [same]
      rw [List.filter_cons, if_neg left, ih, List.lookup_cons, same]
      by_cases found : other = name
      · simp [found]
      · simp [found, beq_eq_false_iff_ne.mpr found]
    · have kept : ((key, bytes).1 != name) = true := by simp [same]
      rw [List.filter_cons, if_pos kept, List.lookup_cons, List.lookup_cons, ih]
      by_cases found : other = key
      · simp [found, same]
      · simp [beq_eq_false_iff_ne.mpr found]

/-- Putting a file changes what is found under its name and under no other. -/
@[simp]
theorem bytes?_put (directory : Directory) (name other : String) (bytes : List UInt8) :
    (directory.put name bytes).bytes? other =
      if other = name then some bytes else directory.bytes? other := by
  by_cases same : other = name
  · simp [bytes?, put, same]
  · have differs : (other == name) = false := by simp [same]
    simp [bytes?, put, List.lookup_cons, differs, lookup_filter_ne, same]

/-- The directories around the one of the files. -/
def otherDirectories : List (List String) :=
  [["bin"], ["dev"], ["dev", "fd"], ["etc"], ["home"], ["lib"], ["proc"], ["root"], ["sys"],
    ["tmp"], ["usr"], ["usr", "bin"], ["var"]]

/-- The devices and their paths. -/
def devices : List (List String × Device) :=
  [(["dev", "null"], .sink), (["dev", "zero"], .sink), (["dev", "random"], .sink),
    (["dev", "urandom"], .sink), (["dev", "full"], .full), (["dev", "stdin"], .input),
    (["dev", "stdout"], .output), (["dev", "stderr"], .errors), (["dev", "fd", "0"], .input),
    (["dev", "fd", "1"], .output), (["dev", "fd", "2"], .errors), (["etc", "passwd"], .accounts)]

/-- The directories in which programs are. -/
def programDirectories : List (List String) :=
  [["bin"], ["usr", "bin"]]

/-- The place of a name in a directory other than the one of the files. -/
def elsewhere? (directory : Directory) (path : List String) (name : String) : Option Place :=
  let full := path ++ [name]
  if otherDirectories.contains full then some (.elsewhere full)
  else if programDirectories.contains path && directory.programs.contains name then
    some (.program name)
  else (devices.lookup full).map Place.device

/-- One step along a path. -/
def step (directory : Directory) (place : Place) (name : String) : Except Errno Place :=
  let named (above : Place) (inside : Option Place) : Except Errno Place :=
    if name = "." then .ok place
    else if name = ".." then .ok above
    else if nameLimit < name.utf8ByteSize then .error Errno.nameTooLong
    else
      match inside with
      | some place => .ok place
      | none => .error Errno.noEntry
  match place with
  | .home => named (.elsewhere ["tmp"]) ((directory.bytes? name).map fun _ => .file name)
  | .elsewhere path => named (.elsewhere path.dropLast) (directory.elsewhere? path name)
  | _ => .error Errno.notDirectory

/-- The names on a path. -/
def namesOn (path : String) : List String :=
  (path.splitOn "/").filter (· != "")

/-- The place where the walk along a path starts. -/
def start (path : String) : Place :=
  if path.startsWith "/" then .elsewhere [] else .home

/-- The place that a path leads to. Behind a slash at the end only a directory can be meant. -/
def locate (directory : Directory) (path : String) : Except Errno Place := do
  if path.isEmpty then throw Errno.noEntry
  if pathLimit < path.utf8ByteSize then throw Errno.nameTooLong
  let place ← (namesOn path).foldlM directory.step (start path)
  if path.endsWith "/" && !place.isDirectory then throw Errno.notDirectory
  return place

/-- The place that a path leads to if something is to be written there. It may be a new file, which
only the directory of the files takes in. A slash at the end means a directory before the last name
is looked at. -/
def target (directory : Directory) (path : String) : Except Errno Place := do
  if path.isEmpty then throw Errno.noEntry
  if pathLimit < path.utf8ByteSize then throw Errno.nameTooLong
  match (namesOn path).getLast? with
  | none => throw Errno.isDirectory
  | some name =>
    let parent ← (namesOn path).dropLast.foldlM directory.step (start path)
    if path.endsWith "/" && parent.isDirectory then throw Errno.isDirectory
    match directory.step parent name with
    | .ok place => if place.isDirectory then throw Errno.isDirectory else return place
    | .error number =>
      if number ≠ Errno.noEntry then throw number
      else if parent = .home then return .file name
      else throw Errno.accessDenied

/-- The bytes that a path leads to. Programs are no text, and devices that can be read to an end
give nothing, the list of accounts aside. -/
def read (directory : Directory) (path : String) : Except Errno (List UInt8) := do
  match ← directory.locate path with
  | .file name => return (directory.bytes? name).getD []
  | .device .accounts => return "root:x:0:0:root:/root:/bin/sh\n".toUTF8.data.toList
  | .device _ => return []
  | .program _ => return [0x7f, 0xff]
  | _ => throw Errno.isDirectory

/-- Puts bytes at a place. A file gets them in place of what it holds or behind it; a full device
takes none. -/
def write (directory : Directory) (place : Place) (behind : Bool) (bytes : List UInt8) :
    Except Errno Directory :=
  match place with
  | .file name =>
    let old := if behind then (directory.bytes? name).getD [] else []
    .ok (directory.put name (old ++ bytes))
  | .device .full => if bytes.isEmpty then .ok directory else .error Errno.noSpace
  | .device .output => .ok { directory with printed := directory.printed ++ bytes }
  | .device .accounts => .error Errno.accessDenied
  | .device _ => .ok directory
  | .program _ => .error Errno.accessDenied
  | _ => .error Errno.isDirectory

/-- Puts bytes where a path leads, and leaves the directory as it is where that fails. -/
def store (path : String) (behind : Bool) (bytes : List UInt8) :
    StateM Directory (Except Errno Unit) := do
  let directory ← get
  match (directory.target path).bind fun place => directory.write place behind bytes with
  | .ok changed =>
    set changed
    return .ok ()
  | .error number => return .error number

/-- The program that a word calls: by its path, or by its name alone. -/
def program (directory : Directory) (word : String) : Except Errno String :=
  if word.contains '/' then
    match directory.locate word with
    | .ok (.program name) => .ok name
    | .ok _ => .error Errno.accessDenied
    | .error number => .error number
  else if directory.programs.contains word then .ok word
  else if word = "." ∨ word = ".." then .error Errno.accessDenied
  else if nameLimit < word.utf8ByteSize then .error Errno.nameTooLong
  else .error Errno.noEntry

/-- The host that has this directory. Programs do what `execute` says of them. -/
def host (kernel : ProbeKernel) (load : LoadKernel)
    (execute : String → List String → StateM Directory Execution) : Host (StateM Directory) where
  kernel
  contentsOf path := return (← get).read path
  create path := store path false []
  write path bytes := store path false bytes
  load
  execute word args := do
    match (← get).program word with
    | .ok name => return .ok (← execute name args)
    | .error number => return .error number

end Directory

end SyscallFilter.CommandLine
