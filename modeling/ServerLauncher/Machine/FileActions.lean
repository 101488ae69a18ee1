import ServerLauncher.Machine.Basic

/-!
# Actions on files

Each action counts as a use of its operation, and a disturbance of that use comes before everything
else: first time passes, then the action fails.
-/

namespace ServerLauncher.MachineAction

/-- The disturbances of the present use of an operation. -/
def disturbances (op : FileOperation) (m : Machine) : List Disturbance :=
  m.disturbances.filter fun d => d.operation == op && d.number == m.uses op

/-- Disturbances take effect one after the other, up to the first failure.  The path, if given, is
named by the fault. -/
def suffer (path : Option String) : List Disturbance → MachineAction Unit
  | [] => return ()
  | d :: rest => do
    pass d.delay
    match d.errno with
    | none => suffer path rest
    | some errno => throw (.system errno path)

/-- An operation is used. -/
def use (op : FileOperation) (path : Option String) : MachineAction Unit := do
  change fun m => { m with uses := fun o => if o = op then m.uses o + 1 else m.uses o }
  suffer path (← observe (disturbances op))

/-- A change of the files that may fail.  The operating system is not asked about a path with a
NUL. -/
def changeFiles {α : Type} (path : String) (f : FileTree → Location → Except Nat (FileTree × α)) :
    MachineAction α := fun m =>
  if Path.holdsNull path then (.error .nullInPath, m)
  else match f m.files m.location with
  | .ok (files, a) => (.ok a, { m.onward with files })
  | .error errno => (.error (.system errno (some path)), m)

/-- Whether a path leads to something. -/
def pathExists (path : String) : MachineAction Bool :=
  observe fun m => m.files.exists m.location path

/-- Whether a path leads to a directory. -/
def isDirectory (path : String) : MachineAction Bool :=
  observe fun m => m.files.isDirectory m.location path

/-- A directory is made. -/
def makeDirectory (path : String) : MachineAction Unit := do
  use .mkdir (some path)
  changeFiles path fun files l => (files.makeDirectory l path).map (·, ())

/-- A path without its last component, and that component.  A slash at the end does not count. -/
def lastComponent (path : String) : String × String :=
  let (head, tail) := Path.split path
  if tail.isEmpty then Path.split head else (head, tail)

/-- A directory is made, unless there is one already. -/
def ensureDirectory (path : String) : MachineAction Unit := do
  match ← attempt (makeDirectory path) with
  | .ok () => return ()
  | .error fault => if ← isDirectory path then return () else throw fault

/-- An action for which it is no error that something exists already. -/
def toleratingExisting (x : MachineAction Unit) : MachineAction Unit := do
  match ← attempt x with
  | .ok () => return ()
  | .error fault => if fault.isExistingFile then return () else throw fault

/-- A directory is made where none is, after those above it. -/
def makeDirectories : Nat → String → MachineAction Unit
  | 0, _ => return ()
  | n + 1, path => do
    let (head, tail) := lastComponent path
    let above := !head.isEmpty && !tail.isEmpty && !(← pathExists head)
    if above then toleratingExisting (makeDirectories n head)
    if above && tail = "." then return () else ensureDirectory path

/-- The directory that a file is to lie in is made. -/
def makeDirectoryFor (path : String) : MachineAction Unit :=
  let directory := Path.directory path
  makeDirectories (path.length + 1) (if directory.isEmpty then "." else directory)

/-- A file is opened for writing; what it held is lost. -/
def openFile (path : String) : MachineAction Location := do
  use .open (some path)
  let l ← changeFiles path fun files l => files.create l path
  change fun m => { m with opened := l :: m.opened }
  return l

/-- A file is opened and read. -/
def readFile (path : String) : MachineAction ByteArray := do
  use .open (some path)
  changeFiles path fun files l => (files.read l path).map (files, ·)

/-- Bytes are written to an opened file. -/
def writeFile (l : Location) (bytes : ByteArray) : MachineAction Unit := do
  use .write none
  change fun m => { m with files := m.files.append l bytes }

/-- An opened file is closed.  It is closed even if that fails. -/
def closeFile (l : Location) : MachineAction Unit := do
  change fun m => { m with opened := m.opened.erase l }
  use .close none

/-- The size and the permissions of a file. -/
def fileStatus (path : String) : MachineAction (Nat × Nat) := do
  use .stat (some path)
  changeFiles path fun files l => (files.status l path).map (files, ·)

/-- The permissions of a file are set. -/
def setMode (path : String) (mode : Nat) : MachineAction Unit := do
  use .chmod (some path)
  changeFiles path fun files l => (files.setMode l path mode).map (·, ())

/-- A file is removed. -/
def removeFile (path : String) : MachineAction Unit := do
  use .remove (some path)
  changeFiles path fun files l => (files.remove l path).map (·, ())

end ServerLauncher.MachineAction
