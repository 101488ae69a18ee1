import ServerLauncher.Fault
import ServerLauncher.Path

/-!
# Files

A file tree holds directories and files, each at a location: the names that lead to it from the
root.  A path is walked name by name; going on from something missing or from a file is an error.

## Assumptions

* There are neither symbolic nor hard links: a location has one path without `.` and `..`, and a
  change at one location is none at another.
* A file may be executed if any of its execute bits is set.  Whose file it is does not matter, nor
  how its file system is mounted.
* Permissions do not keep a path from being walked.

## Main definitions

* `Location`, `Entry`, `FileTree`.
* `FileTree.get?`, `FileTree.put`, `FileTree.erase`: what lies at a location.
* `FileTree.walk`: the location that a path leads to.
* `FileTree.exists`, `FileTree.isDirectory`, `FileTree.isFile`, `FileTree.isExecutable`.
* `FileTree.makeDirectory`, `FileTree.create`, `FileTree.append`, `FileTree.setMode`,
  `FileTree.remove`: the changes.
-/

namespace ServerLauncher

/-- The names that lead from the root to an entry. -/
abbrev Location := List String

/-- What lies at a location: a directory, or a file with its permissions. -/
inductive Entry where
  | directory
  | file (content : ByteArray) (mode : Nat)

/-- The permission bits that allow execution. -/
def executeBits : Nat := 0o111

/-- The permissions of new files. -/
def usualMode : Nat := 0o644

/-- Directories and files by their locations.  The root is a directory without an entry.  Each entry
is reached in one way only, since there are neither symbolic nor hard links. -/
structure FileTree where
  entries : List (Location × Entry) := []

namespace FileTree

/-! ## Locations -/

/-- What lies at a location. -/
def get? (t : FileTree) (l : Location) : Option Entry :=
  if l.isEmpty then some .directory else t.entries.lookup l

/-- The tree with an entry at a location. -/
def put (t : FileTree) (l : Location) (e : Entry) : FileTree :=
  ⟨(l, e) :: t.entries.filter (·.1 != l)⟩

/-- The tree without what lies at a location. -/
def erase (t : FileTree) (l : Location) : FileTree := ⟨t.entries.filter (·.1 != l)⟩

/-- The tree with an entry at a location, and with directories above it where nothing was. -/
def plant (t : FileTree) (l : Location) (e : Entry) : FileTree :=
  let above := (List.range l.length).map fun n => l.take n
  (above.foldl (fun t d => if (t.get? d).isNone then t.put d .directory else t) t).put l e

/-- The names in a path. -/
def names (path : String) : List String := (Text.splitAt '/' path.toList).map String.ofList

/-- The location of a normalized absolute path. -/
def locate (path : String) : Location := (names path).filter (!·.isEmpty)

/-! ## Walking -/

/-- The location that further names lead to from a location, where an entry needs to be there only
if names follow. -/
def walkFrom (t : FileTree) (l : Location) : List String → Except Nat Location
  | [] => .ok l
  | name :: rest =>
    match t.get? l with
    | none => .error errnoMissing
    | some (.file _ _) => .error errnoNotDirectory
    | some .directory =>
      if name = "" ∨ name = "." then t.walkFrom l rest
      else if name = ".." then t.walkFrom l.dropLast rest
      else t.walkFrom (l ++ [name]) rest

/-- The location that a path leads to from a current location.  A text with a NUL is no path. -/
def walk (t : FileTree) (current : Location) (path : String) : Except Nat Location :=
  if path.isEmpty || Path.holdsNull path then .error errnoMissing
  else t.walkFrom (if Path.isAbsolute path then [] else current) (names path)

/-- What a path leads to. -/
def find (t : FileTree) (current : Location) (path : String) :
    Except Nat (Location × Entry) := do
  let l ← t.walk current path
  match t.get? l with
  | some e => return (l, e)
  | none => .error errnoMissing

/-- Whether a path leads to something. -/
def «exists» (t : FileTree) (current : Location) (path : String) : Bool :=
  (t.find current path).isOk

/-- Whether a path leads to a directory. -/
def isDirectory (t : FileTree) (current : Location) (path : String) : Bool :=
  match t.find current path with
  | .ok (_, .directory) => true
  | _ => false

/-- Whether a path leads to a file. -/
def isFile (t : FileTree) (current : Location) (path : String) : Bool :=
  match t.find current path with
  | .ok (_, .file _ _) => true
  | _ => false

/-- Whether a path leads to something that may be executed or searched.  For a file any one of its
execute bits is enough: who owns it and how its file system is mounted is left out. -/
def isExecutable (t : FileTree) (current : Location) (path : String) : Bool :=
  match t.find current path with
  | .ok (_, .directory) => true
  | .ok (_, .file _ mode) => mode &&& executeBits != 0
  | .error _ => false

/-! ## Changes -/

/-- The tree with a new directory. -/
def makeDirectory (t : FileTree) (current : Location) (path : String) : Except Nat FileTree := do
  let l ← t.walk current path
  if (t.get? l).isSome then .error errnoExists else return t.put l .directory

/-- The tree with an empty file to be written, and its location.  A file that is there keeps its
permissions. -/
def create (t : FileTree) (current : Location) (path : String) :
    Except Nat (FileTree × Location) := do
  let l ← t.walk current path
  match t.get? l with
  | some .directory => .error errnoIsDirectory
  | some (.file _ mode) => return (t.put l (.file .empty mode), l)
  | none => return (t.put l (.file .empty usualMode), l)

/-- The content of a file. -/
def read (t : FileTree) (current : Location) (path : String) : Except Nat ByteArray := do
  match ← t.find current path with
  | (_, .directory) => .error errnoIsDirectory
  | (_, .file content _) => return content

/-- The tree with bytes added to the file at a location. -/
def append (t : FileTree) (l : Location) (bytes : ByteArray) : FileTree :=
  match t.get? l with
  | some (.file content mode) => t.put l (.file (content ++ bytes) mode)
  | _ => t

/-- The tree with other permissions. -/
def setMode (t : FileTree) (current : Location) (path : String) (mode : Nat) :
    Except Nat FileTree := do
  match ← t.find current path with
  | (l, .file content _) => return t.put l (.file content (mode % 0o10000))
  | (_, .directory) => return t

/-- The tree without a file. -/
def remove (t : FileTree) (current : Location) (path : String) : Except Nat FileTree := do
  match ← t.find current path with
  | (_, .directory) => .error errnoIsDirectory
  | (l, .file _ _) => return t.erase l

/-- The size and the permissions of what a path leads to. -/
def status (t : FileTree) (current : Location) (path : String) : Except Nat (Nat × Nat) := do
  match ← t.find current path with
  | (_, .directory) => return (4096, 0o755)
  | (_, .file content mode) => return (content.size, mode)

end FileTree

end ServerLauncher
