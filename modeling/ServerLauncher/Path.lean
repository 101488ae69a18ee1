import ServerLauncher.Text.Split

/-!
# Paths

A path is a text whose components are separated by slashes; it is absolute when it begins with one.
The functions of this module work on the text alone and never look at a file system.

## Main definitions

* `Path.join`, `Path.directory`, `Path.split`: composition and decomposition.
* `Path.normalize`: removal of empty, `.` and `..` components.
* `Path.absolute`: the normalized path seen from a current directory.
* `Path.display`: the form in which paths of configuration files appear in messages.
-/

namespace ServerLauncher.Path

/-- A path that begins with a slash. -/
def isAbsolute (path : String) : Bool := path.toList.head? = some '/'

/-- A NUL in a path.  Such a text is the path of no file. -/
def holdsNull (path : String) : Bool := path.toList.contains '\x00'

/-- A path seen from a directory: absolute paths stay, others are appended after a slash. -/
def join (directory path : String) : String :=
  if isAbsolute path then path
  else if directory.isEmpty || directory.toList.getLast? = some '/' then directory ++ path
  else directory ++ "/" ++ path

/-- The part up to the last slash and the part after it.  The trailing slashes of the first part are
dropped unless it consists of slashes. -/
def split (path : String) : String × String :=
  match Text.cutLast '/' path.toList with
  | none => ("", path)
  | some (before, after) =>
    let head := before ++ ['/']
    let stripped := Text.dropTrailing '/' head
    (String.ofList (if stripped.isEmpty then head else stripped), String.ofList after)

/-- The part of a path before its last component. -/
def directory (path : String) : String := (split path).1

/-- The components after leaving out empty and `.` ones and cancelling each `..` against the
component before it.  In a `rooted` path nothing is above the root; `kept` holds the components so
far, the last one first. -/
def cancel (rooted : Bool) : List (List Char) → List (List Char) → List (List Char)
  | kept, [] => kept.reverse
  | kept, c :: rest =>
    if c.isEmpty || c = ['.'] then cancel rooted kept rest
    else if c ≠ ['.', '.'] then cancel rooted (c :: kept) rest
    else match kept with
      | [] => cancel rooted (if rooted then [] else [c]) rest
      | last :: earlier =>
        if last = ['.', '.'] then cancel rooted (c :: kept) rest else cancel rooted earlier rest

/-- The leading slashes that matter: none, one, or exactly two. -/
def rootSlashes (path : List Char) : List Char :=
  match path with
  | '/' :: '/' :: '/' :: _ => ['/']
  | '/' :: '/' :: _ => ['/', '/']
  | '/' :: _ => ['/']
  | _ => []

/-- The shortest path of the same meaning in a file system without links. -/
def normalize (path : String) : String :=
  let cs := path.toList
  let slashes := rootSlashes cs
  let body := Text.joinWith ['/'] (cancel (!slashes.isEmpty) [] (Text.splitAt '/' cs))
  let result := slashes ++ body
  if result.isEmpty then "." else String.ofList result

/-- The normalized path seen from the current directory. -/
def absolute (current path : String) : String := normalize (join current path)

/-- The form of a path in messages: repeated slashes, `.` components and a trailing slash are left
out, `..` components stay, and the empty path is `.`. -/
def display (path : String) : String :=
  let cs := path.toList
  let slashes := rootSlashes cs
  let kept := (Text.splitAt '/' cs).filter fun c => !(c.isEmpty || c = ['.'])
  let result := slashes ++ Text.joinWith ['/'] kept
  if result.isEmpty then "." else String.ofList result

end ServerLauncher.Path
