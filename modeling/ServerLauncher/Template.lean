/-!
# Environment variable references in configured texts

A configured text may refer to environment variables as `$NAME`, `${NAME}` and `%NAME%`, where a
name is a non-empty run of ASCII letters, digits and underscores.  A text is cut into literal
characters and references once, from left to right; a reference to a variable with a non-empty value
is replaced by that value, every other reference stays as it is written.  Values are not cut again.

## Main definitions

* `Environment`: the variables that references are looked up in.
* `Template.Piece`: a literal character or a reference.
* `Template.pieces`: the decomposition of a text.
* `Template.resolve`: the text with its references replaced.
-/

namespace ServerLauncher

/-! ## Environments -/

/-- Variables with their values; of two entries with one name the first counts. -/
abbrev Environment := List (String × String)

namespace Environment

/-- The value of a variable. -/
def get? (environment : Environment) (name : String) : Option String :=
  environment.lookup name

/-- The environment with a variable set.  A variable that is present keeps its place. -/
def set (environment : Environment) (name value : String) : Environment :=
  if environment.any (·.1 == name) then
    environment.map fun entry => if entry.1 == name then (name, value) else entry
  else environment ++ [(name, value)]

/-- The environment with the variables of `changes` set, one after the other. -/
def update (environment changes : Environment) : Environment :=
  changes.foldl (fun e entry => e.set entry.1 entry.2) environment

end Environment

namespace Template

/-! ## References -/

/-- The three ways to write a reference. -/
inductive Form where
  | dollar
  | braces
  | percent
deriving DecidableEq, Repr

/-- A literal character, or a reference to a variable. -/
inductive Piece where
  | literal (c : Char)
  | reference (form : Form) (name : List Char)
deriving DecidableEq, Repr

/-- The characters of variable names: ASCII letters, digits and the underscore. -/
def isNameChar (c : Char) : Bool := c.isAlphanum || c = '_'

namespace Piece

/-- A piece as it is written in a template. -/
def written : Piece → List Char
  | literal c => [c]
  | reference .dollar name => '$' :: name
  | reference .braces name => '$' :: '{' :: (name ++ ['}'])
  | reference .percent name => '%' :: (name ++ ['%'])

/-- What a piece stands for in an environment. -/
def expand (environment : Environment) : Piece → List Char
  | literal c => [c]
  | reference form name =>
    match environment.get? (String.ofList name) with
    | some value => if value.isEmpty then (reference form name).written else value.toList
    | none => (reference form name).written

end Piece

/-! ## Decomposition -/

/-- The longest run of name characters at the beginning. -/
def nameOf (s : List Char) : List Char := s.takeWhile isNameChar

/-- What follows the longest run of name characters. -/
def afterName (s : List Char) : List Char := s.dropWhile isNameChar

/-- A reference that begins here, and the text after it. -/
def reference? : List Char → Option (Piece × List Char)
  | '$' :: '{' :: s =>
    match afterName s with
    | '}' :: rest => if (nameOf s).isEmpty then none else some (.reference .braces (nameOf s), rest)
    | _ => none
  | '$' :: s =>
    if (nameOf s).isEmpty then none else some (.reference .dollar (nameOf s), afterName s)
  | '%' :: s =>
    match afterName s with
    | '%' :: rest =>
      if (nameOf s).isEmpty then none else some (.reference .percent (nameOf s), rest)
    | _ => none
  | _ => none

theorem afterName_length_le (s : List Char) : (afterName s).length ≤ s.length :=
  (List.dropWhile_sublist _).length_le

/-- A reference takes at least one character. -/
theorem length_lt_of_reference? {s rest : List Char} {piece : Piece}
    (h : reference? s = some (piece, rest)) : rest.length < s.length := by
  unfold reference? at h
  split at h
  · next t =>
    have := afterName_length_le t
    split at h
    · next r hr =>
      split at h
      · simp at h
      · obtain ⟨-, rfl⟩ := by simpa using h
        rw [hr] at this
        simp at this ⊢
        omega
    · simp at h
  · next t _ =>
    have := afterName_length_le t
    split at h
    · simp at h
    · obtain ⟨-, rfl⟩ := by simpa using h
      simp
      omega
  · next t =>
    have := afterName_length_le t
    split at h
    · next r hr =>
      split at h
      · simp at h
      · obtain ⟨-, rfl⟩ := by simpa using h
        rw [hr] at this
        simp at this ⊢
        omega
    · simp at h
  · simp at h

/-- The literal characters and references of a text, from left to right. -/
def pieces (s : List Char) : List Piece :=
  match h : reference? s with
  | some (piece, rest) =>
    have := length_lt_of_reference? h
    piece :: pieces rest
  | none =>
    match s with
    | [] => []
    | c :: rest => .literal c :: pieces rest
termination_by s.length

/-- The text with every reference to a variable with a non-empty value replaced by that value. -/
def resolve (environment : Environment) (template : String) : String :=
  String.ofList ((pieces template.toList).flatMap (Piece.expand environment))

/-- The resolved texts of a list of templates. -/
def resolveAll (environment : Environment) (templates : List String) : List String :=
  templates.map (resolve environment)

end Template

end ServerLauncher
