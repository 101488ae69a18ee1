import ServerLauncher.Text.Quoted
import ServerLauncher.Text.Split

/-!
# Options on a command line

The words of a command line are options with or without values, and arguments.  A word `--` ends the
options.  A long option may carry its value behind an equals sign; short options may be written
together.

## Main definitions

* `CommandOption`: an option that a command knows.
* `UsageIssue`: what is wrong with a command line.
* `parseOptions`: the options and the arguments of a command line.
-/

namespace ServerLauncher

/-- An option that a command knows: its names, the main one first, and whether it has a value. -/
structure CommandOption where
  names : List String
  takesValue : Bool
deriving DecidableEq, Repr

/-- The main name of an option. -/
def CommandOption.name (o : CommandOption) : String := o.names.headD ""

/-- What is wrong with a command line. -/
inductive UsageIssue where
  | noSuchOption (name : String)
  | valueMissing (name : String)
  | valueUnexpected (name : String)
  | isDirectory (option path : String)
  | isFile (option path : String)
  | notAmong (option value : String) (choices : List String)
  | extraArguments (arguments : List String)
  | noSuchCommand (name : String)
  | commandMissing
deriving DecidableEq, Repr

namespace UsageIssue

/-- The issue in words. -/
def text : UsageIssue → String
  | noSuchOption name => "No such option " ++ Text.quoted name ++ "."
  | valueMissing name => "Option " ++ Text.quoted name ++ " requires an argument."
  | valueUnexpected name => "Option " ++ Text.quoted name ++ " does not take a value."
  | isDirectory option path =>
    "Invalid value for '" ++ option ++ "': File " ++ Text.quoted path ++ " is a directory."
  | isFile option path =>
    "Invalid value for '" ++ option ++ "': Directory " ++ Text.quoted path ++ " is a file."
  | notAmong option value choices =>
    "Invalid value for '" ++ option ++ "': " ++ Text.quoted value ++ " is not one of " ++
      ", ".intercalate (choices.map Text.quoted) ++ "."
  | extraArguments arguments =>
    "Got unexpected extra argument" ++ (if arguments.length = 1 then "" else "s") ++ " (" ++
      " ".intercalate arguments ++ ")"
  | noSuchCommand name => "No such command " ++ Text.quoted name ++ "."
  | commandMissing => "Missing command."

/-- Whether the usage of the command is shown before the issue. -/
def showsUsage : UsageIssue → Bool
  | valueMissing _ | valueUnexpected _ => false
  | _ => true

end UsageIssue

/-- The options of a command line in order, by their main names, and the arguments. -/
structure CommandLine where
  options : List (String × Option String) := []
  arguments : List String := []
deriving DecidableEq, Repr

namespace CommandLine

/-- The last value of an option. -/
def value? (line : CommandLine) (name : String) : Option String :=
  ((line.options.reverse.lookup name)).join

/-- Whether an option is given. -/
def has (line : CommandLine) (name : String) : Bool := line.options.any (·.1 == name)

/-- The command line with an option before it. -/
def withOption (name : String) (value : Option String) (line : CommandLine) : CommandLine :=
  { line with options := (name, value) :: line.options }

end CommandLine

/-- The name of a short option: a hyphen and one character. -/
def isShort (name : String) : Bool := name.length = 2

/-- The option with a long or a short name. -/
def findOption (known : List CommandOption) (short : Bool) (name : String) : Option CommandOption :=
  if isShort name = short then known.find? fun o => o.names.contains name else none

/-- Short options written together; the result are those without a value, the one with a value if
there is one, and that value if it follows in the same word. -/
def shortOptions (known : List CommandOption) :
    List Char → Except UsageIssue (List String × Option (CommandOption × Option String))
  | [] => .ok ([], none)
  | c :: rest =>
    let name := String.ofList ['-', c]
    match findOption known true name with
    | none => .error (.noSuchOption name)
    | some o =>
      if o.takesValue then
        .ok ([], some (o, if rest.isEmpty then none else some (String.ofList rest)))
      else do
        let (flags, last) ← shortOptions known rest
        return (o.name :: flags, last)

/-- A word cut at its first equals sign. -/
def cutValue (word : String) : String × Option String :=
  match Text.cutFirst '=' word.toList with
  | none => (word, none)
  | some (name, value) => (String.ofList name, some (String.ofList value))

/-- What a word that begins with a hyphen gives: options without values, and an option that has a
value, with that value if the word holds it.  A word with one hyphen that is no long option consists
of short ones, an equals sign included. -/
def optionsOf (known : List CommandOption) (word : String) :
    Except UsageIssue (List String × Option (String × Option String)) :=
  let (name, value) := cutValue word
  match findOption known false name with
  | some o =>
    if o.takesValue then .ok ([], some (o.name, value))
    else if value.isSome then .error (.valueUnexpected name)
    else .ok ([o.name], none)
  | none =>
    if word.startsWith "--" then .error (.noSuchOption name)
    else do
      let (flags, last) ← shortOptions known (word.toList.drop 1)
      return (flags, last.map fun (o, value) => (o.name, value))

/-- The options and the arguments of a command line.  Unless options may follow arguments, all words
from the first argument on are arguments. -/
def parseOptions (known : List CommandOption) (mixed : Bool) :
    List String → Except UsageIssue CommandLine
  | [] => .ok {}
  | word :: rest =>
    if word = "--" then .ok { arguments := rest }
    else if word.startsWith "-" && word ≠ "-" then
      match optionsOf known word with
      | .error issue => .error issue
      | .ok (flags, last) =>
        let withFlags (line : CommandLine) : CommandLine :=
          flags.foldr (fun name line => line.withOption name none) line
        match last, rest with
        | none, rest => (parseOptions known mixed rest).map withFlags
        | some (name, some value), rest =>
          (parseOptions known mixed rest).map fun line =>
            withFlags (line.withOption name (some value))
        | some (name, none), value :: rest =>
          (parseOptions known mixed rest).map fun line =>
            withFlags (line.withOption name (some value))
        | some (name, none), [] => .error (.valueMissing name)
    else if mixed then
      (parseOptions known mixed rest).map fun line =>
        { line with arguments := word :: line.arguments }
    else .ok { arguments := word :: rest }

end ServerLauncher
