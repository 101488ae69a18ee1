import ServerLauncher.Command.Basic
import ServerLauncher.Command.Options
import ServerLauncher.Text.Terminal
import ServerLauncher.Yaml.Document

/-!
# The library for command lines, and the reader of documents

What the program runs with: the options that it knows, how their values are checked, how a misused
command line is answered, and the format of its configuration files.

A command line that cannot be understood ends with code 2, an error that is shown to the user with
code 1.  What is written for a person holds no sequences that control a terminal.

## Main definitions

* `Command.Ending`: how words end the program by themselves.
* `Command.Interface.standard`: the library for command lines.
* `Config.Reader.standard`: the reader of documents.
-/

namespace ServerLauncher

/-- The reader of configuration files. -/
def Config.Reader.standard : Config.Reader where
  document := Yaml.readDocument
  rooms := .usual

namespace Command

/-- The name under which the program shows its usage. -/
def program : String := "cli"

/-! ## Ways to end -/

/-- How the words of a command line end the program by themselves. -/
inductive Ending where
  /-- They cannot be understood; the name of the command is given if one was chosen. -/
  | misused (command : Option String) (issue : UsageIssue)
  /-- They ask for the usage of the program or of a command. -/
  | helped (command : Option String)
  /-- A path in them cannot even be looked at. -/
  | escaped (fault : Fault)
deriving Repr

/-- The usage of the program or of one of its commands. -/
def usage : Option String → String
  | none => "Usage: " ++ program ++ " [OPTIONS] COMMAND [ARGS]...\n"
  | some command => "Usage: " ++ program ++ " " ++ command ++ " [OPTIONS]\n"

/-- Where to find help about the program or about one of its commands. -/
def hint : Option String → String
  | none => "Try '" ++ program ++ " --help' for help.\n\n"
  | some command => "Try '" ++ program ++ " " ++ command ++ " --help' for help.\n\n"

/-- The result of a command line that ends by itself. -/
def Ending.result : Ending → CommandResult
  | misused command issue => {
      exitCode := 2
      errors := Text.withoutSequences
        ((if issue.showsUsage then usage command ++ hint command else "") ++ "Error: " ++
          issue.text ++ "\n") }
  | helped command => { output := usage command }
  | escaped fault => { exitCode := 1, escaped := some fault }

/-! ## Options -/

/-- The levels of logging. -/
def logLevels : List String := ["DEBUG", "INFO", "WARNING", "ERROR"]

/-- The option that asks for the usage. -/
def helpOption : CommandOption := ⟨["--help"], false⟩

/-- The options before the command. -/
def programOptions : List CommandOption :=
  [⟨["--config"], true⟩, ⟨["--install-dir"], true⟩, ⟨["--log-level"], true⟩, helpOption]

/-- The options of each command. -/
def commandOptions? : String → Option (List CommandOption)
  | "resolve" => some [⟨["--verbose", "-v"], false⟩, helpOption]
  | "download" => some [⟨["--version"], true⟩, helpOption]
  | "launch-info" => some [⟨["--workspace"], true⟩, helpOption]
  | _ => none

/-- The kinds of values of options. -/
inductive ValueKind where
  /-- The path of a file; a hyphen alone is never looked at. -/
  | file
  /-- The path of a directory. -/
  | directory
  /-- One of several words. -/
  | choice (among : List String)
  /-- Any text. -/
  | text

/-- The kind of the values of an option. -/
def valueKind : String → ValueKind
  | "--config" => .file
  | "--install-dir" | "--workspace" => .directory
  | "--log-level" => .choice logLevels
  | _ => .text

/-- How the value of an option ends the command line.  A path of a file must not lead to a
directory, nor that of a directory to a file; one with a NUL cannot even be looked at. -/
def valueEnding? (command : Option String) (m : Machine) (option value : String) : Option Ending :=
  match valueKind option with
  | .file =>
    if value = "-" then none
    else if Path.holdsNull value then some (.escaped .nullInPath)
    else if m.files.isDirectory m.location value then
      some (.misused command (.isDirectory option value))
    else none
  | .directory =>
    if Path.holdsNull value then some (.escaped .nullInPath)
    else if m.files.isFile m.location value then some (.misused command (.isFile option value))
    else none
  | .choice among =>
    if among.contains value then none else some (.misused command (.notAmong option value among))
  | .text => none

/-- The options in the order in which their values are checked: first those that are given, each
where it is given first, then the others. -/
def checkOrder (known : List CommandOption) (line : CommandLine) : List String :=
  let given := Acquirer.distinct (line.options.map (·.1))
  given ++ (known.map (·.name)).filter fun name => !given.contains name

/-- The options that are read and whose values are checked in order; an option that is not given may
have a value of its own.  The option that asks for the usage comes before all others. -/
def readOptions (command : Option String) (known : List CommandOption)
    (standard : String → Option String) (mixed : Bool) (words : List String) (m : Machine) :
    Except Ending CommandLine :=
  match parseOptions known mixed words with
  | .error issue => .error (.misused command issue)
  | .ok line =>
    let ending? := (checkOrder known line).findSome? fun name =>
      ((line.value? name).or (standard name)).bind (valueEnding? command m name)
    if line.has helpOption.name then .error (.helped command)
    else match ending? with
      | some ending => .error ending
      | none => .ok line

/-- The installation directory for a home directory if none is given. -/
def standardInstallDir (home : String) : String := Path.join home ".capnls"

/-- The values of options that are not given. -/
def standardValue (home option : String) : Option String :=
  match option with
  | "--install-dir" => some (standardInstallDir home)
  | "--log-level" => some "WARNING"
  | _ => none

/-- What some options before the command choose, for a user with a home directory. -/
def choicesOf (home : String) (line : CommandLine) : Choices where
  configPath := line.value? "--config"
  installDir := (line.value? "--install-dir").getD (standardInstallDir home)
  logLevel := (line.value? "--log-level").getD "WARNING"

/-- The words before the command, and the words from the command on. -/
def readProgramOptions (home : String) (words : List String) (m : Machine) :
    Except Ending (Choices × List String) := do
  let line ← readOptions none programOptions (standardValue home) false words m
  return (choicesOf home line, line.arguments)

/-- The options of a command; a command takes no arguments. -/
def readCommandOptions (name : String) (known : List CommandOption) (words : List String)
    (m : Machine) : Except Ending CommandLine := do
  let line ← readOptions (some name) known (fun _ => none) true words m
  if line.arguments.isEmpty then return line
  else throw (.misused (some name) (.extraArguments line.arguments))

/-! ## Command lines -/

/-- How a word that is no command ends the command line.  One that looks like an option is read as
one first. -/
def unknownCommand (home name : String) (words : List String) (m : Machine) : Ending :=
  let looksLikeOption := !name.isEmpty && !(name.toList.headD 'a').isAlphanum
  if looksLikeOption then
    match readProgramOptions home (name :: words) m with
    | .error ending => ending
    | .ok _ => .misused none (.noSuchCommand name)
  else .misused none (.noSuchCommand name)

/-- What the words of a command line choose before the command, which must be one that is known. -/
def readChoices (home : String) (words : List String) (m : Machine) :
    Except Ending (Choices × List String) :=
  match readProgramOptions home words m with
  | .error ending => .error ending
  | .ok (_, []) => .error (.misused none .commandMissing)
  | .ok (choices, name :: rest) =>
    match commandOptions? name with
    | none => .error (unknownCommand home name rest m)
    | some _ => .ok (choices, name :: rest)

/-- What a command with a name is asked to do by its options. -/
def taskOf (name : String) (line : CommandLine) : Task :=
  match name with
  | "resolve" => .resolve (line.has "--verbose")
  | "download" => .download (line.value? "--version")
  | _ => .launchInfo (line.value? "--workspace")

/-- What a command is asked to do by the words from its name on. -/
def readTask (words : List String) (m : Machine) : Except Ending Task :=
  match words with
  | [] => .error (.misused none .commandMissing)
  | name :: rest =>
    match commandOptions? name with
    | none => .error (.misused none (.noSuchCommand name))
    | some known => (readCommandOptions name known rest m).map (taskOf name)

/-- The library for command lines, for a user with a home directory. -/
def Interface.standard (home : String) : Interface where
  choices words m := (readChoices home words m).mapError Ending.result
  task words m := (readTask words m).mapError Ending.result
  echoed message := Text.withoutSequences (message ++ "\n")
  failed text := { exitCode := 1, errors := Text.withoutSequences ("Error: " ++ text ++ "\n") }

end Command

end ServerLauncher
