import ServerLauncher.Config.Load
import ServerLauncher.Session.Basic
import ServerLauncher.Text.Json

/-!
# The command line

Three commands find the server, download it, or show how it would be launched.  Options before the
command choose the configuration file, the installation directory and the level of logging.

How the words of a command line are understood, how an error is shown and how a message is written
is left to a library for command lines.  The program runs with whatever library there is: the
configuration is loaded after the words before the command have been understood, and before those
of the command are.

## Main definitions

* `CommandResult`: what a command has written, and how it has ended.
* `Command.Task`: what a command is asked to do.
* `Command.Interface`: what the library for command lines does.
* `Command.run`: a command line is carried out.
-/

namespace ServerLauncher

/-- What a command has written, and how it has ended. -/
structure CommandResult where
  exitCode : Nat := 0
  output : String := ""
  errors : String := ""
  /-- The level of logging, once it is set. -/
  logLevel : Option String := none
  /-- A fault that the command does not handle. -/
  escaped : Option Fault := none
deriving Repr, Inhabited

namespace Command

open MachineAction

/-! ## What is understood -/

/-- What is chosen before the command. -/
structure Choices where
  configPath : Option String
  installDir : String
  logLevel : String
deriving DecidableEq, Repr

/-- What a command is asked to do. -/
inductive Task where
  /-- The path of the server is shown, on request with what was tried. -/
  | resolve (isVerbose : Bool)
  /-- The server is downloaded; without a version, that of the configuration. -/
  | download (version : Option String)
  /-- It is shown how the server would be launched, without a workspace in the current directory. -/
  | launchInfo (workspace : Option String)
deriving DecidableEq, Repr

/-- What the library for command lines does.  Where it ends the program by itself, because words
cannot be understood or ask for help, it says with what result. -/
structure Interface where
  /-- The words before the command; what is left are those from the command on. -/
  choices : List String → Machine → Except CommandResult (Choices × List String)
  /-- The words from the command on. -/
  task : List String → Machine → Except CommandResult Task
  /-- What is written for a message. -/
  echoed : String → String
  /-- How the program ends with an error that is shown to the user. -/
  failed : String → CommandResult

/-! ## Ways to end -/

/-- How a command comes to an early end. -/
inductive Stop where
  /-- The library for command lines ends it. -/
  | ended (result : CommandResult)
  /-- The command fails. -/
  | failed (text : String)
  /-- A fault that the command does not handle. -/
  | escaped (fault : Fault)

/-- The result of a command that has come to an early end. -/
def Stop.result (i : Interface) : Stop → CommandResult
  | ended result => result
  | failed text => i.failed text
  | escaped fault => { exitCode := 1, escaped := some fault }

/-- A function from a machine to a result or an early end, and the machine afterwards. -/
abbrev Step := ExceptT Stop (StateM Machine)

/-- The messages that a command has for its output and for its errors. -/
structure Messages where
  output : List String := []
  errors : List String := []

/-- The result of a command that has come to its end. -/
def Messages.result (i : Interface) (messages : Messages) : CommandResult where
  output := String.join (messages.output.map i.echoed)
  errors := String.join (messages.errors.map i.echoed)

/-- The result of a fault: the faults of some families are shown to the user. -/
def stopOf (handled : Fault → Bool) (describe : String → String) (fault : Fault) : Stop :=
  if handled fault then .failed (describe fault.text) else .escaped fault

/-- An action whose faults of some families are shown to the user. -/
def handling {α : Type} (handled : Fault → Bool) (describe : String → String)
    (x : MachineAction α) : Step α := fun m =>
  match x m with
  | (.ok a, m) => (.ok a, m)
  | (.error fault, m) => (.error (stopOf handled describe fault), m)

/-! ## Commands -/

/-- The faults of a configuration file that are shown to the user. -/
def isConfigurationFault (fault : Fault) : Bool :=
  fault.isSystem || fault.isBadValue || fault.isProblem

/-- The configuration that was chosen. -/
def loadConfig (reader : Config.Reader) (choices : Choices) : Step Config :=
  handling isConfigurationFault ("Could not load configuration: " ++ ·)
    (match choices.configPath with
    | none => return {}
    | some path => Config.load reader path)

/-- A text that is given and not empty. -/
def nonempty? : Option String → Option String
  | none | some "" => none
  | some s => some s

/-- The path of the server is shown, on request with what was tried. -/
def resolve (choices : Choices) (config : Config) (isVerbose : Bool) : Step Messages :=
  handling (fun _ => false) id do
    let a ← observe (Acquirer.create choices.installDir none {} none)
    let result ← a.acquire config none
    return { output := [result.path], errors := if isVerbose then result.diagnostics else [] }

/-- The server is downloaded. -/
def download (choices : Choices) (config : Config) (version : Option String) : Step Messages :=
  handling Fault.isProblem id do
    let platform ← observe Machine.platform?
    let version := (nonempty? version).getD config.serverVersion
    match DownloadSpec.forPlatform version platform choices.installDir with
    | none => throw (.problem (.noPrebuilt platform) none)
    | some spec =>
      let outcome ← ({} : Downloader).fetch spec (.real config.downloadTimeout)
      match outcome.fault? with
      | some fault => throw fault
      | none => return { output :=
          ["Downloaded " ++ toString outcome.bytesWritten ++ " bytes to " ++ spec.target] }

/-- How to launch the server, as JSON. -/
def launchJson (info : LaunchInfo) (extra : Environment) : JsonText :=
  .object [
    ("command", .ofTexts info.commandLine),
    ("cwd", .text info.directory),
    ("extraEnv", .object (extra.map fun entry => (entry.1, .text entry.2))),
    ("initializationOptions", .object [
      ("capnp", .object [
        ("compilerPath", .text info.compilerPath),
        ("importPaths", .ofTexts info.importPaths)])])]

/-- A session for the workspace that was chosen. -/
def openSession (room : Nat) (choices : Choices) (config : Config) (workspace : Option String) :
    MachineAction Session := do
  let m ← get
  let workspace := (nonempty? workspace).getD m.current
  settle (Session.create workspace choices.installDir config none none room m)

/-- How to launch the server of a session. -/
def launchInfoOf (session : Session) : MachineAction LaunchInfo := fun machine =>
  let (result, host) := Session.launchInfo { machine, session }
  (result, host.machine)

/-- How to launch the server is shown. -/
def launchInfo (room : Nat) (choices : Choices) (config : Config) (workspace : Option String) :
    Step Messages := do
  let session ← handling Fault.isProblem id (openSession room choices config workspace)
  handling (fun _ => false) id do
    let info ← launchInfoOf session
    let extra ← settle (config.processEnvironment? room)
    return { output := [(launchJson info extra).render] }

/-- A task is carried out. -/
def perform (room : Nat) (choices : Choices) (config : Config) : Task → Step Messages
  | .resolve isVerbose => resolve choices config isVerbose
  | .download version => download choices config version
  | .launchInfo workspace => launchInfo room choices config workspace

/-! ## Command lines -/

/-- The words from the command on are carried out, with the configuration that was chosen. -/
def carryOut (reader : Config.Reader) (i : Interface) (choices : Choices) (words : List String) :
    Step Messages := do
  let config ← loadConfig reader choices
  match i.task words (← get) with
  | .error result => throw (.ended result)
  | .ok task => perform reader.rooms.environment choices config task

/-- The result of a command that has come to its end, early or not; the level of logging is set. -/
def resultOf (i : Interface) (choices : Choices) (ending : Except Stop Messages) : CommandResult :=
  let result := match ending with
    | .error stop => stop.result i
    | .ok messages => messages.result i
  { result with logLevel := some choices.logLevel }

/-- A command line is carried out. -/
def run (reader : Config.Reader) (i : Interface) (words : List String) (m : Machine) :
    CommandResult × Machine :=
  match i.choices words m with
  | .error result => (result, m)
  | .ok (choices, rest) =>
    let (ending, m) := carryOut reader i choices rest m
    (resultOf i choices ending, m)

end Command

end ServerLauncher
