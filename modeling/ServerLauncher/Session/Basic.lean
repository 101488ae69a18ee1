import ServerLauncher.Acquirer
import ServerLauncher.Machine.ServerActions

/-!
# Sessions

A session owns the server of one workspace.  It finds out how to launch the server once, when that
is first needed, and holds the running server, if there is one.

## Main definitions

* `Session`, `LaunchInfo`.
* `SessionAction`: an action on a machine and a session.
* `Session.create`: a new session.
* `Session.launchInfo`: how to launch the server.
* `Session.isRunning`, `Session.start`: the running server.
-/

namespace ServerLauncher

/-- How to launch the server. -/
structure LaunchInfo where
  /-- The path of the server, or a bare command name. -/
  command : String
  /-- The directory that the server runs in. -/
  directory : String
  /-- All environment variables of the server. -/
  environment : Environment
  /-- The path of the compiler, for the client to hand on. -/
  compilerPath : String
  /-- The paths to search for imports, for the client to hand on. -/
  importPaths : List String
deriving DecidableEq, Repr

/-- The words of the command; the server takes no arguments. -/
def LaunchInfo.commandLine (info : LaunchInfo) : List String := [info.command]

/-- The owner of the server of a workspace. -/
structure Session where
  workspaceRoot : String
  config : Config
  /-- The variables for references in configured paths; without them the environment of the machine
  counts. -/
  bindings : Option Environment := none
  acquirer : Acquirer
  /-- How many levels of collections the keys and values of the extra environment may hold. -/
  room : Nat := Config.Rooms.usual.environment
  acquisition : Option Acquisition := none
  launch : Option LaunchInfo := none
  /-- The number of the program that the session holds. -/
  server : Option Nat := none

/-- A machine with a session on it. -/
structure Host where
  machine : Machine
  session : Session

/-- A function from a machine and a session to a result or a fault, and both afterwards. -/
abbrev SessionAction := ExceptT Fault (StateM Host)

namespace SessionAction

/-- An action of the machine alone. -/
def onMachine {α : Type} (x : MachineAction α) : SessionAction α :=
  fun h => let (result, machine) := x h.machine; (result, { h with machine })

/-- The result of an action, whether it is a fault or not. -/
def attempt {α : Type} (x : SessionAction α) : SessionAction (Except Fault α) :=
  fun h => let (result, h) := x h; (.ok result, h)

/-- A result, which may be a fault. -/
def settle {α : Type} (result : Except Fault α) : SessionAction α := fun h => (result, h)

/-- A change of the session. -/
def update (f : Session → Session) : SessionAction Unit :=
  modify fun h => { h with session := f h.session }

/-- A record is written. -/
def record (level : Level) (message : String) : SessionAction Unit :=
  onMachine (.record level .session message)

end SessionAction

namespace Session

open SessionAction

/-- A new session for a workspace, with an acquirer of its own if none is given. -/
def create (workspaceRoot installDir : String) (config : Config) (acquirer : Option Acquirer)
    (bindings : Option Environment) (room : Nat) (m : Machine) : Except Fault Session :=
  if workspaceRoot.isEmpty then .error (.problem .noWorkspace none)
  else .ok {
    workspaceRoot := m.absolute workspaceRoot
    config
    bindings
    acquirer := acquirer.getD (.create installDir bindings {} none m)
    room }

/-- The session in words. -/
def text (s : Session) : String := Fault.sessionText s.workspaceRoot

/-! ## Launching -/

/-- The directory of the server; for a bare command name, that of the workspace. -/
def directoryOf (s : Session) (command : String) : String :=
  let directory := Path.directory command
  if directory.isEmpty then s.workspaceRoot else directory

/-- How to launch the server.  That is found out once and kept. -/
def launchInfo : SessionAction LaunchInfo := do
  let s := (← get).session
  match s.launch with
  | some info => return info
  | none =>
    let acquisition ← onMachine (s.acquirer.acquire s.config none)
    update fun s => { s with acquisition := some acquisition }
    let m := (← get).machine
    let bindings := m.bindings s.bindings
    let compilerPath := Template.resolve bindings s.config.compilerPath
    let importPaths := Template.resolveAll bindings s.config.importPaths
    record .info ("Server path: " ++ acquisition.path)
    record .info ("Compiler path: " ++ compilerPath)
    record .info ("Import paths: " ++ ", ".intercalate importPaths)
    let extra ← settle (s.config.processEnvironment? s.room)
    let info : LaunchInfo := {
      command := acquisition.path
      directory := s.directoryOf acquisition.path
      environment := m.environment.update extra
      compilerPath
      importPaths }
    update fun s => { s with launch := some info }
    return info

/-! ## The running server -/

/-- Whether the session holds a server that has not ended. -/
def isRunningOn (h : Host) : Bool :=
  match h.session.server with
  | some id => h.machine.isAlive id
  | none => false

/-- Whether the session holds a server that has not ended. -/
def isRunning : SessionAction Bool := return isRunningOn (← get)

/-- The words of a command as they are shown. -/
def shownCommand (words : List String) : String :=
  "[" ++ ", ".intercalate (words.map Text.quoted) ++ "]"

/-- The server is started.  The result is the number of the program. -/
def start : SessionAction Nat := do
  let s := (← get).session
  if ← isRunning then throw (.alreadyRunning s.workspaceRoot)
  onMachine (s.acquirer.verifyOverride s.config)
  let info ← launchInfo
  record .info ("Starting language server process via command: " ++ shownCommand info.commandLine)
  let id ← onMachine (.start info.commandLine info.directory info.environment)
  update fun s => { s with server := some id }
  return id

end Session

end ServerLauncher
