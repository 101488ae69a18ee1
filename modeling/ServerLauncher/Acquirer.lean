import ServerLauncher.Config.Basic
import ServerLauncher.Download.Attempt

/-!
# Finding the server

The path of the server is determined in four ways, tried one after the other: a configured path, a
search of the installation directory and the search path, a download, and the bare command name.  A
server that is not found is no error; a trail of diagnostics says what has been tried.

## Main definitions

* `Acquirer`: what finds the server.
* `Acquisition`: a path with its source and the trail.
* `Acquirer.override`, `Acquirer.candidates`, `Acquirer.search`: the parts.
* `Acquirer.acquire`: all of it.
-/

namespace ServerLauncher

/-- What finds the server for an installation directory. -/
structure Acquirer where
  /-- The installation directory, an absolute path. -/
  installDir : String
  /-- The variables for references in configured paths; without them the environment of the machine
  counts. -/
  bindings : Option Environment := none
  downloader : Downloader := {}
  platform : Option PlatformId

/-- The way in which a path was determined. -/
inductive AcquisitionSource where
  | override
  | candidate
  | download
  | fallback
deriving DecidableEq, Repr

/-- The name of a source. -/
def AcquisitionSource.text : AcquisitionSource → String
  | override => "override"
  | candidate => "candidate"
  | download => "download"
  | fallback => "fallback"

/-- The path of the server, how it was determined, and what was tried. -/
structure Acquisition where
  path : String
  source : AcquisitionSource
  diagnostics : List String
deriving DecidableEq, Repr

/-- The variables that references in configured paths are looked up in on a machine. -/
def Machine.bindings (m : Machine) (given : Option Environment) : Environment :=
  given.getD m.environment

/-- A path with an absolute form on a machine.  The current directory is taken to be there: without
one there would be no answer. -/
def Machine.absolute (m : Machine) (path : String) : String := Path.absolute m.current path

namespace Acquirer

open MachineAction

/-- An acquirer for an installation directory and a platform, that of the machine if none is
given. -/
def create (installDir : String) (bindings : Option Environment) (downloader : Downloader)
    (platform : Option PlatformId) (m : Machine) : Acquirer :=
  { installDir := m.absolute installDir, bindings, downloader,
    platform := platform.or m.platform? }

/-- The file name of the server. -/
def binaryName (a : Acquirer) : String := ServerLauncher.binaryName a.platform

/-- The command that is used when nothing is found; it is looked up when it is started. -/
def fallbackCommand (a : Acquirer) : String := a.binaryName

/-! ## The configured path -/

/-- The configured path as it is seen from the installation directory, if there is one. -/
def override? (a : Acquirer) (config : Config) (environment : Environment) : Option String :=
  let path := Template.resolve environment config.serverPath
  if path.isEmpty then none else some (Path.join a.installDir path)

/-- The configured path on a machine. -/
def overrideOn? (a : Acquirer) (config : Config) (m : Machine) : Option String :=
  a.override? config (m.bindings a.bindings)

/-- A configured path has to exist under the strict policy. -/
def verifyOverride (a : Acquirer) (config : Config) : MachineAction Unit := do
  match ← observe (a.overrideOn? config) with
  | none => return ()
  | some path =>
    if config.policy = .strict && !(← pathExists path) then
      throw (.problem (.serverMissing path) none)

/-! ## The search -/

/-- The directories of a search path. -/
def directories (searchPath : String) : List String :=
  ((Text.splitAt ':' searchPath.toList).map String.ofList).filter (!·.isEmpty)

/-- The elements of a list, each where it occurs first. -/
def distinct : List String → List String
  | [] => []
  | x :: xs => x :: (distinct xs).filter (· ≠ x)

/-- The paths to try, those of a search path seen from a current directory. -/
def candidatesFrom (a : Acquirer) (current searchPath : String) : List String :=
  distinct (Path.join a.installDir a.binaryName ::
    (directories searchPath).map fun d => Path.join (Path.absolute current d) a.binaryName)

/-- The paths to try on a machine, whose search path counts if none is given. -/
def candidates (a : Acquirer) (searchPath : Option String) (m : Machine) : List String :=
  a.candidatesFrom m.current (searchPath.getD ((m.environment.get? "PATH").getD ""))

/-- Whether files are executable whatever their permissions. -/
def ignoresPermissions (a : Acquirer) : Bool :=
  match a.platform with
  | some p => p.isWindows
  | none => false

/-- The first path that leads to an executable file, and what is to be said about the paths up to
it. -/
def search (a : Acquirer) (files : FileTree) (current : Location) :
    List String → Option String × List String
  | [] => (none, [])
  | path :: rest =>
    if !files.isFile current path then a.search files current rest
    else if files.isExecutable current path then
      (some path, ["Found language server at: " ++ path])
    else
      let diagnostic := "Found language server at " ++ path ++ " but it's not executable"
      if a.ignoresPermissions then (some path, [diagnostic])
      else
        let (found, diagnostics) := a.search files current rest
        (found, diagnostic :: diagnostics)

/-- The search on a machine. -/
def searchOn (a : Acquirer) (paths : List String) (m : Machine) : Option String × List String :=
  a.search m.files m.location paths

/-! ## Acquisition -/

/-- An acquisition is told to the user. -/
def report (result : Acquisition) : MachineAction Acquisition := do
  change fun m => result.diagnostics.foldl (fun m d => m.record .info .acquirer d) m
  if result.source = .fallback then
    record .warning .acquirer
      "Could not find capnp-ls executable. Make sure it is installed and in your PATH."
  return result

/-- The bare command name, after what has been tried. -/
def fallBack (a : Acquirer) (diagnostics : List String) : MachineAction Acquisition :=
  report ⟨a.fallbackCommand, .fallback, diagnostics ++
    ["Could not find capnp-ls, falling back to \"" ++ a.fallbackCommand ++ "\" command"]⟩

/-- The server is downloaded, after what has been tried. -/
def downloadOr (a : Acquirer) (config : Config) (diagnostics : List String) :
    MachineAction Acquisition := do
  match DownloadSpec.forPlatform config.serverVersion a.platform a.installDir with
  | none =>
    let name := (a.platform.map PlatformId.text).getD "unknown"
    a.fallBack (diagnostics ++ ["No prebuilt capnp-ls is available for platform " ++ name])
  | some spec =>
    if !config.downloadEnabled then
      a.fallBack (diagnostics ++ ["Download of capnp-ls is disabled"])
    else
      let diagnostics := diagnostics ++ ["Binary not found, attempting to download capnp-ls " ++
        spec.version ++ " from " ++ spec.url]
      let outcome ← a.downloader.fetch spec (.real config.downloadTimeout)
      match outcome.fault? with
      | none =>
        report ⟨spec.target, .download, diagnostics ++
          ["Successfully downloaded capnp-ls version " ++ spec.version ++ " to " ++ spec.target]⟩
      | some fault =>
        a.fallBack (diagnostics ++ ["Failed to download capnp-ls: " ++ fault.text])

/-- The server is searched for and, if need be, downloaded, after what has been tried. -/
def searchOr (a : Acquirer) (config : Config) (searchPath : Option String)
    (diagnostics : List String) : MachineAction Acquisition := do
  let (found, more) ← observe fun m => a.searchOn (a.candidates searchPath m) m
  match found with
  | some path => report ⟨path, .candidate, diagnostics ++ more⟩
  | none => a.downloadOr config (diagnostics ++ more)

/-- The path of the server is determined. -/
def acquire (a : Acquirer) (config : Config) (searchPath : Option String) :
    MachineAction Acquisition := do
  match ← observe (a.overrideOn? config) with
  | none => a.searchOr config searchPath []
  | some path =>
    if config.policy = .fallback && !(← pathExists path) then
      a.searchOr config searchPath ["Configured server path " ++ path ++
        " does not exist, searching for " ++ a.binaryName ++ " instead"]
    else report ⟨path, .override, ["Using configured server path: " ++ path]⟩

end Acquirer

end ServerLauncher
