import ServerLauncher.Platform
import ServerLauncher.Policy
import ServerLauncher.Number.Text
import ServerLauncher.Value.Basic

/-!
# Problems of launching a server

The problems that this library finds by itself, each with the category under which it is reported
and its text.  What goes wrong outside the library is a `Fault`, which may be the cause of a
problem.

## Main definitions

* `DownloadFailureKind`: the kinds of failed downloads.
* `Category`: what a problem is about.
* `Problem`: the problems, with `Problem.category` and `Problem.text`.
-/

namespace ServerLauncher

/-! ## Kinds of failed downloads -/

/-- What went wrong in a download. -/
inductive DownloadFailureKind where
  | redirectWithoutLocation
  | nonSuccessStatus
  | emptyArtifact
  | timeout
  | filesystemError
  | networkError
deriving DecidableEq, Repr

namespace DownloadFailureKind

/-- All kinds. -/
def all : List DownloadFailureKind :=
  [redirectWithoutLocation, nonSuccessStatus, emptyArtifact, timeout, filesystemError, networkError]

/-- The name of a kind. -/
def text : DownloadFailureKind → String
  | redirectWithoutLocation => "redirect_without_location"
  | nonSuccessStatus => "non_success_status"
  | emptyArtifact => "empty_artifact"
  | timeout => "timeout"
  | filesystemError => "filesystem_error"
  | networkError => "network_error"

/-- The kind with a given name. -/
def ofText? (s : String) : Option DownloadFailureKind := all.find? fun k => k.text == s

end DownloadFailureKind

/-! ## Problems -/

/-- What a problem is about.  A failed download has a kind and, where a server answered with it, a
status code. -/
inductive Category where
  | general
  | configuration
  | workspaceMissing
  | serverNotFound
  | unsupportedPlatform
  | download (kind : DownloadFailureKind) (status : Option Int)
deriving DecidableEq, Repr

/-- The problems of configuring, finding, downloading and launching a server. -/
inductive Problem where
  /-- A problem in words of its own. -/
  | described (category : Category) (text : String)
  /-- The policy has no known name. -/
  | unknownPolicy (name : String)
  /-- The extra environment is no mapping. -/
  | environmentNotMapping (kind : Kind)
  /-- A configuration file is no document. -/
  | invalidDocument (path : String)
  /-- A configuration file holds something other than a mapping. -/
  | documentNotMapping (path : String)
  /-- There is no workspace. -/
  | noWorkspace
  /-- The configured server does not exist. -/
  | serverMissing (path : String)
  /-- The machine is none of the platforms that are told apart. -/
  | unknownPlatform (facts : PlatformFacts)
  /-- There is no prebuilt server for a platform. -/
  | noPrebuilt (platform : Option PlatformId)
  /-- The time for a download has passed. -/
  | timedOut (timeout : Double)
  /-- A request failed. -/
  | requestFailed (url : String)
  /-- Reading an answer failed. -/
  | transferFailed (url : String)
  /-- A redirect does not say where to. -/
  | redirectWithoutLocation (status : Int) (reason : Option String)
  /-- The status of an answer is not that of success. -/
  | badStatus (status : Int) (reason : Option String)
  /-- A downloaded file cannot be written. -/
  | notWritten (path : String)
  /-- A downloaded file cannot be inspected. -/
  | sizeUnknown (path : String)
  /-- A downloaded file is empty. -/
  | emptyArtifact
  /-- A downloaded file cannot be made executable. -/
  | notExecutable (path : String)
deriving DecidableEq, Repr

namespace Problem

/-- What a problem is about. -/
def category : Problem → Category
  | described category _ => category
  | unknownPolicy _ | environmentNotMapping _ | invalidDocument _ | documentNotMapping _ =>
    .configuration
  | noWorkspace => .workspaceMissing
  | serverMissing _ => .serverNotFound
  | unknownPlatform _ | noPrebuilt _ => .unsupportedPlatform
  | timedOut _ => .download .timeout none
  | requestFailed _ | transferFailed _ => .download .networkError none
  | redirectWithoutLocation status _ => .download .redirectWithoutLocation (some status)
  | badStatus status _ => .download .nonSuccessStatus (some status)
  | notWritten _ | sizeUnknown _ | notExecutable _ => .download .filesystemError none
  | emptyArtifact => .download .emptyArtifact none

/-- The status line of an answer; a missing reason is written as `None`. -/
def statusLine (status : Int) (reason : Option String) : String :=
  toString status ++ " " ++ reason.getD "None"

/-- A problem in words, without its cause. -/
def text : Problem → String
  | described _ text => text
  | unknownPolicy name =>
    "Invalid server path policy '" ++ name ++ "'; valid values: ['strict', 'fallback']"
  | environmentNotMapping kind => "extra_env must be a mapping, got " ++ kind.name
  | invalidDocument path => "Invalid YAML in configuration file " ++ path
  | documentNotMapping path =>
    "Configuration file " ++ path ++ " must contain a mapping at the top level"
  | noWorkspace => "No workspace folder is opened"
  | serverMissing path =>
    "Configured language server path " ++ path ++ " does not exist. " ++
      "Fix languageServer.path or set server_path_policy to 'fallback' to search for capnp-ls " ++
      "instead."
  | unknownPlatform facts =>
    "Unknown platform: system=" ++ Text.quoted facts.system ++ ", machine=" ++
      Text.quoted facts.machine ++ ", bitness=" ++ Text.quoted facts.bitness
  | noPrebuilt platform =>
    "No prebuilt capnp-ls is available for platform " ++
      (platform.map PlatformId.label).getD "None"
  | timedOut timeout => "Download timed out after " ++ timeout.general ++ " seconds"
  | requestFailed url => "Error requesting " ++ url
  | transferFailed url => "Error while downloading from " ++ url
  | redirectWithoutLocation status reason =>
    "Redirect location not found: " ++ statusLine status reason
  | badStatus status reason => "Failed to download: " ++ statusLine status reason
  | notWritten path => "Error writing " ++ path
  | sizeUnknown path => "Error checking file size of " ++ path
  | emptyArtifact => "Downloaded file is empty (0 bytes)"
  | notExecutable path => "Error making " ++ path ++ " executable"

end Problem

end ServerLauncher
