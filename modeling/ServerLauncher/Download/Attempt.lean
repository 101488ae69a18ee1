import ServerLauncher.Download.Basic
import ServerLauncher.Machine.FileActions
import ServerLauncher.Machine.NetworkActions
import ServerLauncher.Release

/-!
# An attempt at a download

An attempt requests a file, following one redirect at most, writes the body of the answer to the
target, checks that the file is not empty, and makes it executable.  It has a deadline: when that
has passed at one of the checks between and inside these stages, the attempt fails.

Each stage turns the errors it expects into problems of a download.  Whatever it does not expect
ends the attempt as it is.

## Main definitions

* `Attempt`: an attempt, with `Attempt.isExpired` and `Attempt.remaining`.
* `Attempt.request`, `Attempt.stream`, `Attempt.verify`, `Attempt.makeExecutable`: the stages.
* `Attempt.run`: the stages in turn.
* `Attempt.perform`: the stages and what follows them, whether they succeed or not.
* `Downloader.download`: an attempt from its beginning to its end.
* `Downloader.fetch`: the download of a release.
-/

namespace ServerLauncher

/-- An attempt at a download. -/
structure Attempt where
  downloader : Downloader
  url : String
  target : String
  timeout : Double
  /-- The deadline. -/
  finish : Time

namespace Attempt

open MachineAction

/-! ## The deadline -/

/-- Whether the deadline has passed at a moment. -/
def isExpiredAt (a : Attempt) (w : World) : Bool :=
  w.transfer.hasExpired || w.time.reaches a.finish

/-- Whether the deadline has passed. -/
def isExpired (a : Attempt) : MachineAction Bool := observe (a.isExpiredAt ·.toWorld)

/-- The fault of a passed deadline. -/
def timeoutFault (a : Attempt) (cause : Option Fault) : Fault :=
  .problem (.timedOut a.timeout) cause

/-- The time left until the deadline. -/
def remaining (a : Attempt) : MachineAction Time := do
  let m ← get
  let left := m.arithmetic.minus a.finish m.time
  if left.before .zero || m.transfer.hasExpired then throw (a.timeoutFault none) else return left

/-- The attempt fails if the deadline has passed. -/
def checkDeadline (a : Attempt) : MachineAction Unit := do
  if ← a.isExpired then throw (a.timeoutFault none)

/-- A change of the transfer. -/
def updateTransfer (f : Transfer → Transfer) : MachineAction Unit :=
  change fun m => { m with transfer := f m.transfer }

/-- The alarm is set to the deadline. -/
def arm (a : Attempt) : MachineAction Unit := do
  let left ← a.remaining
  change fun m => { m with transfer := { m.transfer with
    alarm := match m.arithmetic.micros? left with
      | some micros => .at (m.now + micros)
      | none => .never } }

/-- The alarm is switched off. -/
def disarm : MachineAction Unit := updateTransfer fun t => { t with alarm := .off }

/-! ## The request -/

/-- The statuses of answers that say where else to ask. -/
def redirectStatuses : List Int := [301, 302]

/-- A request is sent and its answer received in time. -/
def get (a : Attempt) (url : String) : MachineAction (Nat × Response) := do
  let left ← a.remaining
  let m ← MonadState.get
  let e : Event := .request url (m.arithmetic.micros? left) a.downloader.userAgent
    Downloader.accept true false
  match ← attempt (MachineAction.request e url) with
  | .ok (id, response) =>
    updateTransfer fun t => { t with connection := some id }
    if ← a.isExpired then
      closeConnection id
      throw (a.timeoutFault none)
    else return (id, response)
  | .error fault =>
    if !fault.isRequest then throw fault
    else if fault.isTimeout then throw (a.timeoutFault (some fault))
    else if ← a.isExpired then throw (a.timeoutFault (some fault))
    else throw (.problem (.requestFailed url) (some fault))

/-- The address that a redirect leads to. -/
def redirectAddress (a : Attempt) (r : Response) : Except Fault String :=
  match r.header? "Location" with
  | none | some "" => .error (.problem (.redirectWithoutLocation r.status r.reason) none)
  | some location => match Url.join a.url location with
    | .ok url => .ok url
    | .error e => .error (.address e)

/-- A redirect is followed, once. -/
def follow (a : Attempt) (id : Nat) (r : Response) : MachineAction (Nat × Response) := do
  if redirectStatuses.contains r.status then
    closeConnection id
    let url ← settle (a.redirectAddress r)
    record .info .download ("Following redirect to " ++ url)
    a.get url
  else return (id, r)

/-- The file is requested.  The result is the number of a connection whose answer means success. -/
def request (a : Attempt) : MachineAction Nat := do
  let (first, r) ← a.get a.url
  let (id, r) ← a.follow first r
  if r.status ≠ 200 then
    closeConnection id
    throw (.problem (.badStatus r.status r.reason) none)
  else return id

/-! ## The body -/

/-- The number of bytes in a megabyte. -/
def megabyte : Nat := 1024 * 1024

/-- A chunk is written.  The result is the number of megabytes that have been reported. -/
def writeChunk (l : Location) (reported : Nat) (bytes : ByteArray) : MachineAction Nat := do
  writeFile l bytes
  updateTransfer fun t => { t with written := t.written + bytes.size }
  let megabytes := (← MonadState.get).transfer.written / megabyte
  if reported < megabytes then
    record .info .download ("Downloaded " ++ toString megabytes ++ " MB...")
    return megabytes
  else return reported

/-- The chunks of a body are written until its end, at most `n - 1` of them.  The deadline is
checked before each and at the end. -/
def copy (a : Attempt) (id : Nat) (l : Location) : Nat → Nat → MachineAction Unit
  | 0, _ => return ()
  | n + 1, reported => do
    match ← nextChunk id with
    | none => a.checkDeadline
    | some bytes =>
      a.checkDeadline
      if bytes.size = 0 then a.copy id l n reported
      else a.copy id l n (← writeChunk l reported bytes)

/-- The number of chunks that a connection has left. -/
def chunksLeft (id : Nat) (m : Machine) : Nat :=
  match m.network.connection? id with
  | some c => c.chunks.length
  | none => 0

/-- The body is written to an opened file. -/
def pour (a : Attempt) (id : Nat) (l : Location) : MachineAction Unit := do
  match ← connection? id with
  | none => return ()
  | some c =>
    event (.read c.url a.downloader.chunkSize)
    a.copy id l ((← observe (chunksLeft id)) + 1) 0

/-- The body is written to an opened file, which is then closed. -/
def fill (a : Attempt) (id : Nat) (l : Location) : MachineAction Unit := do
  updateTransfer fun t => { t with hasOpened := true }
  let result ← attempt (a.pour id l)
  closeFile l
  settle result

/-- The body is written to the target. -/
def save (a : Attempt) (id : Nat) : MachineAction Unit := do
  makeDirectoryFor a.target
  a.fill id (← openFile a.target)

/-- The problem of the download that a fault in its body is. -/
def bodyFault (a : Attempt) (url : String) (hasExpired : Bool) (fault : Fault) : Fault :=
  if fault.isRequest then
    if fault.isTimeout || hasExpired then a.timeoutFault (some fault)
    else .problem (.transferFailed url) (some fault)
  else if fault.isSystem then .problem (.notWritten a.target) (some fault)
  else fault

/-- How the writing of a body ends, once the connection is closed. -/
def conclude (a : Attempt) (url : String) : Except Fault Unit → MachineAction Unit
  | .ok () => return ()
  | .error fault => do throw (a.bodyFault url (← a.isExpired) fault)

/-- The body is written to the target and the connection closed. -/
def stream (a : Attempt) (id : Nat) : MachineAction Unit := do
  let url := ((← connection? id).map (·.url)).getD a.url
  let result ← attempt (a.save id)
  closeConnection id
  a.conclude url result

/-! ## The file -/

/-- An error of the operating system as a problem of the download. -/
def guarding {α : Type} (problem : Problem) (x : MachineAction α) : MachineAction α := do
  match ← attempt x with
  | .ok result => return result
  | .error fault => throw (if fault.isSystem then .problem problem (some fault) else fault)

/-- The file must not be empty. -/
def verify (a : Attempt) : MachineAction Unit := do
  let (size, _) ← guarding (.sizeUnknown a.target) (fileStatus a.target)
  if size = 0 then throw (.problem .emptyArtifact none)
  else record .info .download ("Downloaded file size: " ++ toString size ++ " bytes")

/-- Everybody is permitted to execute a file. -/
def permitExecution (path : String) : MachineAction Unit := do
  let (_, mode) ← fileStatus path
  setMode path (mode ||| executeBits)

/-- The file is made executable, where there is such a thing. -/
def makeExecutable (a : Attempt) : MachineAction Unit := do
  let _ ← a.remaining
  if ← observe (·.lacksExecuteBits) then return ()
  else guarding (.notExecutable a.target) (permitExecution a.target)

/-- The stages until the file is complete. -/
def deliver (a : Attempt) : MachineAction Unit := do
  a.arm
  let id ← a.request
  a.stream id
  a.verify

/-- All stages.  The result is the number of bytes written. -/
def run (a : Attempt) : MachineAction Nat := do
  a.deliver
  a.makeExecutable
  return (← MonadState.get).transfer.written

/-- What a failed attempt has written is removed. -/
def removePartial (a : Attempt) : MachineAction Unit := do
  if !(← MonadState.get).transfer.hasOpened then return ()
  else match ← attempt (removeFile a.target) with
    | .ok () => record .info .download ("Removed partial download at " ++ a.target)
    | .error fault =>
      if fault.isMissingFile then return ()
      else
        record .error .download
          ("Could not remove partial download at " ++ a.target ++ ": " ++ fault.text)

/-- How an attempt ends whose stages have had a result.  Problems are part of the outcome, other
faults escape. -/
def outcomeOf : Except Fault Nat → Except Fault FetchOutcome
  | .ok written => .ok (.succeeded written)
  | .error (.problem problem cause) => .ok (.failed problem cause)
  | .error fault => .error fault

/-- The result of the stages is told to the user, unless it is a fault that nobody expects. -/
def report (a : Attempt) : Except Fault Nat → MachineAction Unit
  | .ok _ => record .info .download ("Download completed and file made executable: " ++ a.target)
  | .error (.problem problem cause) =>
    record .error .download
      ("Download of " ++ a.url ++ " failed: " ++ (Fault.problem problem cause).text)
  | .error _ => return ()

/-- A failed attempt leaves no file behind. -/
def cleanUp (a : Attempt) : Except Fault Nat → MachineAction Unit
  | .ok _ => return ()
  | .error _ => a.removePartial

/-- All stages, and what follows them whether they succeed or not. -/
def perform (a : Attempt) : MachineAction FetchOutcome := do
  let result ← attempt a.run
  a.report result
  disarm
  a.cleanUp result
  settle (outcomeOf result)

/-- An attempt begins. -/
def begin (a : Attempt) : MachineAction Unit := do
  updateTransfer fun _ => {}
  record .info .download ("Downloading " ++ a.url ++ " to " ++ a.target)

end Attempt

/-! ## Downloading -/

namespace Downloader

open MachineAction

/-- An attempt to download a file within a time in seconds, which counts from now. -/
def attemptOn (d : Downloader) (url target : String) (timeout : Double) (m : Machine) : Attempt :=
  ⟨d, url, target, timeout, m.arithmetic.plus m.time (.ofSeconds timeout)⟩

/-- A file is downloaded within a time in seconds.  A failed download leaves no file behind. -/
def download (d : Downloader) (url target : String) (timeout : Double) :
    MachineAction FetchOutcome := do
  let a ← observe (d.attemptOn url target timeout)
  a.begin
  a.perform

/-- A file is downloaded within the time that a value stands for. -/
def downloadWithin (d : Downloader) (url target : String) (timeout : Value) :
    MachineAction FetchOutcome := do
  d.download url target (← settle (secondsOf timeout))

/-- The server of a release is downloaded. -/
def fetch (d : Downloader) (spec : DownloadSpec) (timeout : Value) :
    MachineAction FetchOutcome := do
  record .info .download
    ("Downloading capnp-ls version " ++ spec.version ++ " for " ++ spec.platform.text)
  d.downloadWithin spec.url spec.target timeout

end Downloader

end ServerLauncher
