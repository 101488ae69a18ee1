import ServerLauncher.Fault
import ServerLauncher.Value.Basic

/-!
# Downloads

What a download sends along with its requests, and how it ends.
-/

namespace ServerLauncher

/-- How files are downloaded: the name under which requests are sent, and the size of the parts in
which an answer is read. -/
structure Downloader where
  userAgent : String := "capnls-client"
  chunkSize : Int := 64 * 1024
deriving DecidableEq, Repr

/-- The kind of content that is asked for. -/
def Downloader.accept : String := "application/octet-stream"

/-- The end of a download: the number of bytes written, or a problem with its cause. -/
inductive FetchOutcome where
  | succeeded (bytesWritten : Nat)
  | failed (problem : Problem) (cause : Option Fault)
deriving Repr, Inhabited

namespace FetchOutcome

/-- Whether a download has succeeded. -/
def isSuccess : FetchOutcome → Bool
  | succeeded _ => true
  | failed _ _ => false

/-- The number of bytes that a successful download has written. -/
def bytesWritten : FetchOutcome → Nat
  | succeeded n => n
  | failed _ _ => 0

/-- The fault of a failed download. -/
def fault? : FetchOutcome → Option Fault
  | succeeded _ => none
  | failed problem cause => some (.problem problem cause)

/-- What kind of failure a download has ended in. -/
def kind? : FetchOutcome → Option DownloadFailureKind
  | succeeded _ => none
  | failed problem _ => match problem.category with
    | .download kind _ => some kind
    | _ => none

end FetchOutcome

/-- A value as a number of seconds. -/
def secondsOf (value : Value) : Except Fault Double :=
  match value.seconds with
  | .ok x => .ok x
  | .error issue => .error (.number issue)

end ServerLauncher
