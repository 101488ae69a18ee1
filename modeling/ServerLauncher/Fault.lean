import ServerLauncher.ErrorNumber
import ServerLauncher.Problem
import ServerLauncher.Text.Utf8
import ServerLauncher.Url
import ServerLauncher.Value.Order

/-!
# Faults

Everything that can end an operation early: the problems that this library reports, and the errors
of what it uses — files, network transfers, processes, texts and numbers that cannot be read.

Callers tell faults apart by a few overlapping families: every failure of a web request counts as a
failure of the operating system, too, and some of them count as timeouts.

## Main definitions

* `Fault`: the faults, with `Fault.text`.
* `Fault.isSystem`, `Fault.isRequest`, `Fault.isTimeout`, `Fault.isBadValue`, `Fault.isProblem`: the
  families.
* `PlatformFacts.identify`: the platform of a machine, which has to be one of those told apart.
-/

namespace ServerLauncher

/-! ## Errors of network transfers -/

/-- The ways in which a web request fails, as the client that sends it reports them. -/
inductive RequestFailure where
  | general
  | timeout
  | connectTimeout
  | readTimeout
  | connection
  | chunkedEncoding
  | contentDecoding
  | certificate
  | invalidAddress
deriving DecidableEq, Repr

/-- The failures that mean that time ran out. -/
def RequestFailure.isTimeout : RequestFailure → Bool
  | timeout | connectTimeout | readTimeout => true
  | _ => false

/-- The ways in which a transfer fails below the client that sends the requests. -/
inductive TransportFailure where
  | badValue
  | misuse
  | system
  | connectionReset
  | timedOut
deriving DecidableEq, Repr

/-- The failures that the operating system reports. -/
def TransportFailure.isSystem : TransportFailure → Bool
  | system | connectionReset | timedOut => true
  | badValue | misuse => false

/-! ## Faults -/

/-- Everything that can end an operation early. -/
inductive Fault where
  /-- A problem that this library reports, with what caused it. -/
  | problem (p : Problem) (cause : Option Fault)
  /-- An error of the operating system. -/
  | system (errno : Nat) (path : Option String)
  /-- A web request failed. -/
  | request (failure : RequestFailure) (text : String)
  /-- A transfer failed below the client. -/
  | transport (failure : TransportFailure) (text : String)
  /-- A NUL in a path. -/
  | nullInPath
  /-- There is no configuration file. -/
  | noConfigurationFile (path : String)
  /-- A configuration file is no text. -/
  | notText (m : Utf8.Malformed)
  /-- A text is no document. -/
  | malformedDocument
  /-- A document whose scalars refer to one another without end. -/
  | endless
  /-- A number that belongs to no character. -/
  | noSuchCharacter (code : Int)
  /-- A version of the format that is not known. -/
  | unknownVersion (major minor : Nat)
  /-- A version of the format that a document must not declare. -/
  | forbiddenVersion (major minor : Nat)
  /-- A key of an ordered mapping that it has already. -/
  | repeatedKey
  /-- A text that is no truth value. -/
  | notTruth (text : String)
  /-- A text that is no integer. -/
  | notInteger (base : Nat) (text : String)
  /-- An empty text that should be a number. -/
  | emptyNumber
  /-- A number with too many digits to be read. -/
  | tooManyDigits (digits : Nat)
  /-- A number with more than one exponent. -/
  | exponentRepeated
  /-- Numbers that are no date. -/
  | calendar (issue : CalendarIssue)
  /-- A key that cannot be one. -/
  | unsuitableKey (kind : Kind)
  /-- A value that has no entries. -/
  | noEntries (kind : Kind)
  /-- A value that has no items. -/
  | noItems (kind : Kind)
  /-- Keys that have no order. -/
  | incomparable (issue : Value.OrderIssue)
  /-- A value that is no number. -/
  | number (issue : Value.NumberIssue)
  /-- A value that has no text. -/
  | unwritable (issue : Value.TextIssue)
  /-- The address of a redirect cannot be read. -/
  | address (e : UrlError)
  /-- The server of a session runs already. -/
  | alreadyRunning (workspace : String)
  /-- The user of a session gave up. -/
  | interrupted (text : String)
  /-- An error of unknown origin. -/
  | foreign (text : String)
  /-- An operation that waits for something that will never happen. -/
  | stuck
deriving Repr, Inhabited

namespace Fault

/-! ## Texts -/

/-- The issue with a number in words. -/
def numberText : Value.NumberIssue → String
  | .wrongKind kind =>
    "float() argument must be a string or a real number, not '" ++ kind.qualifiedName ++ "'"
  | .unreadable shown => "could not convert string to float: " ++ shown
  | .tooLarge => "int too large to convert to float"
  | .notAddable kind =>
    "unsupported operand type(s) for +: 'float' and '" ++ kind.qualifiedName ++ "'"

/-- Why a value has no text in words. -/
def unwritableText : Value.TextIssue → String
  | .tooLong =>
    "Exceeds the limit (4300 digits) for integer string conversion; " ++
      "use sys.set_int_max_str_digits() to increase the limit"
  | .tooDeep => "maximum recursion depth exceeded while getting the repr of an object"

/-- How a version of the document format is named in messages. -/
def versionText (major minor : Nat) : String :=
  "(" ++ toString major ++ ", " ++ toString minor ++ ")"

/-- How a workspace is named in messages. -/
def sessionText (workspace : String) : String :=
  "ServerSession[workspace_root=" ++ Text.quoted workspace ++ "]"

/-- The first code of a character that does not fit into a signed 32-bit integer. -/
def codeLimit : Nat := 2 ^ 31

/-- A fault in words.  The cause of a problem follows in parentheses, on a line of its own if the
problem takes several lines. -/
def text : Fault → String
  | problem p none => p.text
  | problem p (some cause) =>
    p.text ++ (if p.text.toList.contains '\n' then "\n" else " ") ++ "(caused by " ++ cause.text ++
      ")"
  | system errno path =>
    "[Errno " ++ toString errno ++ "] " ++ errorDescription errno ++
      (match path with
      | some path => ": " ++ Text.quoted path
      | none => "")
  | request _ text => text
  | transport _ text => text
  | nullInPath => "embedded null byte"
  | noConfigurationFile path => "Configuration file not found: " ++ path
  | notText m => m.message
  | malformedDocument => "yaml error"
  | endless => "maximum recursion depth exceeded"
  | noSuchCharacter code =>
    if codeLimit ≤ code then "Python int too large to convert to C int"
    else "chr() arg not in range(0x110000)"
  | unknownVersion major minor => versionText major minor
  | forbiddenVersion major minor =>
    "version minor part can only be 2 or 1, got " ++ versionText major minor
  | repeatedKey => ""
  | notTruth text => Text.quoted text
  | notInteger base text =>
    "invalid literal for int() with base " ++ toString base ++ ": " ++
      String.ofList ((Text.quoted text).toList.take 200)
  | emptyNumber => "string index out of range"
  | tooManyDigits digits =>
    "Exceeds the limit (4300 digits) for integer string conversion: value has " ++
      toString digits ++ " digits; use sys.set_int_max_str_digits() to increase the limit"
  | exponentRepeated => "too many values to unpack (expected 2)"
  | calendar issue => issue.message
  | unsuitableKey kind => "unhashable type: '" ++ kind.qualifiedName ++ "'"
  | noEntries kind => "'" ++ kind.qualifiedName ++ "' object has no attribute 'items'"
  | noItems kind => "'" ++ kind.qualifiedName ++ "' object is not iterable"
  | incomparable issue => issue.message
  | number issue => numberText issue
  | unwritable issue => unwritableText issue
  | address e => e.message
  | alreadyRunning workspace =>
    "Language server process already running for " ++ sessionText workspace
  | interrupted text => Text.quoted text
  | foreign text => text
  | stuck => "waiting without end"

/-! ## Families -/

/-- The problems that this library reports. -/
def isProblem : Fault → Bool
  | problem _ _ => true
  | _ => false

/-- The failures of web requests. -/
def isRequest : Fault → Bool
  | request _ _ => true
  | _ => false

/-- The failures of web requests that mean that time ran out. -/
def isTimeout : Fault → Bool
  | request failure _ => failure.isTimeout
  | _ => false

/-- The errors of the operating system, failures of web requests among them. -/
def isSystem : Fault → Bool
  | system _ _ | request _ _ | noConfigurationFile _ => true
  | transport failure _ => failure.isSystem
  | _ => false

/-- The errors that mean that a value cannot be used. -/
def isBadValue : Fault → Bool
  | notText _ | tooManyDigits _ | exponentRepeated | address _ | notInteger _ _ => true
  | nullInPath => true
  | unwritable issue => issue == .tooLong
  | noSuchCharacter code => code < codeLimit
  | calendar issue => issue != .beyondCalendar
  | number (.unreadable _) => true
  | transport .badValue _ => true
  | request .invalidAddress _ => true
  | _ => false

/-- The errors that mean that something exists already. -/
def isExistingFile : Fault → Bool
  | system errno _ => errno == errnoExists
  | _ => false

/-- The errors that mean that there is no such file. -/
def isMissingFile : Fault → Bool
  | system errno _ => errno == errnoMissing
  | noConfigurationFile _ => true
  | _ => false

end Fault

/-! ## Platforms -/

/-- The platform that the facts spell; a machine of any other is a problem. -/
def PlatformFacts.identify (facts : PlatformFacts) : Except Fault PlatformId :=
  match facts.detect with
  | some p => .ok p
  | none => .error (.problem (.unknownPlatform facts) none)

end ServerLauncher
