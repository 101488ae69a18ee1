import ServerLauncher.Machine.Files
import ServerLauncher.Machine.Network
import ServerLauncher.Machine.Servers
import ServerLauncher.Machine.Time
import ServerLauncher.Platform
import ServerLauncher.Record
import ServerLauncher.Template

/-!
# The machine

Everything outside the library that it observes or changes: the clock, files, the environment, the
network, programs, and what has been observed and recorded so far.  An action of the library is a
function from a machine to a result or a fault, and the machine afterwards; what an action has done
to the machine remains when it ends in a fault.

A machine remembers what it has been.  No action looks at that; it is there so that what holds at
every moment of an action can be said, and not only what holds at its end.

Time passes only in a few actions.  While a transfer runs, the machine holds an alarm that goes off
when the clock reaches its time; it marks the transfer as expired and shuts the connection down that
the transfer holds.

## Main definitions

* `World`, `Machine`, `Event`, `Transfer`, `Disturbance`.
* `MachineAction`, with `MachineAction.attempt`, `MachineAction.settle` and
  `MachineAction.moments`.
* `Machine.advanceTo`, `Machine.ring`: the clock and the alarm.
-/

namespace ServerLauncher

/-! ## Events -/

/-- What the library has done that can be seen from outside. -/
inductive Event where
  | request (url : String) (timeout : Option Nat) (userAgent accept : String)
    (isStreamed followsRedirects : Bool)
  | read (url : String) (chunkSize : Int)
  | shutdown (url : String)
  | close (url : String)
  | start (pid : Int) (command : List String) (directory : String) (environment : Environment)
  | terminate (pid : Int)
  | kill (pid : Int)
  | terminateFailed (pid : Int)
  | killFailed (pid : Int)
  | closePipe (pid : Int) (pipe : Pipe)
deriving DecidableEq, Repr

/-! ## Disturbances -/

/-- The operations on files that can be disturbed. -/
inductive FileOperation where
  | mkdir
  | open
  | write
  | close
  | stat
  | chmod
  | remove
deriving DecidableEq, Repr

/-- An operation on files that takes time or fails: the one with a given number, counted from one.
The delay is in microseconds. -/
structure Disturbance where
  operation : FileOperation
  number : Nat := 1
  delay : Nat := 0
  errno : Option Nat := none
deriving DecidableEq, Repr

/-! ## Transfers -/

/-- The alarm of a transfer. -/
inductive Alarm where
  | off
  /-- On, for a time that never comes. -/
  | never
  | at (time : Nat)
deriving DecidableEq, Repr

/-- The state of a transfer. -/
structure Transfer where
  alarm : Alarm := .off
  /-- Whether the alarm has gone off. -/
  hasExpired : Bool := false
  /-- The number of the connection that the transfer holds. -/
  connection : Option Nat := none
  /-- Whether the file to be written has been opened. -/
  hasOpened : Bool := false
  /-- The number of bytes that have been written. -/
  written : Nat := 0
deriving DecidableEq, Repr

/-! ## The machine -/

/-- Everything outside the library that it observes or changes, at one moment. -/
structure World where
  /-- The clock, in microseconds. -/
  now : Nat := 0
  arithmetic : Arithmetic := .binary
  files : FileTree := {}
  /-- The locations of the files that are open for writing. -/
  opened : List Location := []
  /-- The path of the current directory. -/
  current : String := "/work"
  environment : Environment := []
  /-- Whether the operating system has no permission to execute files. -/
  lacksExecuteBits : Bool := false
  facts : PlatformFacts := ⟨"Linux", "x86_64", "64bit", "glibc"⟩
  network : Network := {}
  /-- What happens when the next programs are started. -/
  plans : List StartPlan := []
  started : List Started := []
  disturbances : List Disturbance := []
  /-- How often each operation on files has been used. -/
  uses : FileOperation → Nat := fun _ => 0
  transfer : Transfer := {}
  events : List Event := []
  records : List Record := []

namespace World

/-- The location of the current directory. -/
def location (w : World) : Location := FileTree.locate w.current

/-- The time on the clock. -/
def time (w : World) : Time := w.arithmetic.ofMicros w.now

end World

/-- What a machine is, and what it has been. -/
structure Machine extends World where
  /-- The moments that have passed, the latest first. -/
  past : List World := []

namespace Machine

/-- The machine as it goes on: its present has become past. -/
def onward (m : Machine) : Machine := { m with past := m.toWorld :: m.past }

/-- What a machine has been since it was another one, up to what it is. -/
def momentsSince (start m : Machine) : List World :=
  (m.past.take (m.past.length - start.past.length)).reverse ++ [m.toWorld]

/-- The machine with one more event. -/
def observe (m : Machine) (e : Event) : Machine := { m with events := m.events ++ [e] }

/-- The machine with one more record. -/
def record (m : Machine) (level : Level) (source : Source) (message : String) : Machine :=
  { m with records := m.records ++ [⟨level, source, message⟩] }

/-- The platform of the machine. -/
def detectedFacts (m : Machine) : PlatformFacts :=
  m.facts.withArchitecture ((m.environment.get? "PROCESSOR_ARCHITECTURE").getD "")

/-- The platform of the machine, if it is one of those told apart. -/
def platform? (m : Machine) : Option PlatformId := m.detectedFacts.detect

/-! ## The clock -/

/-- The transfer's connection is shut down, if it holds one. -/
def cutOff (m : Machine) : Machine :=
  match m.transfer.connection with
  | none => m
  | some id =>
    match m.network.connection? id with
    | none => m
    | some c =>
      let m := (m.record .warning .download
        ("Deadline passed while downloading from " ++ c.url ++ ", aborting the transfer")).observe
        (.shutdown c.url)
      if c.response.shutdownFault.isSome then m
      else { m with network := m.network.change id fun c => { c with isShut := true } }

/-- The alarm goes off at a time, which is not before the present one. -/
def ring (m : Machine) (time : Nat) : Machine :=
  cutOff { m with
    now := max m.now time
    transfer := { m.transfer with alarm := .off, hasExpired := true } }

/-- The alarm goes off if its time comes not after the given one. -/
def ringBy (m : Machine) (limit : Nat) : Machine :=
  match m.transfer.alarm with
  | .at time => if time ≤ limit then m.ring time else m
  | _ => m

/-- The clock moves to a time; the alarm goes off on the way. -/
def advanceTo (m : Machine) (target : Nat) : Machine :=
  let m := (m.ringBy target).onward
  { m with now := max m.now target }

/-- The clock moves on. -/
def advance (m : Machine) (micros : Nat) : Machine := m.advanceTo (m.now + micros)

end Machine

/-! ## Actions -/

/-- A function from a machine to a result or a fault, and the machine afterwards. -/
abbrev MachineAction := ExceptT Fault (StateM Machine)

namespace MachineAction

/-- The result of an action, whether it is a fault or not. -/
def attempt {α : Type} (x : MachineAction α) : MachineAction (Except Fault α) :=
  fun m => let (result, m) := x m; (.ok result, m)

/-- A result, which may be a fault. -/
def settle {α : Type} (result : Except Fault α) : MachineAction α := fun m => (result, m)

/-- Something read off the machine. -/
def observe {α : Type} (f : Machine → α) : MachineAction α := fun m => (.ok (f m), m)

/-- A change of the machine. -/
def change (f : Machine → Machine) : MachineAction Unit := fun m => (.ok (), f m.onward)

/-- A record is written. -/
def record (level : Level) (source : Source) (message : String) : MachineAction Unit :=
  change fun m => m.record level source message

/-- Something happens that can be seen from outside. -/
def event (e : Event) : MachineAction Unit := change fun m => m.observe e

/-- The time on the clock. -/
def time : MachineAction Time := observe (·.time)

/-- Time passes. -/
def pass (micros : Nat) : MachineAction Unit := change fun m => m.advance micros

/-- The moments that an action goes through on a machine, from its beginning to its end. -/
def moments {α : Type} (x : MachineAction α) (m : Machine) : List World :=
  m.momentsSince (x m).2

end MachineAction

end ServerLauncher
