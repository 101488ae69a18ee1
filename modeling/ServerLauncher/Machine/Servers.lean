import ServerLauncher.Fault

/-!
# Started programs

The programs that a machine has started, each with the programs that it started in turn.  A program
ends by itself, some time after it was asked to, or at once when it is killed; the earliest end
counts.

## Main definitions

* `Exit`, `Lifetime`: when and how a program ends.
* `Descendant`, `Started`: programs and those that they started.
* `StartPlan`: what happens when the next program is started.
-/

namespace ServerLauncher

/-- The end of a program, in microseconds of the clock, with its code. -/
structure Exit where
  time : Nat
  code : Int
deriving DecidableEq, Repr

/-- How a program ends. -/
structure Lifetime where
  /-- The earliest end that is certain so far. -/
  exit : Option Exit := none
  /-- The time from being asked to end to the end; a program without it ignores the request. -/
  grace : Option Nat := some 0
deriving DecidableEq, Repr

namespace Lifetime

/-- Whether the program has ended. -/
def hasEnded (l : Lifetime) (now : Nat) : Bool :=
  match l.exit with
  | some e => e.time ≤ now
  | none => false

/-- The program ends at a time, unless it ends earlier. -/
def endAt (l : Lifetime) (e : Exit) : Lifetime :=
  match l.exit with
  | some earlier => if earlier.time ≤ e.time then l else { l with exit := some e }
  | none => { l with exit := some e }

/-- The code of a program that was asked to end. -/
def terminatedCode : Int := -15

/-- The code of a program that was killed. -/
def killedCode : Int := -9

/-- The program is asked to end. -/
def terminate (l : Lifetime) (now : Nat) : Lifetime :=
  match l.grace with
  | some grace => l.endAt ⟨now + grace, terminatedCode⟩
  | none => l

/-- The program is killed. -/
def kill (l : Lifetime) (now : Nat) : Lifetime := l.endAt ⟨now, killedCode⟩

end Lifetime

/-- Why a program cannot be inspected or signalled. -/
inductive Obstacle where
  | gone
  | denied
deriving DecidableEq, Repr

/-- A program that a started program has started. -/
structure Descendant where
  pid : Int
  lifetime : Lifetime
  /-- Whether it stays in the list of programs after its end. -/
  lingers : Bool := false
  statusObstacle : Option Obstacle := none
  terminateObstacle : Option Obstacle := none
  killObstacle : Option Obstacle := none
deriving DecidableEq, Repr

/-- What can be seen of a program. -/
inductive Status where
  | running
  | zombie
deriving DecidableEq, Repr

/-- What can be seen of a descendant. -/
def Descendant.status (d : Descendant) (now : Nat) : Except Obstacle Status :=
  match d.statusObstacle with
  | some obstacle => .error obstacle
  | none =>
    if d.lifetime.hasEnded now then if d.lingers then .ok .zombie else .error .gone
    else .ok .running

/-- What keeps a signal from a descendant, given the obstacle that it has for such signals. -/
def Descendant.obstacle? (d : Descendant) (own : Option Obstacle) (now : Nat) : Option Obstacle :=
  match own with
  | some obstacle => some obstacle
  | none => if d.lifetime.hasEnded now && !d.lingers then some .gone else none

/-- The pipes to a started program. -/
inductive Pipe where
  | input
  | output
  | error
deriving DecidableEq, Repr

/-- The name of a pipe. -/
def Pipe.text : Pipe → String
  | input => "stdin"
  | output => "stdout"
  | error => "stderr"

/-- A started program. -/
structure Started where
  pid : Int
  lifetime : Lifetime
  /-- The pipes whose closing fails. -/
  brokenPipes : List Pipe := []
  descendants : List Descendant := []
  /-- Why the program itself cannot be inspected. -/
  inspectObstacle : Option Obstacle := none
  /-- Why its descendants cannot be listed. -/
  listObstacle : Option Obstacle := none
deriving DecidableEq, Repr

/-- What happens when the next program is started: an error, or a program whose times count from its
start. -/
abbrev StartPlan := Except Nat Started

/-- A program whose times count from a start. -/
def Lifetime.startedAt (l : Lifetime) (now : Nat) : Lifetime :=
  { l with exit := l.exit.map fun e => { e with time := now + e.time } }

/-- A program and its descendants whose times count from a start. -/
def Started.startedAt (s : Started) (now : Nat) : Started :=
  { s with
    lifetime := s.lifetime.startedAt now
    descendants := s.descendants.map fun d => { d with lifetime := d.lifetime.startedAt now } }

end ServerLauncher
