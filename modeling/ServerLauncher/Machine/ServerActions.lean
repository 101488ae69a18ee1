import ServerLauncher.Machine.Basic

/-!
# Actions on programs

Programs are started, asked to end, killed and waited for.  A started program is known by its number
in the list of the programs that the machine has started.
-/

namespace ServerLauncher

namespace Machine

/-- A started program. -/
def started? (m : Machine) (id : Nat) : Option Started := m.started[id]?

/-- The machine with a changed program. -/
def changeStarted (m : Machine) (id : Nat) (f : Started → Started) : Machine :=
  { m with started := m.started.modify id f }

/-- Whether a program has been started and has not ended. -/
def isAlive (m : Machine) (id : Nat) : Bool :=
  match m.started? id with
  | some s => !s.lifetime.hasEnded m.now
  | none => false

/-- The code with which a program has ended. -/
def exitCode? (m : Machine) (id : Nat) : Option Int :=
  match m.started? id with
  | some s => if s.lifetime.hasEnded m.now then s.lifetime.exit.map (·.code) else none
  | none => none

/-- The descendants of a program. -/
def descendants (m : Machine) (id : Nat) : List Descendant :=
  match m.started? id with
  | some s => s.descendants
  | none => []

end Machine

namespace MachineAction

/-- A program is started. -/
def start (command : List String) (directory : String) (environment : Environment) :
    MachineAction Nat := do
  match ← observe (·.plans) with
  | [] => throw (.system errnoMissing command.head?)
  | plan :: plans =>
    change fun m => { m with plans }
    match plan with
    | .error errno => throw (.system errno command.head?)
    | .ok s =>
      let id ← observe (·.started.length)
      change fun m => { m with started := m.started ++ [s.startedAt m.now] }
      event (.start s.pid command directory environment)
      return id

/-- A program is changed in a way that can be seen. -/
def signal (id : Nat) (e : Int → Event) (f : Lifetime → Nat → Lifetime) : MachineAction Unit := do
  match ← observe (·.started? id) with
  | none => return ()
  | some s =>
    event (e s.pid)
    change fun m => m.changeStarted id fun s => { s with lifetime := f s.lifetime m.now }

/-- A program is asked to end. -/
def terminate (id : Nat) : MachineAction Unit := signal id .terminate Lifetime.terminate

/-- A program is killed. -/
def kill (id : Nat) : MachineAction Unit := signal id .kill Lifetime.kill

/-- A program is waited for, no longer than a given time.  The result says whether it has ended. -/
def waitFor (id : Nat) (limit : Time) : MachineAction Bool := do
  let m ← get
  let exit := (m.started? id).bind (·.lifetime.exit)
  match exit, m.arithmetic.microsUntil? limit with
  | some e, none =>
    change fun m => m.advanceTo e.time
    return true
  | some e, some micros =>
    if e.time ≤ m.now + micros then
      change fun m => m.advanceTo e.time
      return true
    else
      pass micros
      return false
  | none, some micros =>
    pass micros
    return false
  | none, none => throw .stuck

/-- A pipe to a program is closed. -/
def closePipe (id : Nat) (pipe : Pipe) : MachineAction Unit := do
  match ← observe (·.started? id) with
  | none => return ()
  | some s =>
    event (.closePipe s.pid pipe)
    if s.brokenPipes.contains pipe then throw (.system errnoBrokenPipe none)

/-- The numbers of the descendants of a program, or why they cannot be listed. -/
def listDescendants (id : Nat) : MachineAction (Except Obstacle (List Nat)) := do
  match ← observe (·.started? id) with
  | none => return .error .gone
  | some s =>
    match s.inspectObstacle, s.listObstacle with
    | some obstacle, _ => return .error obstacle
    | none, some obstacle => return .error obstacle
    | none, none => return .ok (List.range s.descendants.length)

/-- A descendant of a program. -/
def descendant? (id child : Nat) : MachineAction (Option Descendant) :=
  observe fun m => (m.descendants id)[child]?

/-- A descendant is changed in a way that can be seen, unless something is in the way; then that can
be seen. -/
def signalDescendant (id child : Nat) (own : Descendant → Option Obstacle)
    (done failed : Int → Event) (f : Lifetime → Nat → Lifetime) :
    MachineAction (Except Obstacle Unit) := do
  match ← descendant? id child with
  | none => return .error .gone
  | some d =>
    match d.obstacle? (own d) (← observe (·.now)) with
    | some obstacle =>
      event (failed d.pid)
      return .error obstacle
    | none =>
      event (done d.pid)
      change fun m => m.changeStarted id fun s => { s with
        descendants := s.descendants.modify child fun d =>
          { d with lifetime := f d.lifetime m.now } }
      return .ok ()

/-- A descendant is asked to end. -/
def terminateDescendant (id child : Nat) : MachineAction (Except Obstacle Unit) :=
  signalDescendant id child (·.terminateObstacle) .terminate .terminateFailed Lifetime.terminate

/-- A descendant is killed. -/
def killDescendant (id child : Nat) : MachineAction (Except Obstacle Unit) :=
  signalDescendant id child (·.killObstacle) .kill .killFailed Lifetime.kill

end MachineAction

end ServerLauncher
