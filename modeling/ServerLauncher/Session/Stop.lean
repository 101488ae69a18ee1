import ServerLauncher.Session.Basic

/-!
# Stopping the server

The server is stopped together with the programs that it has started.  All are asked to end, the
descendants first; who has not ended when the time is up is killed.

The end of the descendants is awaited by looking at them again and again, since they are not
programs of the session.  One that has ended but still lingers counts as ended; one that cannot be
looked at counts as running.

## Main definitions

* `Session.terminateAll`, `Session.killAll`: signals to descendants.
* `Session.awaitExits`: the descendants that still run when the time is up.
* `Session.stop`: all of it.
* `Session.using`: a server for the time of an action.
-/

namespace ServerLauncher

namespace Session

open SessionAction

/-- A pipe to the server is closed; that it is broken does not matter. -/
def closePipe (id : Nat) (pipe : Pipe) : SessionAction Unit := do
  match ← attempt (onMachine (.closePipe id pipe)) with
  | .ok () => return ()
  | .error fault => if fault.isSystem then return () else throw fault

/-! ## Descendants -/

/-- The descendants of the server, as far as they can be listed. -/
def descendants (id : Nat) : SessionAction (List Nat) := do
  match ← onMachine (.listDescendants id) with
  | .ok children => return children
  | .error _ => return []

/-- A signal to several descendants.  A descendant that refuses it is told to the user. -/
def signalAll (signal : Nat → MachineAction (Except Obstacle Unit)) (id : Nat) :
    List Nat → SessionAction Unit
  | [] => return ()
  | child :: rest => do
    match ← onMachine (signal child) with
    | .ok () | .error .gone => pure ()
    | .error .denied =>
      let pid := (((← get).machine.descendants id)[child]?.map (·.pid)).getD 0
      record .warning ("Cannot signal child process " ++ toString pid ++
        " of the language server: (pid=" ++ toString pid ++ ")")
    signalAll signal id rest

/-- Descendants are asked to end. -/
def terminateAll (id : Nat) (children : List Nat) : SessionAction Unit :=
  signalAll (MachineAction.terminateDescendant id) id children

/-- Descendants are killed. -/
def killAll (id : Nat) (children : List Nat) : SessionAction Unit :=
  signalAll (MachineAction.killDescendant id) id children

/-- Whether a descendant seems to run. -/
def seemsRunning (m : Machine) (id child : Nat) : Bool :=
  match (m.descendants id)[child]? with
  | none => false
  | some d => match d.status m.now with
    | .ok .running => true
    | .ok .zombie => false
    | .error .gone => false
    | .error .denied => true

/-- The time between two looks at the descendants, in microseconds. -/
def pollInterval : Nat := 50000

/-- The clock is looked at this often before a time in whole microseconds has certainly come. -/
def pollsUntil (m : Machine) (micros : Nat) : Nat := (micros - m.now) / pollInterval + 3

/-- The descendants are looked at so often at most: until the deadline has come, or, if it never
comes, until all that end have ended. -/
def pollLimit (m : Machine) (id : Nat) (deadline : Time) : Nat :=
  match deadline with
  | .at ticks => pollsUntil m (ticks.toNat / ticksPerMicro)
  | .past => 1
  | .undefined | .future =>
    ((m.descendants id).map fun d =>
      pollsUntil m ((d.lifetime.exit.map (·.time)).getD 0)).foldl max 1

/-- The descendants that still seem to run when a deadline has come. -/
def awaitUntil (id : Nat) (children : List Nat) (deadline : Time) :
    Nat → SessionAction (List Nat)
  | 0 => throw .stuck
  | n + 1 => do
    let m := (← get).machine
    let alive := children.filter (seemsRunning m id)
    if alive.isEmpty || m.time.reaches deadline then return alive
    else
      onMachine (.pass pollInterval)
      awaitUntil id children deadline n

/-- The descendants that still seem to run after some time. -/
def awaitExits (id : Nat) (children : List Nat) (limit : Time) : SessionAction (List Nat) := do
  let m := (← get).machine
  let deadline := m.arithmetic.plus m.time limit
  awaitUntil id children deadline (pollLimit m id deadline)

/-! ## The server -/

/-- The time left until a deadline, not less than zero. -/
def timeLeft (deadline : Time) : SessionAction Time := do
  let m := (← get).machine
  return (m.arithmetic.minus deadline m.time).clamped

/-- The running server is asked to end and, if need be, killed.  The result says whether it has
ended in time. -/
def endServer (id : Nat) (timeout : String) (deadline : Time) : SessionAction Bool := do
  onMachine (.terminate id)
  if ← onMachine (.waitFor id (← timeLeft deadline)) then return true
  else
    record .warning ("Language server did not stop within " ++ timeout ++
      " seconds, forcing shutdown")
    onMachine (.kill id)
    let _ ← onMachine (.waitFor id .future)
    return false

/-- The running server and its descendants end.  The result says whether all have ended in time. -/
def endAll (id : Nat) (timeout : String) (deadline : Time) : SessionAction Bool := do
  let children ← descendants id
  terminateAll id children
  let inTime ← endServer id timeout deadline
  let alive ← awaitExits id children (← timeLeft deadline)
  if alive.isEmpty then return inTime
  else
    record .warning ("Killing " ++ toString alive.length ++
      " remaining child process(es) of the language server")
    killAll id alive
    return false

/-- A time as it is written in records; a number holds no collections. -/
def shownTimeout (timeout : Value) : String := (timeout.text? 0).getD ""

/-- The server that the session holds is stopped within a number of seconds.  The result says
whether nothing had to be killed. -/
def stop (timeout : Value) : SessionAction Bool := do
  match (← get).session.server with
  | none => return true
  | some id =>
    update fun s => { s with server := none }
    let seconds ← settle (secondsOf timeout)
    let m := (← get).machine
    let deadline := m.arithmetic.plus m.time (.ofSeconds seconds)
    closePipe id .input
    let inTime ←
      if m.isAlive id then endAll id (shownTimeout timeout) deadline else pure true
    closePipe id .output
    closePipe id .error
    let code := (((← get).machine.exitCode? id).map toString).getD "None"
    record .info ("Language server process stopped (return code " ++ code ++ ")")
    return inTime

/-- The time for stopping the server if none is given, in seconds. -/
def stopTimeout : Value := .real (.ofNat 5)

/-- The server is started for the time of an action and stopped after it, whatever comes of it. -/
def «using» {α : Type} (body : SessionAction α) : SessionAction α := do
  let _ ← start
  let result ← attempt body
  let _ ← stop stopTimeout
  settle result

end Session

end ServerLauncher
