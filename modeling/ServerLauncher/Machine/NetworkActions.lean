import ServerLauncher.Machine.Basic

/-!
# Actions on the network

A request is answered after a delay, or fails.  The body of an answer is read chunk by chunk; a wait
for a chunk ends at once when the connection is shut down, unless the answer ignores that.
-/

namespace ServerLauncher.MachineAction

/-- A request is sent and answered.  The result is the number of the connection. -/
def request (e : Event) (url : String) : MachineAction (Nat × Response) := do
  event e
  let reply ← observe fun m => (m.network.next url).1
  change fun m => { m with network := (m.network.next url).2 }
  pass reply.delay
  match reply.result with
  | .error fault => throw fault
  | .ok response =>
    let id ← observe fun m => (m.network.connect url response).1
    change fun m => { m with network := (m.network.connect url response).2 }
    return (id, response)

/-- The connection with a number. -/
def connection? (id : Nat) : MachineAction (Option Connection) :=
  observe fun m => m.network.connection? id

/-- A connection is closed; only the first time can be seen. -/
def closeConnection (id : Nat) : MachineAction Unit := do
  match ← connection? id with
  | none => return ()
  | some c =>
    if c.isClosed then return ()
    else
      change fun m => { m with network := m.network.change id fun c => { c with isClosed := true } }
      event (.close c.url)

/-- What a reader sees after the connection was shut down. -/
def afterShutdown (effect : ShutdownEffect) : MachineAction (Option ByteArray) :=
  match effect with
  | .failure => throw (.request .connection "connection shut down")
  | _ => return none

/-- Whether the reader of a connection sees that it was shut down. -/
def isCut (m : Machine) (id : Nat) : Bool :=
  match m.network.connection? id with
  | some c => c.isShut && c.response.onShutdown ≠ .none
  | none => false

/-- The wait for a chunk. -/
def wait (id delay : Nat) : MachineAction Unit :=
  change fun m =>
    let target := m.now + delay
    let rung := m.ringBy target
    if isCut rung id then rung else { rung.onward with now := max rung.now target }

/-- A chunk is read that has arrived, unless the connection was shut down. -/
def takeChunk (id : Nat) (effect : ShutdownEffect) (chunk : Chunk) :
    MachineAction (Option ByteArray) := do
  if ← observe (isCut · id) then afterShutdown effect
  else
    change fun m =>
      { m with network := m.network.change id fun c => { c with chunks := c.chunks.tail } }
    settle (chunk.content.map some)

/-- The next chunk of a body; nothing at its end. -/
def nextChunk (id : Nat) : MachineAction (Option ByteArray) := do
  match ← connection? id with
  | none => return none
  | some c =>
    match c.chunks with
    | [] => return none
    | chunk :: _ =>
      if !(← observe (isCut · id)) then wait id chunk.delay
      takeChunk id c.response.onShutdown chunk

end ServerLauncher.MachineAction
