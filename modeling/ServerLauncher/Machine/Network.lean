import ServerLauncher.Fault

/-!
# The network

What the servers of a network answer.  The answers to the requests for an address are given in
turn, the last one again and again.

The body of an answer arrives in chunks.  A connection can be shut down while its body is read; what
the reader then sees depends on the answer.

## Main definitions

* `Chunk`, `Response`, `Reply`, `Network`: the answers.
* `Connection`: an answer that has been received.
* `Network.next`: the answer to the next request for an address.
-/

namespace ServerLauncher

/-- A part of a body that arrives after a delay in microseconds, or a failure. -/
structure Chunk where
  delay : Nat := 0
  content : Except Fault ByteArray

/-- What a reader sees after its connection was shut down. -/
inductive ShutdownEffect where
  | none
  | endOfBody
  | failure
deriving DecidableEq, Repr

/-- An answer with a status. -/
structure Response where
  status : Int := 200
  reason : Option String := some "OK"
  headers : List (String × String) := []
  chunks : List Chunk := []
  onShutdown : ShutdownEffect := .none
  /-- What goes wrong when the connection is shut down; it then stays as it is. -/
  shutdownFault : Option Fault := none

/-- The value of a header.  The case of its name does not matter; a later one replaces an earlier
one. -/
def Response.header? (r : Response) (name : String) : Option String :=
  (r.headers.reverse.find? fun h => Text.lowercase h.1 == Text.lowercase name).map (·.2)

/-- What follows a request after a delay in microseconds. -/
structure Reply where
  delay : Nat := 0
  result : Except Fault Response

/-- A response that has been received. -/
structure Connection where
  url : String
  response : Response
  /-- The chunks that have not been read. -/
  chunks : List Chunk
  isClosed : Bool := false
  isShut : Bool := false

/-- The answers that are still to come, by address, and the connections so far. -/
structure Network where
  replies : List (String × List Reply) := []
  connections : List Connection := []

namespace Network

/-- The failure of a request for an address that nobody answers. -/
def unknownAddress : Reply := { result := .error (.request .connection "unknown URL") }

/-- The answer to the next request for an address, and the answers that are then to come. -/
def next (n : Network) (url : String) : Reply × Network :=
  match n.replies.lookup url with
  | none | some [] => (unknownAddress, n)
  | some [reply] => (reply, n)
  | some (reply :: rest) =>
    (reply, { n with
      replies := n.replies.map fun entry => if entry.1 == url then (url, rest) else entry })

/-- A connection. -/
def connection? (n : Network) (id : Nat) : Option Connection := n.connections[id]?

/-- The network with a changed connection. -/
def change (n : Network) (id : Nat) (f : Connection → Connection) : Network :=
  { n with connections := n.connections.modify id f }

/-- The network with one more connection, and its number. -/
def connect (n : Network) (url : String) (r : Response) : Nat × Network :=
  (n.connections.length,
    { n with connections := n.connections ++ [{ url, response := r, chunks := r.chunks }] })

end Network

end ServerLauncher
