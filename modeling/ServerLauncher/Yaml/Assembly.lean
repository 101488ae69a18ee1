import ServerLauncher.Yaml.Merging
import ServerLauncher.Yaml.Part
import ServerLauncher.Yaml.Scalar.Value

/-!
# The value of a document

What the nodes of a document stand for.  Keys must be different and must not be collections, apart
from sequences, which become tuples as keys.

A collection is made empty, and filled later, when all collections that were made before it have
been filled.  So of several faults in a document one that lies less deep is found first, and a
collection may contain itself.  Keys are an exception: they are made completely at once.  Inside a
key an alias for a collection that is not complete stands for null, and a sequence that is not
filled yet is an empty tuple as a key.

## Main definitions

* `Assembly`, `Assembling`: what is made so far, and the steps that make more.
* `Assembling.make`: the part for a node.
* `NodeGraph.value`: the value of the root.
-/

namespace ServerLauncher.Yaml

/-- How far the part for a node is. -/
inductive Progress where
  | untouched
  | begun
  | made (p : PartId)
deriving Repr, Inhabited

/-- The part for the undefined number, which is always the same one. -/
def undefinedPart : PartId := 0

/-- The part for null where a part for a node that is being made is asked for. -/
def nullPart : PartId := 1

/-- What is made of a value so far. -/
structure Assembly where
  /-- Whether the document declares the old version of the format. -/
  isOld : Bool
  nodes : Array Node
  progress : Array Progress
  parts : Parts := #[.whole (.real .nan), .whole .null]
  /-- The collections that are still to be filled, the latest first. -/
  waiting : List (NodeId × PartId) := []
  /-- Whether collections are filled at once. -/
  atOnce : Bool := false

/-- How many levels of collections a value may hold where its text is needed. -/
def textRoom : Nat := 900

/-- A step in making a value. -/
abbrev Assembling := StateT Assembly (Except Fault)

namespace Assembling

/-- What is found wrong with a document. -/
def fail {α : Type} : Assembling α := throw .malformedDocument

/-! ## Nodes and parts -/

/-- The node with a number. -/
def node (id : NodeId) : Assembling Node := return (← get).nodes.getD id default

/-- The number that suffices for descending through the nodes. -/
def depth : Assembling Nat := return (← get).nodes.size + 2

/-- A part is added. -/
def add (part : Part) : Assembling PartId := do
  let p := (← get).parts.size
  modify fun s => { s with parts := s.parts.push part }
  return p

/-- The part with a number. -/
def part (p : PartId) : Assembling Part := return (← get).parts.part p

/-- A part is replaced. -/
def put (p : PartId) (part : Part) : Assembling Unit :=
  modify fun s => { s with parts := s.parts.setIfInBounds p part }

/-- The part for a node is so far. -/
def mark (id : NodeId) (progress : Progress) : Assembling Unit :=
  modify fun s => { s with progress := s.progress.setIfInBounds id progress }

/-! ## Scalars -/

/-- The text of a node that should be a scalar.  A mapping with the key `=` stands for its value. -/
def scalarText : (depth : Nat) → NodeId → Assembling String
  | 0, _ => throw .endless
  | depth + 1, id => do
    match (← node id).content with
    | .scalar text => return text
    | .sequence _ => fail
    | .mapping entries =>
      match ← entries.findM? fun (key, _) => return (← node key).tag = .equals with
      | some (_, value) => scalarText depth value
      | none => fail

/-- The part for a node that stands for no collection. -/
def makeScalar (id : NodeId) (tag : Tag) : Assembling PartId := do
  match tag, (← node id).content with
  | .merge, _ | .equals, _ | .unknown, _ => fail
  | .timestamp, .sequence _ | .timestamp, .mapping _ => fail
  | _, _ =>
    let text ← scalarText (← depth) id
    if tag = .real ∧ isUndefined text then return undefinedPart
    else add (.whole (← scalarValue (← get).isOld tag text))

/-! ## Collections -/

/-- The part of a collection with a tag before it is filled; other tags have none. -/
def emptyPart? : Tag → Option Part
  | .sequence | .pairs => some (.list [])
  | .mapping => some (.mapping [])
  | .set => some (.set [])
  | .orderedMapping => some (.ordered [])
  | _ => none

/-- Whether entries have a key already.  The key has to be suitable for one. -/
def holdsKey (entries : Array (PartId × PartId)) (key : PartId) : Assembling Bool := do
  let parts := (← get).parts
  match parts.unsuitable? key with
  | some kind => throw (.unsuitableKey kind)
  | none => return entries.any fun entry => parts.isSame entry.1 key

/-- The entries with one more: a key that is present keeps its place and takes the new value. -/
def withEntry (entries : Array (PartId × PartId)) (key value : PartId) :
    Assembling (Array (PartId × PartId)) := do
  if ← holdsKey entries key then
    let parts := (← get).parts
    return entries.map fun entry => if parts.isSame entry.1 key then (entry.1, value) else entry
  else return entries.push (key, value)

/-- A key that a mapping has already is an error, which names the key and both values; it is another
error if one of them has no text. -/
def refuseRepeated (entries : Array (PartId × PartId)) (key value : PartId) : Assembling Unit := do
  let parts := (← get).parts
  let earlier := (entries.find? fun entry => parts.isSame entry.1 key).map (·.2)
  ([key, value] ++ earlier.toList).forM fun p => do
    if let .error issue := (parts.value p).toText textRoom then throw (.unwritable issue)
  fail

/-- A part as a key: a list becomes a tuple. -/
def asKey (p : PartId) : Assembling PartId := do
  match ← part p with
  | .list items => add (.tuple items)
  | .mapping _ | .ordered _ | .set _ => fail
  | .whole _ | .tuple _ => return p

/-- The entries of a mapping in order.  `make` makes the part for a node, at once if told so. -/
def makeEntries (make : Bool → NodeId → Assembling PartId) (mayRepeat : Bool) (entries : Entries) :
    Assembling (Array (PartId × PartId)) :=
  entries.foldlM (fun made (k, v) => do
    let key ← asKey (← make true k)
    let value ← make false v
    if !mayRepeat then
      if ← holdsKey made key then refuseRepeated made key value
    withEntry made key value) #[]

/-- The entries of a node that should be a mapping, with those that are merged into it. -/
def mappingEntries (make : Bool → NodeId → Assembling PartId) (id : NodeId) :
    Assembling (List (PartId × PartId)) := do
  match (← node id).content with
  | .mapping _ =>
    let s ← get
    let (_, nodes) ← (Merging.flatten (s.nodes.size + 2) id).run s.nodes
    set { s with nodes }
    let node ← node id
    match node.merged with
    | none => return (← makeEntries make false node.entries).toList
    | some merged =>
      let given ← makeEntries make true merged
      let all ← makeEntries make true node.entries
      return (← all.foldlM (fun entries (key, value) => withEntry entries key value) given).toList
  | _ => fail

/-- The items of a node that should be a sequence. -/
def sequenceItems (id : NodeId) : Assembling (List NodeId) := do
  match (← node id).content with
  | .sequence items => return items
  | _ => fail

/-- The only entry of a node that should be a mapping. -/
def onlyEntry (id : NodeId) : Assembling (NodeId × NodeId) := do
  match (← node id).content with
  | .mapping [entry] => return entry
  | _ => fail

/-- One more entry of an ordered mapping. -/
def extendOrdered (make : Bool → NodeId → Assembling PartId) (p : PartId) (item : NodeId) :
    Assembling Unit := do
  let (k, v) ← onlyEntry item
  let key ← make false k
  let entries := match ← part p with
    | .ordered entries => entries
    | _ => []
  if ← holdsKey entries.toArray key then throw .repeatedKey
  let value ← make false v
  put p (.ordered (entries ++ [(key, value)]))

/-- One more pair of a list of pairs. -/
def extendPairs (make : Bool → NodeId → Assembling PartId) (p : PartId) (item : NodeId) :
    Assembling Unit := do
  let (k, v) ← onlyEntry item
  let key ← make false k
  let value ← make false v
  let pair ← add (.tuple [key, value])
  match ← part p with
  | .list pairs => put p (.list (pairs ++ [pair]))
  | _ => fail

/-- A collection is filled. -/
def fill (make : Bool → NodeId → Assembling PartId) (id : NodeId) (p : PartId) :
    Assembling Unit := do
  match (← node id).tag with
  | .mapping => put p (.mapping (← mappingEntries make id))
  | .set => put p (.set ((← mappingEntries make id).map (·.1)))
  | .orderedMapping => (← sequenceItems id).forM (extendOrdered make p)
  | .pairs => (← sequenceItems id).forM (extendPairs make p)
  | _ => put p (.list (← (← sequenceItems id).mapM (make false)))

/-! ## Everything -/

/-- The part for a node that is not begun. -/
def start (make : Bool → NodeId → Assembling PartId) (id : NodeId) : Assembling PartId := do
  let tag := (← node id).tag
  match emptyPart? tag with
  | none => makeScalar id tag
  | some empty =>
    let p ← add empty
    if (← get).atOnce then fill make id p
    else modify fun s => { s with waiting := (id, p) :: s.waiting }
    return p

/-- The part for a node.  With `complete` it is made with everything in it. -/
def make : (depth : Nat) → (complete : Bool) → NodeId → Assembling PartId
  | 0, _, _ => fail
  | depth + 1, complete, id => do
    match (← get).progress.getD id .untouched with
    | .made p => return p
    | .begun => return nullPart
    | .untouched =>
      let before := (← get).atOnce
      modify fun s => { s with atOnce := before || complete }
      mark id .begun
      let p ← start (make depth) id
      mark id (.made p)
      modify fun s => { s with atOnce := before }
      return p

/-- The collections that are waiting are filled, and those that begin to wait meanwhile. -/
def fillWaiting : (rounds : Nat) → Assembling Unit
  | 0 => return ()
  | rounds + 1 => do
    let waiting := (← get).waiting
    if waiting.isEmpty then return ()
    else
      modify fun s => { s with waiting := [] }
      let n ← depth
      waiting.reverse.forM fun (id, p) => fill (make n) id p
      fillWaiting rounds

/-- The value of a node with everything in it. -/
def valueOf (root : NodeId) : Assembling Value := do
  let n ← depth
  let p ← make n false root
  fillWaiting n
  return (← get).parts.value p

end Assembling

/-- The value of the root of a document; nothing, if there is none. -/
def NodeGraph.value (g : NodeGraph) : Except Fault (Option Value) :=
  match g.root with
  | none => return none
  | some root => do
    let assembly : Assembly := {
      isOld := g.isOld
      nodes := g.nodes
      progress := Array.replicate g.nodes.size .untouched }
    return some (← (Assembling.valueOf root).run' assembly)

end ServerLauncher.Yaml
