import ServerLauncher.Yaml.Node

/-!
# Merged entries

A mapping may name others, with whose entries its own are completed.  The entries are put together
in the nodes themselves, once and for all: the key that asks for the merging goes, and the entries
of the others precede the own ones.  Of several mappings in a sequence the later ones come first, so
that the earlier ones prevail.

A mapping may be merged into itself.  The key goes before the others are looked at, so that this
comes to an end.

## Main definitions

* `Merging`: steps that change nodes.
* `Merging.flatten`: the entries of a mapping are completed.
-/

namespace ServerLauncher.Yaml

/-- The parts of a mapping: keys and values. -/
abbrev Entries := List (NodeId × NodeId)

/-- The entries of a mapping; other nodes have none. -/
def Node.entries (node : Node) : Entries :=
  match node.content with
  | .mapping entries => entries
  | _ => []

/-- A step that changes nodes. -/
abbrev Merging := StateT (Array Node) (Except Fault)

namespace Merging

/-- A node with a number. -/
def node (id : NodeId) : Merging Node := return (← get).getD id default

/-- A node is changed. -/
def change (id : NodeId) (f : Node → Node) : Merging Unit := modify (·.modify id f)

/-- The entries that a node gives to a mapping into which it is merged.  `deeper` completes the
entries of the mappings among them. -/
def given (deeper : NodeId → Merging Unit) (id : NodeId) : Merging Entries := do
  match (← node id).content with
  | .mapping _ =>
    deeper id
    return (← node id).entries
  | .sequence items =>
    let groups ← items.mapM fun item => do
      match (← node item).content with
      | .mapping _ =>
        deeper item
        return (← node item).entries
      | _ => throw .malformedDocument
    return groups.reverse.flatten
  | .scalar _ => throw .malformedDocument

/-- The entries that are merged into a mapping, from an entry on; `merged` are those so far.  A
second merging key is an error if the first one has given something.  An equals sign as a key
becomes a text. -/
def collect (deeper : NodeId → Merging Unit) (id : NodeId) :
    (fuel index : Nat) → (merged : Entries) → Merging Entries
  | 0, _, merged => return merged
  | fuel + 1, index, merged => do
    let entries := (← node id).entries
    match entries[index]? with
    | none => return merged
    | some (key, value) =>
      match (← node key).tag with
      | .merge =>
        if !merged.isEmpty then throw .malformedDocument
        else
          change id fun node => { node with content := .mapping (entries.eraseIdx index) }
          collect deeper id fuel index (merged ++ (← given deeper value))
      | .equals =>
        change key fun node => { node with tag := .text }
        collect deeper id fuel (index + 1) merged
      | _ => collect deeper id fuel (index + 1) merged

/-- The entries of a mapping are completed. -/
def flatten : (fuel : Nat) → NodeId → Merging Unit
  | 0, _ => throw .malformedDocument
  | fuel + 1, id => do
    let merged ← collect (flatten fuel) id ((← node id).entries.length + 1) 0 []
    if !merged.isEmpty then
      change id fun node =>
        { node with content := .mapping (merged ++ node.entries), merged := some merged }

end Merging

end ServerLauncher.Yaml
