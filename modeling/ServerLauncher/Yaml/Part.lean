import ServerLauncher.Value.Slots

/-!
# Parts of values

While the value of a document is put together, its collections are still being filled, and some
contain themselves.  The value consists of numbered parts, and a collection holds the numbers of its
items.  A part that is used in several places is one part.

## Main definitions

* `Part`, `Parts`: the parts by their numbers.
* `Parts.isSame`: whether two parts are one key.
* `Parts.unsuitable?`: why a part cannot be a key.
* `Parts.value`: the value that begins with a part.
-/

namespace ServerLauncher.Yaml

/-- The number of a part. -/
abbrev PartId := Nat

/-- A part of a value. -/
inductive Part where
  /-- A value without further parts. -/
  | whole (v : Value)
  | list (items : List PartId)
  | tuple (items : List PartId)
  | mapping (entries : List (PartId × PartId))
  | ordered (entries : List (PartId × PartId))
  | set (items : List PartId)
deriving Repr, Inhabited

/-- The kind of a part. -/
def Part.kind : Part → Kind
  | whole v => v.kind
  | list _ => .list
  | tuple _ => .tuple
  | mapping _ => .mapping
  | ordered _ => .ordered
  | set _ => .set

/-- The parts of a value by their numbers. -/
abbrev Parts := Array Part

namespace Parts

/-- The part with a number. -/
def part (parts : Parts) (p : PartId) : Part := parts.getD p (.whole .null)

/-! ## Keys -/

/-- Equality of parts as keys, of which tuples are looked into to a given depth.  A part is the same
as itself even where its value differs from every value. -/
def isSameTo (parts : Parts) : (depth : Nat) → PartId → PartId → Bool
  | 0, a, b => a == b
  | depth + 1, a, b =>
    a == b || match parts.part a, parts.part b with
      | .whole v, .whole w => v.same w
      | .tuple xs, .tuple ys =>
        xs.length == ys.length && (xs.zip ys).all fun (x, y) => isSameTo parts depth x y
      | _, _ => false

/-- Equality of parts as keys. -/
def isSame (parts : Parts) (a b : PartId) : Bool := parts.isSameTo parts.size a b

/-- The kind of the first part of a key that cannot be part of one, in tuples to a given depth. -/
def unsuitableTo? (parts : Parts) : (depth : Nat) → PartId → Option Kind
  | 0, _ => none
  | depth + 1, p =>
    match parts.part p with
    | .whole _ => none
    | .tuple items => items.findSome? (unsuitableTo? parts depth)
    | part => some part.kind

/-- The kind of the first part of a key that cannot be part of one. -/
def unsuitable? (parts : Parts) (p : PartId) : Option Kind := parts.unsuitableTo? parts.size p

/-! ## Values -/

/-- The values of parts that are known, by their numbers. -/
abbrev Known := StateM (Array (Option Value))

/-- A value, and the parts around it that come again inside it. -/
abbrev Unfolded := Value × List PartId

/-- The values of several parts. -/
def unfoldItems (unfold : PartId → Known Unfolded) (items : List PartId) :
    Known (List Value × List PartId) := do
  let unfolded ← items.mapM unfold
  return (unfolded.map (·.1), (unfolded.flatMap (·.2)).eraseDups)

/-- The values of several entries. -/
def unfoldEntries (unfold : PartId → Known Unfolded) (entries : List (PartId × PartId)) :
    Known (List (Value × Value) × List PartId) := do
  let (keys, freeInKeys) ← unfoldItems unfold (entries.map (·.1))
  let (values, free) ← unfoldItems unfold (entries.map (·.2))
  return (keys.zip values, (freeInKeys ++ free).eraseDups)

/-- The value of a part from those of its items.  The items of a set have an order of their own. -/
def unfoldPart (unfold : PartId → Known Unfolded) : Part → Known Unfolded
  | .whole v => return (v, [])
  | .list items => do
    let (values, free) ← unfoldItems unfold items
    return (.list values, free)
  | .tuple items => do
    let (values, free) ← unfoldItems unfold items
    return (.tuple values, free)
  | .set items => do
    let (values, free) ← unfoldItems unfold items
    return (.set (Value.inSlots values), free)
  | .mapping entries => do
    let (values, free) ← unfoldEntries unfold entries
    return (.mapping values, free)
  | .ordered entries => do
    let (values, free) ← unfoldEntries unfold entries
    return (.ordered values, free)

/-- The value of a part that lies inside the parts of a path.  A part that lies inside itself is a
knot.  Values that do not depend on the path are kept. -/
def unfold (parts : Parts) : (depth : Nat) → (path : List PartId) → PartId → Known Unfolded
  | 0, _, _ => return (.null, [])
  | depth + 1, path, p => do
    match (← get).getD p none with
    | some v => return (v, [])
    | none =>
      if path.contains p then return (.again p (parts.part p).kind, [p])
      else
        let (content, free) ← unfoldPart (unfold parts depth (p :: path)) (parts.part p)
        let v := if free.isEmpty then content else .knot p content
        let outside := free.filter (· ≠ p)
        if outside.isEmpty then modify (·.setIfInBounds p (some v))
        return (v, outside)

/-- The value that begins with a part. -/
def value (parts : Parts) (p : PartId) : Value :=
  ((parts.unfold (parts.size + 1) [] p).run (Array.replicate parts.size none)).run.1.1

end Parts

end ServerLauncher.Yaml
