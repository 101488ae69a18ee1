import ServerLauncher.Number.Integer
import ServerLauncher.Yaml.Tag
import ServerLauncher.Yaml.Tokens

/-!
# The nodes of a document

A document is a graph of scalars, sequences and mappings.  A node can be given a name by an anchor;
an alias stands for the node of that name, also inside that node itself.  Nodes therefore have
numbers, and collections hold the numbers of their parts.

## Main definitions

* `Node`, `NodeId`: the nodes and their numbers.
* `Reading`: what is known while a document is read.
* `readNodes`: the nodes of the only document of a text, and its root if there is one.
-/

namespace ServerLauncher.Yaml

/-- The number of a node. -/
abbrev NodeId := Nat

/-- What a node consists of. -/
inductive Content where
  | scalar (text : String)
  | sequence (items : List NodeId)
  | mapping (entries : List (NodeId × NodeId))
deriving Repr, Inhabited

/-- A node of a document. -/
structure Node where
  tag : Tag
  content : Content
  /-- The entries that are merged into a mapping, once that is done. -/
  merged : Option (List (NodeId × NodeId)) := none
deriving Repr

instance : Inhabited Node := ⟨{ tag := .null, content := .scalar "" }⟩

/-! ## Reading -/

/-- What is known while a document is read. -/
structure Reading where
  tokens : Tokens
  nodes : Array Node := #[]
  /-- The nodes with names, the latest first. -/
  anchors : List (String × NodeId) := []
  /-- The handles of tags with the addresses they stand for. -/
  handles : List (String × String) := []

/-- A step in reading a document. -/
abbrev Reader := StateT Reading (Except Fault)

namespace Reader

/-- What is found wrong with a document. -/
def fail {α : Type} : Reader α := throw .malformedDocument

/-- The next token. -/
def peek : Reader Token := do
  let s ← get
  let (token, tokens) ← s.tokens.peek
  set { s with tokens }
  return token

/-- The next token is taken. -/
def skip : Reader Unit := do
  let s ← get
  set { s with tokens := ← s.tokens.take }

/-- The next token is taken if it is the given one. -/
def skipIf (token : Token) : Reader Bool := do
  if (← peek) = token then
    skip
    return true
  else return false

/-- Whether the next token is one of the given ones. -/
def nextIn (tokens : List Token) : Reader Bool := return tokens.contains (← peek)

/-- Whether the document follows the version of the format that is usual. -/
def isNew : Reader Bool := return !(← get).tokens.isOld

/-- The tag of a scalar without a tag. -/
def implicitTag (plain : Bool) (text : String) : Reader Tag := do
  if plain then
    match (← get).tokens.version with
    | none | some (1, 2) => return .ofPlain false text
    | some (1, 1) => return .ofPlain true text
    | some (major, minor) => throw (.unknownVersion major minor)
  else return .text

/-- A node is added. -/
def add (node : Node) : Reader NodeId := do
  let id := (← get).nodes.size
  modify fun s => { s with nodes := s.nodes.push node }
  return id

/-- An empty scalar. -/
def empty : Reader NodeId := do add { tag := ← implicitTag true "", content := .scalar "" }

/-- The tag and the anchor before a node. -/
structure Properties where
  tag : Option (Option String × String) := none
  anchor : Option String := none

/-- The tag here, if there is one. -/
def tagHere : Reader (Option (Option String × String)) := do
  match ← peek with
  | .tag handle suffix =>
    skip
    return some (handle, suffix)
  | _ => return none

/-- The anchor here, if there is one. -/
def anchorHere : Reader (Option String) := do
  match ← peek with
  | .anchor name =>
    skip
    return some name
  | _ => return none

/-- The tag and the anchor here, in either order. -/
def properties : Reader Properties := do
  match ← anchorHere with
  | some anchor => return ⟨← tagHere, some anchor⟩
  | none =>
    match ← tagHere with
    | some tag => return ⟨some tag, ← anchorHere⟩
    | none => return {}

/-- The character that the one or two digits behind a percent sign write. -/
def numberedChar (digits : List Char) : Except Fault Char :=
  match readInteger 16 digits with
  | .ok code =>
    if code < 0 then .error (.noSuchCharacter code) else .ok (Char.ofNat code.toNat)
  | .error _ => .error (.notInteger 16 (String.ofList digits))

/-- The suffix of a tag with its numbered characters decoded. -/
def decodedSuffix : List Char → Except Fault (List Char)
  | [] => .ok []
  | ['%'] => do return [← numberedChar []]
  | ['%', a] => do return [← numberedChar [a]]
  | c :: rest => do
    if c = '%' then
      match rest with
      | a :: b :: rest => return (← numberedChar [a, b]) :: (← decodedSuffix rest)
      | _ => return []
    else return c :: (← decodedSuffix rest)

/-- The address of a tag.  A lone exclamation mark is no tag. -/
def address? : Option (Option String × String) → Reader (Option String)
  | none => return none
  | some (handle, suffix) => do
    let start ← match handle with
      | none => pure ""
      | some handle => match (← get).handles.lookup handle with
        | some uri => pure uri
        | none => fail
    let address := start ++ String.ofList (← decodedSuffix suffix.toList)
    return if address = "!" then none else some address

/-- A name is given to a node. -/
def name (anchor : Option String) (id : NodeId) : Reader Unit := do
  match anchor with
  | none => return ()
  | some anchor => modify fun s => { s with anchors := (anchor, id) :: s.anchors }

/-- The node that an alias stands for. -/
def aliased (anchor : String) : Reader NodeId := do
  match (← get).anchors.lookup anchor with
  | some id => return id
  | none => fail

/-- A scalar with a name. -/
def scalar (anchor : Option String) (tag : Tag) (text : String) : Reader NodeId := do
  let id ← add { tag, content := .scalar text }
  name anchor id
  return id

/-- A collection with a name, which stands for it in its own content already. -/
def collection (anchor : Option String) (tag : Tag) (content : Reader Content) : Reader NodeId := do
  let id ← add { tag, content := .sequence [] }
  name anchor id
  let content ← content
  modify fun s => { s with nodes := s.nodes.modify id fun node => { node with content } }
  return id

mutual

/-- The node here.  Blocks are allowed only where `block` is set, and blocks that are not indented
only where `atKey` is. -/
def node (block atKey : Bool) : Nat → Reader NodeId
  | 0 => fail
  | n + 1 => do
    match ← peek with
    | .alias anchor =>
      skip
      aliased anchor
    | _ =>
      let properties ← properties
      let uri ← address? properties.tag
      let anchor := properties.anchor
      let tagOr (standard : Tag) := (uri.map Tag.ofUri).getD standard
      match ← peek with
      | .scalar text plain =>
        skip
        let tag ← match uri with
          | some uri => pure (Tag.ofUri uri)
          | none => implicitTag (plain || properties.tag.isSome) text
        scalar anchor tag text
      | .sequenceStart =>
        skip
        collection anchor (tagOr .sequence) (.sequence <$> flowItems true n)
      | .mappingStart =>
        skip
        collection anchor (tagOr .mapping) (.mapping <$> flowEntries true n)
      | token =>
        if token = .item && atKey then
          collection anchor (tagOr .sequence) (.sequence <$> looseItems n)
        else if token = .blockSequenceStart && block then
          skip
          collection anchor (tagOr .sequence) (.sequence <$> blockItems n)
        else if token = .blockMappingStart && block then
          skip
          collection anchor (tagOr .mapping) (.mapping <$> blockEntries n)
        else if properties.tag.isSome || anchor.isSome then
          let tag ← match uri with
            | some uri => pure (Tag.ofUri uri)
            | none => implicitTag true ""
          scalar anchor tag ""
        else fail

/-- The items of a block sequence up to its end. -/
def blockItems : Nat → Reader (List NodeId)
  | 0 => fail
  | n + 1 => do
    if ← skipIf .item then
      let first ← if ← nextIn [.item, .blockEnd] then empty else node true false n
      return first :: (← blockItems n)
    else if ← skipIf .blockEnd then return []
    else fail

/-- The items of a block sequence that is not indented. -/
def looseItems : Nat → Reader (List NodeId)
  | 0 => fail
  | n + 1 => do
    if ← skipIf .item then
      let first ←
        if ← nextIn [.item, .key, .value, .blockEnd] then empty else node true false n
      return first :: (← looseItems n)
    else return []

/-- The entries of a block mapping up to its end. -/
def blockEntries : Nat → Reader (List (NodeId × NodeId))
  | 0 => fail
  | n + 1 => do
    let ends := nextIn [.key, .value, .blockEnd]
    let key? ←
      if ← skipIf .key then
        if ← ends then some <$> empty else some <$> node true true n
      else if (← isNew) && (← peek) = .value then some <$> empty
      else pure none
    match key? with
    | none => if ← skipIf .blockEnd then return [] else fail
    | some key =>
      let value ←
        if ← skipIf .value then
          if ← ends then empty else node true true n
        else empty
      return (key, value) :: (← blockEntries n)

/-- The items of a sequence in brackets up to its end.  An item with a colon is a mapping with one
entry. -/
def flowItems (first : Bool) : Nat → Reader (List NodeId)
  | 0 => fail
  | n + 1 => do
    if ← skipIf .sequenceEnd then return []
    else
      if !first then
        if !(← skipIf .entry) then fail
      if ← skipIf .key then
        let key ←
          if ← nextIn [.value, .entry, .sequenceEnd] then empty else node false false n
        let value ←
          if ← skipIf .value then
            if ← nextIn [.entry, .sequenceEnd] then empty else node false false n
          else empty
        let pair ← add { tag := .mapping, content := .mapping [(key, value)] }
        return pair :: (← flowItems false n)
      else if ← skipIf .sequenceEnd then return []
      else
        let item ← node false false n
        return item :: (← flowItems false n)

/-- The entries of a mapping in braces up to its end.  A key may lack its value. -/
def flowEntries (first : Bool) : Nat → Reader (List (NodeId × NodeId))
  | 0 => fail
  | n + 1 => do
    if ← skipIf .mappingEnd then return []
    else
      if !first then
        if !(← skipIf .entry) then fail
      let value : Reader NodeId := do
        if ← skipIf .value then
          if ← nextIn [.entry, .mappingEnd] then empty else node false false n
        else empty
      if ← skipIf .key then
        let key ←
          if ← nextIn [.value, .entry, .mappingEnd] then empty else node false false n
        let value ← value
        return (key, value) :: (← flowEntries false n)
      else if (← isNew) && (← peek) = .value then
        let key ← empty
        let value ← value
        return (key, value) :: (← flowEntries false n)
      else if ← skipIf .mappingEnd then return []
      else
        let key ← node false false n
        let value ← empty
        return (key, value) :: (← flowEntries false n)

end

/-! ## Documents -/

/-- The handles that need no declaration. -/
def standardHandles : List (String × String) := [("!", "!"), ("!!", coreTags)]

/-- The directives here: the version and the handles that are declared.  There is one version at
most, and a handle is declared once. -/
def directives (version : Option (Nat × Nat)) (handles : List (String × String)) :
    Nat → Reader (Option (Nat × Nat) × List (String × String))
  | 0 => fail
  | n + 1 => do
    match ← peek with
    | .directive (.version major minor) =>
      skip
      if version.isSome || major ≠ 1 then fail else directives (some (major, minor)) handles n
    | .directive (.tag handle uri) =>
      skip
      if (handles.lookup handle).isSome then fail
      else directives version (handles ++ [(handle, uri)]) n
    | .directive .other =>
      skip
      directives version handles n
    | _ => return (version, handles)

/-- The directives before a document.  A version must be one of those that are known. -/
def documentHandles (fuel : Nat) : Reader (List (String × String)) := do
  let (version, handles) ← directives none [] fuel
  match version with
  | some (major, minor) =>
    if minor ≠ 1 ∧ minor ≠ 2 then throw (.forbiddenVersion major minor)
  | none => pure ()
  return handles ++ standardHandles

/-- Lines that end documents are left out. -/
def skipEnds : Nat → Reader Unit
  | 0 => return ()
  | n + 1 => do if ← skipIf .documentEnd then skipEnds n

/-- Whether a token can begin the first document only with a line of its own. -/
def isExplicit : Token → Bool
  | .directive _ | .documentStart | .streamEnd => true
  | _ => false

/-- The root of the first document, if there is one. -/
def firstDocument (fuel : Nat) : Reader (Option NodeId) := do
  let first ← peek
  if first = .streamEnd then return none
  else if isExplicit first then
    let handles ← documentHandles fuel
    modify fun s => { s with handles }
    if ← skipIf .documentStart then
      let next ← peek
      if isExplicit next || next = .documentEnd then return some (← empty)
      else return some (← node true false fuel)
    else fail
  else
    modify fun s => { s with handles := standardHandles }
    return some (← node true false fuel)

/-- The end of the only document.  The directives of a further one are read before it turns out to
be one too many. -/
def documentEnd (fuel : Nat) : Reader Unit := do
  let ended ← skipIf .documentEnd
  if !ended || !(← isNew) then skipEnds fuel
  if (← peek) ≠ .streamEnd then
    let _ ← documentHandles fuel
    fail

/-- The root of the only document, if there is one. -/
def document (fuel : Nat) : Reader (Option NodeId) := do
  match ← firstDocument fuel with
  | none => return none
  | some root =>
    documentEnd fuel
    return some root

end Reader

/-- The nodes of the only document of a text. -/
structure NodeGraph where
  nodes : Array Node
  root : Option NodeId
  /-- Whether the document declares the old version of the format. -/
  isOld : Bool

/-- The nodes of the only document of a text. -/
def readNodes (tokens : Tokens) : Except Fault NodeGraph := do
  let (root, s) ← (Reader.document (8 * tokens.cursor.size + 16)).run { tokens }
  return ⟨s.nodes, root, s.tokens.isOld⟩

end ServerLauncher.Yaml
