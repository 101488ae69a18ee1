import ServerLauncher.Yaml.Scalar.Block
import ServerLauncher.Yaml.Scalar.Plain
import ServerLauncher.Yaml.Scalar.Quoted
import ServerLauncher.Yaml.Name

/-!
# The tokens of a document, on demand

The tokens of a document are found from left to right, as many as are needed to know the next one.
That is not always the next one in the text: whether something is the key of a mapping shows only
at the colon behind it, which has to follow on the same line and within 1024 characters.  The place
of a token that may turn out to begin a key is kept until that is settled, one place for each depth
of brackets.

The reading of a colon inside braces depends on whether the token before it has been taken already,
so the order in which tokens are found and taken matters.

## Main definitions

* `Tokens`: a document partly divided into tokens.
* `Tokens.peek`, `Tokens.take`: the next token.
-/

namespace ServerLauncher.Yaml

/-- A place where a key may begin. -/
structure KeyPlace where
  /-- The number of the token that begins there. -/
  number : Nat
  /-- Whether there has to be a key. -/
  required : Bool
  index : Nat
  line : Nat
  column : Nat
deriving Repr

/-- The brackets that surround a token. -/
inductive Bracket where
  | square
  | brace
deriving DecidableEq, Repr

/-- A document partly divided into tokens. -/
structure Tokens where
  /-- Where the next token is to be found. -/
  cursor : Cursor
  /-- The tokens that are found and not taken. -/
  queue : List Token := []
  /-- The number of tokens that are taken. -/
  taken : Nat := 0
  /-- The brackets around the next token, the innermost first. -/
  brackets : List Bracket := []
  /-- The least column of what belongs to the innermost block collection, one more than that of the
  collection itself; zero outside of all. -/
  margin : Nat := 0
  /-- The margins of the block collections around the innermost one. -/
  margins : List Nat := []
  /-- Whether a key may begin here. -/
  keyAllowed : Bool := true
  /-- The places where keys may begin, by the depth of brackets. -/
  places : List (Nat × KeyPlace) := []
  /-- Whether the end is found. -/
  done : Bool := false
  /-- The version that the document declares. -/
  version : Option (Nat × Nat) := none
deriving Repr

namespace Tokens

/-- The tokens of a document that begins at a cursor.  A byte order mark at its beginning is left
out. -/
def ofCursor (c : Cursor) : Tokens :=
  { cursor := if c.rest.head? = some orderMark then c.advance 1 else c }

/-- The depth of brackets. -/
def depth (t : Tokens) : Nat := t.brackets.length

/-- Whether brackets surround the next token. -/
def inBrackets (t : Tokens) : Bool := !t.brackets.isEmpty

/-- Whether the document declares the old version of the format. -/
def isOld (t : Tokens) : Bool := t.version = some (1, 1)

/-- Whether the document follows a later version of the format than the old one. -/
def isNewer (t : Tokens) : Bool :=
  match t.version with
  | none => true
  | some (major, minor) => 1 < major || (major = 1 && 1 < minor)

/-- The tokens with one more found. -/
def push (t : Tokens) (token : Token) : Tokens := { t with queue := t.queue ++ [token] }

/-- A step that reads on from the cursor. -/
def scanning {α : Type} (x : Scan α) (t : Tokens) : Except Fault (α × Tokens) := do
  let (a, cursor) ← x.run t.cursor
  return (a, { t with cursor })

/-- A character ahead of the cursor. -/
def peekAt (n : Nat) (t : Tokens) : Except Fault Char := (Scan.peekAt n).run' t.cursor

/-! ## Places of keys -/

/-- Places that have become too old are given up; that is an error where a key has to be. -/
def dropStale (t : Tokens) : Except Fault Tokens :=
  let isStale (p : KeyPlace) : Bool := p.line ≠ t.cursor.line || 1024 < t.cursor.index - p.index
  if t.places.any fun p => isStale p.2 && p.2.required then malformed
  else .ok { t with places := t.places.filter fun p => !isStale p.2 }

/-- The place at the present depth is given up; that is an error where a key has to be. -/
def dropPlace (t : Tokens) : Except Fault Tokens :=
  match t.places.lookup t.depth with
  | none => .ok t
  | some p =>
    if p.required then malformed
    else .ok { t with places := t.places.filter (·.1 ≠ t.depth) }

/-- The next token may begin a key, if one is allowed. -/
def savePlace (t : Tokens) : Except Fault Tokens := do
  if t.keyAllowed then
    let required := !t.inBrackets && t.margin = t.cursor.column + 1
    let t ← t.dropPlace
    let place : KeyPlace :=
      ⟨t.taken + t.queue.length, required, t.cursor.index, t.cursor.line, t.cursor.column⟩
    return { t with places := (t.depth, place) :: t.places }
  else return t

/-! ## Indentation -/

/-- The block collections that are indented too far end. -/
def unwindTo (limit : Nat) : List Nat → Tokens → Tokens
  | [], t => t
  | outer :: margins, t =>
    if limit < t.margin then
      unwindTo limit margins { (t.push .blockEnd) with margin := outer, margins := margins }
    else t

/-- The block collections whose margin lies behind `limit` end.  Indentation does not count inside
brackets. -/
def unwind (limit : Nat) (t : Tokens) : Tokens :=
  if t.inBrackets then t else unwindTo limit t.margins t

/-- A block collection begins in a column, unless one has begun there already. -/
def indent? (column : Nat) (t : Tokens) : Option Tokens :=
  if t.margin ≤ column then
    some { t with margin := column + 1, margins := t.margin :: t.margins }
  else none

/-- The block collection that an indicator here may begin. -/
def beginBlock (start : Token) (t : Tokens) : Except Fault Tokens :=
  if t.inBrackets then .ok t
  else if !t.keyAllowed then malformed
  else match t.indent? t.cursor.column with
    | some t => .ok (t.push start)
    | none => .ok t

/-! ## Finding tokens -/

/-- The next token is an indicator of some characters. -/
def indicator (token : Token) (length : Nat) (t : Tokens) : Except Fault Tokens := do
  let (_, t) ← t.scanning (Scan.advance length)
  return t.push token

/-- The end of the document. -/
def findEnd (t : Tokens) : Except Fault Tokens := do
  let t ← (t.unwind 0).dropPlace
  return { (t.push .streamEnd) with keyAllowed := false, places := [], done := true }

/-- A directive. -/
def findDirective (t : Tokens) : Except Fault Tokens := do
  let t ← (t.unwind 0).dropPlace
  let (d, t) ← t.scanning (Scan.directive t.isNewer)
  let version := match d with
    | .version major minor => some (major, minor)
    | _ => t.version
  return { (t.push (.directive d)) with keyAllowed := false, version }

/-- A line that separates documents. -/
def findSeparator (token : Token) (t : Tokens) : Except Fault Tokens := do
  let t ← (← (t.unwind 0).dropPlace).indicator token 3
  return { t with keyAllowed := false }

/-- An opening bracket. -/
def findOpening (token : Token) (bracket : Bracket) (t : Tokens) : Except Fault Tokens := do
  let t ← (← t.savePlace).indicator token 1
  return { t with keyAllowed := true, brackets := bracket :: t.brackets }

/-- A closing bracket. -/
def findClosing (token : Token) (t : Tokens) : Except Fault Tokens := do
  let t ← (← t.dropPlace).indicator token 1
  return { t with keyAllowed := false, brackets := t.brackets.tail }

/-- A comma. -/
def findEntry (t : Tokens) : Except Fault Tokens := do
  let t ← (← t.dropPlace).indicator .entry 1
  return { t with keyAllowed := true }

/-- A dash. -/
def findItem (t : Tokens) : Except Fault Tokens := do
  let t ← (← (← t.beginBlock .blockSequenceStart).dropPlace).indicator .item 1
  return { t with keyAllowed := true }

/-- A question mark. -/
def findKey (t : Tokens) : Except Fault Tokens := do
  let t ← (← (← t.beginBlock .blockMappingStart).dropPlace).indicator .key 1
  return { t with keyAllowed := !t.inBrackets }

/-- The tokens with the beginning of a key inserted at its place. -/
def insertKey (p : KeyPlace) (t : Tokens) : Tokens :=
  let t := { t with places := t.places.filter (·.1 ≠ t.depth) }
  let position := p.number - t.taken
  let (t, inserted) := match (if t.inBrackets then none else t.indent? p.column) with
    | some t => (t, [Token.blockMappingStart, .key])
    | none => (t, [Token.key])
  { t with queue := t.queue.take position ++ inserted ++ t.queue.drop position }

/-- A colon.  If a key may have begun at the place that is kept for this depth, it has. -/
def findValue (t : Tokens) : Except Fault Tokens := do
  match t.places.lookup t.depth with
  | some p =>
    let t ← (t.insertKey p).indicator .value 1
    return { t with keyAllowed := false }
  | none =>
    let t ← (← (← t.beginBlock .blockMappingStart).dropPlace).indicator .value 1
    return { t with keyAllowed := !t.inBrackets }

/-- An alias or an anchor. -/
def findName (token : String → Token) (t : Tokens) : Except Fault Tokens := do
  let (name, t) ← (← t.savePlace).scanning Scan.anchorName
  return { (t.push (token name)) with keyAllowed := false }

/-- A tag. -/
def findTag (t : Tokens) : Except Fault Tokens := do
  let (token, t) ← (← t.savePlace).scanning (Scan.tag t.isNewer)
  return { (t.push token) with keyAllowed := false }

/-- A block scalar. -/
def findBlock (t : Tokens) : Except Fault Tokens := do
  let (text, t) ← (← t.dropPlace).scanning (Scan.block t.margin)
  return { (t.push (.scalar (String.ofList text) false)) with keyAllowed := true }

/-- A quoted scalar. -/
def findQuoted (t : Tokens) : Except Fault Tokens := do
  let (text, t) ← (← t.savePlace).scanning Scan.quoted
  return { (t.push (.scalar (String.ofList text) false)) with keyAllowed := false }

/-- A plain scalar.  Behind a line break a key may begin again. -/
def findPlain (t : Tokens) : Except Fault Tokens := do
  let ((text, broke), t) ←
    (← t.savePlace).scanning (Scan.plain ⟨t.inBrackets, t.isOld, t.margin⟩)
  return { (t.push (.scalar (String.ofList text) true)) with keyAllowed := broke }

/-- Whether the character behind the one here ends a word. -/
def beforeBlank (t : Tokens) : Except Fault Bool := return endsWord (← t.peekAt 1)

/-- Whether a character here begins a line that separates documents. -/
def beginsSeparator (ch : Char) (t : Tokens) : Except Fault Bool :=
  if (ch = '-' || ch = '.') && t.cursor.column = 0 then Scan.atSeparator.run' t.cursor
  else return false

/-- Whether a colon here stands before a value. -/
def isValue (t : Tokens) : Except Fault Bool :=
  let always : Bool := match t.brackets with
    | [] => false
    | .square :: _ => t.isOld
    | .brace :: _ => t.isOld || t.queue.getLast? ≠ some .value
  if always then return true else t.beforeBlank

/-- Whether a plain scalar begins here with a character. -/
def beginsPlain (ch : Char) (t : Tokens) : Except Fault Bool := do
  if !(endsField ch || "\t-?:,[]\x7b\x7d#&*!|>'\"%@\x60".toList.contains ch) then return true
  else
    let next ← t.peekAt 1
    if !t.isOld && t.inBrackets && ch = ':' && !isSpaceOrTab next then return true
    else return !endsWord next && (ch = '-' || (!t.inBrackets && (ch = '?' || ch = ':')))

/-- The token that begins at the cursor. -/
def findHere (t : Tokens) : Except Fault Tokens := do
  let ch ← t.peekAt 0
  if ch = endMark then t.findEnd
  else if ch = '%' && t.cursor.column = 0 then t.findDirective
  else if ← t.beginsSeparator ch then
    t.findSeparator (if ch = '-' then .documentStart else .documentEnd)
  else match ch with
    | '[' => t.findOpening .sequenceStart .square
    | '{' => t.findOpening .mappingStart .brace
    | ']' => t.findClosing .sequenceEnd
    | '}' => t.findClosing .mappingEnd
    | ',' => t.findEntry
    | '*' => t.findName .alias
    | '&' => t.findName .anchor
    | '!' => t.findTag
    | '\'' | '"' => t.findQuoted
    | _ =>
      if (ch = '|' || ch = '>') && !t.inBrackets then t.findBlock
      else if ← (if ch = '-' then t.beforeBlank else return false) then t.findItem
      else if ← (if ch = '?' && !t.inBrackets then t.beforeBlank else return ch = '?') then
        t.findKey
      else if ← (if ch = ':' then t.isValue else return false) then t.findValue
      else if ← t.beginsPlain ch then t.findPlain
      else malformed

/-- One more token, with what its indentation ends and begins. -/
def find (t : Tokens) : Except Fault Tokens := do
  let (broke, t) ← t.scanning (Scan.looped (Scan.toToken t.inBrackets))
  let t ← { t with keyAllowed := t.keyAllowed || (broke && !t.inBrackets) : Tokens }.dropStale
  (t.unwind (t.cursor.column + 1)).findHere

/-! ## Taking tokens -/

/-- Whether the next token may still turn out to begin a key. -/
def isOpen (t : Tokens) : Bool :=
  t.places.any (·.2.number = t.taken) && t.places.all (t.taken ≤ ·.2.number)

/-- As many tokens as are needed to know the next one. -/
def fill : Nat → Tokens → Except Fault Tokens
  | 0, t => .ok t
  | n + 1, t =>
    if t.done then .ok t
    else if t.queue.isEmpty then do fill n (← t.find)
    else do
      let t ← t.dropStale
      if t.isOpen then fill n (← t.find) else return t

/-- The number of rounds that suffices to know the next token. -/
def rounds (t : Tokens) : Nat := 2 * t.cursor.size + 4

/-- The next token. -/
def peek (t : Tokens) : Except Fault (Token × Tokens) := do
  let t ← t.fill t.rounds
  return (t.queue.headD .streamEnd, t)

/-- The tokens without the next one. -/
def take (t : Tokens) : Except Fault Tokens := do
  let t ← t.fill t.rounds
  return { t with queue := t.queue.tail, taken := t.taken + 1 }

end Tokens

end ServerLauncher.Yaml
