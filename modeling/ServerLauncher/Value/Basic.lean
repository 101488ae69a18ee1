import ServerLauncher.Number.Integer
import ServerLauncher.Number.Text
import ServerLauncher.Policy
import ServerLauncher.Text.Quoted
import ServerLauncher.Value.Calendar

/-!
# Values of configuration documents

A configuration document holds values of a few kinds, nested to any depth; mappings keep the order
of their entries.  A mapping that a program builds may also hold a policy as it is.

## Main definitions

* `Value`, `Kind`: values and their kinds.
* `Value.same`: the equality by which the keys of mappings are told apart.
* `Value.TextIssue`: why a value has no text.
* `Value.toText`, `Value.text?`, `Value.shown`: the text of a value, alone and inside a collection.
* `Value.opened`: a collection that contains itself, one round further.
* `Value.entries?`: the entries of a mapping of either kind.
* `Value.isTrue`: the value as a condition.
* `Value.toDouble`, `Value.seconds`: the value as a number.
* `Value.entriesOf`: a mapping from its pairs.
-/

namespace ServerLauncher

/-! ## Kinds and values -/

/-- The kinds of values. -/
inductive Kind where
  | null
  | truth
  | integer
  | real
  | text
  | date
  | moment
  | list
  | tuple
  | mapping
  /-- A mapping that is written as the list of its entries. -/
  | ordered
  | bytes
  | set
  | policy
deriving DecidableEq, Repr

namespace Kind

/-- The name of a kind in messages. -/
def name : Kind → String
  | null => "NoneType"
  | truth => "bool"
  | integer => "int"
  | real => "float"
  | text => "str"
  | date => "date"
  | moment => "datetime"
  | list => "list"
  | tuple => "tuple"
  | mapping => "dict"
  | ordered => "ordereddict"
  | bytes => "bytes"
  | set => "set"
  | policy => "ServerPathPolicy"

/-- The name of a kind in messages that name the library of the calendar, too. -/
def qualifiedName : Kind → String
  | date => "datetime.date"
  | moment => "datetime.datetime"
  | kind => kind.name

end Kind

/-- A value of a configuration document.  The entries of a mapping have different keys. -/
inductive Value where
  | null
  | truth (b : Bool)
  | integer (n : Int)
  | real (x : Double)
  | text (s : String)
  | date (d : Date)
  | moment (m : Moment)
  | list (items : List Value)
  | tuple (items : List Value)
  | mapping (entries : List (Value × Value))
  /-- A mapping that is written as the list of its entries. -/
  | ordered (entries : List (Value × Value))
  | bytes (content : List UInt8)
  | set (items : List Value)
  | policy (p : Policy)
  /-- A collection that contains itself, under a label. -/
  | knot (label : Nat) (content : Value)
  /-- The place inside a knot where it comes again. -/
  | again (label : Nat) (kind : Kind)
deriving Repr, Inhabited

namespace Value

/-- The kind of a value. -/
def kind : Value → Kind
  | null => .null
  | truth _ => .truth
  | integer _ => .integer
  | real _ => .real
  | text _ => .text
  | date _ => .date
  | moment _ => .moment
  | list _ => .list
  | tuple _ => .tuple
  | mapping _ => .mapping
  | ordered _ => .ordered
  | bytes _ => .bytes
  | set _ => .set
  | policy _ => .policy
  | knot _ content => content.kind
  | again _ kind => kind

/-! ## Knots -/

mutual

/-- A value with a collection in the places that its label marks. -/
def tie (label : Nat) (whole : Value) : Value → Value
  | again l kind => if l = label then whole else again l kind
  | knot l content => if l = label then knot l content else knot l (tie label whole content)
  | list items => list (tieItems label whole items)
  | tuple items => tuple (tieItems label whole items)
  | set items => set (tieItems label whole items)
  | mapping entries => mapping (tieEntries label whole entries)
  | ordered entries => ordered (tieEntries label whole entries)
  | v => v

/-- Items with a collection in the places that its label marks. -/
def tieItems (label : Nat) (whole : Value) : List Value → List Value
  | [] => []
  | v :: vs => tie label whole v :: tieItems label whole vs

/-- Entries with a collection in the places that its label marks. -/
def tieEntries (label : Nat) (whole : Value) : List (Value × Value) → List (Value × Value)
  | [] => []
  | (k, v) :: rest => (tie label whole k, tie label whole v) :: tieEntries label whole rest

end

/-- A value whose outermost collection is no knot: in the places where it comes again stands the
knot. -/
def opened : Value → Value
  | knot label content => tie label (knot label content) content
  | v => v

/-- The entries of a mapping. -/
def entries? (v : Value) : Option (List (Value × Value)) :=
  match v.opened with
  | mapping entries | ordered entries => some entries
  | _ => none

/-! ## Equality of keys -/

/-- The whole number that a truth value or an integer stands for. -/
def integer? : Value → Option Int
  | truth b => some (if b then 1 else 0)
  | integer n => some n
  | _ => none

mutual

/-- Equality of keys: numbers are equal by their value, whatever their kind. -/
def same : Value → Value → Bool
  | null, null => true
  | text s, text t => s == t
  | date d, date e => d == e
  | moment m, moment n => m.same n
  | bytes b, bytes c => b == c
  | policy p, policy q => p == q
  | tuple xs, tuple ys => sameItems xs ys
  | real x, real y => x.equals y
  | real x, v => match v.integer? with
    | some n => x.equalsInt n
    | none => false
  | v, real y => match v.integer? with
    | some n => y.equalsInt n
    | none => false
  | v, w => match v.integer?, w.integer? with
    | some m, some n => m == n
    | _, _ => false

/-- Equality item by item. -/
def sameItems : List Value → List Value → Bool
  | [], [] => true
  | x :: xs, y :: ys => same x y && sameItems xs ys
  | _, _ => false

end

/-! ## Texts -/

/-- Why a value has no text. -/
inductive TextIssue where
  /-- It is or holds an integer with too many digits. -/
  | tooLong
  /-- Its collections are nested too deep. -/
  | tooDeep
deriving DecidableEq, Repr

/-- The text of an integer that is not too long. -/
def integerText (n : Int) : Except TextIssue String :=
  if 10 ^ digitLimit ≤ n.natAbs then .error .tooLong else .ok (toString n)

/-- The text of a truth value. -/
def truthText (b : Bool) : String := if b then "True" else "False"

/-- Texts between brackets, with commas between them. -/
def bracketed (opening closing : String) (parts : List String) : String :=
  opening ++ ", ".intercalate parts ++ closing

/-- A collection as it is shown inside itself. -/
def mark : Kind → String
  | .mapping => "\x7b...\x7d"
  | .tuple => "(...)"
  | .ordered => "..."
  | _ => "[...]"

mutual

/-- A value as it is shown inside the knots with given labels.  The text of a collection is made
from those of its items, and the room says how many levels of such texts are left.  A set is
written as a list, which takes a level of its own; an ordered mapping as a list of pairs, which
takes two. -/
def shownIn (inside : List Nat) (room : Nat) : Value → Except TextIssue String
  | null => .ok "None"
  | truth b => .ok (truthText b)
  | integer n => integerText n
  | real x => .ok x.text
  | text s => .ok (Text.quoted s)
  | date d => .ok d.shown
  | moment m => .ok m.shown
  | list items => (shownItems inside room items).map (bracketed "[" "]")
  | tuple items => (shownItems inside room items).map fun parts =>
    bracketed "(" (if parts.length = 1 then ",)" else ")") parts
  | mapping entries => (shownEntries inside room entries).map fun parts =>
    bracketed "\x7b" "\x7d" (parts.map fun (key, value) => key ++ ": " ++ value)
  | ordered entries => (shownEntries inside (room - 2) entries).map fun parts =>
    if parts.isEmpty then "ordereddict()"
    else bracketed "ordereddict([" "])"
      (parts.map fun (key, value) => "(" ++ key ++ ", " ++ value ++ ")")
  | bytes content => .ok (Text.quotedBytes content)
  | set items => (shownItems inside (room - 1) items).map fun parts =>
    if parts.isEmpty then "set()" else bracketed "\x7b" "\x7d" parts
  | policy p => .ok ("<" ++ p.label ++ ": " ++ Text.quoted p.text ++ ">")
  | knot label content =>
    if inside.contains label then .ok (mark content.kind)
    else shownIn (label :: inside) room content
  | again _ kind => .ok (mark kind)

/-- The items of a collection as they are shown. -/
def shownItems (inside : List Nat) (room : Nat) : List Value → Except TextIssue (List String)
  | [] => .ok []
  | v :: vs =>
    if room = 0 then .error .tooDeep
    else do
      let part ← shownIn inside (room - 1) v
      let parts ← shownItems inside room vs
      return part :: parts

/-- The keys and the values of a mapping as they are shown. -/
def shownEntries (inside : List Nat) (room : Nat) :
    List (Value × Value) → Except TextIssue (List (String × String))
  | [] => .ok []
  | (k, v) :: rest =>
    if room = 0 then .error .tooDeep
    else do
      let key ← shownIn inside (room - 1) k
      let value ← shownIn inside (room - 1) v
      let parts ← shownEntries inside room rest
      return (key, value) :: parts

end

/-- A value as it is shown inside a collection, with room for a number of levels below it. -/
def shown (room : Nat) (v : Value) : Except TextIssue String := shownIn [] room v

/-- The text of a value, with room for a number of levels below it: a text stands for itself, dates
are written as people write them, anything else is written as it is shown inside a collection. -/
def toText (room : Nat) : Value → Except TextIssue String
  | text s => .ok s
  | date d => .ok d.text
  | moment m => .ok m.text
  | policy p => .ok p.label
  | v => v.shown room

/-- The text of a value, if it has one. -/
def text? (room : Nat) (v : Value) : Option String := (v.toText room).toOption

/-! ## Conditions and numbers -/

/-- A value as a condition: null, false, zeros and everything empty are false. -/
def isTrue : Value → Bool
  | null => false
  | truth b => b
  | integer n => n != 0
  | real x => x.isTrue
  | text s => !s.isEmpty
  | date _ => true
  | moment _ => true
  | list items => !items.isEmpty
  | tuple items => !items.isEmpty
  | mapping entries => !entries.isEmpty
  | ordered entries => !entries.isEmpty
  | bytes content => !content.isEmpty
  | set items => !items.isEmpty
  | policy _ => true
  | knot _ content => content.isTrue
  | again _ _ => true

/-- Why a value is no number. -/
inductive NumberIssue where
  | wrongKind (kind : Kind)
  /-- The value is given as it is shown. -/
  | unreadable (shown : String)
  | tooLarge
  | notAddable (kind : Kind)
deriving DecidableEq, Repr

/-- An integer as a binary number. -/
def doubleOfInt (n : Int) : Except NumberIssue Double :=
  (Double.ofInt? n).elim (.error .tooLarge) .ok

/-- The number that a number, a truth value or a text stands for. -/
def toDouble : Value → Except NumberIssue Double
  | truth b => .ok (.ofNat (if b then 1 else 0))
  | integer n => doubleOfInt n
  | real x => .ok x
  | text s => match Double.read? s with
    | some x => .ok x
    | none => .error (.unreadable (Text.quoted s))
  | bytes content =>
    match Double.read? (String.ofList (content.map fun b => Char.ofNat b.toNat)) with
    | some x =>
      if content.all (· < 0x80) then .ok x else .error (.unreadable (Text.quotedBytes content))
    | none => .error (.unreadable (Text.quotedBytes content))
  | v => .error (.wrongKind v.kind)

/-- A number of seconds to add to a time.  Texts are no numbers here. -/
def seconds : Value → Except NumberIssue Double
  | truth b => .ok (.ofNat (if b then 1 else 0))
  | integer n => doubleOfInt n
  | real x => .ok x
  | v => .error (.notAddable v.kind)

/-! ## Mappings -/

/-- The entries with one more: a key that is present keeps its place and takes the new value. -/
def insertEntry (entries : List (Value × Value)) (key value : Value) : List (Value × Value) :=
  if entries.any fun entry => entry.1.same key then
    entries.map fun entry => if entry.1.same key then (entry.1, value) else entry
  else entries ++ [(key, value)]

/-- The entries of a mapping that is given by its pairs in order. -/
def entriesOf (pairs : List (Value × Value)) : List (Value × Value) :=
  pairs.foldl (fun entries pair => insertEntry entries pair.1 pair.2) []

/-- The value under a key. -/
def lookup (entries : List (Value × Value)) (key : Value) : Option Value :=
  (entries.find? fun entry => entry.1.same key).map (·.2)

end Value

end ServerLauncher
