import ServerLauncher.Number.Reading
import ServerLauncher.Text.Classes
import ServerLauncher.Yaml.Cursor

/-!
# What nodes stand for

Each node of a document has a tag that says what it stands for.  A plain scalar without a tag gets
one by its form: `true` is a truth value, `012` an integer, `1e3` a number, `2001-02-03` a date;
what has no such form is a text.  A form may be followed by a newline, which is part of the text of
a quoted scalar or a block that is to be taken for a plain scalar.

## Main definitions

* `Tag`: what nodes stand for.
* `Tag.ofUri`: the tag of a written one.
* `Tag.ofPlain`: the tag of a plain scalar.
* `Timestamp`, `Timestamp.read?`: the form of dates.
-/

namespace ServerLauncher.Yaml

/-! ## Tags -/

/-- What nodes stand for. -/
inductive Tag where
  | null
  | truth
  | integer
  | real
  | text
  | timestamp
  | sequence
  | mapping
  | bytes
  | set
  /-- A sequence of mappings with one entry each that stands for one mapping. -/
  | orderedMapping
  /-- A sequence of mappings with one entry each that stands for their pairs. -/
  | pairs
  /-- A key whose value is merged into the mapping. -/
  | merge
  /-- An equals sign. -/
  | equals
  | unknown
deriving DecidableEq, Repr

/-- The beginning of the addresses of the tags that are defined everywhere. -/
def coreTags : String := "tag:yaml.org,2002:"

/-- The tag with a given address. -/
def Tag.ofUri (uri : String) : Tag :=
  if uri = coreTags ++ "null" then .null
  else if uri = coreTags ++ "bool" then .truth
  else if uri = coreTags ++ "int" then .integer
  else if uri = coreTags ++ "float" then .real
  else if uri = coreTags ++ "str" then .text
  else if uri = coreTags ++ "timestamp" then .timestamp
  else if uri = coreTags ++ "seq" then .sequence
  else if uri = coreTags ++ "map" then .mapping
  else if uri = coreTags ++ "binary" then .bytes
  else if uri = coreTags ++ "set" then .set
  else if uri = coreTags ++ "omap" then .orderedMapping
  else if uri = coreTags ++ "pairs" then .pairs
  else if uri = coreTags ++ "merge" then .merge
  else if uri = coreTags ++ "value" then .equals
  else .unknown

/-! ## Forms of numbers -/

/-- A text without the newline at its end. -/
def withoutNewline (s : List Char) : List Char :=
  if s.getLast? = some '\n' then s.dropLast else s

/-- A text without its sign. -/
def unsigned : List Char → List Char
  | '-' :: s => s
  | '+' :: s => s
  | s => s

/-- A digit or an underscore. -/
def isSpacedDigit (c : Char) : Bool := c.isDigit || c = '_'

/-- Whether the characters are all of a class, and there are some. -/
def allOf (p : Char → Bool) (s : List Char) : Bool := !s.isEmpty && s.all p

/-- Digits in groups of one or two, each behind a colon and below sixty; `rest` is what follows. -/
def sexagesimalRest : List Char → Option (List Char)
  | ':' :: a :: b :: s =>
    if '0' ≤ a && a ≤ '5' && b.isDigit then
      match sexagesimalRest s with
      | some rest => some rest
      | none => some s
    else if a.isDigit then
      match sexagesimalRest (b :: s) with
      | some rest => some rest
      | none => some (b :: s)
    else none
  | [':', a] => if a.isDigit then some [] else none
  | _ => none

/-- The form of integers. -/
def isInteger (old : Bool) (s : List Char) : Bool :=
  let u := unsigned s
  let isOctal (c : Char) : Bool := ('0' ≤ c && c ≤ '7') || c = '_'
  let binary := match u with
    | '0' :: 'b' :: ds => allOf (fun c => c = '0' || c = '1' || c = '_') ds
    | _ => false
  let hexadecimal := match u with
    | '0' :: 'x' :: ds => allOf (fun c => (HexDigit.value? c).isSome || c = '_') ds
    | _ => false
  let octal := match u with
    | '0' :: 'o' :: ds => !old && allOf isOctal ds
    | ds => allOf isOctal ds
  let decimal := match u with
    | ['0'] => true
    | d :: ds => (!old || ('1' ≤ d && d ≤ '9')) && allOf isSpacedDigit (d :: ds)
    | [] => false
  let sexagesimal := match u with
    | d :: ds => old && '1' ≤ d && d ≤ '9' && sexagesimalRest (ds.dropWhile isSpacedDigit) = some []
    | [] => false
  binary || octal || decimal || hexadecimal || sexagesimal

/-- The form of exponents; `signed` ones have a sign. -/
def isExponent (signed : Bool) : List Char → Bool
  | e :: s =>
    (e = 'e' || e = 'E') &&
      (match s with
      | '-' :: ds => allOf Char.isDigit ds
      | '+' :: ds => allOf Char.isDigit ds
      | ds => !signed && allOf Char.isDigit ds)
  | [] => false

/-- The form of numbers with a fraction or an exponent, of infinities, and of NaN. -/
def isReal (old : Bool) (s : List Char) : Bool :=
  let u := unsigned s
  let special := ["inf", "Inf", "INF"].any fun name => u = '.' :: name.toList
  let undefined := ["nan", "NaN", "NAN"].any fun name => s = '.' :: name.toList
  let digits := match u with
    | d :: ds =>
      if d.isDigit then
        match ds.dropWhile isSpacedDigit with
        | '.' :: fraction =>
          let rest := fraction.dropWhile isSpacedDigit
          rest.isEmpty || isExponent false rest
        | rest => isExponent false rest
      else false
    | [] => false
  let fraction := match (if old then s else u) with
    | '.' :: d :: ds =>
      if isSpacedDigit d then
        let rest := ds.dropWhile isSpacedDigit
        rest.isEmpty || isExponent true rest
      else false
    | _ => false
  let sexagesimal := match u with
    | d :: ds =>
      if old && d.isDigit then
        match sexagesimalRest (ds.dropWhile isSpacedDigit) with
        | some ('.' :: rest) => rest.all isSpacedDigit
        | _ => false
      else false
    | [] => false
  digits || fraction || special || undefined || sexagesimal

/-! ## Forms of dates -/

/-- The offset of a time from universal time, as it is written. -/
structure Offset where
  negative : Bool
  hours : Nat
  minutes : Nat
  text : List Char
deriving Repr

/-- An offset in minutes. -/
def Offset.total (o : Offset) : Int :=
  let minutes : Int := (60 * o.hours + o.minutes : Nat)
  if o.negative then -minutes else minutes

/-- The time of a date. -/
structure TimeOfDay where
  hour : Nat
  minute : Nat
  second : Nat
  fraction : List Char
  offset : Option Offset
deriving Repr

/-- A date as it is written. -/
structure Timestamp where
  year : Nat
  month : Nat
  day : Nat
  time : Option TimeOfDay
  /-- Whether month and day have two digits. -/
  padded : Bool
deriving Repr

/-- The number that decimal digits write. -/
def decimalOf (digits : List Char) : Nat :=
  digits.foldl (fun n d => 10 * n + (d.toNat - '0'.toNat)) 0

/-- One or two digits. -/
def shortNumber? : List Char → Option (Nat × Nat × List Char)
  | a :: b :: s =>
    if a.isDigit then
      if b.isDigit then some (decimalOf [a, b], 2, s) else some (decimalOf [a], 1, b :: s)
    else none
  | [a] => if a.isDigit then some (decimalOf [a], 1, []) else none
  | [] => none

/-- Two digits. -/
def longNumber? (s : List Char) : Option (Nat × List Char) :=
  match shortNumber? s with
  | some (n, 2, s) => some (n, s)
  | _ => none

/-- A character that has to follow. -/
def expect? (c : Char) : List Char → Option (List Char)
  | d :: s => if c = d then some s else none
  | [] => none

/-- A blank of a date. -/
def isDateBlank (c : Char) : Bool := c = ' ' || c = '\t'

/-- The offset of a time, if there is one; the letter Z stands for none in either direction. -/
def offset? (s : List Char) : Option (Option Offset) :=
  let text := s.dropWhile isDateBlank
  match text with
  | [] => if s.isEmpty then some none else none
  | ['Z'] => some (some ⟨false, 0, 0, text⟩)
  | sign :: digits =>
    if sign = '-' || sign = '+' then
      match shortNumber? digits with
      | some (hours, _, []) => some (some ⟨sign = '-', hours, 0, text⟩)
      | some (hours, _, ':' :: rest) =>
        match longNumber? rest with
        | some (minutes, []) => some (some ⟨sign = '-', hours, minutes, text⟩)
        | _ => none
      | _ => none
    else none

/-- The time of a date. -/
def timeOfDay? (s : List Char) : Option TimeOfDay := do
  let (hour, _, s) ← shortNumber? s
  let (minute, s) ← longNumber? (← expect? ':' s)
  let (second, s) ← longNumber? (← expect? ':' s)
  match s with
  | '.' :: s =>
    return ⟨hour, minute, second, s.takeWhile Char.isDigit, ← offset? (s.dropWhile Char.isDigit)⟩
  | s => return ⟨hour, minute, second, [], ← offset? s⟩

/-- A date as it is written. -/
def Timestamp.read? (s : List Char) : Option Timestamp := do
  let year := s.take 4
  if year.length < 4 || !year.all Char.isDigit then none
  else
    let (month, m, s) ← shortNumber? (← expect? '-' (s.drop 4))
    let (day, d, s) ← shortNumber? (← expect? '-' s)
    let date : Timestamp := ⟨decimalOf year, month, day, none, m = 2 && d = 2⟩
    match s with
    | [] => return date
    | t :: rest =>
      if t = 'T' || t = 't' then return { date with time := some (← timeOfDay? rest) }
      else if isDateBlank t then
        return { date with time := some (← timeOfDay? (rest.dropWhile isDateBlank)) }
      else none

/-- The form of dates: a date without a time needs two digits for month and day. -/
def isTimestamp (s : List Char) : Bool :=
  match Timestamp.read? s with
  | some date => date.time.isSome || date.padded
  | none => false

/-! ## Plain scalars -/

/-- The words for truth values. -/
def truthWords (old : Bool) : List String :=
  ["true", "True", "TRUE", "false", "False", "FALSE"] ++
    if old then
      ["y", "Y", "yes", "Yes", "YES", "n", "N", "no", "No", "NO", "on", "On", "ON", "off", "Off",
       "OFF"]
    else []

/-- The tag of a plain scalar.  A text that begins with a newline has none of the forms. -/
def Tag.ofPlain (old : Bool) (text : String) : Tag :=
  let s := text.toList
  if s.isEmpty then .null
  else if s.head? = some '\n' then .text
  else
    let s := withoutNewline s
    let word := String.ofList s
    if (truthWords old).contains word then .truth
    else if isReal old s then .real
    else if s.head? ≠ some '_' && isInteger old s then .integer
    else if word = "<<" then .merge
    else if ["~", "null", "Null", "NULL"].contains word then .null
    else if isTimestamp s then .timestamp
    else if word = "=" then .equals
    else if ["!", "&", "*"].contains word then .unknown
    else .text

end ServerLauncher.Yaml
