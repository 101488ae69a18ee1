import ServerLauncher.Number.Arithmetic
import ServerLauncher.Text.Base64
import ServerLauncher.Text.Letters
import ServerLauncher.Yaml.Tag

/-!
# The values of scalars

What the text of a scalar stands for, by its tag.  A tag that was written out may be on a text that
has not its form; then the text is no value of that kind.

## Main definitions

* `integerValue`, `realValue`, `truthValue`, `timestampValue`, `bytesValue`.
* `scalarValue`: the value of a scalar.
-/

namespace ServerLauncher.Yaml

/-! ## Numbers -/

/-- A text without underscores. -/
def withoutUnderscores (s : List Char) : List Char := s.filter (· ≠ '_')

/-- The integer that digits in a base write. -/
def integerOf (base : Nat) (s : List Char) : Except Fault Int :=
  match readInteger base s with
  | .ok n => .ok n
  | .error .unreadable => .error (.notInteger base (String.ofList s))
  | .error (.tooManyDigits digits) => .error (.tooManyDigits digits)

/-- The numbers between the colons of a text in base sixty. -/
def sexagesimal (s : List Char) : List (List Char) := Text.splitAt ':' s

/-- The value of an integer. -/
def integerValue (old : Bool) (text : String) : Except Fault Int :=
  match withoutUnderscores text.toList with
  | [] => .error .emptyNumber
  | s =>
    let digits := unsigned s
    let magnitude : Except Fault Int :=
      match digits with
      | ['0'] => .ok 0
      | '0' :: 'b' :: ds => integerOf 2 ds
      | '0' :: 'x' :: ds => integerOf 16 ds
      | '0' :: 'o' :: ds => integerOf 8 ds
      | ds =>
        if old && ds.isEmpty then .error .emptyNumber
        else if old && ds.head? = some '0' then integerOf 8 ds
        else if old && ds.contains ':' then do
          let parts ← (sexagesimal ds).mapM (integerOf 10)
          return parts.foldl (fun n part => 60 * n + part) 0
        else integerOf 10 ds
    magnitude.map fun n => if s.head? = some '-' then -n else n

/-- The text of a number in lower case, without underscores. -/
def realText (text : String) : List Char := withoutUnderscores (Text.lowercase text).toList

/-- Whether a text is the name of the number that is undefined. -/
def isUndefined (text : String) : Bool := unsigned (realText text) = ".nan".toList

/-- The number that a text without a sign stands for. -/
def numberOf (s : List Char) : Except Fault Double :=
  match Double.read? (String.ofList s) with
  | some x => .ok x
  | none => .error (.number (.unreadable (Text.quoted (String.ofList s))))

/-- The sum of numbers in base sixty, of which the first counts most and the last is added first. -/
def sexagesimalSum (parts : List Double) : Except Fault Double := do
  let (sum, _) ← parts.reverse.foldlM (fun (sum, base) part =>
    match Value.doubleOfInt base with
    | .ok weight => .ok (sum.plus (part.product weight), base * 60)
    | .error issue => .error (.number issue)) (Double.ofNat 0, (1 : Int))
  return sum

/-- The value of a number that may have a fraction.  In the old version of the format numbers may be
written in base sixty, and others have one exponent at most. -/
def realValue (old : Bool) (text : String) : Except Fault Double :=
  match realText text with
  | [] => .error .emptyNumber
  | s =>
    let digits := unsigned s
    let magnitude : Except Fault Double :=
      if digits = ".inf".toList then .ok (.infinite false)
      else if digits = ".nan".toList then .ok .nan
      else if old && digits.contains ':' then do
        sexagesimalSum (← (sexagesimal digits).mapM numberOf)
      else if old && 1 < digits.count 'e' then .error .exponentRepeated
      else numberOf digits
    magnitude.map fun x => if s.head? = some '-' then x.negate else x

/-! ## Other scalars -/

/-- The truth value of a word. -/
def truthValue (text : String) : Except Fault Bool :=
  let word := Text.lowercase text
  if ["yes", "y", "true", "on"].contains word then .ok true
  else if ["no", "n", "false", "off"].contains word then .ok false
  else .error (.notTruth word)

/-- The microseconds of a fraction of a second, rounded to the nearest, and whether they make up a
whole second. -/
def microseconds (fraction : List Char) : Nat × Bool :=
  let six := decimalOf ((fraction ++ List.replicate 6 '0').take 6)
  let rounded := if 4 < decimalOf ((fraction.drop 6).take 1) then six + 1 else six
  if 999999 < rounded then (0, true) else (rounded, false)

/-- The moment of a date with a time.  A second that is gained by rounding is added. -/
def momentOf (date : Timestamp) (time : TimeOfDay) : Except CalendarIssue Moment := do
  let (micros, carry) := microseconds time.fraction
  let zone ← time.offset.mapM fun o => Zone.checked o.total (String.ofList o.text)
  let moment ← Moment.checked date.year date.month date.day time.hour time.minute time.second
    micros zone
  if carry then moment.addSeconds 1 else return moment

/-- The value of a date. -/
def timestampValue (text : String) : Except Fault Value :=
  match Timestamp.read? (withoutNewline text.toList) with
  | none => malformed
  | some t =>
    let value : Except CalendarIssue Value := match t.time with
      | none => (Date.checked t.year t.month t.day).map .date
      | some time => (momentOf t time).map .moment
    match value with
    | .ok v => .ok v
    | .error issue => .error (.calendar issue)

/-- The bytes that a text stands for. -/
def bytesValue (text : String) : Except Fault (List UInt8) :=
  if text.toList.any (fun c => 0x80 ≤ c.toNat) then malformed
  else match Base64.decode? text.toList with
    | some bytes => .ok bytes
    | none => malformed

/-- The value of a scalar. -/
def scalarValue (old : Bool) (tag : Tag) (text : String) : Except Fault Value :=
  match tag with
  | .null => .ok .null
  | .truth => (truthValue text).map .truth
  | .integer => (integerValue old text).map .integer
  | .real => (realValue old text).map .real
  | .text => .ok (.text text)
  | .timestamp => timestampValue text
  | .bytes => (bytesValue text).map .bytes
  | .sequence | .mapping | .set | .orderedMapping | .pairs | .merge | .equals | .unknown =>
    malformed

end ServerLauncher.Yaml
