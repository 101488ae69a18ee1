import ServerLauncher.Number.Double
import ServerLauncher.Text.Classes

/-!
# Binary numbers read from text

A number is a sign, digits with at most one point, and an exponent, or one of the names `inf`,
`infinity` and `nan`.  Surrounding white space is ignored, the white space and the digits of every
script are accepted, and a single underscore may stand between two digits.

## Main definitions

* `Double.read?`: the number that a text stands for.
-/

namespace ServerLauncher.Double

/-- The plain character for one of any script: white space becomes a space, a decimal digit the
ASCII digit of its value; nothing else beyond ASCII can stand in a number. -/
def plainChar? (c : Char) : Option Char :=
  if c.toNat < 127 then some c
  else if Text.isBlank c then some ' '
  else (Text.digitValue? c).map fun d => Char.ofNat ('0'.toNat + d)

/-- White space around a number. -/
def isPadding (c : Char) : Bool := c = ' ' || (9 ≤ c.toNat && c.toNat ≤ 13)

/-- The text without the white space around it. -/
def trim (s : List Char) : List Char :=
  ((s.dropWhile isPadding).reverse.dropWhile isPadding).reverse

/-- The text without underscores, if each of them stands between two digits. -/
def dropUnderscores? (previous : Char) : List Char → Option (List Char)
  | [] => if previous = '_' then none else some []
  | c :: rest =>
    if c = '_' then
      if previous.isDigit then dropUnderscores? c rest else none
    else if previous = '_' && !c.isDigit then none
    else (dropUnderscores? c rest).map (c :: ·)

/-- The value of a run of digits. -/
def digitsValue (s : List Char) : Nat :=
  s.foldl (fun n c => 10 * n + (c.toNat - '0'.toNat)) 0

/-- The value of an exponent: a sign and at least one digit. -/
def exponent? (s : List Char) : Option Int :=
  match s with
  | '-' :: ds => if ds.isEmpty || !ds.all Char.isDigit then none else some (-(digitsValue ds : Int))
  | '+' :: ds => if ds.isEmpty || !ds.all Char.isDigit then none else some (digitsValue ds)
  | ds => if ds.isEmpty || !ds.all Char.isDigit then none else some (digitsValue ds)

/-- An unsigned decimal: digits with at most one point, at least one digit, and perhaps an
exponent. -/
def unsigned? (negative : Bool) (s : List Char) : Option Double :=
  let whole := s.takeWhile Char.isDigit
  let rest := s.dropWhile Char.isDigit
  let (fraction, rest) := match rest with
    | '.' :: r => (r.takeWhile Char.isDigit, r.dropWhile Char.isDigit)
    | r => ([], r)
  if whole.isEmpty && fraction.isEmpty then none
  else
    let digits := digitsValue (whole ++ fraction)
    match rest with
    | [] => some (ofScaled negative digits (-(fraction.length : Int)))
    | c :: r =>
      if c = 'e' || c = 'E' then
        (exponent? r).map fun e => ofScaled negative digits (e - fraction.length)
      else none

/-- A number after its sign. -/
def magnitude? (negative : Bool) (s : List Char) : Option Double :=
  let name := s.map Char.toLower
  if name = "inf".toList || name = "infinity".toList then some (infinite negative)
  else if name = "nan".toList then some nan
  else unsigned? negative s

/-- The number that a text stands for, if it stands for one. -/
def read? (s : String) : Option Double := do
  let plain ← s.toList.mapM plainChar?
  let number ← dropUnderscores? ' ' (trim plain)
  match number with
  | '-' :: r => magnitude? true r
  | '+' :: r => magnitude? false r
  | r => magnitude? false r

end ServerLauncher.Double
