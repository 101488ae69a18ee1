import ServerLauncher.Number.Shortest

/-!
# Texts of binary numbers

A number is written in one of two formats.  The *plain* format has the fewest digits that read back,
keeps a fraction on whole numbers and leaves positional notation at `10^16`.  The *general* format
has at most six significant digits, no fraction on whole numbers, and leaves positional notation at
`10^6`.  Both write numbers below `10^-4` with an exponent of at least two digits.

## Main definitions

* `Double.text`: the plain format.
* `Double.general`: the general format.
-/

namespace ServerLauncher

/-- The decisions of a number format: from which power of ten on numbers are written with an
exponent, and whether a whole number keeps a fraction. -/
structure NumberFormat where
  positionalBelow : Int
  keepsFraction : Bool

namespace NumberFormat

/-- The digits of a natural number. -/
def digits (n : Nat) : List Char := Nat.toDigits 10 n

/-- An exponent with its sign and at least two digits. -/
def exponentText (e : Int) : List Char :=
  let ds := digits e.natAbs
  (if e < 0 then '-' else '+') :: (if ds.length < 2 then '0' :: ds else ds)

/-- A positive decimal in positional notation. -/
def positional (format : NumberFormat) (d : Decimal) : List Char :=
  let ds := digits d.digits
  if 0 ≤ d.exponent then
    ds ++ List.replicate d.exponent.toNat '0' ++ (if format.keepsFraction then ['.', '0'] else [])
  else
    let places := (-d.exponent).toNat
    if places < ds.length then ds.take (ds.length - places) ++ '.' :: ds.drop (ds.length - places)
    else '0' :: '.' :: (List.replicate (places - ds.length) '0' ++ ds)

/-- A positive decimal with an exponent. -/
def scientific (d : Decimal) (leading : Int) : List Char :=
  match digits d.digits with
  | [] => []
  | c :: rest =>
    c :: ((if rest.isEmpty then [] else '.' :: rest) ++ 'e' :: exponentText leading)

/-- A positive decimal without trailing zeros, laid out by the format. -/
def layout (format : NumberFormat) (d : Decimal) : List Char :=
  let leading := d.exponent + (digits d.digits).length - 1
  if -4 ≤ leading ∧ leading < format.positionalBelow then format.positional d
  else scientific d leading

/-- The text of a number whose digits are chosen by `select`. -/
def render (format : NumberFormat) (select : Nat → Decimal) (x : Double) : String :=
  match x with
  | .nan => "nan"
  | .infinite negative => if negative then "-inf" else "inf"
  | .finite negative quanta =>
    let body := if quanta = 0 then '0' :: (if format.keepsFraction then ['.', '0'] else [])
      else format.layout (select quanta)
    String.ofList (if negative then '-' :: body else body)

end NumberFormat

namespace Double

/-- The fewest digits that read back; `1.0`, `0.1`, `1e+16`, `1e-05`. -/
def text (x : Double) : String :=
  NumberFormat.render ⟨16, true⟩ shortest x

/-- At most six significant digits; `1`, `0.1`, `1e+06`, `1e-05`. -/
def general (x : Double) : String :=
  NumberFormat.render ⟨6, false⟩ (significant 6) x

end Double

end ServerLauncher
