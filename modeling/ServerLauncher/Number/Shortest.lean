import ServerLauncher.Number.Double

/-!
# Decimals that identify a binary number

A positive binary number is written with the fewest decimal digits that read back to it, and among
the decimals of that length with the one nearest to it.  The reals that round to a number form an
interval from halfway to the neighbour below to halfway to the neighbour above; the search walks
over finer and finer decimal grids and tests the two neighbours of the number on each.

## Main definitions

* `Decimal`: `digits * 10 ^ exponent`.
* `Double.ReadsBack`: a decimal lies in the rounding interval of a number of quanta.
* `Double.shortest`: the decimal with the fewest digits that reads back.
* `Double.significant`: the decimal with a given number of significant digits.
-/

namespace ServerLauncher

/-- The number `digits * 10 ^ exponent`. -/
structure Decimal where
  digits : Nat
  exponent : Int
deriving DecidableEq, Repr

namespace Decimal

/-- The same number with no trailing zero among its digits. -/
def stripZeros (digits : Nat) (exponent : Int) : Decimal :=
  if digits ≠ 0 ∧ digits % 10 = 0 then stripZeros (digits / 10) (exponent + 1)
  else ⟨digits, exponent⟩
termination_by digits
decreasing_by omega

/-- The numerator and the denominator of a decimal. -/
def ratio (d : Decimal) : Nat × Nat :=
  (d.digits * 10 ^ d.exponent.toNat, 10 ^ (-d.exponent).toNat)

end Decimal

namespace Double

/-! ## The rounding interval -/

/-- The distance from a number of quanta to the next larger number of the format. -/
def spacing (quanta : Nat) : Nat := 2 ^ (quanta.log2 - 52)

/-- The distance to the next smaller number is half as large at a power of two of full precision. -/
def IsNarrowBelow (quanta : Nat) : Prop := 53 ≤ quanta.log2 ∧ quanta = 2 ^ quanta.log2

instance (quanta : Nat) : Decidable (IsNarrowBelow quanta) :=
  inferInstanceAs (Decidable (_ ∧ _))

/-- A decimal lies among the reals that round to the given number of quanta.  The two ends of the
interval belong to it when the significand is even. -/
def ReadsBack (quanta : Nat) (d : Decimal) : Prop :=
  let low := 4 * quanta - (if IsNarrowBelow quanta then spacing quanta else 2 * spacing quanta)
  let high := 4 * quanta + 2 * spacing quanta
  let value := d.ratio.1 * (4 * quantaPerUnit)
  let den := d.ratio.2
  (low * den < value ∧ value < high * den) ∨
    ((quanta / spacing quanta) % 2 = 0 ∧ (value = low * den ∨ value = high * den))

instance (quanta : Nat) (d : Decimal) : Decidable (ReadsBack quanta d) :=
  inferInstanceAs (Decidable (_ ∨ _))

/-! ## Selection of digits -/

/-- The least `k` with `quanta` quanta below `10 ^ k`. -/
def scale (quanta : Nat) : Int :=
  if quantaPerUnit ≤ quanta then decimalLength (quanta / quantaPerUnit)
  else
    let reciprocal := (quantaPerUnit + quanta - 1) / quanta
    1 - (decimalLength (reciprocal - 1) : Int)

/-- The whole number of `10 ^ exponent` not above a number of quanta. -/
def floorOnGrid (quanta : Nat) (exponent : Int) : Nat :=
  quanta * 10 ^ (-exponent).toNat / (quantaPerUnit * 10 ^ exponent.toNat)

/-- Of the two neighbours on a decimal grid, the one that reads back; of two, the nearer one, and
on an exact tie the even one. -/
def onGrid? (quanta : Nat) (exponent : Int) : Option Decimal :=
  let below : Decimal := ⟨floorOnGrid quanta exponent, exponent⟩
  let above : Decimal := ⟨floorOnGrid quanta exponent + 1, exponent⟩
  if ReadsBack quanta below then
    if ReadsBack quanta above then
      let twice := 2 * quanta * below.ratio.2
      let middle := (below.ratio.1 + above.ratio.1) * quantaPerUnit
      if twice < middle then some below
      else if middle < twice then some above
      else if below.digits % 2 = 0 then some below else some above
    else some below
  else if ReadsBack quanta above then some above
  else none

/-- The decimal with the fewest digits that reads back to a positive number of quanta.  Seventeen
digits suffice; should they not, the exact decimal value is taken. -/
def shortest (quanta : Nat) : Decimal :=
  let found := (List.range 17).findSome? fun n => onGrid? quanta (scale quanta - (n + 1 : Nat))
  match found with
  | some d => Decimal.stripZeros d.digits d.exponent
  | none => Decimal.stripZeros (quanta * 5 ^ 1074) (-1074)

/-- A positive number of quanta rounded to `count` significant decimal digits, an exact tie to the
even neighbour, without trailing zeros. -/
def significant (count quanta : Nat) : Decimal :=
  let exponent := scale quanta - (count : Int)
  let rounded := roundQuotient (quanta * 10 ^ (-exponent).toNat)
    (quantaPerUnit * 10 ^ exponent.toNat)
  Decimal.stripZeros rounded exponent

end Double

end ServerLauncher
