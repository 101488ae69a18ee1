/-!
# Numbers in 64-bit binary floating point

Timeouts and configured numbers are 64-bit binary floating-point numbers.  A finite one is a whole
number of *quanta* of `2⁻¹⁰⁷⁴`, the least positive number of the format, so that sums, differences
and comparisons are arithmetic on integers followed by one rounding.

## Main definitions

* `Double`: NaN, the infinities, and finite numbers counted in quanta.
* `roundQuotient`: a quotient rounded to the nearest whole number, ties to even.
* `roundSignificand`: a whole number rounded to 53 significant binary digits.
* `Double.ofRatio`, `Double.ofScaled`, `Double.ofInt?`: the nearest number to an exact value.
-/

namespace ServerLauncher

/-! ## Rounding whole numbers -/

/-- Powers of natural numbers are the core library's, also where those of monoids are known. -/
@[default_instance 20000]
instance (priority := high) naturalPower : Pow Nat Nat := instPowNat

/-- The quotient `num / den` rounded to the nearest whole number, an exact tie to the even one. -/
def roundQuotient (num den : Nat) : Nat :=
  let quotient := num / den
  let twice := 2 * (num % den)
  if twice < den then quotient
  else if den < twice then quotient + 1
  else if quotient % 2 = 0 then quotient else quotient + 1

/-- The quotient `num / den`, rounded to 53 significant binary digits or, below `2^53`, to a whole
number; an exact tie goes to the even neighbour. -/
def roundSignificand (num den : Nat) : Nat :=
  let spare := (num / den).log2 - 52
  roundQuotient num (den * 2 ^ spare) * 2 ^ spare

namespace Double

/-- The number of quanta in one. -/
def quantaPerUnit : Nat := 2 ^ 1074

/-- The first number of quanta that is too large for a finite number, that of `2^1024`. -/
def quantaLimit : Nat := 2 ^ 2098

end Double

/-! ## The format -/

/-- A 64-bit binary floating-point number.  All NaNs are one, and zero has a sign. -/
inductive Double where
  | nan
  | infinite (negative : Bool)
  | finite (negative : Bool) (quanta : Nat)
deriving DecidableEq, Repr, Inhabited

namespace Double

/-- A magnitude in quanta with a sign; one beyond the largest finite number is infinite. -/
def ofQuanta (negative : Bool) (quanta : Nat) : Double :=
  if quantaLimit ≤ quanta then infinite negative else finite negative quanta

/-- The number nearest to `num / den` with the given sign. -/
def ofRatio (negative : Bool) (num den : Nat) : Double :=
  ofQuanta negative (roundSignificand (num * quantaPerUnit) den)

/-- The number of decimal digits of a natural number, at least one. -/
def decimalLength (n : Nat) : Nat := (Nat.toDigits 10 n).length

/-- The number nearest to `digits * 10 ^ exponent`.  Exponents far outside the range of the format
are answered at once, by zero or an infinity. -/
def ofScaled (negative : Bool) (digits : Nat) (exponent : Int) : Double :=
  if digits = 0 then finite negative 0
  else if 400 < exponent then infinite negative
  else if exponent + decimalLength digits < -400 then finite negative 0
  else ofRatio negative (digits * 10 ^ exponent.toNat) (10 ^ (-exponent).toNat)

/-- A number, if it is finite. -/
def finite? : Double → Option Double
  | finite negative quanta => some (finite negative quanta)
  | _ => none

/-- The number nearest to an integer, or nothing when that is beyond the largest finite number. -/
def ofInt? (n : Int) : Option Double := (ofRatio (decide (n < 0)) n.natAbs 1).finite?

/-- A whole number of units that is small enough to be exact. -/
def ofNat (n : Nat) : Double := finite false (n * quantaPerUnit)

/-- A number is true as a condition unless it is a zero. -/
def isTrue : Double → Bool
  | finite _ quanta => quanta != 0
  | _ => true

/-- The signed number of quanta of a finite number. -/
def quanta? : Double → Option Int
  | finite negative quanta => some (if negative then -(quanta : Int) else quanta)
  | _ => none

/-- Numerical equality with an integer. -/
def equalsInt (x : Double) (n : Int) : Bool :=
  x.quanta? == some (n * quantaPerUnit)

/-- Numerical equality: zeros are equal, NaN equals nothing. -/
def equals : Double → Double → Bool
  | infinite a, infinite b => a == b
  | finite a m, finite b n => (finite a m).quanta? == (finite b n).quanta?
  | _, _ => false

end Double

end ServerLauncher
