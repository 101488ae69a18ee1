import ServerLauncher.Number.Double

/-!
# Sums and products

Sums, products and negations of binary floating-point numbers, each rounded once.
-/

namespace ServerLauncher.Double

/-- The number with the other sign. -/
def negate : Double → Double
  | nan => nan
  | infinite negative => infinite (!negative)
  | finite negative quanta => finite (!negative) quanta

/-- A signed number of quanta, rounded to the format. -/
def ofSignedQuanta (n : Int) : Double :=
  ofQuanta (decide (n < 0)) (roundSignificand n.natAbs 1)

/-- The sum of two numbers. -/
def plus : Double → Double → Double
  | nan, _ => nan
  | _, nan => nan
  | infinite a, infinite b => if a = b then infinite a else nan
  | infinite a, finite _ _ => infinite a
  | finite _ _, infinite b => infinite b
  | finite a m, finite b n =>
    if m = 0 ∧ n = 0 then finite (a && b) 0
    else ofSignedQuanta ((if a then -(m : Int) else m) + (if b then -(n : Int) else n))

/-- The product of two numbers. -/
def product : Double → Double → Double
  | nan, _ => nan
  | _, nan => nan
  | infinite a, infinite b => infinite (a != b)
  | infinite a, finite b n => if n = 0 then nan else infinite (a != b)
  | finite a m, infinite b => if m = 0 then nan else infinite (a != b)
  | finite a m, finite b n => ofQuanta (a != b) (roundSignificand (m * n) quantaPerUnit)

end ServerLauncher.Double
