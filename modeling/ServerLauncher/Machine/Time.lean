import ServerLauncher.Number.Double

/-!
# Time

The clock of a machine counts whole microseconds.  Points in time and durations are computed in
seconds, as 64-bit binary floating-point numbers with one rounding per operation; a machine may also
compute them exactly, which is the case in which deadlines are kept to the microsecond.

A finite time is a whole number of *ticks* of `2⁻¹⁰⁶⁸` microseconds.  Both a microsecond and a
quantum of the binary format are whole numbers of ticks, so that all times are compared and added as
integers.

## Main definitions

* `Time`: points in time and durations.
* `Arithmetic`: how times are computed.
* `Time.plus`, `Time.minus`, `Time.before`, `Time.reaches`: computing with times.
* `Arithmetic.micros?`, `Arithmetic.microsUntil?`: a duration in whole microseconds.
-/

namespace ServerLauncher

/-- A point in time or a duration.  One that is not a number is neither before nor after another. -/
inductive Time where
  | undefined
  | past
  | at (ticks : Int)
  | future
deriving DecidableEq, Repr, Inhabited

/-- How times are computed: in the 64-bit binary format, or exactly. -/
inductive Arithmetic where
  | binary
  | exact
deriving DecidableEq, Repr

/-- The ticks of a microsecond. -/
def ticksPerMicro : Nat := 2 ^ 1068

/-- The ticks of a quantum of a second in the binary format. -/
def ticksPerQuantum : Nat := 5 ^ 6

namespace Time

/-- A number of seconds. -/
def ofSeconds : Double → Time
  | .nan => undefined
  | .infinite negative => if negative then past else future
  | .finite negative quanta =>
    «at» ((if negative then -(quanta : Int) else quanta) * ticksPerQuantum)

/-- The time zero. -/
def zero : Time := «at» 0

/-- The opposite of a duration. -/
def opposite : Time → Time
  | undefined => undefined
  | past => future
  | «at» n => «at» (-n)
  | future => past

/-- Whether a time is certainly not later than another. -/
def before : Time → Time → Bool
  | undefined, _ => false
  | _, undefined => false
  | past, _ => true
  | _, future => true
  | «at» m, «at» n => m ≤ n
  | future, _ => false
  | «at» _, past => false

/-- Whether a time has come when another is the deadline. -/
def reaches (now deadline : Time) : Bool := deadline.before now

/-- A duration, but none that is negative or not a number. -/
def clamped (t : Time) : Time := if zero.before t then t else zero

end Time

namespace Arithmetic

/-- An exact number of ticks as the machine computes it. -/
def settle : Arithmetic → Int → Time
  | exact, n => .at n
  | binary, n =>
    .ofSeconds (Double.ofQuanta (decide (n < 0)) (roundSignificand n.natAbs ticksPerQuantum))

/-- The readings of the clock that have a floating-point number are below this. -/
def clockLimit : Nat := 2 ^ 1024

/-- The time some microseconds after the clock was started.  It is never infinite. -/
def ofMicros : Arithmetic → Nat → Time
  | exact, micros => exact.settle (micros * ticksPerMicro : Nat)
  | binary, micros => binary.settle (min micros clockLimit * ticksPerMicro : Nat)

/-- The sum of two times. -/
def plus (a : Arithmetic) : Time → Time → Time
  | .undefined, _ => .undefined
  | _, .undefined => .undefined
  | .past, .future => .undefined
  | .future, .past => .undefined
  | .past, _ => .past
  | _, .past => .past
  | .future, _ => .future
  | _, .future => .future
  | .at m, .at n => a.settle (m + n)

/-- The duration from one time to another. -/
def minus (a : Arithmetic) (later earlier : Time) : Time := a.plus later earlier.opposite

/-- Durations of so many microseconds never pass, as far as the binary format goes. -/
def microsLimit : Nat := 10 ^ 18

/-- A duration in microseconds of the clock; nothing, if it never passes.  In the binary format this
is the nearest number, ties to even; computed exactly, it is what the clock has counted when the
duration is over. -/
def micros? (a : Arithmetic) : Time → Option Nat
  | .undefined => none
  | .future => none
  | .past => some 0
  | .at n => match a with
    | exact => some (n.toNat / ticksPerMicro)
    | binary =>
      let quanta := roundSignificand (n.toNat * 2 ^ 6) 1
      if microsLimit * Double.quantaPerUnit ≤ quanta then none
      else some (roundQuotient quanta Double.quantaPerUnit)

/-- The microseconds of the clock until a duration is over; nothing, if it never passes.  Computed
exactly, this is the least number that is not shorter. -/
def microsUntil? (a : Arithmetic) (t : Time) : Option Nat :=
  match a, t with
  | exact, .at n => some ((n.toNat + (ticksPerMicro - 1)) / ticksPerMicro)
  | _, _ => a.micros? t

end Arithmetic

end ServerLauncher
