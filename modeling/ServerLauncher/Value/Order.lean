import ServerLauncher.Value.Basic

/-!
# The order of keys

Keys are listed in order in messages: numbers by their value, texts by their code points, dates by
time, tuples item by item.  Keys of different kinds have no order.

## Main definitions

* `Value.less`: whether a key comes before another.
* `Value.sort`: keys in order.
-/

namespace ServerLauncher

/-- Whether a number comes before another.  NaN comes before nothing. -/
def Double.less : Double → Double → Bool
  | nan, _ => false
  | _, nan => false
  | infinite a, infinite b => a && !b
  | infinite a, finite _ _ => a
  | finite _ _, infinite b => !b
  | x, y =>
    match x.quanta?, y.quanta? with
    | some m, some n => m < n
    | _, _ => false

/-- Whether a number comes before an integer. -/
def Double.lessInt (x : Double) (n : Int) : Bool :=
  match x with
  | nan => false
  | infinite negative => negative
  | x => match x.quanta? with
    | some m => m < n * quantaPerUnit
    | none => false

/-- Whether an integer comes before a number. -/
def Double.intLess (n : Int) (x : Double) : Bool :=
  match x with
  | nan => false
  | infinite negative => !negative
  | x => match x.quanta? with
    | some m => n * quantaPerUnit < m
    | none => false

/-- The numbers of a date, the most important one first. -/
def Date.numbers (d : Date) : List Nat := [d.year, d.month, d.day]

namespace Value

/-- Why two keys have no order. -/
inductive OrderIssue where
  | kinds (left right : Kind)
  /-- Only one of two moments has an offset from universal time. -/
  | zones
  | dateAndMoment
deriving DecidableEq, Repr

/-- The issue in words. -/
def OrderIssue.message : OrderIssue → String
  | kinds left right =>
    "'<' not supported between instances of '" ++ left.qualifiedName ++ "' and '" ++
      right.qualifiedName ++ "'"
  | zones => "can't compare offset-naive and offset-aware datetimes"
  | dateAndMoment =>
    "can't compare " ++ Kind.moment.qualifiedName ++ " to " ++ Kind.date.qualifiedName

/-- Whether a moment comes before another. -/
def lessMoment (m n : Moment) : Except OrderIssue Bool :=
  if m.zone.isSome = n.zone.isSome then .ok (decide (m.instant < n.instant)) else .error .zones

mutual

/-- Whether a key comes before another. -/
def less : Value → Value → Except OrderIssue Bool
  | text s, text t => .ok (decide (s < t))
  | date d, date e => .ok (decide (d.numbers < e.numbers))
  | moment m, moment n => lessMoment m n
  | date _, moment _ | moment _, date _ => .error .dateAndMoment
  | bytes b, bytes c => .ok (decide (b.map UInt8.toNat < c.map UInt8.toNat))
  | tuple xs, tuple ys => lessItems xs ys
  | real x, real y => .ok (x.less y)
  | real x, v => match v.integer? with
    | some n => .ok (x.lessInt n)
    | none => .error (.kinds .real v.kind)
  | v, real y => match v.integer? with
    | some n => .ok (Double.intLess n y)
    | none => .error (.kinds v.kind .real)
  | v, w => match v.integer?, w.integer? with
    | some m, some n => .ok (decide (m < n))
    | _, _ => .error (.kinds v.kind w.kind)

/-- The order of the first items that differ decides. -/
def lessItems : List Value → List Value → Except OrderIssue Bool
  | [], ys => .ok (!ys.isEmpty)
  | _ :: _, [] => .ok false
  | x :: xs, y :: ys => if same x y then lessItems xs ys else less x y

end

/-! ## Sorting

Which two keys are compared first matters when some of them have no order.  The keys at the
beginning that are in order already, or in the opposite order, are taken together; each of the
others is put to its place by halving the range of places. -/

/-- The keys that continue a run behind its last one, and the keys behind the run.  In a falling run
each key comes before the one that precedes it, in a rising one none does. -/
def splitRun (falling : Bool) (last : Value) :
    List Value → Except OrderIssue (List Value × List Value)
  | [] => .ok ([], [])
  | key :: keys => do
    if (← less key last) = falling then
      let (run, rest) ← splitRun falling key keys
      return (key :: run, rest)
    else return ([], key :: keys)

/-- The place of a key among sorted ones, behind those that it does not come before.  It is not
before `low` and not behind `high`. -/
def placeOf (key : Value) (sorted : Array Value) (low high : Nat) : Except OrderIssue Nat :=
  if low < high then do
    let middle := low + (high - low) / 2
    if ← less key (sorted.getD middle key) then placeOf key sorted low middle
    else placeOf key sorted (middle + 1) high
  else return low
termination_by high - low

/-- Sorted keys with one more at its place. -/
def insertSorted (sorted : Array Value) (key : Value) : Except OrderIssue (Array Value) := do
  return sorted.insertIdxIfInBounds (← placeOf key sorted 0 sorted.size) key

/-- Keys in order. -/
def sort : List Value → Except OrderIssue (List Value)
  | first :: second :: keys => do
    let falling ← less second first
    let (run, rest) ← splitRun falling second keys
    let run := first :: second :: run
    let sorted ← rest.foldlM insertSorted (if falling then run.reverse else run).toArray
    return sorted.toList
  | keys => .ok keys

end Value

end ServerLauncher
