import ServerLauncher.Value.Basic

/-!
# The order of sets

The items of a set show in the order of the slots of a table.  The number of slots is a power of two
and grows with the items.  An item goes to the slot that its own number names; if that is taken, to
one of the next slots, or else to one that is found by mixing in the higher digits of the number.

Numbers that are equal have one number whatever their kind: a number counts modulo a prime.  Texts,
dates and null have no number that is the same each time, so that a set of them has no order to rely
on; it keeps the order in which it is written.

## Main definitions

* `Value.slotNumber?`: the number of an item.
* `SlotTable`: tables, with `SlotTable.seat` and `SlotTable.items`.
* `Value.inSlots`, `Value.inGrowingSlots`: items in the order of their slots, where their count is
  known beforehand and where they come one by one.
-/

namespace ServerLauncher

/-! ## Numbers of items -/

/-- The prime modulo which numbers count. -/
def slotPrime : Nat := 2 ^ 61 - 1

/-- A magnitude modulo the prime, with a sign.  The number minus one is not used. -/
def signedSlot (negative : Bool) (magnitude : Nat) : UInt64 :=
  let n := magnitude % slotPrime
  if !negative then .ofNat n else if n = 1 then .ofInt (-2) else .ofInt (-n)

/-- The number of a binary number.  The power of two that a quantum is counts modulo the prime. -/
def Double.slotNumber? : Double → Option UInt64
  | nan => none
  | infinite negative => some (signedSlot negative 314159)
  | finite negative quanta => some (signedSlot negative (quanta * 2 ^ 24))

/-- The number of a tuple from those of its items. -/
def tupleSlot (items : List UInt64) : UInt64 :=
  let mixed := items.foldl (fun (n : UInt64) item =>
    let n := n + item * 14029467366897019727
    ((n <<< 31) ||| (n >>> 33)) * 11400714785074694791) 2870177450012600261
  let n := mixed + (UInt64.ofNat items.length ^^^ (2870177450012600261 ^^^ 3527539))
  if n = .ofInt (-1) then 1546275796 else n

namespace Value

mutual

/-- The number of an item, if it has one. -/
def slotNumber? : Value → Option UInt64
  | truth b => some (signedSlot false (if b then 1 else 0))
  | integer n => some (signedSlot (decide (n < 0)) n.natAbs)
  | real x => x.slotNumber?
  | tuple items => (slotNumbers? items).map tupleSlot
  | _ => none

/-- The numbers of several items, if all of them have one. -/
def slotNumbers? : List Value → Option (List UInt64)
  | [] => some []
  | v :: vs =>
    match slotNumber? v, slotNumbers? vs with
    | some n, some ns => some (n :: ns)
    | _, _ => none

end

end Value

/-! ## Tables -/

/-- A table of slots for items with their numbers. -/
abbrev SlotTable := Array (Option (UInt64 × Value))

namespace SlotTable

/-- An empty table. -/
def empty (slots : Nat) : SlotTable := Array.replicate slots none

/-- Whether a slot is free. -/
def isFree (t : SlotTable) (slot : Nat) : Bool := (t.getD slot none).isNone

/-- The free slot for an item, sought from a slot on, among it and the nine next ones if the table
has them, with the digits of the number that are still to be mixed in. -/
def seek (t : SlotTable) (slot : Nat) (digits : UInt64) : (fuel : Nat) → Nat
  | 0 => (t.findIdx? (·.isNone)).getD 0
  | fuel + 1 =>
    let near := if slot + 9 < t.size then 10 else 1
    match (List.range near).find? fun k => t.isFree (slot + k) with
    | some k => slot + k
    | none =>
      let digits := digits >>> 5
      let mixed : UInt64 := UInt64.ofNat slot * 5 + 1 + digits
      seek t (mixed.toNat % t.size) digits fuel

/-- The table with one more item. -/
def seat (t : SlotTable) (entry : UInt64 × Value) : SlotTable :=
  t.setIfInBounds (t.seek (entry.1.toNat % t.size) entry.1 (t.size + 64)) (some entry)

/-- The entries of a table in the order of their slots. -/
def entries (t : SlotTable) : List (UInt64 × Value) := t.toList.filterMap id

/-- The items of a table in the order of their slots. -/
def items (t : SlotTable) : List Value := t.entries.map (·.2)

/-- The least power of two from a given one on that is greater than a number. -/
def sizeAbove (n : Nat) (size : Nat) : (fuel : Nat) → Nat
  | 0 => size
  | fuel + 1 => if n < size then size else sizeAbove n (2 * size) fuel

/-- The number of slots of a table that is to hold more than a number of items. -/
def sizeFor (n : Nat) : Nat := sizeAbove n 8 n

/-- Whether a number of items is too large for a table of a size. -/
def isCrowded (count size : Nat) : Bool := 3 * (size - 1) ≤ 5 * count

/-- The table with one more item, which grows when it has become crowded. -/
def seatGrowing (t : SlotTable) (entry : UInt64 × Value) : SlotTable :=
  let t := t.seat entry
  let entries := t.entries
  if isCrowded entries.length t.size then
    let factor := if 50000 < entries.length then 2 else 4
    entries.foldl seat (empty (sizeFor (factor * entries.length)))
  else t

end SlotTable

namespace Value

/-- Different items in the order of their slots in a table for their count. -/
def inSlots (items : List Value) : List Value :=
  match slotNumbers? items with
  | none => items
  | some numbers =>
    let size :=
      if SlotTable.isCrowded items.length 8 then SlotTable.sizeFor (2 * items.length) else 8
    ((numbers.zip items).foldl SlotTable.seat (.empty size)).items

/-- Different items in the order of their slots in a table that grows as they come. -/
def inGrowingSlots (items : List Value) : List Value :=
  match slotNumbers? items with
  | none => items
  | some numbers => ((numbers.zip items).foldl SlotTable.seatGrowing (.empty 8)).items

end Value

end ServerLauncher
