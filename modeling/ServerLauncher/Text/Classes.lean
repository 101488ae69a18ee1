/-!
# Classes of characters

Properties of characters are tables of closed ranges of code points, ascending and apart, so that
membership is a binary search.  The tables follow Unicode 14.0: numbers may be given with the white
space and the decimal digits of any script.

## Main definitions

* `Text.inRanges`: membership of a code point in a table.
* `Text.isBlank`: white space of any script.
* `Text.digitValue?`: the value of a decimal digit of any script.
* `HexDigit.value?`, `HexDigit.number?`: hexadecimal digits.
-/

namespace ServerLauncher

namespace Text

/-! ## Tables -/

/-- Binary search for `n` among the ranges with index from `low` on and below `high`. -/
def searchRanges (ranges : Array (Nat × Nat)) (n low high : Nat) : Bool :=
  if low < high then
    let middle := (low + high) / 2
    match ranges[middle]? with
    | none => false
    | some (first, last) =>
      if n < first then searchRanges ranges n low middle
      else if last < n then searchRanges ranges n (middle + 1) high
      else true
  else false
termination_by high - low
decreasing_by all_goals omega

/-- A code point lies in one of the ranges of an ascending table. -/
def inRanges (ranges : Array (Nat × Nat)) (n : Nat) : Bool :=
  searchRanges ranges n 0 ranges.size

/-! ## White space and decimal digits -/

/-- White space, the four information separators included. -/
def blankRanges : Array (Nat × Nat) :=
  #[(0x09, 0x0d), (0x1c, 0x20), (0x85, 0x85), (0xa0, 0xa0), (0x1680, 0x1680), (0x2000, 0x200a),
    (0x2028, 0x2029), (0x202f, 0x202f), (0x205f, 0x205f), (0x3000, 0x3000)]

/-- White space of any script. -/
def isBlank (c : Char) : Bool := inRanges blankRanges c.toNat

/-- The digits zero of all scripts.  In each script the ten digits follow one another. -/
def digitZeros : List Nat :=
  [0x30, 0x660, 0x6f0, 0x7c0, 0x966, 0x9e6, 0xa66, 0xae6, 0xb66, 0xbe6, 0xc66, 0xce6, 0xd66, 0xde6,
   0xe50, 0xed0, 0xf20, 0x1040, 0x1090, 0x17e0, 0x1810, 0x1946, 0x19d0, 0x1a80, 0x1a90, 0x1b50,
   0x1bb0, 0x1c40, 0x1c50, 0xa620, 0xa8d0, 0xa900, 0xa9d0, 0xa9f0, 0xaa50, 0xabf0, 0xff10, 0x104a0,
   0x10d30, 0x11066, 0x110f0, 0x11136, 0x111d0, 0x112f0, 0x11450, 0x114d0, 0x11650, 0x116c0,
   0x11730, 0x118e0, 0x11950, 0x11c50, 0x11d50, 0x11da0, 0x16a60, 0x16ac0, 0x16b50, 0x1d7ce,
   0x1d7d8, 0x1d7e2, 0x1d7ec, 0x1d7f6, 0x1e140, 0x1e2f0, 0x1e950, 0x1fbf0]

/-- The value of a decimal digit of any script. -/
def digitValue? (c : Char) : Option Nat :=
  digitZeros.findSome? fun first =>
    if first ≤ c.toNat ∧ c.toNat < first + 10 then some (c.toNat - first) else none

end Text

/-! ## Hexadecimal digits -/

/-- The value of a hexadecimal digit. -/
def HexDigit.value? (c : Char) : Option Nat :=
  if '0' ≤ c && c ≤ '9' then some (c.toNat - '0'.toNat)
  else if 'a' ≤ c && c ≤ 'f' then some (c.toNat - 'a'.toNat + 10)
  else if 'A' ≤ c && c ≤ 'F' then some (c.toNat - 'A'.toNat + 10)
  else none

/-- The number that hexadecimal digits write. -/
def HexDigit.number? (digits : List Char) : Option Nat :=
  digits.foldlM (fun n c => (HexDigit.value? c).map fun d => 16 * n + d) 0

end ServerLauncher
