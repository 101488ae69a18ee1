/-!
# Base64

Bytes written as text, three bytes in four characters.  Characters that are none of the sixty-four
are skipped, and the text ends at the padding that completes a group.

## Main definitions

* `Base64.decode?`: the bytes that a text stands for.
-/

namespace ServerLauncher.Base64

/-- The number that a character stands for. -/
def value? (c : Char) : Option Nat :=
  if 'A' ≤ c && c ≤ 'Z' then some (c.toNat - 'A'.toNat)
  else if 'a' ≤ c && c ≤ 'z' then some (c.toNat - 'a'.toNat + 26)
  else if '0' ≤ c && c ≤ '9' then some (c.toNat - '0'.toNat + 52)
  else if c = '+' then some 62
  else if c = '/' then some 63
  else none

/-- The bytes that the rest of a text stands for.  `group` are the numbers of the group that has
begun, the last one first, and `pads` is how often it has been padded. -/
def decodeRest (group : List Nat) (pads : Nat) : List Char → Option (List UInt8)
  | [] => if group.isEmpty then some [] else none
  | c :: rest =>
    if c = '=' then
      if 2 ≤ group.length then
        if 4 ≤ group.length + pads + 1 then some [] else decodeRest group (pads + 1) rest
      else decodeRest group pads rest
    else match value? c, group with
      | none, _ => decodeRest group pads rest
      | some n, [] => decodeRest [n] 0 rest
      | some n, [a] => (decodeRest [n, a] 0 rest).map (UInt8.ofNat (a * 4 + n / 16) :: ·)
      | some n, [b, a] =>
        (decodeRest [n, b, a] 0 rest).map (UInt8.ofNat (b % 16 * 16 + n / 4) :: ·)
      | some n, c :: _ => (decodeRest [] 0 rest).map (UInt8.ofNat (c % 4 * 64 + n) :: ·)

/-- The bytes that a text stands for. -/
def decode? (s : List Char) : Option (List UInt8) := decodeRest [] 0 s

end ServerLauncher.Base64
