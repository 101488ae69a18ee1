import ServerLauncher.Number.Reading
import ServerLauncher.Text.Classes

/-!
# Integers read from text

An integer is a sign and digits of a base, which the name of the base may precede.  Surrounding
white space is ignored, the white space and the decimal digits of every script are accepted, and a
single underscore may stand between two digits.

Decimal digits are limited in number, since reading them takes time that grows faster than their
number; where the base is a power of two they are not.

## Main definitions

* `readInteger`: the integer that a text stands for in a base.
-/

namespace ServerLauncher

/-- Integers of more decimal digits than this are neither read nor written. -/
def digitLimit : Nat := 4300

/-- Why a text is no integer. -/
inductive IntegerIssue where
  | unreadable
  | tooManyDigits (digits : Nat)
deriving DecidableEq, Repr

/-- The plain characters for those of a text, up to one that has none.  A plain text stays as it
is. -/
def plainDigits (s : List Char) : List Char :=
  if s.all fun c => c.toNat < 0x80 then s else go s
where
  /-- A question mark stands where there is no plain character, and ends the text. -/
  go : List Char → List Char
    | [] => []
    | c :: rest => match Double.plainChar? c with
      | some plain => plain :: go rest
      | none => ['?']

/-- The digits of a base behind its name, if that is written. -/
def behindBaseName (base : Nat) (s : List Char) : List Char :=
  let name? : Option Char := match base with
    | 2 => some 'b'
    | 8 => some 'o'
    | 16 => some 'x'
    | _ => none
  match s with
  | '0' :: c :: rest =>
    if name? = some c.toLower then (if rest.head? = some '_' then rest.tail else rest) else s
  | s => s

/-- A digit of a base. -/
def isDigitOf (base : Nat) (c : Char) : Bool :=
  match HexDigit.value? c with
  | some d => d < base
  | none => false

/-- A run of digits without the underscores in it, if each of them stands between two digits. -/
def joinDigits? : List Char → Option (List Char)
  | [] => some []
  | [c] => if c = '_' then none else some [c]
  | c :: d :: rest =>
    if c = '_' && d = '_' then none
    else (joinDigits? (d :: rest)).map fun joined => if c = '_' then joined else c :: joined

/-- The number that digits write in a base. -/
def numberOfDigits (base : Nat) (digits : List Char) : Nat :=
  digits.foldl (fun n c => base * n + (HexDigit.value? c).getD 0) 0

/-- The integer that a text stands for in a base of at most sixteen. -/
def readInteger (base : Nat) (s : List Char) : Except IntegerIssue Int :=
  let trimmed := (plainDigits s).dropWhile Double.isPadding
  let (negative, unsigned) := match trimmed with
    | '-' :: rest => (true, rest)
    | '+' :: rest => (false, rest)
    | rest => (false, rest)
  let body := behindBaseName base unsigned
  let run := body.takeWhile fun c => isDigitOf base c || c = '_'
  let rest := (body.dropWhile fun c => isDigitOf base c || c = '_').dropWhile Double.isPadding
  match if run.head? = some '_' then none else joinDigits? run with
  | none => .error .unreadable
  | some digits =>
    if base = 10 ∧ digitLimit < digits.length then .error (.tooManyDigits digits.length)
    else if digits.isEmpty || !rest.isEmpty then .error .unreadable
    else
      let magnitude : Int := numberOfDigits base digits
      .ok (if negative then -magnitude else magnitude)

end ServerLauncher
