import ServerLauncher.Text.Printable

/-!
# Quoted text

Texts are shown between quotes in messages: between apostrophes or, when the text has an apostrophe
and no double quote, between double quotes.  A backslash, the quote in use, and every character that
is not printable are escaped.  A lone half of a surrogate pair is kept as a private character, so
that it can be escaped as what it is.

## Main definitions

* `Text.quoted`: a text between quotes.
* `Text.quotedBytes`: bytes between quotes.
-/

namespace ServerLauncher.Text

/-- A number in lower-case hexadecimal with at least `width` digits. -/
def hex (width n : Nat) : List Char :=
  let ds := Nat.toDigits 16 n
  List.replicate (width - ds.length) '0' ++ ds

/-- The character that stands in a text for one half of a surrogate pair, which is no character
itself: the one at the same place of a block of private characters. -/
def loneSurrogate (code : Nat) : Char := Char.ofNat (0xf0000 + code)

/-- The half of a surrogate pair that a character stands for. -/
def surrogate? (c : Char) : Option Nat :=
  if 0xfd800 ≤ c.toNat && c.toNat < 0xfe000 then some (c.toNat - 0xf0000) else none

/-- A character as it stands inside text quoted with `quote`. -/
def escapeIn (quote c : Char) : List Char :=
  if c = quote || c = '\\' then ['\\', c]
  else if c = '\n' then ['\\', 'n']
  else if c = '\r' then ['\\', 'r']
  else if c = '\t' then ['\\', 't']
  else if isPrintable c then [c]
  else if c.toNat < 0x100 then '\\' :: 'x' :: hex 2 c.toNat
  else if c.toNat < 0x10000 then '\\' :: 'u' :: hex 4 c.toNat
  else match surrogate? c with
    | some code => '\\' :: 'u' :: hex 4 code
    | none => '\\' :: 'U' :: hex 8 c.toNat

/-- The quote for a text: the apostrophe unless only that one occurs in it. -/
def quoteFor (s : List Char) : Char :=
  if s.contains '\'' && !s.contains '"' then '"' else '\''

/-- A text between quotes. -/
def quoted (s : String) : String :=
  let cs := s.toList
  let quote := quoteFor cs
  String.ofList (quote :: (cs.flatMap (escapeIn quote) ++ [quote]))

/-- A byte as it stands inside bytes quoted with `quote`. -/
def escapeByteIn (quote : Char) (b : UInt8) : List Char :=
  let c := Char.ofNat b.toNat
  if b < 0x80 then if c = '\x7f' then ['\\', 'x', '7', 'f'] else escapeIn quote c
  else '\\' :: 'x' :: hex 2 b.toNat

/-- Bytes between quotes, behind a letter that tells them from a text. -/
def quotedBytes (bytes : List UInt8) : String :=
  let quote := quoteFor (bytes.map fun b => Char.ofNat b.toNat)
  String.ofList ('b' :: quote :: (bytes.flatMap (escapeByteIn quote) ++ [quote]))

end ServerLauncher.Text
