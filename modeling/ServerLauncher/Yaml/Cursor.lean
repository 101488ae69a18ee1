import ServerLauncher.Fault

/-!
# Places in a document

A document is read from left to right.  A cursor holds what is still to be read and where that
begins: how many characters and lines precede it, and the column it stands in.

A document arrives in pieces, and one of them may turn out to be unreadable.  What is wrong with it
counts only when something behind the readable characters is asked for; until then the document is
read as if nothing were wrong.  Each step therefore says how far it has to look ahead.

## Main definitions

* `Cursor`: a place in a document.
* `Scan`: steps that read a document from a cursor on.
* `Scan.peek`, `Scan.peekAt`, `Scan.upcoming`, `Scan.step`, `Scan.taking`.
* `isBreak`, `endsLine`, `endsWord`, `endsField`: the classes of characters that separate parts.
* `Scan.lineBreak?`: the line break here.
* `Scan.atSeparator`: whether a line that separates documents begins here.
-/

namespace ServerLauncher.Yaml

/-- What is found wrong with a document. -/
def malformed {α : Type} : Except Fault α := .error .malformedDocument

/-! ## Characters -/

/-- What stands behind the last character.  It is no character of a document. -/
def endMark : Char := '\x00'

/-- The characters that break lines. -/
def isBreak (c : Char) : Bool := c = '\n' || c = '\x85' || c = '\u2028' || c = '\u2029'

/-- The characters that end the rest of a line. -/
def endsLine (c : Char) : Bool := c = endMark || isBreak c

/-- The characters that end a word. -/
def endsWord (c : Char) : Bool := endsLine c || c = ' ' || c = '\t'

/-- The characters that end a field of a directive, a tag, or the head of a block. -/
def endsField (c : Char) : Bool := endsLine c || c = ' '

/-- A space or a tab. -/
def isSpaceOrTab (c : Char) : Bool := c = ' ' || c = '\t'

/-- The byte order mark.  It takes up no column. -/
def orderMark : Char := '\ufeff'

/-- The characters that a document may consist of. -/
def isPrintable (c : Char) : Bool :=
  let n := c.toNat
  n = 9 || n = 10 || n = 13 || (32 ≤ n && n ≤ 0x7e) || n = 0x85 || (0xa0 ≤ n && n ≤ 0xd7ff) ||
    (0xe000 ≤ n && n ≤ 0xfffd) || 0x10000 ≤ n

/-! ## Cursors -/

/-- A place in a document. -/
structure Cursor where
  rest : List Char
  /-- What is met behind the characters that are left; nothing where the document ends. -/
  obstacle : Option Fault := none
  /-- The number of characters of the document, which bounds all loops. -/
  size : Nat
  index : Nat := 0
  line : Nat := 0
  column : Nat := 0
deriving Repr

namespace Cursor

/-- The first place of a document. -/
def ofChars (chars : List Char) (obstacle : Option Fault) : Cursor :=
  { rest := chars, obstacle, size := chars.length }

/-- The place behind a character.  Of the characters that break lines only the newline begins a new
column. -/
def behind (c : Cursor) (ch : Char) (rest : List Char) : Cursor :=
  if ch = '\n' then { c with rest, index := c.index + 1, line := c.line + 1, column := 0 }
  else if ch = orderMark then { c with rest, index := c.index + 1 }
  else { c with rest, index := c.index + 1, column := c.column + 1 }

/-- The place some characters further. -/
def advance : Nat → Cursor → Cursor
  | 0, c => c
  | n + 1, c =>
    match c.rest with
    | [] => c
    | ch :: rest => advance n (c.behind ch rest)

end Cursor

/-! ## Steps -/

/-- A step that reads a document from a cursor on. -/
abbrev Scan := StateT Cursor (Except Fault)

namespace Scan

/-- What is found wrong with a document. -/
def fail {α : Type} : Scan α := throw .malformedDocument

/-- A number of characters is needed, or as many as there are before the end. -/
def need (n : Nat) : Scan Unit := do
  let c ← get
  match c.obstacle with
  | none => return ()
  | some fault => if c.rest.length < n then throw fault

/-- The character some places ahead. -/
def peekAt (n : Nat) : Scan Char := do
  need (n + 1)
  return (← get).rest.getD n endMark

/-- The character here. -/
def peek : Scan Char := peekAt 0

/-- The next characters. -/
def upcoming (n : Nat) : Scan (List Char) := do
  need n
  return (← get).rest.take n

/-- The cursor moves on.  The character that it comes to is needed, too. -/
def advance (n : Nat) : Scan Unit := do
  need (n + 1)
  modify (·.advance n)

/-- The cursor moves on by a character. -/
def step : Scan Unit := advance 1

/-- The longest run of characters of a class. -/
def taking (p : Char → Bool) : Scan (List Char) := do
  let run := (← get).rest.takeWhile p
  advance run.length
  return run

/-- The longest run of characters of a class is left out. -/
def skipping (p : Char → Bool) : Scan Unit := do
  let _ ← taking p

/-- Spaces are left out. -/
def skipSpaces : Scan Unit := skipping (· = ' ')

/-- A comment that begins here is left out. -/
def skipComment : Scan Unit := do
  if (← peek) = '#' then skipping (!endsLine ·)

/-- The line break here, if there is one.  Breaks that only end a line count as newlines. -/
def lineBreak? : Scan (Option Char) := do
  let ch ← peek
  if isBreak ch then
    step
    return some (if ch = '\x85' then '\n' else ch)
  else return none

/-- Whether three equal characters that separate documents, with nothing behind them, begin here. -/
def atSeparator : Scan Bool := do
  let three ← upcoming 3
  if three = ['-', '-', '-'] || three = ['.', '.', '.'] then return endsWord (← peekAt 3)
  else return false

/-- A loop that takes at least one character in each round. -/
def looped {α : Type} (loop : Nat → Scan α) : Scan α := do
  loop ((← get).size + 1)

/-- What precedes the next token is left out; the answer says whether a line break was among it.
Tabs count as blanks only inside brackets. -/
def toToken (inBrackets : Bool) : Nat → Scan Bool
  | 0 => return false
  | n + 1 => do
    skipping fun ch => ch = ' ' || (inBrackets && ch = '\t')
    skipComment
    match ← lineBreak? with
    | some _ =>
      let _ ← toToken inBrackets n
      return true
    | none => return false

end Scan

end ServerLauncher.Yaml
