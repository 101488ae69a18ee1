import ServerLauncher.Text.Classes
import ServerLauncher.Text.Quoted
import ServerLauncher.Yaml.Cursor

/-!
# Quoted scalars

A quoted scalar ends at its closing quote.  A line break inside becomes a space, several become one
less.  In single quotes a quote is written twice; in double quotes a backslash begins an escape.
-/

namespace ServerLauncher.Yaml

/-- The characters that a single character behind a backslash stands for. -/
def simpleEscape? : Char → Option Char
  | '0' => some '\x00'
  | 'a' => some '\x07'
  | 'b' => some '\x08'
  | 't' => some '\t'
  | '\t' => some '\t'
  | 'n' => some '\n'
  | 'v' => some '\x0b'
  | 'f' => some '\x0c'
  | 'r' => some '\r'
  | 'e' => some '\x1b'
  | ' ' => some ' '
  | '"' => some '"'
  | '/' => some '/'
  | '\\' => some '\\'
  | 'N' => some '\x85'
  | '_' => some '\xa0'
  | 'L' => some '\u2028'
  | 'P' => some '\u2029'
  | _ => none

/-- The number of digits behind a character that begins a numbered escape. -/
def escapeLength? : Char → Option Nat
  | 'x' => some 2
  | 'u' => some 4
  | 'U' => some 8
  | _ => none

/-- The second half of a pair of surrogates that is written as an escape. -/
def lowSurrogate? (s : List Char) : Option Nat :=
  match s with
  | '\\' :: 'u' :: digits =>
    if digits.length < 4 then none
    else (HexDigit.number? (digits.take 4)).filter fun n => 0xdc00 ≤ n && n < 0xe000
  | _ => none

namespace Scan

/-- The digits of a numbered escape, of which some are known. -/
def escapeDigits (known : Nat) : (missing : Nat) → Scan (List Char)
  | 0 => upcoming known
  | missing + 1 => do
    if (HexDigit.value? (← peekAt known)).isNone then fail
    else escapeDigits (known + 1) missing

/-- The character of a numbered escape, whose digits are here.  A pair of surrogates counts as the
character that it encodes, and half a pair as the character that stands for it. -/
def numberedChar (length : Nat) : Scan Char := do
  let digits ← escapeDigits 0 length
  let code := (HexDigit.number? digits).getD 0
  if 0x110000 ≤ code then throw (.noSuchCharacter code)
  advance length
  if code < 0xd800 ∨ 0xe000 ≤ code then return Char.ofNat code
  else match lowSurrogate? ((← get).rest.take 6) with
    | some low =>
      if 0xdc00 ≤ code then return Text.loneSurrogate code
      else
        advance 6
        return Char.ofNat (0x10000 + (code - 0xd800) * 0x400 + (low - 0xdc00))
    | none => return Text.loneSurrogate code

/-- The empty lines of a quoted scalar.  A line that separates documents must not occur in one. -/
def quotedBreaks : Nat → Scan (List Char)
  | 0 => fail
  | n + 1 => do
    if ← atSeparator then fail
    else
      skipping isSpaceOrTab
      match ← lineBreak? with
      | some b => return b :: (← quotedBreaks n)
      | none => return []

/-- What an escape stands for; the cursor is behind its backslash. -/
def escape : Scan (List Char) := do
  let ch ← peek
  match simpleEscape? ch, escapeLength? ch with
  | some meant, _ =>
    step
    return [meant]
  | none, some length =>
    step
    return [← numberedChar length]
  | none, none =>
    match ← lineBreak? with
    | some _ => looped quotedBreaks
    | none => fail

/-- The characters of a quoted scalar up to blanks, a line break or its end. -/
def quotedWord (double : Bool) : Nat → Scan (List Char)
  | 0 => fail
  | n + 1 => do
    let run ← taking fun ch =>
      !(endsWord ch || ch = '\'' || ch = '"' || ch = '\\')
    let ch ← peek
    if !double && ch = '\'' then
      if (← peekAt 1) = '\'' then
        advance 2
        return run ++ '\'' :: (← quotedWord double n)
      else return run
    else if (double && ch = '\'') || (!double && (ch = '"' || ch = '\\')) then
      step
      return run ++ ch :: (← quotedWord double n)
    else if double && ch = '\\' then
      step
      let piece ← escape
      return run ++ piece ++ (← quotedWord double n)
    else return run

/-- The blanks and line breaks here, as they count in a quoted scalar. -/
def quotedBlanks : Scan (List Char) := do
  let blanks ← taking isSpaceOrTab
  if (← peek) = endMark then fail
  else match ← lineBreak? with
    | none => return blanks
    | some b =>
      let breaks ← looped quotedBreaks
      if b ≠ '\n' then return b :: breaks
      else if breaks.isEmpty then return [' ']
      else return breaks

/-- The rest of a quoted scalar up to its closing quote. -/
def quotedRest (quote : Char) : Nat → Scan (List Char)
  | 0 => fail
  | n + 1 => do
    let word ← looped (quotedWord (quote = '"'))
    if (← peek) = quote then
      step
      return word
    else
      let blanks ← quotedBlanks
      return word ++ blanks ++ (← quotedRest quote n)

/-- The quoted scalar here. -/
def quoted : Scan (List Char) := do
  let quote ← peek
  step
  looped (quotedRest quote)

end Scan

end ServerLauncher.Yaml
