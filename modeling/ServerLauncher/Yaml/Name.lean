import ServerLauncher.Text.Classes
import ServerLauncher.Yaml.Cursor
import ServerLauncher.Yaml.Token

/-!
# Names, directives and tags

The names of anchors, the lines that begin with a percent sign, and the tags of nodes as they are
written.
-/

namespace ServerLauncher.Yaml

/-- A letter, a digit, a hyphen or an underscore. -/
def isWordChar (c : Char) : Bool := c.isAlphanum || c = '-' || c = '_'

/-- The characters of the names of anchors. -/
def isAnchorChar (c : Char) : Bool :=
  let n := c.toNat
  !(c = ',' || c = '[' || c = ']' || c = '{' || c = '}') &&
    ((0x21 ≤ n && n ≤ 0x7e) || (0xa0 ≤ n && n ≤ 0xd7ff) ||
      (0xe000 ≤ n && n ≤ 0xfffd && c ≠ orderMark) || 0x10000 ≤ n)

/-- The characters of addresses in tags, apart from the percent sign.  Versions of the format up to
1.1 do without the number sign. -/
def isUriChar (newer : Bool) (c : Char) : Bool :=
  c.isAlphanum || "-;/?:@&=+$,_.!~*'()[]".toList.contains c || (newer && c = '#')

namespace Scan

/-- The name of an anchor or an alias; the cursor is at its indicator. -/
def anchorName : Scan String := do
  step
  let name ← taking isAnchorChar
  let ch ← peek
  let ends := endsWord ch || "?:,[]\x7b\x7d%@\x60".toList.contains ch
  if name.isEmpty || !ends then fail else return String.ofList name

/-! ## Tags -/

/-- The bytes that percent signs with two digits write. -/
def uriBytes : Nat → Scan (List UInt8)
  | 0 => return []
  | n + 1 => do
    if (← peek) ≠ '%' then return []
    else
      step
      let first := HexDigit.value? (← peek)
      if first.isNone then fail
      else
        let second := HexDigit.value? (← peekAt 1)
        match first, second with
        | some a, some b =>
          advance 2
          return UInt8.ofNat (16 * a + b) :: (← uriBytes n)
        | _, _ => fail

/-- The address here, with its numbered characters decoded, and whether there is any. -/
def uriRest (newer : Bool) : Nat → Scan (List Char × Bool)
  | 0 => return ([], false)
  | n + 1 => do
    let run ← taking (isUriChar newer)
    if (← peek) ≠ '%' then return (run, !run.isEmpty)
    else
      let bytes ← looped uriBytes
      match Utf8.decode bytes with
      | .error _ => fail
      | .ok chars =>
        let (more, _) ← uriRest newer n
        return (run ++ chars ++ more, true)

/-- The address here, which must not be empty. -/
def uri (newer : Bool) : Scan String := do
  let (chars, found) ← looped (uriRest newer)
  if found then return String.ofList chars else fail

/-- The handle of a tag here: a name between exclamation marks, or a single mark before a space. -/
def tagHandle : Scan String := do
  if (← peek) ≠ '!' then fail
  else if (← peekAt 1) = ' ' then
    advance 1
    return "!"
  else
    let name := ((← get).rest.drop 1).takeWhile isWordChar
    if (← peekAt (name.length + 1)) ≠ '!' then fail
    else
      advance (name.length + 2)
      return String.ofList ('!' :: (name ++ ['!']))

/-- The tag here: handle and suffix.  Two exclamation marks are the handle of the standard tags; a
handle that is written out after them begins with the second one. -/
def tag (newer : Bool) : Scan Token := do
  let short : String ←
    if (← peekAt 1) = '!' then
      step
      pure "!!"
    else pure "!"
  let next ← peekAt 1
  let token ←
    if next = '<' then
      advance 2
      let suffix ← uri newer
      if (← peek) ≠ '>' then fail
      else
        step
        pure (Token.tag none suffix)
    else if endsWord next then
      step
      pure (Token.tag none short)
    else
      let field := ((← get).rest.drop 1).takeWhile fun ch => !(endsField ch || ch = '!')
      if (← peekAt (field.length + 1)) = '!' then
        let handle ← tagHandle
        let suffix ← uri newer
        pure (Token.tag (some handle) suffix)
      else
        step
        let suffix ← uri newer
        pure (Token.tag (some short) suffix)
  if endsField (← peek) then return token else fail

/-! ## Directives -/

/-- A decimal number. -/
def decimal : Scan Nat := do
  if !(← peek).isDigit then fail
  else
    let digits := (← get).rest.takeWhile Char.isDigit
    need (digits.length + 1)
    if digitLimit < digits.length then throw (.tooManyDigits digits.length)
    advance digits.length
    return numberOfDigits 10 digits

/-- The rest of a line that may hold a comment is left out. -/
def restOfLine : Scan Unit := do
  skipSpaces
  skipComment
  if endsLine (← peek) then
    let _ ← lineBreak?
  else fail

/-- The directive here. -/
def directive (newer : Bool) : Scan Directive := do
  step
  let name ← taking fun ch => isWordChar ch || ch = ':' || ch = '.'
  if name.isEmpty || !endsField (← peek) then fail
  else if String.ofList name = "YAML" then
    skipSpaces
    let major ← decimal
    if (← peek) ≠ '.' then fail
    else
      step
      let minor ← decimal
      if !endsField (← peek) then fail
      else
        restOfLine
        return .version major minor
  else if String.ofList name = "TAG" then
    skipSpaces
    let handle ← tagHandle
    if (← peek) ≠ ' ' then fail
    else
      skipSpaces
      let address ← uri newer
      if !endsField (← peek) then fail
      else
        restOfLine
        return .tag handle address
  else
    skipping (!endsLine ·)
    restOfLine
    return .other

end Scan

end ServerLauncher.Yaml
