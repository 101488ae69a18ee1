import ServerLauncher.Yaml.Cursor

/-!
# Plain scalars

A plain scalar has no quotes.  It ends where a comment, a colon with a blank behind it, an indicator
of a surrounding bracket or a less indented line begins; line breaks inside are folded.
-/

namespace ServerLauncher.Yaml

/-- What the characters of a plain scalar depend on. -/
structure PlainContext where
  /-- Whether brackets surround the scalar. -/
  inBrackets : Bool
  /-- Whether the document follows version 1.1 of the format. -/
  oldVersion : Bool
  /-- The least column of a continuation line. -/
  margin : Nat

/-- The characters of a plain scalar up to blanks, a line break or its end. -/
def plainWord (ctx : PlainContext) : List Char → List Char
  | [] => []
  | ch :: rest =>
    if (ch = ':' && !endsWord (rest.headD endMark)) || (ch = '?' && !ctx.oldVersion) then
      ch :: plainWord ctx rest
    else if endsWord ch || (ch = ':' && !ctx.inBrackets) then []
    else if ctx.inBrackets && (ch = ',' || ch = ':' || ch = '?' || ch = '[' || ch = ']' ||
        ch = '{' || ch = '}') then []
    else ch :: plainWord ctx rest

namespace Scan

/-- A word of a plain scalar.  At a colon the character behind it is needed, too. -/
def plainWord (ctx : PlainContext) : Scan (List Char) := do
  let word := Yaml.plainWord ctx (← get).rest
  if (← peekAt word.length) = ':' then need (word.length + 2)
  advance word.length
  return word

/-- The empty lines inside a plain scalar; nothing, if a line that separates documents follows. -/
def plainBreaks : Nat → Scan (Option (List Char))
  | 0 => return none
  | n + 1 => do
    skipSpaces
    match ← lineBreak? with
    | none => return some []
    | some b =>
      if ← atSeparator then return none
      else return (← plainBreaks n).map (b :: ·)

/-- The blanks and line breaks behind a word of a plain scalar as they count between two words, and
whether there was a line break. -/
def plainBlanks : Scan (List Char × Bool) := do
  let blanks ← taking (· = ' ')
  match ← lineBreak? with
  | none => return (blanks, false)
  | some b =>
    if ← atSeparator then return ([], true)
    else match ← looped plainBreaks with
      | none => return ([], true)
      | some breaks =>
        if b ≠ '\n' then return (b :: breaks, true)
        else if breaks.isEmpty then return ([' '], true)
        else return (breaks, true)

/-- The rest of a plain scalar behind some blanks, and whether a line break follows it. -/
def plainRest (ctx : PlainContext) (blanks : List Char) (broke : Bool) :
    Nat → Scan (List Char × Bool)
  | 0 => return ([], broke)
  | n + 1 => do
    if (← peek) = '#' then return ([], broke)
    else
      let word ← plainWord ctx
      if word.isEmpty then return ([], broke)
      else
        let (next, broke) ← plainBlanks
        if next.isEmpty then return (blanks ++ word, broke)
        else if (← peek) = '#' || (!ctx.inBrackets && (← get).column < ctx.margin) then
          return (blanks ++ word, broke)
        else
          let (more, broke) ← plainRest ctx next broke n
          return (blanks ++ word ++ more, broke)

/-- The plain scalar here, and whether a line break follows it. -/
def plain (ctx : PlainContext) : Scan (List Char × Bool) := looped (plainRest ctx [] false)

end Scan

end ServerLauncher.Yaml
