import ServerLauncher.Yaml.Cursor

/-!
# Block scalars

A block scalar consists of whole lines of equal indentation.  A literal one keeps its line breaks, a
folded one joins its lines.  The head of a block says what happens to the line breaks at its end and
may give the indentation.
-/

namespace ServerLauncher.Yaml

/-- What happens to the line breaks at the end of a block: one is kept, none, or all. -/
inductive Chomping where
  | clip
  | strip
  | keep
deriving DecidableEq, Repr

/-- The head of a block. -/
structure BlockHead where
  chomping : Chomping
  increment : Option Nat
deriving DecidableEq, Repr

/-- The lines of a block, the line break behind the last one, and the empty lines behind that. -/
structure BlockLines where
  text : List Char
  lineBreak : List Char
  trailing : List Char
deriving DecidableEq, Repr

namespace Scan

/-- The sign in the head of a block, if one is here. -/
def chomping? : Scan (Option Chomping) := do
  let ch ← peek
  if ch = '+' then
    step
    return some .keep
  else if ch = '-' then
    step
    return some .strip
  else return none

/-- The digit in the head of a block, if one is here. -/
def increment? : Scan (Option Nat) := do
  let ch ← peek
  if ch = '0' then fail
  else if ch.isDigit then
    step
    return some (ch.toNat - '0'.toNat)
  else return none

/-- The head of a block, a sign and a digit in either order. -/
def blockHead : Scan BlockHead := do
  let sign ← chomping?
  let increment ← increment?
  let late ← if sign.isNone && increment.isSome then chomping? else pure none
  if endsField (← peek) then return ⟨(sign.or late).getD .clip, increment⟩
  else fail

/-- The blanks, the comment and the line break after the head of a block are left out. -/
def blockFirstLine : Scan Unit := do
  skipSpaces
  skipComment
  if !endsLine (← peek) then fail
  let _ ← lineBreak?

/-- The empty lines at the beginning of a block, and the widest column of their spaces.  `widest` is
the widest column so far and `first` the column in which the first of the empty lines ends. -/
def blockLead (first : Option Nat) (widest : Nat) : Nat → Scan (List Char × Nat)
  | 0 => return ([], widest)
  | n + 1 => do
    if (← peek) = ' ' then
      step
      blockLead first (max widest (← get).column) n
    else
      let column := (← get).column
      match ← lineBreak? with
      | none =>
        if 0 < first.getD 0 ∧ first.getD 0 < widest then fail else return ([], widest)
      | some b =>
        let (more, widest) ← blockLead (first.or (some column)) widest n
        return (b :: more, widest)

/-- Spaces are left out up to a column. -/
def indentTo (column : Nat) : Nat → Scan Unit
  | 0 => return ()
  | n + 1 => do
    if (← get).column < column then
      if (← peek) = ' ' then
        step
        indentTo column n

/-- The empty lines of a block with a known indentation. -/
def blockBreaks (column : Nat) : Nat → Scan (List Char)
  | 0 => return []
  | n + 1 => do
    indentTo column column
    match ← lineBreak? with
    | none => return []
    | some b => return b :: (← blockBreaks column n)

/-- Whether a line of a block with a known indentation begins here. -/
def atBlockLine (column : Nat) : Scan Bool := do
  if (← get).column = column then return (← peek) ≠ endMark else return false

/-- Whether a line that separates documents begins here, in the first column. -/
def atSeparatorLine : Scan Bool := do
  if (← get).column = 0 then atSeparator else return false

/-- The lines of a block.  `lineBreak` and `breaks` are the line break before the line here and the
empty lines behind that. -/
def blockLines (folded topLevel : Bool) (column : Nat) (lineBreak breaks : List Char) :
    Nat → Scan BlockLines
  | 0 => return ⟨[], lineBreak, breaks⟩
  | n + 1 => do
    if !(← atBlockLine column) then return ⟨[], lineBreak, breaks⟩
    else
      let starts := !isSpaceOrTab (← peek)
      let line ← taking (!endsLine ·)
      let lineBreak := (← lineBreak?).toList
      let next ← looped (blockBreaks column)
      let text := breaks ++ line
      let separated ← if topLevel then atSeparatorLine else pure false
      if separated then return ⟨text, lineBreak, next⟩
      else if !(← atBlockLine column) then return ⟨text, lineBreak, next⟩
      else
        let folds := folded && lineBreak = ['\n'] && starts && !isSpaceOrTab (← peek)
        let joint := if !folds then lineBreak else if next.isEmpty then [' '] else []
        let more ← blockLines folded topLevel column lineBreak next n
        return { more with text := text ++ joint ++ more.text }

/-- The block scalar here.  Its lines are indented at least to `margin`.  Empty lines behind it that
do not belong to it are left out together with what precedes the next token. -/
def block (margin : Nat) : Scan (List Char) := do
  let folded : Bool := (← peek) = '>'
  step
  let head ← blockHead
  blockFirstLine
  let (margin, column, breaks) ← match head.increment with
    | some n =>
      let column := max margin 1 + n - 1
      pure (max margin 1, column, ← looped (blockBreaks column))
    | none =>
      let (breaks, widest) ← looped (blockLead none 0)
      pure (margin, max margin widest, breaks)
  let lines ← looped (blockLines folded (margin = 0) column [] breaks)
  match head.chomping with
  | .keep => return lines.text ++ lines.lineBreak ++ lines.trailing
  | chomping =>
    if !lines.trailing.isEmpty then
      let _ ← looped (toToken false)
    return if chomping = .clip then lines.text ++ lines.lineBreak else lines.text

end Scan

end ServerLauncher.Yaml
