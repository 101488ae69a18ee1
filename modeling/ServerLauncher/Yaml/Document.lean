import ServerLauncher.Text.Stream
import ServerLauncher.Yaml.Assembly

/-!
# Documents

A document is the text of a file, which is read in pieces of 4096 characters.  The first two pieces
are read before anything else, the others when the characters before them have been used up.  A
piece may hold bytes that are no text, or characters that no document may hold; that is an error
only if the piece is read.

## Main definitions

* `openingOf`: the readable characters of a file, and what is wrong behind them.
* `readDocument`: the value of a file.
-/

namespace ServerLauncher.Yaml

/-- The number of characters in a piece. -/
def pieceSize : Nat := 4096

/-- The characters of pieces up to one that cannot be read, and what is wrong with that. -/
def readablePart : List (Except Utf8.Malformed (List Char)) → List Char × Option Fault
  | [] => ([], none)
  | .error m :: _ => ([], some (.notText m))
  | .ok piece :: rest =>
    if piece.all isPrintable then
      let (chars, obstacle) := readablePart rest
      (piece ++ chars, obstacle)
    else ([], some .malformedDocument)

/-- The readable characters of pieces of which the first two are read together, and what is wrong
behind them. -/
def openingOf : List (Except Utf8.Malformed (List Char)) → Except Fault (List Char × Option Fault)
  | [] => .ok ([], none)
  | .error m :: _ | .ok _ :: .error m :: _ => .error (.notText m)
  | [.ok first] => if first.all isPrintable then .ok (first, none) else malformed
  | .ok first :: .ok second :: rest =>
    if (first ++ second).all isPrintable then
      let (chars, obstacle) := readablePart rest
      .ok (first ++ second ++ chars, obstacle)
    else malformed

/-- The value of a file that holds a document; nothing, if it holds none. -/
def readDocument (bytes : List UInt8) : Except Fault (Option Value) := do
  let (chars, obstacle) ← openingOf (TextStream.piecesOf pieceSize bytes)
  let graph ← readNodes (.ofCursor (.ofChars chars obstacle))
  graph.value

end ServerLauncher.Yaml
