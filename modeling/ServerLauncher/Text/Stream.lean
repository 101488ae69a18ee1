import ServerLauncher.Text.Utf8

/-!
# Text that is read in pieces

A file of text is read piece by piece, each of a number of characters; only the last ones are
shorter.  Its bytes are decoded in blocks as they are needed.  A block is at least as long as most
pieces need, and longer where the block before it had many bytes to a character.  A character that
is cut at the end of a block is completed from the next one.

The position in an error counts from the beginning of the bytes that were decoded together.  Bytes
that are no text make an error of the piece that needs them, not of the pieces before it.

Carriage returns, alone or before a newline, become newlines, also where a block ends between the
two.

## Main definitions

* `TextStream`: a file of which some pieces have been read.
* `TextStream.read`: the next piece.
* `TextStream.pieces`: all pieces.
-/

namespace ServerLauncher

namespace Text

/-- A text in which every carriage return, alone or before a newline, has become a newline. -/
def unifyNewlines : List Char → List Char
  | [] => []
  | '\r' :: '\n' :: rest => '\n' :: unifyNewlines rest
  | '\r' :: rest => '\n' :: unifyNewlines rest
  | c :: rest => c :: unifyNewlines rest

end Text

/-- A file of text that is read in pieces. -/
structure TextStream where
  /-- The bytes that are not decoded. -/
  bytes : List UInt8
  /-- The bytes of a character that the last block cut. -/
  cut : List UInt8 := []
  /-- Whether the last block ended with a carriage return, which is held back. -/
  heldReturn : Bool := false
  /-- The characters that are decoded and not read. -/
  ready : List Char := []
  /-- The numbers of bytes and characters of the last block. -/
  density : Nat × Nat := (0, 0)

namespace TextStream

/-- The least number of bytes in a block. -/
def blockSize : Nat := 8192

/-- The number of bytes of the next block if a number of characters is wanted. -/
def nextSize (s : TextStream) (wanted : Nat) : Nat :=
  max blockSize (max wanted (s.density.1 * wanted / s.density.2))

/-- The next block is decoded; the answer says whether there was something to decode. -/
def refill (s : TextStream) (wanted : Nat) : Except Utf8.Malformed (Bool × TextStream) := do
  let size := s.nextSize wanted
  let block := s.bytes.take size
  let (chars, cut) ← Utf8.decodeBlock (s.cut ++ block)
  let final := block.isEmpty
  if final then Utf8.checkComplete 0 cut
  let chars := if s.heldReturn && (final || !chars.isEmpty) then '\r' :: chars else chars
  let holds := !final && chars.getLast? = some '\r'
  let heldReturn := holds || (s.heldReturn && !final && chars.isEmpty)
  let chars := Text.unifyNewlines (if holds then chars.dropLast else chars)
  return (!final || !chars.isEmpty, {
    bytes := s.bytes.drop size
    cut := if final then [] else cut
    heldReturn
    ready := s.ready ++ chars
    density := (block.length, chars.length) })

/-- The next characters, as many as are wanted unless the file ends before. -/
def read (wanted : Nat) : (fuel : Nat) → TextStream →
    Except Utf8.Malformed (List Char × TextStream)
  | 0, s => .ok (s.ready.take wanted, { s with ready := s.ready.drop wanted })
  | fuel + 1, s => do
    let missing := wanted - s.ready.length
    if missing = 0 then return (s.ready.take wanted, { s with ready := s.ready.drop wanted })
    else
      let (more, s) ← s.refill missing
      if more then read wanted fuel s
      else return (s.ready.take wanted, { s with ready := s.ready.drop wanted })

/-- The pieces of a number of characters up to the end of the file or the first error. -/
def pieces (wanted : Nat) : (fuel : Nat) → TextStream → List (Except Utf8.Malformed (List Char))
  | 0, _ => []
  | fuel + 1, s =>
    match s.read wanted (s.bytes.length + 3) with
    | .error m => [.error m]
    | .ok ([], _) => []
    | .ok (piece, s) => .ok piece :: pieces wanted fuel s

/-- The pieces of a file. -/
def piecesOf (wanted : Nat) (bytes : List UInt8) : List (Except Utf8.Malformed (List Char)) :=
  pieces wanted (bytes.length + 2) { bytes }

end TextStream

end ServerLauncher
