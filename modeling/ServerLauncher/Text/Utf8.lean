import ServerLauncher.Text.Quoted

/-!
# Decoding of text

Text is written in bytes as UTF-8.  A block of bytes may end inside a character; the bytes of that
character are then left over.

## Main definitions

* `Utf8.Malformed`: what is wrong with bytes that are no text.
* `Utf8.decodeBlock`: the characters of a block, and the bytes that are left over.
* `Utf8.decode`: the characters of bytes that are a whole text.
-/

namespace ServerLauncher

namespace Utf8

/-- Why bytes are no text. -/
inductive Reason where
  | invalidStart
  | invalidContinuation
  | unexpectedEnd
deriving DecidableEq, Repr

/-- The bytes that are no text: their first byte, where they start, how many they are. -/
structure Malformed where
  first : UInt8
  start : Nat
  length : Nat
  reason : Reason
deriving DecidableEq, Repr

namespace Reason

/-- The reason in words. -/
def text : Reason → String
  | invalidStart => "invalid start byte"
  | invalidContinuation => "invalid continuation byte"
  | unexpectedEnd => "unexpected end of data"

end Reason

/-- The error in words. -/
def Malformed.message (m : Malformed) : String :=
  let place :=
    if m.length = 1 then
      "byte 0x" ++ String.ofList (Text.hex 2 m.first.toNat) ++ " in position " ++ toString m.start
    else
      "bytes in position " ++ toString m.start ++ "-" ++ toString (m.start + m.length - 1)
  "'utf-8' codec can't decode " ++ place ++ ": " ++ m.reason.text

/-- What stands at the beginning of some bytes. -/
inductive Head where
  | char (c : Char) (rest : List UInt8)
  | cut
  | bad (length : Nat) (reason : Reason)

/-- A byte that continues a character. -/
def isContinuation (b : UInt8) : Bool := 0x80 ≤ b && b ≤ 0xbf

/-- The six bits of a continuation byte. -/
def payload (b : UInt8) : Nat := b.toNat - 0x80

/-- Whether two bytes are the beginning of a surrogate, which is no character. -/
def isSurrogate (b b1 : UInt8) : Bool := b = 0xed && 0xa0 ≤ b1 && b1 ≤ 0xbf

/-- The first character of some bytes.  The second byte of a long character has a narrower range
after `E0`, `ED`, `F0` and `F4`, so that no overlong form, surrogate or too large number passes.  A
surrogate is noticed only at its third byte. -/
def head (b : UInt8) (rest : List UInt8) : Head :=
  if b < 0x80 then .char (Char.ofNat b.toNat) rest
  else if b < 0xc2 then .bad 1 .invalidStart
  else if b < 0xe0 then
    match rest with
    | [] => .cut
    | b1 :: rest =>
      if isContinuation b1 then .char (Char.ofNat ((b.toNat - 0xc0) * 64 + payload b1)) rest
      else .bad 1 .invalidContinuation
  else if b < 0xf0 then
    match rest with
    | [] => .cut
    | b1 :: rest =>
      if isSurrogate b b1 then
        if rest.isEmpty then .cut else .bad 1 .invalidContinuation
      else if !isContinuation b1 || (b = 0xe0 && b1 < 0xa0) then .bad 1 .invalidContinuation
      else match rest with
        | [] => .cut
        | b2 :: rest =>
          if isContinuation b2 then
            .char (Char.ofNat ((b.toNat - 0xe0) * 4096 + payload b1 * 64 + payload b2)) rest
          else .bad 2 .invalidContinuation
  else if b < 0xf5 then
    match rest with
    | [] => .cut
    | b1 :: rest =>
      if !isContinuation b1 || (b = 0xf0 && b1 < 0x90) || (b = 0xf4 && 0x90 ≤ b1) then
        .bad 1 .invalidContinuation
      else match rest with
        | [] => .cut
        | b2 :: rest =>
          if !isContinuation b2 then .bad 2 .invalidContinuation
          else match rest with
            | [] => .cut
            | b3 :: rest =>
              if isContinuation b3 then
                .char (Char.ofNat ((b.toNat - 0xf0) * 262144 + payload b1 * 4096 + payload b2 * 64 +
                  payload b3)) rest
              else .bad 3 .invalidContinuation
  else .bad 1 .invalidStart

/-- The characters of a block behind those decoded, which are in reverse, and the bytes of a
character that the end of the block cuts.  There is fuel for each byte. -/
def decodeFrom : (fuel position : Nat) → (decoded : List Char) → List UInt8 →
    Except Malformed (List Char × List UInt8)
  | 0, _, decoded, bytes => .ok (decoded.reverse, bytes)
  | _ + 1, _, decoded, [] => .ok (decoded.reverse, [])
  | fuel + 1, position, decoded, b :: rest =>
    match head b rest with
    | .char c after =>
      decodeFrom fuel (position + utf8Length b) (c :: decoded) after
    | .cut => .ok (decoded.reverse, b :: rest)
    | .bad length reason => .error ⟨b, position, length, reason⟩
where
  /-- The number of bytes of a character that begins with a byte. -/
  utf8Length (b : UInt8) : Nat :=
    if b < 0x80 then 1 else if b < 0xe0 then 2 else if b < 0xf0 then 3 else 4

/-- The characters of a block, and the bytes of a character that its end cuts. -/
def decodeBlock (block : List UInt8) : Except Malformed (List Char × List UInt8) :=
  decodeFrom block.length 0 [] block

/-- Bytes of a character at the end of a text, which lacks the others; `start` is their place. -/
def checkComplete (start : Nat) : List UInt8 → Except Malformed Unit
  | [] => .ok ()
  | [b, b1] =>
    if isSurrogate b b1 then .error ⟨b, start, 1, .invalidContinuation⟩
    else .error ⟨b, start, 2, .unexpectedEnd⟩
  | b :: rest => .error ⟨b, start, rest.length + 1, .unexpectedEnd⟩

/-- The characters of bytes that are a whole text. -/
def decode (bytes : List UInt8) : Except Malformed (List Char) := do
  let (chars, cut) ← decodeBlock bytes
  checkComplete (bytes.length - cut.length) cut
  return chars

end Utf8

end ServerLauncher
