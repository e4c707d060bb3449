import CommentTasks.Encoding.Bytes
import CommentTasks.Text.Basic

/-!
# UTF-8

Text as bytes and back. The decoder reads one byte after the other and knows how many further bytes
it is owed for the current character, and the range of the next one; it refuses what no text is
encoded as, and tells the bytes that show it.
-/

namespace CommentTasks.Utf8

/-- The bytes of one character. -/
def encodeChar (c : Char) : Bytes :=
  let n := c.toNat
  if n < 0x80 then [.ofNat n]
  else if n < 0x800 then [.ofNat (0xC0 + n / 0x40), .ofNat (0x80 + n % 0x40)]
  else if n < 0x10000 then
    [.ofNat (0xE0 + n / 0x1000), .ofNat (0x80 + n / 0x40 % 0x40), .ofNat (0x80 + n % 0x40)]
  else
    [.ofNat (0xF0 + n / 0x40000), .ofNat (0x80 + n / 0x1000 % 0x40),
      .ofNat (0x80 + n / 0x40 % 0x40), .ofNat (0x80 + n % 0x40)]

/-- The bytes of a text. -/
def encode (t : Text) : Bytes := t.flatMap encodeChar

/-- Why bytes are not the encoding of a text. -/
inductive Reason
  | invalidStartByte
  | invalidContinuationByte
  | unexpectedEndOfData
  deriving DecidableEq, Repr

/-- The wording of a reason. -/
def Reason.message : Reason → Text
  | .invalidStartByte => "invalid start byte".toList
  | .invalidContinuationByte => "invalid continuation byte".toList
  | .unexpectedEndOfData => "unexpected end of data".toList

/-- A failure to decode: the reason, the place and the number of the bytes that show it, and the
first of them. -/
structure DecodeError where
  reason : Reason
  start : Nat
  count : Nat
  byte : UInt8
  deriving DecidableEq, Repr

/-- The wording of a failure. -/
def DecodeError.message (e : DecodeError) : Text :=
  let place : Text :=
    if e.count = 1 then
      "byte 0x".toList ++ Text.hexPadded 2 e.byte.toNat ++ " in position ".toList ++
        Text.ofNat e.start
    else
      "bytes in position ".toList ++ Text.ofNat e.start ++ "-".toList ++
        Text.ofNat (e.start + e.count - 1)
  "'utf-8' codec can't decode ".toList ++ place ++ ": ".toList ++ e.reason.message

/-- A character that is not complete: its first byte and where it stands, the bits so far, how many
bytes were read and how many are owed, and the range of the next byte. -/
structure Partial where
  lead : UInt8
  start : Nat
  bits : Nat
  read : Nat
  owed : Nat
  low : Nat
  high : Nat

/-- What the first byte of a character says: its bits, the number of further bytes, and the range
of the second byte. -/
def leadByte? (b : Nat) : Option (Nat × Nat × Nat × Nat) :=
  if b < 0xC2 then none
  else if b < 0xE0 then some (b - 0xC0, 1, 0x80, 0xBF)
  else if b = 0xE0 then some (0, 2, 0xA0, 0xBF)
  else if b = 0xED then some (0xD, 2, 0x80, 0x9F)
  else if b < 0xF0 then some (b - 0xE0, 2, 0x80, 0xBF)
  else if b = 0xF0 then some (0, 3, 0x90, 0xBF)
  else if b < 0xF4 then some (b - 0xF0, 3, 0x80, 0xBF)
  else if b = 0xF4 then some (4, 3, 0x80, 0x8F)
  else none

/-- Decode the bytes from the given place on, with what there is of the current character. -/
def decodeFrom (position : Nat) : Option Partial → Bytes → Except DecodeError Text
  | none, [] => .ok []
  | some p, [] => .error ⟨.unexpectedEndOfData, p.start, p.read, p.lead⟩
  | none, b :: rest =>
    if b.toNat < 0x80 then
      (decodeFrom (position + 1) none rest).map (Char.ofNat b.toNat :: ·)
    else
      match leadByte? b.toNat with
      | some (bits, owed, low, high) =>
        decodeFrom (position + 1) (some ⟨b, position, bits, 1, owed, low, high⟩) rest
      | none => .error ⟨.invalidStartByte, position, 1, b⟩
  | some p, b :: rest =>
    if b.toNat < p.low ∨ p.high < b.toNat then
      .error ⟨.invalidContinuationByte, p.start, p.read, p.lead⟩
    else
      let bits := p.bits * 0x40 + (b.toNat - 0x80)
      if p.owed ≤ 1 then (decodeFrom (position + 1) none rest).map (Char.ofNat bits :: ·)
      else
        decodeFrom (position + 1)
          (some { p with bits, read := p.read + 1, owed := p.owed - 1, low := 0x80, high := 0xBF })
          rest

/-- The text that the bytes encode. -/
def decode (bytes : Bytes) : Except DecodeError Text := decodeFrom 0 none bytes

/-- The byte order mark. -/
def byteOrderMark : Bytes := [0xEF, 0xBB, 0xBF]

/-- The bytes without one byte order mark at their front. -/
def dropMark (bytes : Bytes) : Bytes := (byteOrderMark.isPrefixOf? bytes).getD bytes

/-- The text that the bytes behind a byte order mark encode. A file that ends inside the mark is
empty. -/
def decodeMarked (bytes : Bytes) : Except DecodeError Text :=
  if bytes.length < 3 ∧ bytes.isPrefixOf byteOrderMark then .ok [] else decode (dropMark bytes)

/-- The text with every line ended by a line feed alone. -/
def unifyLineEnds : Text → Text
  | [] => []
  | '\r' :: '\n' :: rest => '\n' :: unifyLineEnds rest
  | c :: rest => (if c = '\r' then '\n' else c) :: unifyLineEnds rest

/-- The text in a file, as a document of lines. -/
def readDocument (bytes : Bytes) : Except DecodeError Text := (decode bytes).map unifyLineEnds

/-- The text in a file, as a document of lines, without a byte order mark. -/
def readMarkedDocument (bytes : Bytes) : Except DecodeError Text :=
  (decodeMarked bytes).map unifyLineEnds

end CommentTasks.Utf8
