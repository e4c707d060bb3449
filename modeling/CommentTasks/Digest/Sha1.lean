import CommentTasks.Encoding.Bytes
import CommentTasks.Text.Basic

/-!
# SHA-1

The digest of a message of bytes: the message is padded to blocks of 64 bytes, every block is
expanded to 80 words, and each word stirs a state of five words.
-/

namespace CommentTasks.Sha1

/-- The five words that the blocks stir. -/
structure State where
  a : UInt32
  b : UInt32
  c : UInt32
  d : UInt32
  e : UInt32
  deriving DecidableEq, Repr

/-- The state before the first block. -/
def State.initial : State := ⟨0x67452301, 0xEFCDAB89, 0x98BADCFE, 0x10325476, 0xC3D2E1F0⟩

/-- The sums of the words of two states. -/
def State.add (s t : State) : State := ⟨s.a + t.a, s.b + t.b, s.c + t.c, s.d + t.d, s.e + t.e⟩

/-- The words of a state. -/
def State.words (s : State) : List UInt32 := [s.a, s.b, s.c, s.d, s.e]

/-- A word with its bits moved `n` places to the left, round its end; `0 < n < 32`. -/
def rotate (w : UInt32) (n : UInt32) : UInt32 := (w <<< n) ||| (w >>> (32 - n))

/-- The eight bytes of a number, the highest first. -/
def bigEndian64 (n : Nat) : Bytes :=
  [56, 48, 40, 32, 24, 16, 8, 0].map fun shift => UInt8.ofNat (n >>> shift)

/-- The message with a mark at its end, zeros up to eight bytes before the end of a block, and its
length in bits. -/
def pad (message : Bytes) : Bytes :=
  message ++ 0x80 :: List.replicate ((119 - message.length % 64) % 64) 0 ++
    bigEndian64 (8 * message.length)

/-- The words of four bytes each, the highest byte first. -/
def wordsOf : Bytes → List UInt32
  | a :: b :: c :: d :: rest =>
    ((a.toUInt32 <<< 24) ||| (b.toUInt32 <<< 16) ||| (c.toUInt32 <<< 8) ||| d.toUInt32) ::
      wordsOf rest
  | _ => []

/-- Extend a schedule by `count` words. The last word stands first. -/
def extend : Nat → List UInt32 → List UInt32
  | 0, ws => ws
  | count + 1, ws =>
    let word (i : Nat) : UInt32 := (ws[i]?).getD 0
    extend count (rotate (word 2 ^^^ word 7 ^^^ word 13 ^^^ word 15) 1 :: ws)

/-- The eighty words of a block. -/
def schedule (block : Bytes) : List UInt32 := (extend 64 (wordsOf block).reverse).reverse

/-- The function and the constant of a round. -/
def roundRule (i : Nat) (s : State) : UInt32 × UInt32 :=
  if i < 20 then ((s.b &&& s.c) ||| (~~~s.b &&& s.d), 0x5A827999)
  else if i < 40 then (s.b ^^^ s.c ^^^ s.d, 0x6ED9EBA1)
  else if i < 60 then ((s.b &&& s.c) ||| (s.b &&& s.d) ||| (s.c &&& s.d), 0x8F1BBCDC)
  else (s.b ^^^ s.c ^^^ s.d, 0xCA62C1D6)

/-- One round with a word of the schedule. -/
def round (s : State) (word : UInt32 × Nat) : State :=
  let (f, k) := roundRule word.2 s
  ⟨rotate s.a 5 + f + s.e + k + word.1, s.a, rotate s.b 30, s.c, s.d⟩

/-- Stir a block into the state. -/
def compress (s : State) (block : Bytes) : State :=
  s.add ((schedule block).zipIdx.foldl round s)

/-- Stir the next `count` blocks of 64 bytes into the state. -/
def compressAll : Nat → State → Bytes → State
  | 0, s, _ => s
  | count + 1, s, bytes => compressAll count (compress s (bytes.take 64)) (bytes.drop 64)

/-- The digest of a message as forty hexadecimal digits. -/
def hexDigest (message : Bytes) : Text :=
  let padded := pad message
  (compressAll (padded.length / 64) State.initial padded).words.flatMap fun w =>
    Text.hexPadded 8 w.toNat

end CommentTasks.Sha1
