import CommentTasks.Encoding.ShiftJis
import CommentTasks.Encoding.Utf16
import CommentTasks.Encoding.Utf8

/-!
# The text of a source file

A source file is taken for text if fewer than three in ten of its first bytes are control
characters that texts do not use. Its encoding is the first of UTF-8, UTF-16 and Shift-JIS that can
be read.
-/

namespace CommentTasks

/-- The byte is a control character that is rare in texts: not a tab, a line end or an escape. -/
def isControlByte (b : UInt8) : Bool :=
  let n := b.toNat
  n < 9 || n == 11 || n == 12 || (14 ≤ n && n < 27) || (28 ≤ n && n < 32)

/-- The number of bytes that are looked at. -/
def sampleSize : Nat := 8192

/-- The bytes look like a text. -/
def looksLikeText (bytes : Bytes) : Bool :=
  let sample := bytes.take sampleSize
  sample.isEmpty || 10 * sample.countP isControlByte < 3 * sample.length

/-- The encodings of source files, in the order in which they are tried. -/
def sourceDecoders : List (Bytes → Option Text) :=
  [fun bytes => (Utf8.decode (Utf8.dropMark bytes)).toOption, Utf16.decode?, ShiftJis.decode?]

/-- The text of a source file without byte order marks at its front. -/
def decodeSource (bytes : Bytes) : Option Text :=
  if looksLikeText bytes then
    (sourceDecoders.findSome? fun decoder => decoder bytes).map (·.dropWhile (· == '\ufeff'))
  else none

end CommentTasks
