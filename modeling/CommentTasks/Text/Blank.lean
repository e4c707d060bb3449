import CommentTasks.Text.Basic

/-!
# Blanks

The blank characters of the library: the white space of Unicode together with the four separator
controls. Trimming, the words of a text, and `squeeze`, which writes the words with one space
between neighbours.
-/

namespace CommentTasks.Text

/-- The character is white space or one of the separator controls. -/
def isBlank (c : Char) : Bool :=
  let n := c.toNat
  (9 ≤ n && n ≤ 13) || (28 ≤ n && n ≤ 32) || n == 0x85 || n == 0xA0 || n == 0x1680 ||
    (0x2000 ≤ n && n ≤ 0x200A) || n == 0x2028 || n == 0x2029 || n == 0x202F || n == 0x205F ||
    n == 0x3000

/-- The text without the blanks at its front. -/
def trimLeft (t : Text) : Text := t.dropWhile isBlank

/-- The text without the blanks at its end. -/
def trimRight (t : Text) : Text := (t.reverse.dropWhile isBlank).reverse

/-- The text without the blanks at both ends. -/
def trim (t : Text) : Text := trimRight (trimLeft t)

/-- The text holds nothing but blanks. -/
def isAllBlank (t : Text) : Bool := t.all isBlank

/-- The longest pieces of the text without a blank. -/
def words (t : Text) : List Text := (t.splitOnP isBlank).filter (· ≠ [])

/-- The words of the text with one space between neighbours. -/
def squeeze (t : Text) : Text := [' '].intercalate (words t)

end CommentTasks.Text
