import CommentTasks.Text.Basic
import CommentTasks.Text.Ranges
import CommentTasks.Text.WordTable

/-!
# Word characters

A word character is a letter or digit of any script, or the low line. A word ends where a word
character and another character, or the end of the text, meet.
-/

namespace CommentTasks.Text

/-- The character is a letter, a digit or the low line. -/
def isWordChar (c : Char) : Bool := c == '_' || inRanges c.toNat wordRanges

/-- The text begins with a word character. -/
def beginsWithWordChar : Text → Bool
  | [] => false
  | c :: _ => isWordChar c

/-- A word begins or ends between `before` and `rest`: exactly one of the characters on the two
sides is a word character. -/
def isWordBoundary (before rest : Text) : Bool :=
  beginsWithWordChar before.reverse != beginsWithWordChar rest

end CommentTasks.Text
