import CommentTasks.Text.Basic
import CommentTasks.Text.PrintableTable
import CommentTasks.Text.Ranges

/-!
# Quoted texts

How a text is shown inside a message: between single quotes, or between double quotes if it holds a
single quote and no double quote. The quote mark, the backslash and everything that is not printable
is escaped.
-/

namespace CommentTasks.Text

/-- The character can be shown as itself. -/
def isPrintable (c : Char) : Bool := inRanges c.toNat printableRanges

/-- The quote mark for a text. -/
def quoteMark (t : Text) : Char := if t.contains '\x27' && !t.contains '"' then '"' else '\x27'

/-- The shown form of one character between two of the given quote marks. -/
def escapeChar (quote c : Char) : Text :=
  if c == quote || c == '\\' then ['\\', c]
  else if c == '\t' then "\\t".toList
  else if c == '\n' then "\\n".toList
  else if c == '\r' then "\\r".toList
  else if isPrintable c then [c]
  else if c.toNat < 0x100 then "\\x".toList ++ hexPadded 2 c.toNat
  else if c.toNat < 0x10000 then "\\u".toList ++ hexPadded 4 c.toNat
  else "\\U".toList ++ hexPadded 8 c.toNat

/-- The text between quote marks, with escapes. -/
def quoted (t : Text) : Text :=
  let quote := quoteMark t
  quote :: t.flatMap (escapeChar quote) ++ [quote]

end CommentTasks.Text
