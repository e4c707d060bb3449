import CommentTasks.Host
import CommentTasks.Text.Numeral

/-!
# TOML documents: common parts

Why a document is refused, and the blanks and comments between its parts. Readers take the text from
the place where their part begins, and give what it says and the text behind it.
-/

namespace CommentTasks.Toml

/-- Why a document has no value. -/
inductive Fault
  /-- The text breaks a rule of the format. -/
  | malformed
  /-- An integer has more digits than are read. -/
  | integer (e : Numeral.IntegerError)
  /-- More brackets are open than calls can be nested. -/
  | tooDeep
  deriving DecidableEq, Repr

/-- The wording of a fault, where `wording` is that of a rule that is broken. -/
def Fault.message (wording : Text) : Fault → Text
  | .malformed => wording
  | .integer e => e.message
  | .tooDeep => tooDeepText

/-- The text is no document. -/
def malformed {α : Type} : Except Fault α := .error .malformed

/-- A space or a tab. -/
def isBlank (c : Char) : Bool := c == ' ' || c == '\t'

/-- A space, a tab or a line feed. -/
def isFiller (c : Char) : Bool := isBlank c || c == '\n'

/-- A control character other than a tab; such a character stands neither in a comment nor in a
text. -/
def isControl (c : Char) : Bool := (c.toNat < 32 && c != '\t') || c.toNat == 127

/-- The text behind the blanks at its front. -/
def dropBlanks (t : Text) : Text := t.dropWhile isBlank

/-- The text behind the comment that may stand at its front. -/
def dropComment (t : Text) : Except Fault Text :=
  match t with
  | '#' :: rest =>
    if (rest.takeWhile (· ≠ '\n')).any isControl then malformed
    else .ok (rest.dropWhile (· ≠ '\n'))
  | t => .ok t

/-- The text behind the blanks, line feeds and comments at its front. -/
def dropFiller : Nat → Text → Except Fault Text
  | 0, t => .ok t
  | fuel + 1, t =>
    match t.dropWhile isFiller with
    | '#' :: rest => do dropFiller fuel (← dropComment ('#' :: rest))
    | t => .ok t

end CommentTasks.Toml
