import CommentTasks.Text.Basic

/-!
# Places in a YAML text

A cursor is a place in a text: the rest of the text, with the index, line and column of its front.
-/

namespace CommentTasks.Yaml

/-- The character ends a line. -/
def isBreak (c : Char) : Bool :=
  c == '\n' || c == '\r' || c == '\u0085' || c == '\u2028' || c == '\u2029'

/-- There is no character, or one that ends a line. -/
def endsLine : Option Char → Bool
  | none => true
  | some c => isBreak c

/-- There is no character, or a space, or one that ends a line. -/
def endsLineOrSpace (c : Option Char) : Bool := endsLine c || c == some ' '

/-- There is no character, or one that may stand between tokens. -/
def endsToken (c : Option Char) : Bool := endsLineOrSpace c || c == some '\t'

/-- A place in a text. -/
structure Cursor where
  rest : Text
  index : Nat
  line : Nat
  column : Nat

namespace Cursor

/-- The front of a text. -/
def start (t : Text) : Cursor := ⟨t, 0, 0, 0⟩

/-- The character at the cursor. -/
def peek (c : Cursor) : Option Char := c.rest.head?

/-- The character `n` places behind the cursor. -/
def peekAt (c : Cursor) (n : Nat) : Option Char := c.rest[n]?

/-- The place behind the next character. A carriage return before a line feed does not end the
line, and a byte order mark takes no column. -/
def next (c : Cursor) : Cursor :=
  match c.rest with
  | [] => c
  | x :: rest =>
    if isBreak x && !(x == '\r' && rest.head? == some '\n') then ⟨rest, c.index + 1, c.line + 1, 0⟩
    else ⟨rest, c.index + 1, c.line, if x == '\ufeff' then c.column else c.column + 1⟩

/-- The place `n` characters further. -/
def skip : Nat → Cursor → Cursor
  | 0, c => c
  | n + 1, c => skip n c.next

/-- The longest row of characters of a kind at the cursor. -/
def run (p : Char → Bool) (c : Cursor) : Text := c.rest.takeWhile p

/-- The place behind the longest row of characters of a kind. -/
def skipRun (p : Char → Bool) (c : Cursor) : Cursor := c.skip (c.run p).length

/-- The place behind the spaces at the cursor. -/
def skipSpaces (c : Cursor) : Cursor := c.skipRun (· == ' ')

/-- The place behind a comment at the cursor, if there is one. -/
def skipComment (c : Cursor) : Cursor :=
  if c.peek == some '#' then c.skipRun (!isBreak ·) else c

/-- The line break at the cursor as it is kept in texts, and the place behind it. -/
def lineBreak (c : Cursor) : Text × Cursor :=
  match c.rest with
  | '\r' :: '\n' :: _ => (['\n'], c.skip 2)
  | x :: _ =>
    if x == '\u2028' || x == '\u2029' then ([x], c.next)
    else if isBreak x then (['\n'], c.next)
    else ([], c)
  | [] => ([], c)

/-- Three equal marks that begin or end a document stand at the cursor. -/
def atMarker (mark : Char) (c : Cursor) : Bool :=
  c.rest.take 3 == [mark, mark, mark] && endsToken (c.peekAt 3)

/-- The beginning or the end of a document stands at the cursor. -/
def atSeparator (c : Cursor) : Bool := c.atMarker '-' || c.atMarker '.'

end Cursor

end CommentTasks.Yaml
