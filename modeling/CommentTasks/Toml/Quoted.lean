import CommentTasks.Toml.Basic

/-!
# Quoted texts of TOML documents

A text stands between single marks, on one line, or between marks that are written three times.
Between quotation marks a backslash begins an escape; between apostrophes it says nothing special.
-/

namespace CommentTasks.Toml

/-- The character of an escape with so many hexadecimal digits. -/
def hexEscape (digits : Nat) (t : Text) : Except Fault (Text × Text) :=
  let hex := t.take digits
  let n := Text.valueOf 16 hex
  if hex.length = digits ∧ hex.all Text.isHexDigit ∧ n.isValidChar then
    .ok ([Char.ofNat n], t.drop digits)
  else malformed

/-- The character that a letter stands for behind a backslash. -/
def escapedChar? : Char → Option Char
  | 'b' => some '\x08'
  | 't' => some '\t'
  | 'n' => some '\n'
  | 'f' => some '\x0c'
  | 'r' => some '\r'
  | '"' => some '"'
  | '\\' => some '\\'
  | _ => none

/-- What an escape stands for, given the text behind its backslash. In a text of several lines, a
backslash at the end of a line joins the line to what follows all blanks and line feeds. -/
def escape (manyLines : Bool) (t : Text) : Except Fault (Text × Text) :=
  match t with
  | [] => malformed
  | 'u' :: rest => hexEscape 4 rest
  | 'U' :: rest => hexEscape 8 rest
  | c :: rest =>
    if manyLines ∧ isFiller c then
      match dropBlanks t with
      | [] => .ok ([], [])
      | '\n' :: rest => .ok ([], rest.dropWhile isFiller)
      | _ => malformed
    else
      match escapedChar? c with
      | some x => .ok ([x], rest)
      | none => malformed

/-- The character may not stand in a quoted text. -/
def isRefused (manyLines : Bool) (c : Char) : Bool := isControl c && !(manyLines && c == '\n')

/-- The rest of a text between quotation marks, up to the closing mark. -/
def basicText (manyLines : Bool) : Nat → Text → Except Fault (Text × Text)
  | 0, _ => malformed
  | fuel + 1, t =>
    match t with
    | [] => malformed
    | '\\' :: rest => do
      let (chars, rest) ← escape manyLines rest
      let (more, rest) ← basicText manyLines fuel rest
      return (chars ++ more, rest)
    | c :: rest =>
      let closing := if manyLines then ['"', '"', '"'] else ['"']
      match closing.isPrefixOf? t with
      | some behind => .ok ([], behind)
      | none =>
        if isRefused manyLines c then malformed
        else do
          let (more, rest) ← basicText manyLines fuel rest
          return (c :: more, rest)

/-- The rest of a text between apostrophes, up to the closing mark. -/
def literalText (manyLines : Bool) (t : Text) : Except Fault (Text × Text) :=
  match Text.breakOn? (if manyLines then ['\'', '\'', '\''] else ['\'']) t with
  | some (body, rest) => if body.any (isRefused manyLines) then malformed else .ok (body, rest)
  | none => malformed

/-- The text between two marks on one line, from its opening mark. -/
def lineText (t : Text) : Except Fault (Text × Text) :=
  match t with
  | '"' :: rest => basicText false (rest.length + 1) rest
  | '\'' :: rest => literalText false rest
  | _ => malformed

/-- The rest of a text between marks that are written three times. A line feed behind the opening
marks says nothing, and up to two marks before the closing ones belong to the text. -/
def blockText (mark : Char) (t : Text) : Except Fault (Text × Text) := do
  let t := match t with
    | '\n' :: rest => rest
    | t => t
  let (body, rest) ←
    if mark = '"' then basicText true (t.length + 1) t else literalText true t
  let more := (rest.takeWhile (· = mark)).take 2
  return (body ++ more, rest.drop more.length)

/-- A quoted text, from its opening mark. -/
def quotedText (t : Text) : Except Fault (Text × Text) :=
  match t with
  | '"' :: '"' :: '"' :: rest => blockText '"' rest
  | '\'' :: '\'' :: '\'' :: rest => blockText '\'' rest
  | t => lineText t

end CommentTasks.Toml
