import CommentTasks.Encoding.Utf8
import CommentTasks.Yaml.Cursor
import CommentTasks.Yaml.Fault

/-!
# Reading scalars, names and tags of a YAML text

Each reader takes the place where its token begins and gives what the token says and the place
behind it. Readers with inner loops take fuel, one unit for every character that is left.
-/

namespace CommentTasks.Yaml

/-- The text is no document. -/
def malformed {α : Type} : Except Fault α := .error .malformed

/-- The character may stand in the name of an anchor, a directive or a tag handle. -/
def isNameChar (c : Char) : Bool :=
  Text.isAsciiDigit c || ('A' ≤ c && c ≤ 'Z') || ('a' ≤ c && c ≤ 'z') || c == '-' || c == '_'

/-! ### Names and tags -/

/-- The name of an anchor or an alias, behind its mark. -/
def anchorName (c : Cursor) : Except Fault (Text × Cursor) :=
  let c := c.next
  let name := c.run isNameChar
  let c := c.skip name.length
  let closes := match c.peek with
    | none => true
    | some x => endsToken (some x) || "?:,]\x7d%@\x60".toList.contains x
  if name = [] ∨ !closes then malformed else .ok (name, c)

/-- The character may stand in the suffix of a tag. -/
def isTagChar (c : Char) : Bool := isNameChar c || ";/?:@&=+$,.!~*\x27()[]%".toList.contains c

/-- The bytes of a row of percent escapes. -/
def percentBytes : Nat → Cursor → Except Fault (Bytes × Cursor)
  | 0, c => .ok ([], c)
  | fuel + 1, c =>
    match c.rest with
    | '%' :: a :: b :: _ =>
      if Text.isHexDigit a && Text.isHexDigit b then do
        let (bytes, c) ← percentBytes fuel (c.skip 3)
        return (.ofNat (Text.valueOf 16 [a, b]) :: bytes, c)
      else malformed
    | '%' :: _ => malformed
    | _ => .ok ([], c)

/-- The characters of the suffix of a tag, with percent escapes. -/
def tagChars : Nat → Cursor → Except Fault (Text × Cursor)
  | 0, c => .ok ([], c)
  | fuel + 1, c =>
    if c.peek = some '%' then do
      let (bytes, c) ← percentBytes (c.rest.length + 1) c
      match Utf8.decode bytes with
      | .ok t => do
        let (more, c) ← tagChars fuel c
        return (t ++ more, c)
      | .error _ => malformed
    else
      match c.peek with
      | some x =>
        if isTagChar x then do
          let (more, c) ← tagChars fuel c.next
          return (x :: more, c)
        else .ok ([], c)
      | none => .ok ([], c)

/-- The suffix of a tag; it must say something. -/
def tagSuffix (c : Cursor) : Except Fault (Text × Cursor) := do
  match c.peek with
  | some x => if isTagChar x then tagChars (c.rest.length + 1) c else malformed
  | none => malformed

/-- The handle of a tag: a mark, or a name between two marks. -/
def tagHandle (c : Cursor) : Except Fault (Text × Cursor) :=
  match c.rest with
  | '!' :: ' ' :: _ => .ok (['!'], c.next)
  | '!' :: rest =>
    let name := rest.takeWhile isNameChar
    match rest.drop name.length with
    | '!' :: _ => .ok ('!' :: name ++ ['!'], c.skip (name.length + 2))
    | _ => malformed
  | _ => malformed

/-- A tag: its handle, if it has one, and its suffix. -/
def tag (c : Cursor) : Except Fault ((Option Text × Text) × Cursor) := do
  let (result, c) ← match c.peekAt 1 with
    | some '<' => do
      let (suffix, c) ← tagSuffix (c.skip 2)
      if c.peek = some '>' then pure ((none, suffix), c.next) else malformed
    | second =>
      if endsToken second then pure ((none, ['!']), c.next)
      else
        let word := c.next.run fun x => !endsLineOrSpace (some x)
        if word.contains '!' then do
          let (handle, c) ← tagHandle c
          let (suffix, c) ← tagSuffix c
          pure ((some handle, suffix), c)
        else do
          let (suffix, c) ← tagSuffix c.next
          pure ((some ['!'], suffix), c)
  if endsLineOrSpace c.peek then return (result, c) else malformed

/-! ### Quoted scalars -/

/-- The characters that stand for others behind a backslash. -/
def escapes : List (Char × Char) :=
  [('0', '\x00'), ('a', '\x07'), ('b', '\x08'), ('t', '\t'), ('\t', '\t'), ('n', '\n'),
   ('v', '\x0b'), ('f', '\x0c'), ('r', '\r'), ('e', '\x1b'), (' ', ' '), ('"', '"'),
   ('\\', '\\'), ('/', '/'), ('N', '\u0085'), ('_', '\u00a0'), ('L', '\u2028'), ('P', '\u2029')]

/-- The number of hexadecimal digits behind a letter. -/
def escapeLength? : Char → Option Nat
  | 'x' => some 2
  | 'u' => some 4
  | 'U' => some 8
  | _ => none

/-- The character with a number; half a surrogate pair is replaced. -/
def charOfCode (n : Nat) : Except Fault Char :=
  if 0x7FFFFFFF < n then .error .characterTooLarge
  else if 0x10FFFF < n then .error .characterOutOfRange
  else if 0xD800 ≤ n ∧ n ≤ 0xDFFF then .ok '\ufffd'
  else .ok (Char.ofNat n)

/-- The character that hexadecimal digits behind the cursor name. -/
def codeEscape (length : Nat) (c : Cursor) : Except Fault (Char × Cursor) :=
  let digits := c.rest.take length
  if digits.length = length ∧ digits.all Text.isHexDigit then
    (charOfCode (Text.valueOf 16 digits)).map fun x => (x, c.skip length)
  else malformed

/-- The empty lines in a quoted scalar, which may not hold the mark of a document. -/
def quotedBreaks : Nat → Cursor → Except Fault (Text × Cursor)
  | 0, c => .ok ([], c)
  | fuel + 1, c =>
    if c.atSeparator then malformed
    else
      let c := c.skipRun fun x => x == ' ' || x == '\t'
      match c.peek with
      | some x =>
        if isBreak x then do
          let (b, c) := c.lineBreak
          let (more, c) ← quotedBreaks fuel c
          return (b ++ more, c)
        else .ok ([], c)
      | none => .ok ([], c)

/-- The characters of a quoted scalar up to a blank, a line break or the closing quote. -/
def quotedChars (double : Bool) : Nat → Cursor → Except Fault (Text × Cursor)
  | 0, c => .ok ([], c)
  | fuel + 1, c =>
    match c.rest with
    | [] => .ok ([], c)
    | '\x27' :: '\x27' :: _ =>
      if double then do
        let (more, c) ← quotedChars double fuel c.next
        return ('\x27' :: more, c)
      else do
        let (more, c) ← quotedChars double fuel (c.skip 2)
        return ('\x27' :: more, c)
    | x :: _ =>
      if x = '\x27' then
        if double then do
          let (more, c) ← quotedChars double fuel c.next
          return (x :: more, c)
        else .ok ([], c)
      else if x = '"' then
        if double then .ok ([], c)
        else do
          let (more, c) ← quotedChars double fuel c.next
          return (x :: more, c)
      else if x = '\\' ∧ double then do
        let c := c.next
        match c.peek with
        | none => malformed
        | some e =>
          match escapes.lookup e, escapeLength? e with
          | some y, _ => do
            let (more, c) ← quotedChars double fuel c.next
            return (y :: more, c)
          | none, some length => do
            let (y, c) ← codeEscape length c.next
            let (more, c) ← quotedChars double fuel c
            return (y :: more, c)
          | none, none =>
            if isBreak e then do
              let (_, c) := c.lineBreak
              let (breaks, c) ← quotedBreaks (c.rest.length + 1) c
              let (more, c) ← quotedChars double fuel c
              return (breaks ++ more, c)
            else malformed
      else if endsToken (some x) then .ok ([], c)
      else do
        let (more, c) ← quotedChars double fuel c.next
        return (x :: more, c)

/-- The blanks and line breaks inside a quoted scalar. A single line break is a space. -/
def quotedSpaces (c : Cursor) : Except Fault (Text × Cursor) :=
  let blanks := c.run fun x => x == ' ' || x == '\t'
  let c := c.skip blanks.length
  match c.peek with
  | none => malformed
  | some x =>
    if isBreak x then do
      let (b, c) := c.lineBreak
      let (breaks, c) ← quotedBreaks (c.rest.length + 1) c
      let first : Text := if b ≠ ['\n'] then b else if breaks = [] then [' '] else []
      return (first ++ breaks, c)
    else .ok (blanks, c)

/-- A quoted scalar up to and with its closing quote. -/
def quotedRest (double : Bool) : Nat → Cursor → Except Fault (Text × Cursor)
  | 0, _ => malformed
  | fuel + 1, c =>
    if c.peek = some (if double then '"' else '\x27') then .ok ([], c.next)
    else do
      let (blanks, c) ← quotedSpaces c
      let (chars, c) ← quotedChars double (c.rest.length + 1) c
      let (more, c) ← quotedRest double fuel c
      return (blanks ++ chars ++ more, c)

/-- A quoted scalar. -/
def quotedScalar (double : Bool) (c : Cursor) : Except Fault (Text × Cursor) := do
  let (chars, c) ← quotedChars double (c.rest.length + 1) c.next
  let (more, c) ← quotedRest double (c.rest.length + 1) c
  return (chars ++ more, c)

/-! ### Plain scalars -/

/-- The length of the piece of a plain scalar at the front of a text. -/
def plainLength (inFlow : Bool) : Text → Nat
  | [] => 0
  | x :: rest =>
    let follows := rest.head?
    let closesKey := x == ':' && (endsToken follows ||
      (inFlow && match follows with
        | some y => ",[]\x7b\x7d".toList.contains y
        | none => false))
    if endsToken (some x) || closesKey || (inFlow && ",?[]\x7b\x7d".toList.contains x) then 0
    else plainLength inFlow rest + 1

/-- The empty lines between two pieces of a plain scalar. Nothing is given if a mark of a document
follows. -/
def plainBreaks : Nat → Cursor → Option Text × Cursor
  | 0, c => (some [], c)
  | fuel + 1, c =>
    match c.peek with
    | some ' ' => plainBreaks fuel c.next
    | some x =>
      if isBreak x then
        let (b, c) := c.lineBreak
        if c.atSeparator then (none, c)
        else
          let (more, c) := plainBreaks fuel c
          (more.map (b ++ ·), c)
      else (some [], c)
    | none => (some [], c)

/-- What stands between two pieces of a plain scalar, and whether a line was ended. Nothing is given
if the scalar cannot go on. -/
def plainSpaces (c : Cursor) : Option Text × Bool × Cursor :=
  let blanks := c.run (· == ' ')
  let c := c.skip blanks.length
  match c.peek with
  | some x =>
    if isBreak x then
      let (b, c) := c.lineBreak
      if c.atSeparator then (none, true, c)
      else
        match plainBreaks (c.rest.length + 1) c with
        | (none, c) => (none, true, c)
        | (some breaks, c) =>
          let first : Text := if b ≠ ['\n'] then b else if breaks = [] then [' '] else []
          (some (first ++ breaks), true, c)
    else (if blanks = [] then none else some blanks, false, c)
  | none => (if blanks = [] then none else some blanks, false, c)

/-- The pieces of a plain scalar behind what stands before them, and whether the last thing that was
read is the end of a line. -/
def plainPieces (inFlow : Bool) (indent : Int) (before : Text) (ended : Bool) :
    Nat → Cursor → Text × Bool × Cursor
  | 0, c => ([], ended, c)
  | fuel + 1, c =>
    let length := plainLength inFlow c.rest
    if c.peek = some '#' ∨ length = 0 then ([], ended, c)
    else
      let piece := before ++ c.rest.take length
      match plainSpaces (c.skip length) with
      | (none, ended, c) => (piece, ended, c)
      | (some spaces, ended, c) =>
        if c.peek = some '#' ∨ (!inFlow ∧ (c.column : Int) < indent) then (piece, ended, c)
        else
          let (more, ended, c) := plainPieces inFlow indent spaces ended fuel c
          (piece ++ more, ended, c)

/-- A plain scalar, and whether the place behind it is at the beginning of a line. Outside flow
collections its lines are indented further than `parent`. -/
def plainScalar (inFlow : Bool) (parent : Int) (c : Cursor) : Text × Bool × Cursor :=
  plainPieces inFlow (parent + 1) [] false (c.rest.length + 1) c

/-! ### Block scalars -/

/-- What is done with the line breaks at the end of a block scalar. -/
inductive Chomping
  | clip
  | strip
  | keep
  deriving DecidableEq, Repr

/-- The digit that tells the indentation of a block scalar. -/
def increment? : Option Char → Option Nat
  | some x => if Text.isAsciiDigit x then some (x.toNat - 48) else none
  | none => none

/-- The sign that tells the chomping of a block scalar. -/
def chomping? : Option Char → Option Chomping
  | some '+' => some .keep
  | some '-' => some .strip
  | _ => none

/-- The signs behind the mark of a block scalar: chomping and indentation, in either order. -/
def blockHeader (c : Cursor) : Except Fault ((Chomping × Option Nat) × Cursor) :=
  let (result, c) : (Chomping × Option Nat) × Cursor :=
    match chomping? c.peek, increment? c.peek with
    | some chomping, _ =>
      match increment? (c.peekAt 1) with
      | some n => ((chomping, some n), c.skip 2)
      | none => ((chomping, none), c.next)
    | none, some n =>
      match chomping? (c.peekAt 1) with
      | some chomping => ((chomping, some n), c.skip 2)
      | none => ((.clip, some n), c.next)
    | none, none => ((.clip, none), c)
  if result.2 = some 0 ∨ !endsLineOrSpace c.peek then malformed else .ok (result, c)

/-- The place behind the rest of a line that may hold spaces and a comment. -/
def restOfLine (c : Cursor) : Except Fault Cursor :=
  let c := c.skipSpaces.skipComment
  if endsLine c.peek then .ok c.lineBreak.2 else malformed

/-- The empty lines before a block scalar, and the greatest column that their spaces reach. -/
def blockIndentation : Nat → Cursor → Text × Nat × Cursor
  | 0, c => ([], 0, c)
  | fuel + 1, c =>
    match c.peek with
    | some ' ' =>
      let c := c.next
      let (breaks, most, c') := blockIndentation fuel c
      (breaks, max c.column most, c')
    | some x =>
      if isBreak x then
        let (b, c) := c.lineBreak
        let (breaks, most, c) := blockIndentation fuel c
        (b ++ breaks, most, c)
      else ([], 0, c)
    | none => ([], 0, c)

/-- The place behind the spaces at the cursor, as far as the given column. -/
def skipIndent (indent : Nat) (c : Cursor) : Cursor :=
  c.skip (min (c.run (· == ' ')).length (indent - c.column))

/-- The empty lines inside a block scalar, and the place behind the indentation that follows. -/
def blockBreaks (indent : Nat) : Nat → Cursor → Text × Cursor
  | 0, c => ([], c)
  | fuel + 1, c =>
    let c := skipIndent indent c
    match c.peek with
    | some x =>
      if isBreak x then
        let (b, c) := c.lineBreak
        let (more, c) := blockBreaks indent fuel c
        (b ++ more, c)
      else ([], c)
    | none => ([], c)

/-- The character is a space or a tab. -/
def isSpaceOrTab (c : Option Char) : Bool := c == some ' ' || c == some '\t'

/-- The lines of a block scalar from a line with text on, behind the empty lines before it: their
text, the last line break, and the empty lines at the end. -/
def blockLines (folded : Bool) (indent : Nat) (breaks : Text) :
    Nat → Cursor → Text × Text × Text × Cursor
  | 0, c => ([], [], breaks, c)
  | fuel + 1, c =>
    if c.column = indent ∧ c.peek ≠ none then
      let indented := isSpaceOrTab c.peek
      let line := c.run (!isBreak ·)
      let (lastBreak, c) := (c.skip line.length).lineBreak
      let (after, c) := blockBreaks indent (c.rest.length + 1) c
      if c.column = indent ∧ c.peek ≠ none then
        let joint : Text :=
          if folded && lastBreak == ['\n'] && !indented && !isSpaceOrTab c.peek then
            if after = [] then [' '] else []
          else lastBreak
        let (more, final, tail, c) := blockLines folded indent after fuel c
        (breaks ++ line ++ joint ++ more, final, tail, c)
      else (breaks ++ line, lastBreak, after, c)
    else ([], [], breaks, c)

/-- A block scalar from its mark on. Its lines are indented further than `parent`. -/
def blockScalar (folded : Bool) (parent : Int) (c : Cursor) : Except Fault (Text × Cursor) := do
  let ((chomping, increment), c) ← blockHeader c.next
  let c ← restOfLine c
  let least := (max (parent + 1) 1).toNat
  let (breaks, indent, c) : Text × Nat × Cursor :=
    match increment with
    | some n =>
      let indent := least + n - 1
      let (breaks, c) := blockBreaks indent (c.rest.length + 1) c
      (breaks, indent, c)
    | none =>
      let (breaks, most, c) := blockIndentation (c.rest.length + 1) c
      (breaks, max least most, c)
  let (body, final, tail, c) := blockLines folded indent breaks (c.rest.length + 1) c
  let ending : Text := match chomping with
    | .clip => final
    | .strip => []
    | .keep => final ++ tail
  return (body ++ ending, c)

end CommentTasks.Yaml
