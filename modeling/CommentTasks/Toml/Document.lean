import CommentTasks.Toml.Quoted
import CommentTasks.Toml.Scalar
import CommentTasks.Toml.Table

/-!
# TOML documents

A document is a row of statements: a key with its value, the header of a table, or the header of an
item of a list of tables. Values may hold others, so their readers take fuel, one unit for every
character that is left, and `room`, which is left for brackets.
-/

namespace CommentTasks.Toml

/-! ### Keys -/

/-- The character may stand in a key without marks. -/
def isKeyChar (c : Char) : Bool :=
  Text.isAsciiDigit c || ('A' ≤ c && c ≤ 'Z') || ('a' ≤ c && c ≤ 'z') || c == '-' || c == '_'

/-- One part of a key. -/
def keyPart (t : Text) : Except Fault (Text × Text) :=
  let name := t.takeWhile isKeyChar
  if name ≠ [] then .ok (name, t.drop name.length) else lineText t

/-- The parts of a key, with points between them, and the blanks behind it. -/
def keyPath : Nat → Text → Except Fault (KeyPath × Text)
  | 0, _ => malformed
  | fuel + 1, t => do
    let (part, t) ← keyPart t
    match dropBlanks t with
    | '.' :: rest => do
      let (path, rest) ← keyPath fuel (dropBlanks rest)
      return (part :: path, rest)
    | rest => return ([part], rest)

/-! ### Values -/

mutual

/-- A value. -/
def value : Nat → Depth → Text → Except Fault (Value × Text)
  | 0, _, _ => malformed
  | fuel + 1, room, t =>
    match t with
    | '"' :: _ | '\'' :: _ => (quotedText t).map fun (x, rest) => (.text x, rest)
    | 't' :: 'r' :: 'u' :: 'e' :: rest => .ok (.bool true, rest)
    | 'f' :: 'a' :: 'l' :: 's' :: 'e' :: rest => .ok (.bool false, rest)
    | '[' :: rest =>
      match room.down? with
      | none => .error .tooDeep
      | some room => do
        let (items, rest) ← items fuel room (← dropFiller fuel rest)
        return (.list items, rest)
    | '\x7b' :: rest =>
      match room.down? with
      | none => .error .tooDeep
      | some room =>
        match dropBlanks rest with
        | '\x7d' :: rest => .ok (.map [], rest)
        | rest => do
          let (members, rest) ← members fuel room {} [] rest
          return (.map members, rest)
    | t => scalar t

/-- The items of a list up to its closing bracket. -/
def items : Nat → Depth → Text → Except Fault (List Value × Text)
  | 0, _, _ => malformed
  | _ + 1, _, ']' :: rest => .ok ([], rest)
  | fuel + 1, room, t => do
    let (v, t) ← value fuel room t
    match ← dropFiller fuel t with
    | ']' :: rest => return ([v], rest)
    | ',' :: rest => do
      let (vs, rest) ← items fuel room (← dropFiller fuel rest)
      return (v :: vs, rest)
    | _ => malformed

/-- A key and its value. -/
def keyAndValue : Nat → Depth → Text → Except Fault ((KeyPath × Value) × Text)
  | 0, _, _ => malformed
  | fuel + 1, room, t => do
    let (path, t) ← keyPath fuel t
    match t with
    | '=' :: rest => do
      let (v, rest) ← value fuel room (dropBlanks rest)
      return ((path, v), rest)
    | _ => malformed

/-- The members of a table on one line up to its closing bracket, behind those that were read. -/
def members : Nat → Depth → Marks → Members → Text → Except Fault (Members × Text)
  | 0, _, _, _, _ => malformed
  | fuel + 1, room, marks, done, t => do
    let ((path, v), t) ← keyAndValue fuel room t
    match if marks.isFixed path then none else assign? false path v done with
    | none => malformed
    | some done =>
      match dropBlanks t with
      | '\x7d' :: rest => return (done, rest)
      | ',' :: rest => members fuel room (marks.fix path v) done (dropBlanks rest)
      | _ => malformed

end

/-! ### Statements -/

/-- What was read so far: the members, how paths were used, and the path of the open table. -/
structure Draft where
  members : Members := []
  marks : Marks := {}
  header : KeyPath := []

namespace Draft

/-- Take over changed members, if the change was possible. -/
def withMembers (d : Draft) (members? : Option Members) : Except Fault Draft :=
  match members? with
  | some members => .ok { d with members }
  | none => malformed

/-- Declare the table at a path and open it. -/
def declareTable (d : Draft) (path : KeyPath) : Except Fault Draft :=
  if d.marks.isDeclared path ∨ d.marks.isFixed path then malformed
  else
    { d with marks := d.marks.declare path, header := path }.withMembers (openTable path d.members)

/-- Add a table to the list of tables at a path and open it. -/
def declareItem (d : Draft) (path : KeyPath) : Except Fault Draft :=
  if d.marks.isFixed path then malformed
  else
    { d with marks := (d.marks.forget path).declare path, header := path }.withMembers
      (openItem path d.members)

/-- Give a value to a member of the open table. -/
def assign (d : Draft) (path : KeyPath) (v : Value) : Except Fault Draft :=
  let between := (List.range (path.length - 1)).map fun i => d.header ++ path.take (i + 1)
  let full := d.header ++ path
  if between.any d.marks.isDeclared ∨ d.marks.isFixed full.dropLast then malformed
  else
    { d with marks := (d.marks.reserve between).fix full v }.withMembers
      (assign? true full v d.members)

/-- A header from behind its opening brackets: its path, and the text behind the closing ones. -/
def headerPath (closing t : Text) : Except Fault (KeyPath × Text) := do
  let (path, t) ← keyPath (t.length + 1) (dropBlanks t)
  match closing.isPrefixOf? t with
  | some rest => return (path, rest)
  | none => malformed

/-- Read one statement, if there is one, and give the text behind it. -/
def statement (room : Depth) (d : Draft) (t : Text) : Except Fault (Draft × Text) :=
  match t with
  | [] => .ok (d, [])
  | '\n' :: _ => .ok (d, t)
  | '#' :: _ => .ok (d, t)
  | '[' :: '[' :: rest => do
    let (path, rest) ← headerPath [']', ']'] rest
    return (← { d with marks := d.marks.settle }.declareItem path, rest)
  | '[' :: rest => do
    let (path, rest) ← headerPath [']'] rest
    return (← { d with marks := d.marks.settle }.declareTable path, rest)
  | t => do
    let ((path, v), rest) ← keyAndValue (t.length + 2) room t
    return (← d.assign path v, rest)

/-- Read the statements of a text. Each of them ends with its line. -/
def statements (room : Depth) : Nat → Draft → Text → Except Fault Draft
  | 0, d, _ => .ok d
  | fuel + 1, d, t => do
    let (d, t) ← d.statement room (dropBlanks t)
    match ← dropComment (dropBlanks t) with
    | [] => return d
    | '\n' :: rest => statements room fuel d rest
    | _ => malformed

end Draft

/-- The text with a line feed for every pair of a carriage return and a line feed. -/
def unifyLineEnds : Text → Text
  | '\r' :: '\n' :: rest => '\n' :: unifyLineEnds rest
  | c :: rest => c :: unifyLineEnds rest
  | [] => []

/-- Read the text of a document on a host. -/
def parse (host : Host) (t : Text) : Except Fault Value :=
  let t := unifyLineEnds t
  (Draft.statements host.depths.toml (t.length + 1) {} t).map fun d => .map d.members

end CommentTasks.Toml
