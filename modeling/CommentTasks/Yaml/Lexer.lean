import CommentTasks.Yaml.Scalar
import CommentTasks.Yaml.Token

/-!
# The tokens of a YAML text

Reading a text from its front, with what decides on the meaning of the next character: how deep the
place is inside brackets, how far the enclosing block collections are indented, and whether a key
may begin here. A key without a mark is known only by the colon behind it, so the places where one
may have begun are kept, and its token is put in front of it later.
-/

namespace CommentTasks.Yaml

/-- A place where a key without a mark may have begun. -/
structure KeyPlace where
  /-- The depth inside brackets. -/
  level : Nat
  /-- The number of tokens before the key. -/
  position : Nat
  /-- A block mapping goes on here, so this has to be a key. -/
  required : Bool
  index : Nat
  line : Nat
  column : Nat

/-- The state of reading. -/
structure Lexer where
  cursor : Cursor
  /-- The depth inside brackets. -/
  level : Nat
  /-- The column of the innermost block collection, or -1. -/
  indent : Int
  /-- The columns of the block collections around it. -/
  outer : List Int
  /-- A key may begin at the cursor. -/
  keyAllowed : Bool
  /-- Where keys may have begun. -/
  keyPlaces : List KeyPlace
  /-- The tokens so far, the last one first. -/
  tokens : List Token

namespace Lexer

/-- The state at the front of a text. -/
def start (t : Text) : Lexer := ⟨Cursor.start t, 0, -1, [], true, [], []⟩

/-- The cursor is inside brackets. -/
def inFlow (l : Lexer) : Bool := l.level ≠ 0

/-- Add a token. -/
def emit (l : Lexer) (token : Token) : Lexer := { l with tokens := token :: l.tokens }

/-- Add a token of `n` characters. -/
def emitSkip (l : Lexer) (token : Token) (n : Nat) : Lexer :=
  { l.emit token with cursor := l.cursor.skip n }

/-- Put a token behind the first `position` tokens. -/
def insertAt (l : Lexer) (position : Nat) (token : Token) : Lexer :=
  let after := l.tokens.length - position
  { l with tokens := l.tokens.take after ++ token :: l.tokens.drop after }

/-! ### Places of keys -/

/-- Forget the places from which no key can reach the cursor: a key stands on one line and has at
most 1024 characters. -/
def dropStale (l : Lexer) : Except Fault Lexer :=
  let isStale (k : KeyPlace) : Bool :=
    k.line ≠ l.cursor.line || 1024 < l.cursor.index - k.index
  if l.keyPlaces.any fun k => isStale k && k.required then malformed
  else .ok { l with keyPlaces := l.keyPlaces.filter fun k => !isStale k }

/-- Forget the place of this depth. -/
def dropPlace (l : Lexer) : Except Fault Lexer :=
  if l.keyPlaces.any fun k => k.level = l.level && k.required then malformed
  else .ok { l with keyPlaces := l.keyPlaces.filter fun k => k.level ≠ l.level }

/-- Keep the cursor as a place of a key, if one may begin here. -/
def savePlace (l : Lexer) : Except Fault Lexer :=
  if l.keyAllowed then do
    let required := !l.inFlow && l.indent == (l.cursor.column : Int)
    let place : KeyPlace :=
      ⟨l.level, l.tokens.length, required, l.cursor.index, l.cursor.line, l.cursor.column⟩
    let l ← l.dropPlace
    return { l with keyPlaces := place :: l.keyPlaces }
  else .ok l

/-! ### Indentation -/

/-- Close the block collections that are indented further than `column`. -/
def closeBlocks (column : Int) (indent : Int) : List Int → List Token → Int × List Int × List Token
  | [], tokens => if indent > column then (-1, [], .blockEnd :: tokens) else (indent, [], tokens)
  | around :: outer, tokens =>
    if indent > column then closeBlocks column around outer (.blockEnd :: tokens)
    else (indent, around :: outer, tokens)

/-- Close the block collections that are indented further than `column`, unless the cursor is inside
brackets. -/
def unwind (l : Lexer) (column : Int) : Lexer :=
  if l.inFlow then l
  else
    let (indent, outer, tokens) := closeBlocks column l.indent l.outer l.tokens
    { l with indent, outer, tokens }

/-- Open a block collection at a column, behind the first `position` tokens, unless one is open
there. -/
def openBlock (l : Lexer) (column : Nat) (position : Nat) (token : Token) : Lexer :=
  if l.indent < (column : Int) then
    { l.insertAt position token with indent := column, outer := l.indent :: l.outer }
  else l

/-! ### Single tokens -/

/-- Go to the next token, over spaces, comments and line breaks. A new line allows a key outside
brackets. -/
def toNextToken : Nat → Lexer → Lexer
  | 0, l => l
  | fuel + 1, l =>
    let c := l.cursor.skipSpaces.skipComment
    match c.lineBreak with
    | ([], _) => { l with cursor := c }
    | (_, c) => toNextToken fuel { l with cursor := c, keyAllowed := l.keyAllowed || !l.inFlow }

/-- A directive. -/
def directive (c : Cursor) : Except Fault (Directive × Cursor) := do
  let c := c.next
  let name := c.run isNameChar
  let c := c.skip name.length
  if name = [] ∨ !endsLineOrSpace c.peek then malformed
  else if name = "YAML".toList then do
    let c := c.skipSpaces
    let major := c.run Text.isAsciiDigit
    let c := c.skip major.length
    if major = [] ∨ c.peek ≠ some '.' then malformed
    else
      let c := c.next
      let minor := c.run Text.isAsciiDigit
      let c := c.skip minor.length
      if minor = [] ∨ !endsLineOrSpace c.peek then malformed
      else return (.version (Text.valueOf 10 major), c)
  else if name = "TAG".toList then do
    let (handle, c) ← tagHandle c.skipSpaces
    if c.peek ≠ some ' ' then malformed
    else do
      let (suffix, c) ← tagSuffix c.skipSpaces
      if endsLineOrSpace c.peek then return (.tagHandle handle suffix, c) else malformed
  else return (.other, c.skipRun (!isBreak ·))

/-- A directive with the rest of its line. -/
def fetchDirective (l : Lexer) : Except Fault Lexer := do
  let l ← (l.unwind (-1)).dropPlace
  let (d, c) ← directive l.cursor
  let c ← restOfLine c
  return { l.emit (.directive d) with cursor := c, keyAllowed := false }

/-- The mark that begins or ends a document. -/
def fetchMarker (l : Lexer) (token : Token) : Except Fault Lexer := do
  let l ← (l.unwind (-1)).dropPlace
  return { l.emitSkip token 3 with keyAllowed := false }

/-- An opening bracket. -/
def fetchOpening (l : Lexer) (token : Token) : Except Fault Lexer := do
  let l ← l.savePlace
  return { l.emitSkip token 1 with level := l.level + 1, keyAllowed := true }

/-- A closing bracket. -/
def fetchClosing (l : Lexer) (token : Token) : Except Fault Lexer := do
  let l ← l.dropPlace
  return { l.emitSkip token 1 with level := l.level - 1, keyAllowed := false }

/-- A comma between the entries of a flow collection. -/
def fetchFlowEntry (l : Lexer) : Except Fault Lexer := do
  let l ← l.dropPlace
  return { l.emitSkip .flowEntry 1 with keyAllowed := true }

/-- The mark of an entry of a block sequence. -/
def fetchBlockEntry (l : Lexer) : Except Fault Lexer := do
  if !l.inFlow && !l.keyAllowed then malformed
  else do
    let l := if l.inFlow then l else
      l.openBlock l.cursor.column l.tokens.length .blockSequenceStart
    let l ← l.dropPlace
    return { l.emitSkip .blockEntry 1 with keyAllowed := true }

/-- The mark of a key. -/
def fetchKey (l : Lexer) : Except Fault Lexer := do
  if !l.inFlow && !l.keyAllowed then malformed
  else do
    let l := if l.inFlow then l else
      l.openBlock l.cursor.column l.tokens.length .blockMappingStart
    let l ← l.dropPlace
    return { l.emitSkip .key 1 with keyAllowed := !l.inFlow }

/-- The mark of a value, behind a key with or without a mark. -/
def fetchValue (l : Lexer) : Except Fault Lexer :=
  match l.keyPlaces.find? fun k => k.level = l.level with
  | some k =>
    let l := { l with keyPlaces := l.keyPlaces.filter fun k => k.level ≠ l.level }
    let l := l.insertAt k.position .key
    let l := if l.inFlow then l else l.openBlock k.column k.position .blockMappingStart
    .ok { l.emitSkip .value 1 with keyAllowed := false }
  | none =>
    if !l.inFlow && !l.keyAllowed then malformed
    else do
      let l := if l.inFlow then l else
        l.openBlock l.cursor.column l.tokens.length .blockMappingStart
      let l ← l.dropPlace
      return { l.emitSkip .value 1 with keyAllowed := !l.inFlow }

/-- A token that may begin a key, and behind which none may begin. -/
def fetchNode (l : Lexer) (read : Cursor → Except Fault (Token × Cursor)) : Except Fault Lexer := do
  let l ← l.savePlace
  let (token, c) ← read l.cursor
  return { l.emit token with cursor := c, keyAllowed := false }

/-- A plain scalar. A key may begin behind it if it ends with its line. -/
def fetchPlain (l : Lexer) : Except Fault Lexer := do
  let l ← l.savePlace
  let (t, ended, c) := plainScalar l.inFlow l.indent l.cursor
  return { l.emit (.scalar t true) with cursor := c, keyAllowed := ended }

/-- A block scalar. -/
def fetchBlockScalar (l : Lexer) (folded : Bool) : Except Fault Lexer := do
  let l ← l.dropPlace
  let (t, c) ← blockScalar folded l.indent l.cursor
  return { l.emit (.scalar t false) with cursor := c, keyAllowed := true }

/-- The end of the text. -/
def fetchEnd (l : Lexer) : Except Fault Lexer := do
  let l ← (l.unwind (-1)).dropPlace
  return { l.emit .streamEnd with keyAllowed := false, keyPlaces := [] }

/-- A plain scalar may begin with the character, given the one behind it. -/
def beginsPlain (l : Lexer) (x : Char) (second : Option Char) : Bool :=
  !(endsToken (some x) || "-?:,[]\x7b\x7d#&*!|>\x27\"%@\x60".toList.contains x) ||
    (!endsToken second && (x == '-' || (!l.inFlow && (x == '?' || x == ':'))))

/-- The token that begins with the character `x` at the cursor. -/
def fetchAt (l : Lexer) (x : Char) : Except Fault Lexer :=
  let second := l.cursor.peekAt 1
  let named (make : Text → Token) (c : Cursor) : Except Fault (Token × Cursor) :=
    (anchorName c).map fun (name, c) => (make name, c)
  if x == '%' && l.cursor.column == 0 then l.fetchDirective
  else if l.cursor.column == 0 && l.cursor.atMarker '-' then l.fetchMarker .documentStart
  else if l.cursor.column == 0 && l.cursor.atMarker '.' then l.fetchMarker .documentEnd
  else if x == '[' then l.fetchOpening .flowSequenceStart
  else if x == '\x7b' then l.fetchOpening .flowMappingStart
  else if x == ']' then l.fetchClosing .flowSequenceEnd
  else if x == '\x7d' then l.fetchClosing .flowMappingEnd
  else if x == ',' then l.fetchFlowEntry
  else if x == '-' && endsToken second then l.fetchBlockEntry
  else if x == '?' && (l.inFlow || endsToken second) then l.fetchKey
  else if x == ':' && (l.inFlow || endsToken second) then l.fetchValue
  else if x == '*' then l.fetchNode (named .alias)
  else if x == '&' then l.fetchNode (named .anchor)
  else if x == '!' then
    l.fetchNode fun c => (tag c).map fun ((handle, suffix), c) => (.tag handle suffix, c)
  else if x == '|' && !l.inFlow then l.fetchBlockScalar false
  else if x == '>' && !l.inFlow then l.fetchBlockScalar true
  else if x == '\x27' then
    l.fetchNode fun c => (quotedScalar false c).map fun (t, c) => (.scalar t false, c)
  else if x == '"' then
    l.fetchNode fun c => (quotedScalar true c).map fun (t, c) => (.scalar t false, c)
  else if l.beginsPlain x second then l.fetchPlain
  else malformed

/-- The next token, with those that the indentation asks for; at the end of the text nothing is left
to read. -/
def fetch (l : Lexer) : Except Fault (Lexer × Bool) := do
  let l := toNextToken (l.cursor.rest.length + 1) l
  let l ← l.dropStale
  let l := l.unwind l.cursor.column
  match l.cursor.peek with
  | none => do
    let l ← l.fetchEnd
    return (l, true)
  | some x => do
    let l ← l.fetchAt x
    return (l, false)

/-- The tokens up to the end of the text or to the first fault. Every turn reads a character. -/
def run : Nat → Lexer → List Token × Option Fault
  | 0, l => (l.tokens.reverse, some .malformed)
  | fuel + 1, l =>
    match l.fetch with
    | .ok (l, true) => (l.tokens.reverse, none)
    | .ok (l, false) => run fuel l
    | .error e => (l.tokens.reverse, some e)

end Lexer

/-- The character may stand in a YAML text. -/
def isYamlChar (c : Char) : Bool :=
  let n := c.toNat
  n == 9 || n == 10 || n == 13 || (0x20 ≤ n && n ≤ 0x7E) || n == 0x85 ||
    (0xA0 ≤ n && n ≤ 0xD7FF) || (0xE000 ≤ n && n ≤ 0xFFFD) || 0x10000 ≤ n

/-- The tokens of a text, up to the first fault. A byte order mark at the front is passed over. -/
def tokensOf (t : Text) : List Token × Option Fault :=
  if t.all isYamlChar then
    let l := Lexer.start t
    let l := if l.cursor.peek = some '\ufeff' then { l with cursor := l.cursor.next } else l
    l.run (t.length + 1)
  else ([], some .malformed)

end CommentTasks.Yaml
