import CommentTasks.Host
import CommentTasks.Json.Basic
import CommentTasks.Keyed

/-!
# Reading JSON

A document is one value between white space. Beyond the standard, `NaN`, `Infinity` and `-Infinity`
are numbers, and a repeated key takes its last value. What is wrong with a text is told together
with the place where it shows: line, column and index. A reader may refuse integers with more digits
than a limit says, and it is stopped where more brackets are open than calls can be nested.
-/

namespace CommentTasks.Json

/-- What may be wrong with a text that should be a document. -/
inductive Problem
  | byteOrderMark
  | expectingValue
  | expectingPropertyName
  | expectingColon
  | expectingComma
  | extraData
  | unterminatedString
  | invalidControlCharacter
  | invalidEscape
  | invalidUnicodeEscape
  deriving DecidableEq, Repr

/-- The wording of a problem. -/
def Problem.message : Problem → Text
  | .byteOrderMark => "Unexpected UTF-8 BOM (decode using utf-8-sig)".toList
  | .expectingValue => "Expecting value".toList
  | .expectingPropertyName => "Expecting property name enclosed in double quotes".toList
  | .expectingColon => "Expecting ':' delimiter".toList
  | .expectingComma => "Expecting ',' delimiter".toList
  | .extraData => "Extra data".toList
  | .unterminatedString => "Unterminated string starting at".toList
  | .invalidControlCharacter => "Invalid control character at".toList
  | .invalidEscape => "Invalid \\escape".toList
  | .invalidUnicodeEscape => "Invalid \\uXXXX escape".toList

/-- Why a text cannot be read. -/
inductive ParseError
  /-- The text is no document: the problem shows at a line, a column and an index. -/
  | malformed (problem : Problem) (line column index : Nat)
  /-- An integer has more digits than are read. -/
  | tooManyDigits (digits : Nat)
  /-- More brackets are open than calls can be nested. -/
  | tooDeep
  deriving DecidableEq, Repr

/-- The most digits that an integer may have. -/
def maxDigits : Nat := 4300

/-- The wording of an error. -/
def ParseError.message : ParseError → Text
  | .malformed problem line column index =>
    problem.message ++ ": line ".toList ++ Text.ofNat line ++ " column ".toList ++
      Text.ofNat column ++ " (char ".toList ++ Text.ofNat index ++ ")".toList
  | .tooManyDigits digits =>
    "Exceeds the limit (4300 digits) for integer string conversion: value has ".toList ++
      Text.ofNat digits ++ " digits; use sys.set_int_max_str_digits() to increase the limit".toList
  | .tooDeep => tooDeepText

/-- A failure inside a text. The place of a problem is told by the number of characters from there
to the end. -/
inductive Fault
  | malformed (problem : Problem) (left : Nat)
  | tooManyDigits (digits : Nat)
  | tooDeep
  deriving DecidableEq, Repr

/-- The place with the given index in a text. -/
def errorAt (t : Text) (problem : Problem) (index : Nat) : ParseError :=
  let before := t.take index
  .malformed problem (before.count '\n' + 1)
    ((before.reverse.takeWhile (· ≠ '\n')).length + 1) index

/-- A failure inside `t` as an error with its place. -/
def Fault.toError (t : Text) : Fault → ParseError
  | .malformed problem left => errorAt t problem (t.length - left)
  | .tooManyDigits digits => .tooManyDigits digits
  | .tooDeep => .tooDeep

/-- A problem that shows at the front of `t`. -/
def fault {α : Type} (problem : Problem) (t : Text) : Except Fault α :=
  .error (.malformed problem t.length)

/-- White space between the parts of a document. -/
def isSpace (c : Char) : Bool := c == ' ' || c == '\t' || c == '\n' || c == '\r'

/-- The text behind the white space at its front. -/
def skipSpace (t : Text) : Text := t.dropWhile isSpace

/-! ### Strings -/

/-- The number of four hexadecimal digits at the front of a text with more behind them. -/
def hexUnit? : Text → Option (Nat × Text)
  | a :: b :: c :: d :: e :: rest =>
    if Text.isHexDigit a && Text.isHexDigit b && Text.isHexDigit c && Text.isHexDigit d then
      some (Text.valueOf 16 [a, b, c, d], e :: rest)
    else none
  | _ => none

/-- The unit is the first half of a surrogate pair. -/
def isHighSurrogate (n : Nat) : Bool := 0xD800 ≤ n && n ≤ 0xDBFF

/-- The unit is the second half of a surrogate pair. -/
def isLowSurrogate (n : Nat) : Bool := 0xDC00 ≤ n && n ≤ 0xDFFF

/-- The code of a numeric escape, from behind its `u`. Two escapes may make one code. -/
def numericEscape (t : Text) : Except Fault (Nat × Text) :=
  match hexUnit? t with
  | none => .error (.malformed .invalidUnicodeEscape (t.length + 1))
  | some (high, rest) =>
    match rest with
    | '\\' :: 'u' :: second =>
      if isHighSurrogate high && 4 < second.length then
        match hexUnit? second with
        | none => .error (.malformed .invalidUnicodeEscape (second.length + 1))
        | some (low, rest') =>
          if isLowSurrogate low then
            .ok (0x10000 + (high - 0xD800) * 0x400 + (low - 0xDC00), rest')
          else .ok (high, rest)
      else .ok (high, rest)
    | _ => .ok (high, rest)

/-- The character of an escape by a letter. -/
def letterEscape? : Char → Option Char
  | '"' => some '"'
  | '\\' => some '\\'
  | '/' => some '/'
  | 'b' => some '\x08'
  | 'f' => some '\x0c'
  | 'n' => some '\n'
  | 'r' => some '\r'
  | 't' => some '\t'
  | _ => none

/-- The codes of the rest of a string, from behind its opening quote or any later character. The
opening quote is `quote` characters before the end of the text. Every turn of `fuel` reads one
character. -/
def readStringBody (quote : Nat) : Nat → Text → Except Fault (List Nat × Text)
  | 0, _ => .error (.malformed .unterminatedString quote)
  | _ + 1, [] => .error (.malformed .unterminatedString quote)
  | fuel + 1, c :: r =>
    if c = '"' then .ok ([], r)
    else if c = '\\' then
      match r with
      | [] => .error (.malformed .unterminatedString quote)
      | 'u' :: r' => do
        let (n, rest) ← numericEscape r'
        let (ns, rest) ← readStringBody quote fuel rest
        return (n :: ns, rest)
      | e :: r' =>
        match letterEscape? e with
        | some x => do
          let (ns, rest) ← readStringBody quote fuel r'
          return (x.toNat :: ns, rest)
        | none => fault .invalidEscape (c :: r)
    else if c.toNat < 0x20 then fault .invalidControlCharacter (c :: r)
    else do
      let (ns, rest) ← readStringBody quote fuel r
      return (c.toNat :: ns, rest)

/-- A string, from behind its opening quote. -/
def readString (t : Text) : Except Fault (Wide × Text) :=
  (readStringBody (t.length + 1) (t.length + 1) t).map fun (codes, rest) => (.ofCodes codes, rest)

/-! ### Numbers -/

/-- The fraction at the front of a text: its digits, which are none if there is no fraction. -/
def fraction (t : Text) : Text × Text :=
  match t with
  | '.' :: rest =>
    match rest.span Text.isAsciiDigit with
    | ([], _) => ([], t)
    | (digits, rest) => (digits, rest)
  | _ => ([], t)

/-- The exponent at the front of a text. -/
def exponent? (t : Text) : Option (Int × Text) :=
  match t with
  | e :: rest =>
    if e = 'e' ∨ e = 'E' then
      let (negative, unsigned) : Bool × Text :=
        match rest with
        | '-' :: r => (true, r)
        | '+' :: r => (false, r)
        | r => (false, r)
      match unsigned.span Text.isAsciiDigit with
      | ([], _) => none
      | (digits, rest) =>
        let n : Int := Text.valueOf 10 digits
        some (if negative then -n else n, rest)
    else none
  | [] => none

/-- The digits before the point: a zero alone, or digits that do not begin with a zero. -/
def wholeDigits (t : Text) : Text × Text :=
  match t with
  | '0' :: rest => (['0'], rest)
  | _ => t.span Text.isAsciiDigit

/-- A number at the front of a text. The limit is the most digits that an integer may have. -/
def readNumber (limit : Option Nat) (t : Text) : Except Fault (Json Wide × Text) :=
  let (negative, unsigned) : Bool × Text :=
    match t with
    | '-' :: r => (true, r)
    | r => (false, r)
  match wholeDigits unsigned with
  | ([], _) => fault .expectingValue t
  | (whole, rest) =>
    let (places, rest) := fraction rest
    match places, exponent? rest with
    | [], none =>
      if limit.any (· < whole.length) then .error (.tooManyDigits whole.length)
      else
        let n : Int := Text.valueOf 10 whole
        .ok (.int (if negative then -n else n), rest)
    | _, none =>
      .ok (.float (.ofDecimal negative (Text.valueOf 10 (whole ++ places)) (-places.length)), rest)
    | _, some (e, rest) =>
      .ok (.float (.ofDecimal negative (Text.valueOf 10 (whole ++ places)) (e - places.length)),
        rest)

/-! ### Values -/

/-- The names of values, with their values. -/
def names : List (Text × Json Wide) :=
  [("null".toList, .null), ("true".toList, .bool true), ("false".toList, .bool false),
   ("NaN".toList, .float .nan), ("Infinity".toList, .float (.infinite false)),
   ("-Infinity".toList, .float (.infinite true))]

/-- A named value or a number at the front of a text. -/
def readScalar (limit : Option Nat) (t : Text) : Except Fault (Json Wide × Text) :=
  match names.findSome? fun (name, v) => (name.isPrefixOf? t).map fun rest => (v, rest) with
  | some found => .ok found
  | none => readNumber limit t

section

variable (limit : Option Nat)

mutual

/-- A value at the front of a text. Every turn of `fuel` goes with a character that is read, and
`room` is left for brackets. -/
def readValue : Nat → Depth → Text → Except Fault (Json Wide × Text)
  | 0, _, t => fault .expectingValue t
  | fuel + 1, room, t =>
    match t with
    | '"' :: rest => do
      let (s, rest) ← readString rest
      return (.string s, rest)
    | '[' :: rest =>
      match room.down? with
      | none => .error .tooDeep
      | some room =>
        match skipSpace rest with
        | ']' :: rest => .ok (.array [], rest)
        | rest => do
          let (items, rest) ← readElements fuel room rest
          return (.array items, rest)
    | '\x7b' :: rest =>
      match room.down? with
      | none => .error .tooDeep
      | some room =>
        match skipSpace rest with
        | '\x7d' :: rest => .ok (.object [], rest)
        | rest => do
          let (members, rest) ← readMembers fuel room [] rest
          return (.object members, rest)
    | _ => readScalar limit t

/-- The items of an array from its next item on, up to the closing bracket. -/
def readElements : Nat → Depth → Text → Except Fault (List (Json Wide) × Text)
  | 0, _, t => fault .expectingValue t
  | fuel + 1, room, t => do
    let (v, rest) ← readValue fuel room t
    match skipSpace rest with
    | ']' :: rest => return ([v], rest)
    | ',' :: rest => do
      let (vs, rest) ← readElements fuel room (skipSpace rest)
      return (v :: vs, rest)
    | rest => fault .expectingComma rest

/-- The members of an object from its next key on, up to the closing brace, after `before`. -/
def readMembers : Nat → Depth → List (Wide × Json Wide) → Text →
    Except Fault (List (Wide × Json Wide) × Text)
  | 0, _, _, t => fault .expectingPropertyName t
  | fuel + 1, room, before, t =>
    match t with
    | '"' :: rest => do
      let (key, rest) ← readString rest
      match skipSpace rest with
      | ':' :: rest => do
        let (v, rest) ← readValue fuel room (skipSpace rest)
        let before := Keyed.put key v before
        match skipSpace rest with
        | '\x7d' :: rest => return (before, rest)
        | ',' :: rest => readMembers fuel room before (skipSpace rest)
        | rest => fault .expectingComma rest
      | rest => fault .expectingColon rest
    | _ => fault .expectingPropertyName t

end

/-- One value between white space, with nothing behind it. -/
def readDocument (room : Depth) (t : Text) : Except Fault (Json Wide) := do
  let (v, rest) ← readValue limit (2 * t.length + 2) room (skipSpace t)
  match skipSpace rest with
  | [] => return v
  | rest => fault .extraData rest

/-- Read a document whose integers have no more digits than the limit says. -/
def parseWithin (t : Text) (room : Depth := none) : Except ParseError (Json Wide) :=
  match t with
  | '\ufeff' :: _ => .error (errorAt t .byteOrderMark 0)
  | _ => (readDocument limit room t).mapError (Fault.toError t)

end

/-- Read a document on a host. -/
def parse (host : Host) (t : Text) : Except ParseError (Json Wide) :=
  parseWithin (some maxDigits) t host.depths.json

end CommentTasks.Json
