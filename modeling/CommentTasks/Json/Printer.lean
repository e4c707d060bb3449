import CommentTasks.Json.Basic
import CommentTasks.Number.Shortest

/-!
# Writing JSON

Every item of an array and every member of an object has a line of its own, two columns further to
the right than what encloses it. A string keeps every character but the quote, the backslash and the
control characters below the space.
-/

namespace CommentTasks.Json

/-- The written form of one character of a string. -/
def escapeChar (c : Char) : Text :=
  if c = '"' then "\\\"".toList
  else if c = '\\' then "\\\\".toList
  else if c = '\n' then "\\n".toList
  else if c = '\r' then "\\r".toList
  else if c = '\t' then "\\t".toList
  else if c = '\x0c' then "\\f".toList
  else if c = '\x08' then "\\b".toList
  else if c.toNat < 0x20 then "\\u".toList ++ Text.hexPadded 4 c.toNat
  else [c]

/-- A string between quotes. -/
def printString (t : Text) : Text := '"' :: t.flatMap escapeChar ++ ['"']

/-- The text of a floating-point number. -/
def printFloat : Binary64 → Text
  | .nan => "NaN".toList
  | .infinite false => "Infinity".toList
  | .infinite true => "-Infinity".toList
  | x => x.toText

/-- The start of a new line at a depth. -/
def newLine (depth : Nat) : Text := '\n' :: List.replicate (2 * depth) ' '

mutual

/-- A document at a depth. -/
def printAt (depth : Nat) : Json Text → Text
  | .null => "null".toList
  | .bool true => "true".toList
  | .bool false => "false".toList
  | .int n => Text.ofInt n
  | .float x => printFloat x
  | .string t => printString t
  | .array [] => "[]".toList
  | .array (v :: vs) =>
    '[' :: newLine (depth + 1) ++ printAt (depth + 1) v ++ printItems (depth + 1) vs ++
      newLine depth ++ [']']
  | .object [] => "\x7b\x7d".toList
  | .object ((key, v) :: rest) =>
    '\x7b' :: newLine (depth + 1) ++ printString key ++ ": ".toList ++ printAt (depth + 1) v ++
      printMembers (depth + 1) rest ++ newLine depth ++ ['\x7d']

/-- The items of an array behind the first. -/
def printItems (depth : Nat) : List (Json Text) → Text
  | [] => []
  | v :: vs => ',' :: newLine depth ++ printAt depth v ++ printItems depth vs

/-- The members of an object behind the first. -/
def printMembers (depth : Nat) : List (Text × Json Text) → Text
  | [] => []
  | (key, v) :: rest =>
    ',' :: newLine depth ++ printString key ++ ": ".toList ++ printAt depth v ++
      printMembers depth rest

end

/-- The text of a document. -/
def print (v : Json Text) : Text := printAt 0 v

end CommentTasks.Json
