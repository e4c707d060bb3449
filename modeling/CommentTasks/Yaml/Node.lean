import CommentTasks.Yaml.Fault
import CommentTasks.Yaml.Token

/-!
# The nodes of a YAML document

A document is a tree of scalars, sequences and mappings, each with a tag. A node may be named by an
anchor, and an alias stands for the node with that anchor. The tag of a scalar without one is found
from its text.
-/

namespace CommentTasks.Yaml

/-- A node of a document. -/
inductive Node
  | scalar (tag : Text) (anchor : Option Text) (text : Text)
  | sequence (tag : Text) (anchor : Option Text) (items : List Node)
  | mapping (tag : Text) (anchor : Option Text) (members : List (Node × Node))
  | alias (name : Text)
  deriving Repr

/-- The tag of this name in the common set. -/
def commonTag (name : String) : Text := "tag:yaml.org,2002:".toList ++ name.toList

namespace Node

/-- The anchor of a node. -/
def anchor? : Node → Option Text
  | .scalar _ anchor _ => anchor
  | .sequence _ anchor _ => anchor
  | .mapping _ anchor _ => anchor
  | .alias _ => none

/-- The tag of a node; an alias has none of its own. -/
def tag : Node → Text
  | .scalar tag _ _ => tag
  | .sequence tag _ _ => tag
  | .mapping tag _ _ => tag
  | .alias _ => []

mutual

/-- The number of nodes in a node. -/
def size : Node → Nat
  | .scalar _ _ _ => 1
  | .sequence _ _ items => sizeOfItems items + 1
  | .mapping _ _ members => sizeOfMembers members + 1
  | .alias _ => 1

/-- The number of nodes in the items of a sequence. -/
def sizeOfItems : List Node → Nat
  | [] => 0
  | n :: rest => n.size + sizeOfItems rest

/-- The number of nodes in the members of a mapping. -/
def sizeOfMembers : List (Node × Node) → Nat
  | [] => 0
  | (k, v) :: rest => k.size + v.size + sizeOfMembers rest

end

mutual

/-- The nodes with an anchor in a node. -/
def anchored : Node → List (Text × Node)
  | .scalar tag anchor t => anchor.toList.map fun name => (name, .scalar tag anchor t)
  | .sequence tag anchor items =>
    (anchor.toList.map fun name => (name, .sequence tag anchor items)) ++ anchoredInItems items
  | .mapping tag anchor members =>
    (anchor.toList.map fun name => (name, .mapping tag anchor members)) ++
      anchoredInMembers members
  | .alias _ => []

/-- The nodes with an anchor in the items of a sequence. -/
def anchoredInItems : List Node → List (Text × Node)
  | [] => []
  | n :: rest => n.anchored ++ anchoredInItems rest

/-- The nodes with an anchor in the members of a mapping. -/
def anchoredInMembers : List (Node × Node) → List (Text × Node)
  | [] => []
  | (k, v) :: rest => k.anchored ++ v.anchored ++ anchoredInMembers rest

end

end Node

/-! ### Tags of plain scalars -/

/-- The rest behind the longest row of characters of a kind, if the row has at least `least`. -/
def dropAtLeast (least : Nat) (p : Char → Bool) (t : Text) : Option Text :=
  let row := t.takeWhile p
  if row.length < least then none else some (t.drop row.length)

/-- The rest behind a sign, if there is one. -/
def dropSign (t : Text) : Text :=
  match t with
  | '+' :: rest => rest
  | '-' :: rest => rest
  | _ => t

/-- The character is a digit or a low line. -/
def isDigitOrLine (c : Char) : Bool := Text.isAsciiDigit c || c == '_'

/-- The rest behind an exponent with a sign, if there is one. -/
def dropExponent (t : Text) : Text :=
  match t with
  | e :: sign :: rest =>
    if (e = 'e' ∨ e = 'E') ∧ (sign = '+' ∨ sign = '-') then
      (dropAtLeast 1 Text.isAsciiDigit rest).getD t
    else t
  | _ => t

/-- The rest behind at least one further place of a number in base sixty, with its colon. -/
def dropSixties (t : Text) : Option Text :=
  let isSixty (place : Text) : Bool := match place with
    | [a] => Text.isAsciiDigit a
    | [a, b] => '0' ≤ a && a ≤ '5' && Text.isAsciiDigit b
    | _ => false
  match t with
  | ':' :: rest =>
    let places := (rest.takeWhile fun c => Text.isAsciiDigit c || c == ':').splitOn ':'
    if places.all isSixty then
      some (rest.dropWhile fun c => Text.isAsciiDigit c || c == ':')
    else none
  | _ => none

/-- The text is a floating-point number. -/
def isFloatText (t : Text) : Bool :=
  let afterSign := dropSign t
  let decimal : Bool := match dropAtLeast 1 Text.isAsciiDigit afterSign with
    | some _ =>
      match afterSign.dropWhile isDigitOrLine with
      | '.' :: rest => dropExponent (rest.dropWhile isDigitOrLine) = []
      | _ => false
    | none => false
  let fraction : Bool := match t with
    | '.' :: rest =>
      (dropAtLeast 1 Text.isAsciiDigit rest).isSome &&
        dropExponent (rest.dropWhile isDigitOrLine) = []
    | _ => false
  let sixties : Bool := match dropAtLeast 1 Text.isAsciiDigit afterSign with
    | some _ =>
      match dropSixties (afterSign.dropWhile isDigitOrLine) with
      | some ('.' :: rest) => rest.all isDigitOrLine
      | _ => false
    | none => false
  decimal || fraction || sixties ||
    [".inf", ".Inf", ".INF"].any (fun s => afterSign = s.toList) ||
    [".nan", ".NaN", ".NAN"].any (fun s => t = s.toList)

/-- The text is an integer. -/
def isIntegerText (t : Text) : Bool :=
  match dropSign t with
  | '0' :: 'b' :: rest => rest ≠ [] && rest.all fun c => c == '0' || c == '1' || c == '_'
  | '0' :: 'x' :: rest => rest ≠ [] && rest.all fun c => Text.isHexDigit c || c == '_'
  | '0' :: rest => rest.all fun c => ('0' ≤ c && c ≤ '7') || c == '_'
  | c :: rest =>
    '1' ≤ c && c ≤ '9' &&
      match rest.dropWhile isDigitOrLine with
      | [] => true
      | more => dropSixties more = some []
  | [] => false

/-- The row of digits at the front of a text, if it has between `least` and `most`. -/
def takeDigits (least most : Nat) (t : Text) : Option (Text × Text) :=
  let row := (t.take most).takeWhile Text.isAsciiDigit
  if row.length < least then none else some (row, t.drop row.length)

/-- The rest behind a character. -/
def dropChar (c : Char) : Text → Option Text
  | x :: rest => if x = c then some rest else none
  | [] => none

/-- The parts of a date with a time of day as they are written. -/
structure TimestampText where
  year : Text
  month : Text
  day : Text
  /-- Hour, minute, second and the digits behind the point. -/
  time : Option (Text × Text × Text × Text) := none
  /-- The offset from universal time: its sign, hours and minutes. -/
  zone : Option (Bool × Text × Text) := none

/-- The character is a space or a tab. -/
def isSpacing (c : Char) : Bool := c == ' ' || c == '\t'

/-- The offset from universal time, with nothing behind it. -/
def zoneText? (t : Text) : Option (Option (Bool × Text × Text)) :=
  match t.dropWhile isSpacing with
  | [] => if t = [] then some none else none
  | ['Z'] => some (some (false, [], []))
  | sign :: rest =>
    if sign = '+' ∨ sign = '-' then
      match takeDigits 1 2 rest with
      | some (hours, []) => some (some (sign == '-', hours, []))
      | some (hours, ':' :: rest) =>
        match takeDigits 2 2 rest with
        | some (minutes, []) => some (some (sign == '-', hours, minutes))
        | _ => none
      | _ => none
    else none

/-- The time of day and the offset, with nothing behind them. -/
def timeText? (t : Text) : Option ((Text × Text × Text × Text) × Option (Bool × Text × Text)) := do
  let rest ← match t with
    | x :: rest => if x = 'T' ∨ x = 't' then some rest else dropAtLeast 1 isSpacing t
    | [] => none
  let (hour, rest) ← takeDigits 1 2 rest
  let (minute, rest) ← takeDigits 2 2 (← dropChar ':' rest)
  let (second, rest) ← takeDigits 2 2 (← dropChar ':' rest)
  let (places, rest) : Text × Text := match rest with
    | '.' :: rest => rest.span Text.isAsciiDigit
    | rest => ([], rest)
  let zone ← zoneText? rest
  return ((hour, minute, second, places), zone)

/-- Read a date, or a date with a time of day. -/
def timestampText? (t : Text) : Option TimestampText := do
  let (year, rest) ← takeDigits 4 4 t
  let (month, rest) ← takeDigits 1 2 (← dropChar '-' rest)
  let (day, rest) ← takeDigits 1 2 (← dropChar '-' rest)
  if rest = [] then return { year, month, day }
  else
    let (time, zone) ← timeText? rest
    return { year, month, day, time := some time, zone }

/-- The text is a date: alone with two digits for month and day, or with a time of day. -/
def isTimestampText (t : Text) : Bool :=
  match timestampText? t with
  | some s => s.time.isSome || (s.month.length == 2 && s.day.length == 2)
  | none => false

/-- The words for truth values, with the values. -/
def truthWords : List (Text × Bool) :=
  [("yes", true), ("no", false), ("true", true), ("false", false), ("on", true),
    ("off", false)].map fun (word, b) => (word.toList, b)

/-- A word as it may be written: small, with a capital in front, or in capitals. -/
def spellings (word : Text) : List Text :=
  [word, (word.take 1).map Char.toUpper ++ word.drop 1, word.map Char.toUpper]

/-- The text without a line feed at its end. -/
def dropFinalLineFeed (t : Text) : Text := if t.getLast? = some '\n' then t.dropLast else t

/-- The tag of a scalar that has none, from its text. A line feed behind something else is of no
account. -/
def implicitTag (t : Text) : Text :=
  let t := if t = ['\n'] then t else dropFinalLineFeed t
  if truthWords.any fun (word, _) => (spellings word).contains t then commonTag "bool"
  else if isFloatText t then commonTag "float"
  else if isIntegerText t then commonTag "int"
  else if t = "<<".toList then commonTag "merge"
  else if t = [] ∨ t = ['~'] ∨ (spellings "null".toList).contains t then commonTag "null"
  else if isTimestampText t then commonTag "timestamp"
  else if t = ['='] then commonTag "value"
  else if t = ['!'] ∨ t = ['&'] ∨ t = ['*'] then commonTag "yaml"
  else commonTag "str"

end CommentTasks.Yaml
