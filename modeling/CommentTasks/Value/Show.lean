import CommentTasks.Host
import CommentTasks.Number.Shortest
import CommentTasks.Text.Printable

/-!
# Values as text

How a value is shown where a text is asked for: a text as itself, a date as its digits, and
everything else in a notation with brackets, in which texts are quoted. An integer with too many
digits is not shown, nor is a value in which more are nested than calls can be.
-/

namespace CommentTasks

/-- The most digits of an integer that is shown. -/
def maxShownDigits : Nat := 4300

/-- What is said about an integer with too many digits. -/
def tooManyDigitsToShow : Text :=
  ("Exceeds the limit (4300 digits) for integer string conversion; " ++
    "use sys.set_int_max_str_digits() to increase the limit").toList

/-- The digits of a date. -/
def Date.toText (d : Date) : Text :=
  Text.ofNatPadded 4 d.year ++ '-' :: Text.ofNatPadded 2 d.month ++
    '-' :: Text.ofNatPadded 2 d.day

/-- The digits of a time of day, with those of the microseconds if there are any. -/
def TimeOfDay.toText (t : TimeOfDay) : Text :=
  Text.ofNatPadded 2 t.hour ++ ':' :: Text.ofNatPadded 2 t.minute ++
    ':' :: Text.ofNatPadded 2 t.second ++
    (if t.microsecond = 0 then [] else '.' :: Text.ofNatPadded 6 t.microsecond)

/-- The digits of an offset from universal time. -/
def offsetText (seconds : Int) : Text :=
  let n := seconds.natAbs
  (if seconds < 0 then '-' else '+') :: Text.ofNatPadded 2 (n / 3600) ++
    ':' :: Text.ofNatPadded 2 (n / 60 % 60) ++
    (if n % 60 = 0 then [] else ':' :: Text.ofNatPadded 2 (n % 60))

namespace Value

/-- A name with arguments. -/
def call (name : String) (arguments : List Text) : Text :=
  name.toList ++ '(' :: Text.join ", " arguments ++ [')']

/-- The parts of a time of day that are shown: seconds and microseconds only if they say
something. -/
def timeArguments (t : TimeOfDay) : List Text :=
  [Text.ofNat t.hour, Text.ofNat t.minute] ++
    (if t.microsecond = 0 ∧ t.second = 0 then [] else [Text.ofNat t.second]) ++
    (if t.microsecond = 0 then [] else [Text.ofNat t.microsecond])

/-- The parts of a date. -/
def dateArguments (d : Date) : List Text :=
  [Text.ofNat d.year, Text.ofNat d.month, Text.ofNat d.day]

/-- A duration in days and the seconds that are left. -/
def durationNotation (seconds : Int) : Text :=
  let days := Int.fdiv seconds 86400
  let rest := Int.fmod seconds 86400
  call "datetime.timedelta" <|
    (if days = 0 then [] else ["days=".toList ++ Text.ofInt days]) ++
      (if rest = 0 then [] else ["seconds=".toList ++ Text.ofInt rest])

/-- An offset from universal time as the argument of a moment. -/
def zoneArgument (seconds : Int) : Text :=
  "tzinfo=".toList ++
    if seconds = 0 then "datetime.timezone.utc".toList
    else call "datetime.timezone" [durationNotation seconds]

/-- One byte of a quoted row of bytes. -/
def escapeByte (quote : Char) (b : UInt8) : Text :=
  let c := Char.ofNat b.toNat
  if c = quote ∨ c = '\\' then ['\\', c]
  else if c = '\t' then "\\t".toList
  else if c = '\n' then "\\n".toList
  else if c = '\r' then "\\r".toList
  else if b.toNat < 32 ∨ 127 ≤ b.toNat then "\\x".toList ++ Text.hexPadded 2 b.toNat
  else [c]

/-- A row of bytes between quote marks. -/
def quotedBytes (b : Bytes) : Text :=
  let quote := Text.quoteMark (b.map fun x => Char.ofNat x.toNat)
  'b' :: quote :: b.flatMap (escapeByte quote) ++ [quote]

/-- Why a value is not shown. -/
inductive Unshown
  /-- An integer has too many digits. -/
  | tooManyDigits
  /-- More values are nested than calls can be. -/
  | tooDeep
  deriving DecidableEq, Repr

/-- The wording of why a value is not shown. -/
def Unshown.message : Unshown → Text
  | .tooManyDigits => tooManyDigitsToShow
  | .tooDeep => tooDeepText

mutual

/-- The notation of a value. -/
def literal (room : Depth) (v : Value) : Except Unshown Text :=
  match room.down? with
  | none => .error .tooDeep
  | some room =>
    match v with
    | .null => .ok "None".toList
    | .bool true => .ok "True".toList
    | .bool false => .ok "False".toList
    | .int n =>
      if n.natAbs < Nat.pow 10 maxShownDigits then .ok (Text.ofInt n) else .error .tooManyDigits
    | .float x => .ok x.toText
    | .text t => .ok (Text.quoted t)
    | .torn codes => .ok (Wide.torn codes).quoted
    | .bytes b => .ok (quotedBytes b)
    | .date d => .ok (call "datetime.date" (dateArguments d))
    | .time t => .ok (call "datetime.time" (timeArguments t))
    | .dateTime d t offset =>
      .ok (call "datetime.datetime" (dateArguments d ++ timeArguments t ++
        offset.toList.map zoneArgument))
    | .list items =>
      (itemLiterals room items).map fun ts => '[' :: Text.join ", " ts ++ [']']
    | .pair a b => do
      let a ← literal room a
      let b ← literal room b
      return '(' :: a ++ ", ".toList ++ b ++ [')']
    | .set [] => .ok "set()".toList
    | .set items =>
      (itemLiterals room items).map fun ts => '\x7b' :: Text.join ", " ts ++ ['\x7d']
    | .map members =>
      (memberLiterals room members).map fun ts => '\x7b' :: Text.join ", " ts ++ ['\x7d']
    | .again false => .ok "[...]".toList
    | .again true => .ok "\x7b...\x7d".toList

/-- The notations of the items of a list. -/
def itemLiterals (room : Depth) : List Value → Except Unshown (List Text)
  | [] => .ok []
  | v :: vs => do
    let t ← literal room v
    let ts ← itemLiterals room vs
    return t :: ts

/-- The notations of the members of a map. -/
def memberLiterals (room : Depth) : List (Value × Value) → Except Unshown (List Text)
  | [] => .ok []
  | (k, v) :: rest => do
    let k ← literal room k
    let v ← literal room v
    let ts ← memberLiterals room rest
    return (k ++ ": ".toList ++ v) :: ts

end

/-- The value as a text. One that is torn stands in its notation. -/
def shown (room : Depth) : Value → Except Unshown Text
  | .text t => .ok t
  | .torn codes => .ok (Wide.torn codes).quoted
  | .date d => .ok d.toText
  | .time t => .ok t.toText
  | .dateTime d t offset =>
    .ok (d.toText ++ ' ' :: t.toText ++ (offset.map offsetText).getD [])
  | v => literal room v

end Value

end CommentTasks
