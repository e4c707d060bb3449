import CommentTasks.Number.Binary64
import CommentTasks.Text.Blank
import CommentTasks.Text.Digit
import CommentTasks.Text.Printable

/-!
# Numbers in texts

How an integer or a floating-point number is read from a text that holds nothing else: with white
space at the ends, a sign, digits of any script, and single low lines between the digits of an
integer.
-/

namespace CommentTasks.Numeral

/-- The characters that may stand at the ends of a number. -/
def isPadding (c : Char) : Bool := c == ' ' || ('\t' ≤ c && c ≤ '\r')

/-- The text in ASCII: a blank as a space, a digit of any script as a digit, and a mark for every
other character. A text that is in ASCII is left as it is. -/
def toAscii (t : Text) : Text :=
  if t.all fun c => c.toNat < 128 then t
  else
    t.map fun c =>
      if c.toNat < 127 then c
      else if Text.isBlank c then ' '
      else
        match Text.decimalDigit? c with
        | some d => Char.ofNat (48 + d)
        | none => '?'

/-- The text without padding at its end. -/
def dropPaddingRight (t : Text) : Text := (t.reverse.dropWhile isPadding).reverse

/-- The sign at the front of a text, and the rest. -/
def splitSign : Text → Bool × Text
  | '-' :: rest => (true, rest)
  | '+' :: rest => (false, rest)
  | rest => (false, rest)

/-- Why a text is no integer. -/
inductive IntegerError
  | notANumber (base : Nat) (t : Text)
  | tooManyDigits (digits : Nat)
  deriving DecidableEq, Repr

/-- The most digits of a decimal integer. -/
def maxDigits : Nat := 4300

/-- The wording of an error. -/
def IntegerError.message : IntegerError → Text
  | .notANumber base t =>
    "invalid literal for int() with base ".toList ++ Text.ofNat base ++ ": ".toList ++
      (Text.quoted t).take 200
  | .tooManyDigits digits =>
    "Exceeds the limit (4300 digits) for integer string conversion: value has ".toList ++
      Text.ofNat digits ++ " digits; use sys.set_int_max_str_digits() to increase the limit".toList

/-- The letter that names a base behind a zero. -/
def baseLetter? : Nat → Option Char
  | 2 => some 'b'
  | 8 => some 'o'
  | 16 => some 'x'
  | _ => none

/-- The text behind the name of its base, and behind one low line that may follow it. -/
def dropBaseName (base : Nat) (t : Text) : Text :=
  match t with
  | '0' :: c :: rest =>
    if baseLetter? base = some c.toLower then
      match rest with
      | '_' :: rest => rest
      | rest => rest
    else t
  | _ => t

/-- The character is a digit of the base. -/
def isDigitOf (base : Nat) (c : Char) : Bool :=
  match Text.digitValue? c with
  | some d => d < base
  | none => false

/-- The pieces between low lines are all there: no low line stands at an end or beside another. -/
def wellSpaced (digits : Text) : Bool := (digits.splitOn '_').all (· ≠ [])

/-- Read an integer. -/
def readInteger (base : Nat) (t : Text) : Except IntegerError Int :=
  let (negative, unsigned) := splitSign ((toAscii t).dropWhile isPadding)
  let (digits, rest) := (dropBaseName base unsigned).span fun c => isDigitOf base c || c == '_'
  let count := digits.countP (· ≠ '_')
  if !wellSpaced digits then .error (.notANumber base t)
  else if baseLetter? base = none ∧ maxDigits < count then .error (.tooManyDigits count)
  else if dropPaddingRight rest ≠ [] then .error (.notANumber base t)
  else
    let n : Int := Text.valueOf base (digits.filter (· ≠ '_'))
    .ok (if negative then -n else n)

/-- The exponent behind a number, with nothing left behind it. No exponent counts as zero. -/
def exponentOf? : Text → Option Int
  | [] => some 0
  | e :: rest =>
    if e = 'e' ∨ e = 'E' then
      let (negative, digits) := splitSign rest
      if digits ≠ [] ∧ digits.all Text.isAsciiDigit then
        let n : Int := Text.valueOf 10 digits
        some (if negative then -n else n)
      else none
    else none

/-- The names of numbers that are not finite. -/
def namedFloats : List (Text × Binary64) :=
  [("inf".toList, .infinite false), ("infinity".toList, .infinite false), ("nan".toList, .nan)]

/-- Read a floating-point number. -/
def readFloat? (t : Text) : Option Binary64 :=
  let (negative, unsigned) :=
    splitSign (dropPaddingRight ((toAscii t).dropWhile isPadding))
  match namedFloats.lookup (unsigned.map Char.toLower) with
  | some x => some (if negative then x.neg else x)
  | none =>
    let (whole, rest) := unsigned.span Text.isAsciiDigit
    let (places, rest) : Text × Text :=
      match rest with
      | '.' :: r => r.span Text.isAsciiDigit
      | r => ([], r)
    if whole = [] ∧ places = [] then none
    else
      (exponentOf? rest).map fun e =>
        .ofDecimal negative (Text.valueOf 10 (whole ++ places)) (e - places.length)

end CommentTasks.Numeral
