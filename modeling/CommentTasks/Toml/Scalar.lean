import CommentTasks.Calendar.Moment
import CommentTasks.Toml.Basic

/-!
# Numbers, dates and times of TOML documents

Each reader looks for the longest value of its kind at the front of a text.
-/

namespace CommentTasks.Toml

/-! ### Dates and times -/

/-- Two digits with a value between two bounds. -/
def twoDigits? (low high : Nat) : Text → Option (Nat × Text)
  | a :: b :: rest =>
    let n := Text.valueOf 10 [a, b]
    if Text.isAsciiDigit a ∧ Text.isAsciiDigit b ∧ low ≤ n ∧ n ≤ high then some (n, rest) else none
  | _ => none

/-- The text behind a character. -/
def behind? (c : Char) : Text → Option Text
  | x :: rest => if x = c then some rest else none
  | [] => none

/-- The microseconds of the part of a second behind a point, if there is one. Digits beyond the
sixth are passed over. -/
def fraction (t : Text) : Nat × Text :=
  match t with
  | '.' :: rest =>
    let digits := rest.takeWhile Text.isAsciiDigit
    if digits = [] then (0, t)
    else
      (Text.valueOf 10 ((digits ++ List.replicate 6 '0').take 6), rest.drop digits.length)
  | t => (0, t)

/-- A time of day. -/
def time? (t : Text) : Option (TimeOfDay × Text) := do
  let (hour, t) ← twoDigits? 0 23 t
  let (minute, t) ← twoDigits? 0 59 (← behind? ':' t)
  let (second, t) ← twoDigits? 0 59 (← behind? ':' t)
  let (microsecond, t) := fraction t
  return (⟨hour, minute, second, microsecond⟩, t)

/-- The seconds of an offset from universal time behind its sign. -/
def offsetSeconds? (t : Text) : Option (Nat × Text) := do
  let (hours, t) ← twoDigits? 0 23 t
  let (minutes, t) ← twoDigits? 0 59 (← behind? ':' t)
  return ((hours * 60 + minutes) * 60, t)

/-- The offset from universal time behind a time of day, if there is one. -/
def offset (t : Text) : Option Int × Text :=
  let signed? : Option (Int × Text) :=
    match t with
    | '+' :: rest => (offsetSeconds? rest).map fun (n, rest) => ((n : Int), rest)
    | '-' :: rest => (offsetSeconds? rest).map fun (n, rest) => (-(n : Int), rest)
    | 'Z' :: rest => some (0, rest)
    | 'z' :: rest => some (0, rest)
    | _ => none
  match signed? with
  | some (seconds, rest) => (some seconds, rest)
  | none => (none, t)

/-- The time of day behind a date and a mark between them. -/
def timeBehindDate? : Text → Option (TimeOfDay × Text)
  | c :: rest => if c = 'T' ∨ c = 't' ∨ c = ' ' then time? rest else none
  | [] => none

/-- The year, the month and the day of a date. The day may be too large for the month. -/
def dateNumbers? (t : Text) : Option ((Nat × Nat × Nat) × Text) := do
  let (century, t) ← twoDigits? 0 99 t
  let (year, t) ← twoDigits? 0 99 t
  let (month, t) ← twoDigits? 1 12 (← behind? '-' t)
  let (day, t) ← twoDigits? 1 31 (← behind? '-' t)
  return ((100 * century + year, month, day), t)

/-- A date, with a time of day and an offset if they follow. -/
def dateValue? (t : Text) : Option (Except Fault (Value × Text)) := do
  let ((year, month, day), t) ← dateNumbers? t
  match Date.make year month day with
  | .error _ => return malformed
  | .ok date =>
    match timeBehindDate? t with
    | none => return .ok (.date date, t)
    | some (time, t) =>
      let (offset, t) := offset t
      return .ok (.dateTime date time offset, t)

/-! ### Numbers -/

/-- The digits at the front of a text, without the single low lines between them. -/
def moreDigits (isDigit : Char → Bool) : Text → Text × Text
  | [] => ([], [])
  | c :: rest =>
    if isDigit c then
      let (digits, rest) := moreDigits isDigit rest
      (c :: digits, rest)
    else if c = '_' ∧ rest.head?.any isDigit then moreDigits isDigit rest
    else ([], c :: rest)

/-- The digits at the front of a text. A low line may stand between two digits. -/
def digitRun (isDigit : Char → Bool) (t : Text) : Text × Text :=
  if t.head?.any isDigit then moreDigits isDigit t else ([], t)

/-- An integer behind the letter of its base. -/
def basedInteger? (base : Nat) (isDigit : Char → Bool) (t : Text) : Option (Value × Text) :=
  match digitRun isDigit t with
  | ([], _) => none
  | (digits, rest) => some (.int (Text.valueOf base digits), rest)

/-- An integer with a base in front. -/
def namedBaseInteger? : Text → Option (Value × Text)
  | '0' :: 'x' :: rest => basedInteger? 16 Text.isHexDigit rest
  | '0' :: 'b' :: rest => basedInteger? 2 (fun c => c == '0' || c == '1') rest
  | '0' :: 'o' :: rest => basedInteger? 8 (fun c => '0' ≤ c && c ≤ '7') rest
  | _ => none

/-- The digits of the whole part of a decimal number: a zero alone, or digits that begin with
another. -/
def wholeDigits : Text → Text × Text
  | '0' :: rest => (['0'], rest)
  | t => digitRun Text.isAsciiDigit t

/-- The places behind a point, if there are any. -/
def placeDigits (t : Text) : Text × Text :=
  match t with
  | '.' :: rest =>
    match digitRun Text.isAsciiDigit rest with
    | ([], _) => ([], t)
    | found => found
  | t => ([], t)

/-- The exponent behind a letter, if there is one. -/
def exponent? : Text → Option (Int × Text)
  | c :: rest =>
    if c = 'e' ∨ c = 'E' then
      let (negative, rest) := Numeral.splitSign rest
      match digitRun Text.isAsciiDigit rest with
      | ([], _) => none
      | (digits, rest) =>
        let n : Int := Text.valueOf 10 digits
        some (if negative then -n else n, rest)
    else none
  | [] => none

/-- A decimal number. It is an integer unless it has places or an exponent. -/
def decimal? (t : Text) : Option (Except Fault (Value × Text)) :=
  let (negative, t) := Numeral.splitSign t
  let (whole, t) := wholeDigits t
  let (places, t) := placeDigits t
  if whole = [] then none
  else
    let float (e : Int) : Value :=
      .float (.ofDecimal negative (Text.valueOf 10 (whole ++ places)) (e - places.length))
    match exponent? t with
    | some (e, t) => some (.ok (float e, t))
    | none =>
      if places ≠ [] then some (.ok (float 0, t))
      else if Numeral.maxDigits < whole.length then
        some (.error (.integer (.tooManyDigits whole.length)))
      else
        let n : Int := Text.valueOf 10 whole
        some (.ok (.int (if negative then -n else n), t))

/-- A number that is not finite, by its name. -/
def namedNumber? (t : Text) : Option (Value × Text) :=
  let (negative, t) := Numeral.splitSign t
  match t with
  | 'i' :: 'n' :: 'f' :: rest => some (.float (.infinite negative), rest)
  | 'n' :: 'a' :: 'n' :: rest => some (.float .nan, rest)
  | _ => none

/-- A date, a time or a number. -/
def scalar (t : Text) : Except Fault (Value × Text) :=
  match dateValue? t with
  | some found => found
  | none =>
    match time? t with
    | some (time, rest) => .ok (.time time, rest)
    | none =>
      match namedBaseInteger? t with
      | some found => .ok found
      | none =>
        match decimal? t with
        | some found => found
        | none =>
          match namedNumber? t with
          | some found => .ok found
          | none => malformed

end CommentTasks.Toml
