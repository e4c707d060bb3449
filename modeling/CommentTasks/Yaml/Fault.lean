import CommentTasks.Calendar.Date
import CommentTasks.Text.Numeral
import CommentTasks.Value.Show

/-!
# What may be wrong with a YAML document

Most faults are one: the text is no document, or a tag does not fit. The others concern the values
of scalars, and are told apart.
-/

namespace CommentTasks.Yaml

/-- Why a YAML document has no value. -/
inductive Fault
  /-- The text is no document, or a node does not fit its tag. -/
  | malformed
  /-- An escape names a number beyond the last character. -/
  | characterOutOfRange
  /-- An escape names a number that is far beyond the last character. -/
  | characterTooLarge
  | integer (e : Numeral.IntegerError)
  | float (t : Text)
  /-- A text is no truth value. -/
  | truth (t : Text)
  /-- A number has no digits at all. -/
  | noDigits
  /-- A text is no date. -/
  | timestamp
  | date (e : Date.Fault)
  | hour
  | minute
  | second
  /-- The offset from universal time is a day or more, in seconds. -/
  | offset (seconds : Int)
  /-- An integer is too large to be made a floating-point number. -/
  | integerTooLarge
  deriving DecidableEq, Repr

/-- The wording of a fault. What is said of a text that is no document depends on the place where
reading it fails, which is not kept; a mark stands for it. -/
def Fault.message : Fault → Text
  | .malformed => "<yaml>".toList
  | .characterOutOfRange => "chr() arg not in range(0x110000)".toList
  | .characterTooLarge => "Python int too large to convert to C int".toList
  | .integer e => e.message
  | .float t => "could not convert string to float: ".toList ++ Text.quoted t
  | .truth t => Text.quoted t
  | .noDigits => "string index out of range".toList
  | .timestamp => "'NoneType' object has no attribute 'groupdict'".toList
  | .date (.year n) => "year ".toList ++ Text.ofNat n ++ " is out of range".toList
  | .date .month => "month must be in 1..12".toList
  | .date .day => "day is out of range for month".toList
  | .hour => "hour must be in 0..23".toList
  | .minute => "minute must be in 0..59".toList
  | .second => "second must be in 0..59".toList
  | .offset seconds =>
    ("offset must be a timedelta strictly between -timedelta(hours=24) and " ++
      "timedelta(hours=24), not ").toList ++ Value.durationNotation seconds ++ ".".toList
  | .integerTooLarge => "int too large to convert to float".toList

end CommentTasks.Yaml
