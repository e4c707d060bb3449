import CommentTasks.Calendar.Date
import CommentTasks.Text.Basic

/-!
# Moments

A moment is a point of time, told by the microseconds since the beginning of year 1 in universal
time. Its stamp is the text of its date and time of day to the millisecond.
-/

namespace CommentTasks

/-- A time of day. -/
structure TimeOfDay where
  hour : Nat
  minute : Nat
  second : Nat
  microsecond : Nat
  deriving DecidableEq, Repr

namespace TimeOfDay

/-- The microseconds since midnight. -/
def microseconds (t : TimeOfDay) : Nat :=
  ((t.hour * 60 + t.minute) * 60 + t.second) * 1000000 + t.microsecond

/-- The time of day so many microseconds after midnight. -/
def ofMicroseconds (n : Nat) : TimeOfDay :=
  ⟨n / 3600000000, n / 60000000 % 60, n / 1000000 % 60, n % 1000000⟩

/-- The microseconds of a day. -/
def perDay : Nat := 86400000000

end TimeOfDay

/-- A point of time. -/
structure Moment where
  /-- The microseconds since the beginning of year 1 in universal time. -/
  microseconds : Int
  deriving DecidableEq, Repr

namespace Moment

/-- The moment at which clocks that are `offset` seconds ahead of universal time show a date and a
time of day. -/
def ofCivil (date : Date) (time : TimeOfDay) (offset : Int) : Moment :=
  ⟨(date.number * TimeOfDay.perDay + time.microseconds : Nat) - offset * 1000000⟩

/-- The moment so many microseconds later. -/
def later (m : Moment) (microseconds : Int) : Moment := ⟨m.microseconds + microseconds⟩

/-- The moment lies in one of the years of the calendar. -/
def InCalendar (m : Moment) : Prop :=
  0 ≤ m.microseconds ∧ m.microseconds < (Date.count * TimeOfDay.perDay : Nat)

instance (m : Moment) : Decidable m.InCalendar := inferInstanceAs (Decidable (_ ∧ _))

/-- The date and the time of day of a moment in universal time. -/
def civil (m : Moment) : Date × TimeOfDay :=
  let n := m.microseconds.toNat
  (Date.ofNumber (n / TimeOfDay.perDay), TimeOfDay.ofMicroseconds (n % TimeOfDay.perDay))

/-- The text of a date and a time of day to the millisecond. -/
def civilText (date : Date) (time : TimeOfDay) : Text :=
  Text.ofNatPadded 4 date.year ++ '-' :: Text.ofNatPadded 2 date.month ++
    '-' :: Text.ofNatPadded 2 date.day ++ 'T' :: Text.ofNatPadded 2 time.hour ++
    ':' :: Text.ofNatPadded 2 time.minute ++ ':' :: Text.ofNatPadded 2 time.second ++
    '.' :: Text.ofNatPadded 3 (time.microsecond / 1000) ++ ['Z']

/-- The stamp of a moment: its date and time of day in universal time. A moment outside the years of
the calendar has none. -/
def stamp? (m : Moment) : Option Text :=
  if m.InCalendar then
    let (date, time) := m.civil
    some (civilText date time)
  else none

/-- The year of a moment in universal time, also before and behind the years of the calendar, which
repeats itself every 400 years. -/
def year (m : Moment) : Int :=
  let day := m.microseconds / TimeOfDay.perDay
  400 * (day / 146097) + (Date.ofNumber (day % 146097).toNat).year

/-- The stamp of a moment, or the year of one that has none. -/
def stamp (m : Moment) : Except Int Text :=
  match m.stamp? with
  | some s => .ok s
  | none => .error m.year

theorem stamp_eq_ok_iff {m : Moment} {text : Text} : m.stamp = .ok text ↔ m.stamp? = some text := by
  unfold stamp
  cases m.stamp? with
  | some s => simp
  | none => exact ⟨nofun, nofun⟩

end Moment

end CommentTasks
