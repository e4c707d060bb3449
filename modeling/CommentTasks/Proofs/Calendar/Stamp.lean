import CommentTasks.Calendar.Moment
import CommentTasks.Proofs.Calendar.Date
import CommentTasks.Proofs.Text.Padded

/-!
# Stamps are ordered as texts

The stamp of a moment is what a clock in universal time shows, to the millisecond and with numbers
of a fixed width from the year down. So moments of one millisecond have one stamp, whichever clocks
have told them, and of two other moments the earlier one has the smaller stamp:
`stamp_lt_stamp_iff`.
-/

namespace CommentTasks

/-! ### Times of day -/

namespace TimeOfDay

/-- The hour, the minute, the second and the microsecond are in their bounds. -/
structure IsTime (t : TimeOfDay) : Prop where
  hour_lt : t.hour < 24
  minute_lt : t.minute < 60
  second_lt : t.second < 60
  microsecond_lt : t.microsecond < 1000000

/-- The time of day is earlier than the other by their milliseconds. -/
def Before (t t' : TimeOfDay) : Prop :=
  t.hour < t'.hour ∨ t.hour = t'.hour ∧
    (t.minute < t'.minute ∨ t.minute = t'.minute ∧
      (t.second < t'.second ∨ t.second = t'.second ∧
        t.microsecond / 1000 < t'.microsecond / 1000))

variable {t t' : TimeOfDay}

theorem IsTime.microseconds_lt (h : t.IsTime) : t.microseconds < perDay := by
  obtain ⟨hhour, hminute, hsecond, hmicrosecond⟩ := h
  unfold microseconds perDay
  omega

theorem isTime_ofMicroseconds {n : Nat} (h : n < perDay) : (ofMicroseconds n).IsTime where
  hour_lt := by
    unfold perDay at h
    show n / 3600000000 < 24
    omega
  minute_lt := Nat.mod_lt _ (by decide)
  second_lt := Nat.mod_lt _ (by decide)
  microsecond_lt := Nat.mod_lt _ (by decide)

theorem microseconds_ofMicroseconds (n : Nat) : (ofMicroseconds n).microseconds = n := by
  simp only [ofMicroseconds, microseconds]
  omega

/-- **Earlier times of day have fewer milliseconds since midnight.** -/
theorem milliseconds_lt_iff (h : t.IsTime) (h' : t'.IsTime) :
    t.microseconds / 1000 < t'.microseconds / 1000 ↔ t.Before t' := by
  obtain ⟨-, hminute, hsecond, hmicrosecond⟩ := h
  obtain ⟨-, hminute', hsecond', hmicrosecond'⟩ := h'
  unfold microseconds Before
  omega

end TimeOfDay

/-! ### The text of a date and a time of day -/

section

variable {d d' : Date} {t t' : TimeOfDay}

/-- The numbers of a day have at most four, two and two digits. -/
theorem Date.IsDay.lt_pow (h : d.IsDay) : d.year < 10 ^ 4 ∧ d.month < 10 ^ 2 ∧ d.day < 10 ^ 2 := by
  have hyear := h.year_le
  have hmonth := h.month_le
  have hday := h.day_le
  have hlength := Date.monthLength_le d.year d.month
  unfold Date.maxYear at hyear
  omega

namespace Moment

theorem length_civilText (hd : d.IsDay) (ht : t.IsTime) : (civilText d t).length = 24 := by
  obtain ⟨hyear, hmonth, hday⟩ := hd.lt_pow
  obtain ⟨hhour, hminute, hsecond, hmicrosecond⟩ := ht
  have hlength {w n : Nat} (hw : 0 < w) (h : n < 10 ^ w) : (Text.ofNatPadded w n).length = w :=
    Text.length_ofNatPadded hw h
  simp (disch := omega) only [civilText, List.length_append, List.length_cons, List.length_nil, hlength]

/-- **Texts of dates and times of day are in the order of these**, the date first. -/
theorem civilText_lt_iff (hd : d.IsDay) (hd' : d'.IsDay) (ht : t.IsTime) (ht' : t'.IsTime) :
    civilText d t < civilText d' t' ↔ d.Before d' ∨ d = d' ∧ t.Before t' := by
  obtain ⟨hyear, hmonth, hday⟩ := hd.lt_pow
  obtain ⟨hyear', hmonth', hday'⟩ := hd'.lt_pow
  obtain ⟨hhour, hminute, hsecond, hmicrosecond⟩ := ht
  obtain ⟨hhour', hminute', hsecond', hmicrosecond'⟩ := ht'
  have hlast : ¬['Z'] < ['Z'] := List.lt_irrefl _
  -- the texts are compared number by number, from the year down
  simp (disch := omega) only [civilText, List.append_assoc, List.cons_append, List.cons_lt_cons_self,
    Text.ofNatPadded_append_lt_iff, hlast, and_false, or_false]
  obtain ⟨year, month, day⟩ := d
  obtain ⟨year', month', day'⟩ := d'
  simp only [Date.Before, TimeOfDay.Before, Date.mk.injEq, and_or_left, and_assoc, or_assoc]

end Moment

end

/-! ### Moments -/

namespace Moment

variable {m m' : Moment}

/-- The milliseconds since the beginning of year 1 in universal time, without the part of
another. -/
def millisecond (m : Moment) : Int := m.microseconds / 1000

/-- A moment in the calendar is shown by a date and a time of day in universal time. -/
theorem exists_civil (h : m.InCalendar) : ∃ d t, d.IsDay ∧ t.IsTime ∧ m = ofCivil d t 0 ∧
    m.stamp? = some (civilText d t) := by
  obtain ⟨hnonneg, hlt⟩ := h
  obtain ⟨n, hn⟩ := Int.eq_ofNat_of_zero_le hnonneg
  have hday : n / TimeOfDay.perDay < Date.count := by
    rw [hn] at hlt
    exact Nat.div_lt_of_lt_mul (by rw [Nat.mul_comm]; exact Int.ofNat_lt.1 hlt)
  have htime : n % TimeOfDay.perDay < TimeOfDay.perDay := Nat.mod_lt _ (by decide)
  refine ⟨_, _, Date.isDay_ofNumber hday, TimeOfDay.isTime_ofMicroseconds htime, ?_, ?_⟩
  · rw [ofCivil, Date.number_ofNumber hday, TimeOfDay.microseconds_ofMicroseconds,
      Nat.div_add_mod', Int.zero_mul, Int.sub_zero]
    exact congrArg Moment.mk hn
  · rw [stamp?, if_pos ⟨hnonneg, hlt⟩, civil, hn]
    rfl

variable {d d' : Date} {t t' : TimeOfDay}

theorem millisecond_ofCivil (d : Date) (t : TimeOfDay) :
    (ofCivil d t 0).millisecond = (d.number * 86400000 + t.microseconds / 1000 : Nat) := by
  simp only [millisecond, ofCivil, TimeOfDay.perDay]
  omega

theorem millisecond_lt_iff (hd : d.IsDay) (hd' : d'.IsDay) (ht : t.IsTime) (ht' : t'.IsTime) :
    (ofCivil d t 0).millisecond < (ofCivil d' t' 0).millisecond ↔
      d.Before d' ∨ d = d' ∧ t.Before t' := by
  have hlt := ht.microseconds_lt
  have hlt' := ht'.microseconds_lt
  rw [millisecond_ofCivil, millisecond_ofCivil, ← Date.number_lt_number_iff hd hd',
    ← Date.number_inj hd hd', ← TimeOfDay.milliseconds_lt_iff ht ht']
  unfold TimeOfDay.perDay at hlt hlt'
  omega

theorem exists_civil_of_stamp? {s : Text} (h : m.stamp? = some s) : ∃ d t, d.IsDay ∧ t.IsTime ∧
    m = ofCivil d t 0 ∧ s = civilText d t := by
  have hcalendar : m.InCalendar := by
    by_contra hout
    rw [stamp?, if_neg hout] at h
    cases h
  obtain ⟨d, t, hd, ht, hm, hs⟩ := exists_civil hcalendar
  exact ⟨d, t, hd, ht, hm, Option.some.inj (h.symm.trans hs)⟩

/-- **Stamps are in the order of the milliseconds.** -/
theorem stamp_lt_stamp_iff {s s' : Text} (h : m.stamp? = some s) (h' : m'.stamp? = some s') :
    s < s' ↔ m.millisecond < m'.millisecond := by
  obtain ⟨d, t, hd, ht, rfl, rfl⟩ := exists_civil_of_stamp? h
  obtain ⟨d', t', hd', ht', rfl, rfl⟩ := exists_civil_of_stamp? h'
  rw [civilText_lt_iff hd hd' ht ht', millisecond_lt_iff hd hd' ht ht']

theorem stamp_eq_stamp_iff {s s' : Text} (h : m.stamp? = some s) (h' : m'.stamp? = some s') :
    s = s' ↔ m.millisecond = m'.millisecond := by
  have hlt := stamp_lt_stamp_iff h h'
  have hgt := stamp_lt_stamp_iff h' h
  constructor
  · intro he
    rw [he] at hlt hgt
    simp only [List.lt_irrefl, false_iff] at hlt hgt
    omega
  · intro he
    rw [he] at hlt hgt
    simp only [Int.lt_irrefl, iff_false] at hlt hgt
    exact List.le_antisymm hgt hlt

/-- **The moments of the calendar are those of the years from 1 to 9999.** -/
theorem inCalendar_iff_year (m : Moment) : m.InCalendar ↔ 1 ≤ m.year ∧ m.year ≤ Date.maxYear := by
  have hcount : Date.count = 24 * 146097 + 145731 := by decide
  unfold InCalendar year
  simp only [hcount, TimeOfDay.perDay, Date.maxYear]
  generalize hday : m.microseconds / (86400000000 : Nat) = day
  have hyear := Date.year_ofNumber_bounds (n := (day % 146097).toNat) (by omega)
  omega

example : (Moment.mk (-1)).year = 0 := by decide

end Moment

/-! ### Clocks with an offset -/

/-- What a clock shows: a day, a time of day, and by how many seconds the clock is ahead of
universal time. A clock that does not tell shows universal time. -/
structure Reading where
  date : Date
  time : TimeOfDay
  offset : Option Int
  isDay : date.IsDay
  isTime : time.IsTime
  offset_lt : ∀ seconds ∈ offset, -86400 < seconds ∧ seconds < 86400

namespace Reading

/-- The moment at which a clock shows this. -/
def moment (r : Reading) : Moment := .ofCivil r.date r.time (r.offset.getD 0)

/-- What a clock in universal time shows at a moment of the calendar is its stamp. -/
theorem exists_universal {m : Moment} (h : m.InCalendar) : ∃ r : Reading, r.offset = none ∧
    r.moment = m ∧ m.stamp? = some (Moment.civilText r.date r.time) := by
  obtain ⟨d, t, hd, ht, hm, hs⟩ := Moment.exists_civil h
  exact ⟨⟨d, t, none, hd, ht, nofun⟩, rfl, hm.symm, hs⟩

end Reading

/-- **Stamps are ordered as texts.** Every moment of the calendar has a stamp of 24 characters,
which is what a clock in universal time shows then. Two readings of clocks, whatever their offsets,
have the same stamp exactly if they fall in the same millisecond of universal time, and otherwise
the earlier one has the smaller stamp. -/
theorem stamps_of_readings (a b : Reading) (ha : a.moment.InCalendar) (hb : b.moment.InCalendar) :
    ∃ s s', a.moment.stamp? = some s ∧ b.moment.stamp? = some s' ∧
      s.length = 24 ∧ s'.length = 24 ∧
      (∃ u : Reading, u.offset = none ∧ u.moment = a.moment ∧ s = Moment.civilText u.date u.time) ∧
      (s = s' ↔ a.moment.millisecond = b.moment.millisecond) ∧
      (s < s' ↔ a.moment.millisecond < b.moment.millisecond) := by
  obtain ⟨u, hu, hua, hs⟩ := Reading.exists_universal ha
  obtain ⟨v, -, -, hs'⟩ := Reading.exists_universal hb
  exact ⟨_, _, hs, hs', Moment.length_civilText u.isDay u.isTime,
    Moment.length_civilText v.isDay v.isTime, ⟨u, hu, hua, rfl⟩,
    Moment.stamp_eq_stamp_iff hs hs', Moment.stamp_lt_stamp_iff hs hs'⟩

namespace LeapDay

/-- The end of a leap day on a clock that is behind universal time, where the next day has begun. -/
def behind : Reading where
  date := ⟨2024, 2, 29⟩
  time := ⟨23, 30, 0, 999⟩
  offset := some (-3600)
  isDay := ⟨by decide, by decide, by decide, by decide, by decide, by decide⟩
  isTime := ⟨by decide, by decide, by decide, by decide⟩
  offset_lt := by decide

/-- The same millisecond on a clock that is ahead. -/
def ahead : Reading where
  date := ⟨2024, 3, 1⟩
  time := ⟨1, 30, 0, 0⟩
  offset := some 3600
  isDay := ⟨by decide, by decide, by decide, by decide, by decide, by decide⟩
  isTime := ⟨by decide, by decide, by decide, by decide⟩
  offset_lt := by decide

/-- The next millisecond on a clock that does not tell its offset. -/
def next : Reading where
  date := ⟨2024, 3, 1⟩
  time := ⟨0, 30, 0, 1000⟩
  offset := none
  isDay := ⟨by decide, by decide, by decide, by decide, by decide, by decide⟩
  isTime := ⟨by decide, by decide, by decide, by decide⟩
  offset_lt := nofun

end LeapDay

theorem stamps_of_readings_leap_day :
    LeapDay.behind.moment.InCalendar ∧ LeapDay.ahead.moment.InCalendar ∧
      LeapDay.next.moment.InCalendar ∧
      ∃ s s', LeapDay.behind.moment.stamp? = some s ∧ LeapDay.ahead.moment.stamp? = some s ∧
        LeapDay.next.moment.stamp? = some s' ∧ s.length = 24 ∧ s < s' := by
  have hbehind : LeapDay.behind.moment.InCalendar := by decide +kernel
  have hahead : LeapDay.ahead.moment.InCalendar := by decide +kernel
  have hnext : LeapDay.next.moment.InCalendar := by decide +kernel
  obtain ⟨s, s₁, hs, hs₁, hlength, -, -, heq, -⟩ := stamps_of_readings _ _ hbehind hahead
  obtain ⟨s₂, s', hs₂, hs', -, -, -, -, hlt⟩ := stamps_of_readings _ _ hbehind hnext
  cases hs.symm.trans hs₂
  cases heq.2 (by decide +kernel)
  exact ⟨hbehind, hahead, hnext, s, s', hs, hs₁, hs', hlength, hlt.2 (by decide +kernel)⟩

end CommentTasks
