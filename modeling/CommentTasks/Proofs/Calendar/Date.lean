import CommentTasks.Calendar.Date
import Mathlib.Algebra.Ring.Nat
import Mathlib.Data.Nat.Basic
import Mathlib.Data.Nat.Init
import Mathlib.Tactic.SplitIfs

/-!
# Days and their numbers

The number of a day says how many days of the calendar come before it: a day has a smaller number
than another exactly if it is earlier (`number_lt_number_iff`), and the numbers below `count` are
those of the days (`isDay_ofNumber`, `number_ofNumber`).
-/

namespace CommentTasks

/-! ### Years -/

/-- The number of days of a year. -/
def yearLength (year : Nat) : Nat := if isLeapYear year then 366 else 365

theorem sum_monthLengths (year : Nat) : (monthLengths year).sum = yearLength year := by
  unfold monthLengths yearLength
  split <;> rfl

theorem isLeapYear_iff {year : Nat} :
    isLeapYear year ↔ 4 ∣ year ∧ (¬100 ∣ year ∨ 400 ∣ year) := by
  simp [isLeapYear, Nat.dvd_iff_mod_eq_zero]

namespace Date

theorem daysBeforeYear_succ {year : Nat} (h : 1 ≤ year) :
    daysBeforeYear (year + 1) = daysBeforeYear year + yearLength year := by
  obtain ⟨y, rfl⟩ : ∃ y, year = y + 1 := ⟨year - 1, by omega⟩
  have h100 : 100 ∣ y + 1 → 4 ∣ y + 1 := Nat.dvd_trans (by decide)
  have h400 : 400 ∣ y + 1 → 100 ∣ y + 1 := Nat.dvd_trans (by decide)
  have hle : y / 100 ≤ 365 * y := Nat.le_trans (Nat.div_le_self y 100) (by omega)
  simp only [daysBeforeYear, yearLength, isLeapYear_iff, Nat.add_sub_cancel, Nat.succ_div]
  -- each quotient goes up by one where its divisor divides the year
  generalize y / 4 = fourths, y / 100 = centuries, y / 400 = periods at *
  split_ifs <;> omega

theorem daysBeforeYear_mono {year year' : Nat} (h : 1 ≤ year) (hle : year ≤ year') :
    daysBeforeYear year ≤ daysBeforeYear year' := by
  induction year', hle using Nat.le_induction with
  | base => exact Nat.le_refl _
  | succ y hy ih =>
    rw [daysBeforeYear_succ (Nat.le_trans h hy)]
    omega

/-! ### Months -/

/-- The number of days of a month. -/
def monthLength (year month : Nat) : Nat := ((monthLengths year)[month - 1]?).getD 0

/-- The number of days of a year before a month. -/
def daysBeforeMonth (year month : Nat) : Nat := ((monthLengths year).take (month - 1)).sum

theorem monthLength_le (year month : Nat) : monthLength year month ≤ 31 := by
  have hle : ∀ length ∈ monthLengths year, length ≤ 31 := by
    unfold monthLengths
    split <;> decide
  unfold monthLength
  cases h : (monthLengths year)[month - 1]? with
  | none => exact Nat.zero_le 31
  | some length => exact hle length (List.mem_of_getElem? h)

theorem daysBeforeMonth_succ {year month : Nat} (h : 1 ≤ month) :
    daysBeforeMonth year (month + 1) = daysBeforeMonth year month + monthLength year month := by
  obtain ⟨m, rfl⟩ : ∃ m, month = m + 1 := ⟨month - 1, by omega⟩
  unfold daysBeforeMonth monthLength
  rw [Nat.add_sub_cancel, Nat.add_sub_cancel, List.take_add_one, List.sum_append]
  cases (monthLengths year)[m]? <;> simp

theorem daysBeforeMonth_mono {year month month' : Nat} (h : 1 ≤ month) (hle : month ≤ month') :
    daysBeforeMonth year month ≤ daysBeforeMonth year month' := by
  induction month', hle using Nat.le_induction with
  | base => exact Nat.le_refl _
  | succ m hm ih =>
    rw [daysBeforeMonth_succ (Nat.le_trans h hm)]
    omega

/-! ### Days -/

/-- The date is a day of the calendar. -/
structure IsDay (d : Date) : Prop where
  one_le_year : 1 ≤ d.year
  year_le : d.year ≤ maxYear
  one_le_month : 1 ≤ d.month
  month_le : d.month ≤ 12
  one_le_day : 1 ≤ d.day
  day_le : d.day ≤ monthLength d.year d.month

/-- The date is earlier than the other: in its year, its month or its day. -/
def Before (d d' : Date) : Prop :=
  d.year < d'.year ∨ d.year = d'.year ∧
    (d.month < d'.month ∨ d.month = d'.month ∧ d.day < d'.day)

variable {d d' : Date}

theorem number_eq (d : Date) :
    d.number = daysBeforeYear d.year + daysBeforeMonth d.year d.month + (d.day - 1) := by
  rw [number, daysBeforeMonth, List.sum_eq_foldl_nat]

theorem IsDay.lt_daysBeforeMonth (h : d.IsDay) :
    daysBeforeMonth d.year d.month + (d.day - 1) < daysBeforeMonth d.year (d.month + 1) := by
  have hday := h.one_le_day
  have hlength := h.day_le
  rw [daysBeforeMonth_succ h.one_le_month]
  omega

theorem IsDay.number_lt (h : d.IsDay) : d.number < daysBeforeYear (d.year + 1) := by
  have hmonth := h.month_le
  have hyear : daysBeforeMonth d.year (d.month + 1) ≤ yearLength d.year := by
    rw [← sum_monthLengths]
    have hlast : d.month + 1 ≤ 13 := Nat.succ_le_succ hmonth
    exact daysBeforeMonth_mono (Nat.le_add_left 1 d.month) hlast
  have hlt := h.lt_daysBeforeMonth
  rw [number_eq, daysBeforeYear_succ h.one_le_year]
  omega

theorem Before.number_lt_number (hlt : d.Before d') (h : d.IsDay) :
    d.number < d'.number := by
  have hday := h.one_le_day
  rcases hlt with hyear | ⟨hyear, hmonth | ⟨hmonth, hdays⟩⟩
  · calc
      d.number < daysBeforeYear (d.year + 1) := h.number_lt
      _ ≤ daysBeforeYear d'.year := daysBeforeYear_mono (by omega) hyear
      _ ≤ d'.number := by rw [number_eq]; omega
  · have hle : daysBeforeMonth d.year (d.month + 1) ≤ daysBeforeMonth d.year d'.month :=
      daysBeforeMonth_mono (by omega) hmonth
    have hlt := h.lt_daysBeforeMonth
    rw [number_eq, number_eq, ← hyear]
    omega
  · rw [number_eq, number_eq, ← hyear, ← hmonth]
    omega

theorem before_or_eq_or_before (d d' : Date) : d.Before d' ∨ d = d' ∨ d'.Before d := by
  cases d
  cases d'
  simp only [Before, mk.injEq]
  omega

/-- **Earlier days have smaller numbers.** -/
theorem number_lt_number_iff (h : d.IsDay) (h' : d'.IsDay) : d.number < d'.number ↔ d.Before d' := by
  constructor
  · intro hlt
    rcases before_or_eq_or_before d d' with hb | rfl | hb
    · exact hb
    · exact absurd hlt (Nat.lt_irrefl _)
    · exact absurd (hb.number_lt_number h') (Nat.lt_asymm hlt)
  · exact fun hb => hb.number_lt_number h

theorem number_inj (h : d.IsDay) (h' : d'.IsDay) : d.number = d'.number ↔ d = d' := by
  constructor
  · intro he
    rcases before_or_eq_or_before d d' with hb | rfl | hb
    · exact absurd he (Nat.ne_of_lt (hb.number_lt_number h))
    · rfl
    · exact absurd he.symm (Nat.ne_of_lt (hb.number_lt_number h'))
  · intro he
    rw [he]

/-! ### The day with a number -/

/-- The months are passed one by one up to the one that holds the day. -/
theorem exists_monthAndDay_eq {lengths : List Nat} {dayOfYear : Nat} (h : dayOfYear < lengths.sum)
    (month : Nat) : ∃ i length, lengths[i]? = some length ∧
      (lengths.take i).sum ≤ dayOfYear ∧ dayOfYear < (lengths.take i).sum + length ∧
      monthAndDay month dayOfYear lengths = (month + i, dayOfYear - (lengths.take i).sum + 1) := by
  induction lengths generalizing month dayOfYear with
  | nil => cases h
  | cons length rest ih =>
    rw [monthAndDay]
    by_cases hlt : dayOfYear < length
    · rw [if_pos hlt]
      exact ⟨0, length, rfl, Nat.zero_le _, by simpa using hlt, rfl⟩
    · rw [if_neg hlt]
      rw [List.sum_cons] at h
      have hrest : dayOfYear - length < rest.sum := by omega
      obtain ⟨i, l, hi, hle, hday, heq⟩ := ih hrest (month + 1)
      refine ⟨i + 1, l, hi, ?_, ?_, ?_⟩
      · rw [List.take_succ_cons, List.sum_cons]
        omega
      · rw [List.take_succ_cons, List.sum_cons]
        omega
      · rw [heq, List.take_succ_cons, List.sum_cons, Nat.sub_sub, Nat.add_assoc, Nat.add_comm 1]

/-- The days before a year, period by period. -/
theorem daysBeforeYear_periods {a b c e : Nat} (hb : b ≤ 3) (hc : c ≤ 24) (he : e ≤ 3) :
    daysBeforeYear (400 * a + 100 * b + 4 * c + e + 1) =
      146097 * a + 36524 * b + 1461 * c + 365 * e := by
  have hfourths : (400 * a + 100 * b + 4 * c + e) / 4 = 100 * a + 25 * b + c := by omega
  have hcenturies : (400 * a + 100 * b + 4 * c + e) / 100 = 4 * a + b := by omega
  have hperiods : (400 * a + 100 * b + 4 * c + e) / 400 = a := by omega
  simp only [daysBeforeYear, Nat.add_sub_cancel, hfourths, hcenturies, hperiods]
  omega

/-- A number leads to its year and to a day of this year. -/
theorem exists_ofNumber_eq (n : Nat) : ∃ year dayOfYear, 1 ≤ year ∧
    n = daysBeforeYear year + dayOfYear ∧ dayOfYear < yearLength year ∧
    ofNumber n = ⟨year, (monthAndDay 1 dayOfYear (monthLengths year)).1,
      (monthAndDay 1 dayOfYear (monthLengths year)).2⟩ := by
  refine ⟨_, _, ?_, ?_, ?_, rfl⟩
  · omega
  · rw [daysBeforeYear_periods (by omega) (by omega) (by omega)]
    omega
  · -- only the last year of four has a last day, and of the last years of a century only the fourth
    simp only [yearLength, isLeapYear_iff]
    split_ifs <;> omega

theorem isDay_and_number_ofNumber {n : Nat} (h : n < count) :
    (ofNumber n).IsDay ∧ (ofNumber n).number = n := by
  obtain ⟨year, dayOfYear, hone, hn, hlt, heq⟩ := exists_ofNumber_eq n
  rw [← sum_monthLengths] at hlt
  obtain ⟨i, length, hi, hle, hday, hmonth⟩ := exists_monthAndDay_eq hlt 1
  rw [hmonth] at heq
  have hi12 : i < 12 := (List.getElem?_eq_some_iff.1 hi).1
  have hyear : year ≤ maxYear := by
    by_contra hgt
    have hlater : maxYear + 1 ≤ year := Nat.lt_of_not_le hgt
    have hmono := daysBeforeYear_mono (Nat.le_add_left 1 maxYear) hlater
    unfold count at h
    omega
  have hlength : monthLength year (1 + i) = length := by
    rw [monthLength, Nat.add_sub_cancel_left, hi, Option.getD_some]
  have hbefore : daysBeforeMonth year (1 + i) = ((monthLengths year).take i).sum := by
    rw [daysBeforeMonth, Nat.add_sub_cancel_left]
  rw [heq]
  constructor
  · refine ⟨hone, hyear, Nat.le_add_right 1 i, ?_, Nat.le_add_left _ _, ?_⟩
    · show 1 + i ≤ 12
      omega
    · show dayOfYear - _ + 1 ≤ monthLength year (1 + i)
      omega
  · rw [number_eq]
    show daysBeforeYear year + daysBeforeMonth year (1 + i) + (dayOfYear - _ + 1 - 1) = n
    omega

theorem isDay_ofNumber {n : Nat} (h : n < count) : (ofNumber n).IsDay :=
  (isDay_and_number_ofNumber h).1

/-- **The numbers below `count` are the numbers of days.** -/
theorem number_ofNumber {n : Nat} (h : n < count) : (ofNumber n).number = n :=
  (isDay_and_number_ofNumber h).2

/-- The years of the first period of the calendar, of which the last one has its last 366 days. -/
theorem year_ofNumber_bounds {n : Nat} (h : n < 146097) :
    1 ≤ (ofNumber n).year ∧ (ofNumber n).year ≤ 400 ∧ ((ofNumber n).year ≤ 399 ↔ n < 145731) := by
  simp only [ofNumber]
  omega

end Date

end CommentTasks
