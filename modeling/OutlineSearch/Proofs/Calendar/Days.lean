import OutlineSearch.Calendar.Period

/-!
# Day numbers

Day numbers count the days of the calendar: the next day has the next number. So they are in the
order of the dates, and no two dates have the same one.
-/

namespace OutlineSearch

/-- The number of days of a year. -/
def daysInYear (year : Nat) : Nat := if isLeapYear year then 366 else 365

namespace Date

/-! ### Years and months -/

theorem isLeapYear_iff {year : Nat} :
    isLeapYear year = true ↔ year % 4 = 0 ∧ (year % 100 ≠ 0 ∨ year % 400 = 0) := by
  simp [isLeapYear]

theorem daysBeforeYear_succ {year : Nat} (h : 1 ≤ year) :
    daysBeforeYear (year + 1) = daysBeforeYear year + daysInYear year := by
  obtain ⟨y, rfl⟩ := Nat.exists_eq_add_of_le' h
  -- A year is longer by one day exactly when the three counts of leap years grow by one in sum.
  have hleaps : daysInYear (y + 1) + (y + 1) / 100 + y / 4 + y / 400 =
      365 + (y + 1) / 4 + (y + 1) / 400 + y / 100 := by
    unfold daysInYear
    split
    · next hleap =>
      have hleap := isLeapYear_iff.1 hleap
      omega
    · next hleap =>
      rw [isLeapYear_iff] at hleap
      omega
  simp only [daysBeforeYear, Nat.add_sub_cancel]
  omega

theorem daysBeforeMonth_succ {month : Nat} (year : Nat) (h : 1 ≤ month) :
    daysBeforeMonth year (month + 1) = daysBeforeMonth year month + daysInMonth year month := by
  obtain ⟨month, rfl⟩ : ∃ m, month = m + 1 := ⟨month - 1, by omega⟩
  rfl

/-- A year has the days of its twelve months. -/
theorem daysBeforeMonth_thirteen (year : Nat) : daysBeforeMonth year 13 = daysInYear year := by
  simp only [daysBeforeMonth, daysInMonth, daysInYear]
  cases isLeapYear year <;> rfl

theorem add_daysInMonth_le {month later : Nat} (year : Nat) (h : 1 ≤ month)
    (hlater : month < later) :
    daysBeforeMonth year month + daysInMonth year month ≤ daysBeforeMonth year later := by
  induction hlater with
  | refl => exact Nat.le_of_eq (daysBeforeMonth_succ year h).symm
  | step hle ih =>
    rw [daysBeforeMonth_succ year (Nat.le_trans h (Nat.le_of_lt hle))]
    exact Nat.le_add_right_of_le ih

theorem add_daysInYear_le {year later : Nat} (h : 1 ≤ year) (hlater : year < later) :
    daysBeforeYear year + daysInYear year ≤ daysBeforeYear later := by
  induction hlater with
  | refl => exact Nat.le_of_eq (daysBeforeYear_succ h).symm
  | step hle ih =>
    rw [daysBeforeYear_succ (Nat.le_trans h (Nat.le_of_lt hle))]
    exact Nat.le_add_right_of_le ih

/-! ### Dates -/

/-- The number of a day in its year. -/
theorem dayOfYear_le (d : Date) : daysBeforeMonth d.year d.month + d.day ≤ daysInYear d.year := by
  have hmonth := d.month_range
  have hday := d.day_range
  rw [← daysBeforeMonth_thirteen]
  exact Nat.le_trans (by omega) (add_daysInMonth_le d.year hmonth.1 (by omega))

/-- One date is before another: by the year, then by the month, then by the day. -/
def Before (a b : Date) : Prop :=
  a.year < b.year ∨ a.year = b.year ∧ (a.month < b.month ∨ a.month = b.month ∧ a.day < b.day)

theorem Before.dayNumber_lt {a b : Date} (h : a.Before b) : a.dayNumber < b.dayNumber := by
  have hday := a.day_range
  have hday' := b.day_range
  unfold dayNumber
  rcases h with hyear | ⟨hyear, hmonth | ⟨hmonth, hless⟩⟩
  · have hle := add_daysInYear_le a.year_range.1 hyear
    have hday := a.dayOfYear_le
    omega
  · have hle := add_daysInMonth_le a.year a.month_range.1 hmonth
    rw [← hyear]
    omega
  · rw [← hyear, ← hmonth]
    omega

theorem before_trichotomy (a b : Date) : a.Before b ∨ a = b ∨ b.Before a := by
  have heq (hyear : a.year = b.year) (hmonth : a.month = b.month) (hday : a.day = b.day) :
      a = b := by
    cases a
    cases b
    cases hyear
    cases hmonth
    cases hday
    rfl
  unfold Before
  by_cases hyear : a.year = b.year
  · by_cases hmonth : a.month = b.month
    · by_cases hday : a.day = b.day
      · exact .inr (.inl (heq hyear hmonth hday))
      · omega
    · omega
  · omega

/-- Day numbers are in the order of the dates. -/
theorem dayNumber_lt_iff {a b : Date} : a.dayNumber < b.dayNumber ↔ a.Before b := by
  refine ⟨fun hlt ↦ ?_, Before.dayNumber_lt⟩
  rcases before_trichotomy a b with h | rfl | h
  · exact h
  · exact absurd hlt (Nat.lt_irrefl _)
  · exact absurd hlt (Nat.lt_asymm h.dayNumber_lt)

theorem dayNumber_inj {a b : Date} : a.dayNumber = b.dayNumber ↔ a = b := by
  refine ⟨fun heq ↦ ?_, congrArg dayNumber⟩
  rcases before_trichotomy a b with h | rfl | h
  · exact absurd heq (Nat.ne_of_lt h.dayNumber_lt)
  · rfl
  · exact absurd heq (Nat.ne_of_gt h.dayNumber_lt)

/-- A date is the day after another one: in the same month, on the first of the next one or on the
first of January. -/
inductive Follows (a b : Date) : Prop where
  | sameMonth (hyear : b.year = a.year) (hmonth : b.month = a.month) (hday : b.day = a.day + 1)
  | nextMonth (hyear : b.year = a.year) (hmonth : b.month = a.month + 1)
    (hlast : a.day = daysInMonth a.year a.month) (hday : b.day = 1)
  | nextYear (hyear : b.year = a.year + 1) (hmonth : b.month = 1) (hlast : a.month = 12)
    (hlastDay : a.day = 31) (hday : b.day = 1)

/-- The next day has the next number. -/
theorem Follows.dayNumber_eq {a b : Date} (h : a.Follows b) : b.dayNumber = a.dayNumber + 1 := by
  unfold dayNumber
  cases h with
  | sameMonth hyear hmonth hday =>
    rw [hyear, hmonth, hday]
    rfl
  | nextMonth hyear hmonth hlast hday =>
    rw [hyear, hmonth, hday, daysBeforeMonth_succ _ a.month_range.1, ← hlast]
    omega
  | nextYear hyear hmonth hlast hlastDay hday =>
    have hyears := daysBeforeYear_succ a.year_range.1
    have hmonths := daysBeforeMonth_succ a.year (show 1 ≤ 12 by decide)
    have hfirst : daysBeforeMonth (a.year + 1) 1 = 0 := rfl
    rw [daysBeforeMonth_thirteen, show daysInMonth a.year 12 = 31 from rfl] at hmonths
    rw [hyear, hmonth, hday, hlast, hlastDay, hyears, hmonths, hfirst]
    omega

/-- The days are numbered from the first of January of year 1. -/
example : (⟨1, 1, 1, by decide, by decide, by decide⟩ : Date).dayNumber = 1 := rfl

/-! ### Periods -/

theorem atMost_iff {a b : Date} : a.atMost b = true ↔ a = b ∨ a.Before b := by
  rw [atMost, decide_eq_true_iff, Nat.le_iff_lt_or_eq, dayNumber_lt_iff, dayNumber_inj, or_comm]

end Date

/-- A period of one day holds that day only. -/
theorem Period.contains_single {d e : Date} : (single d).contains e = true ↔ e = d := by
  rw [contains, single, Bool.and_eq_true, Date.atMost, Date.atMost, decide_eq_true_iff,
    decide_eq_true_iff, ← Nat.le_antisymm_iff, Date.dayNumber_inj]
  exact eq_comm

end OutlineSearch
