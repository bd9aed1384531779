import OutlineSearch.Proofs.Calendar.Days
import OutlineSearch.Proofs.Calendar.Readings

/-!
# Months back

Dates are in the order of their months, counted from January of year 1, and in one month in that of
their days. A number of months back leads to the month that is so many before, and there to the same
day or to the last one of a month that is too short. So a later date does not lead to an earlier
one, and two steps back do not lead to a later date than one over all the months. The last month
before a day starts one month back.
-/

namespace OutlineSearch

namespace Date

variable {a b d e s t u : Date} {m n : Nat}

/-! ### Months -/

theorem isLeapYear_mod (year : Nat) : isLeapYear (year % 400) = isLeapYear year := by
  rw [Bool.eq_iff_iff, isLeapYear_iff, isLeapYear_iff]
  omega

/-- Month lengths repeat every 400 years. -/
theorem daysInMonth_mod (year month : Nat) :
    daysInMonth (year % 400) month = daysInMonth year month := by
  rw [daysInMonth, daysInMonth, isLeapYear_mod]

theorem daysInMonth_pos (year month : Nat) : 1 ≤ daysInMonth year month := by
  unfold daysInMonth
  split
  · split <;> decide
  · split <;> decide

/-- The number of months before the month of a date, January of year 1 being the first month. -/
def monthsBefore (d : Date) : Nat := (d.year - 1) * 12 + (d.month - 1)

theorem monthsBefore_eq_iff :
    d.monthsBefore = m ↔ d.year = m / 12 + 1 ∧ d.month = m % 12 + 1 := by
  have hyear := d.year_range
  have hmonth := d.month_range
  unfold monthsBefore
  omega

/-- Dates are in the order of their months, and in one month in that of their days. -/
theorem atMost_iff_monthsBefore : a.atMost b = true ↔
    a.monthsBefore < b.monthsBefore ∨ a.monthsBefore = b.monthsBefore ∧ a.day ≤ b.day := by
  have hmonth := a.month_range
  have hmonth' := b.month_range
  have hyear := a.year_range
  have hyear' := b.year_range
  rw [atMost, decide_eq_true_iff, ← Nat.not_lt, dayNumber_lt_iff, Before, monthsBefore,
    monthsBefore]
  omega

theorem atMost_antisymm (h : a.atMost b = true) (h' : b.atMost a = true) : a = b :=
  dayNumber_inj.1 (Nat.le_antisymm (of_decide_eq_true h) (of_decide_eq_true h'))

/-- The length of the month of a date. -/
def monthLength (d : Date) : Nat := daysInMonth d.year d.month

theorem monthLength_congr (h : a.monthsBefore = b.monthsBefore) :
    a.monthLength = b.monthLength := by
  obtain ⟨hyear, hmonth⟩ := monthsBefore_eq_iff.1 h
  obtain ⟨hyear', hmonth'⟩ := monthsBefore_eq_iff.1 (rfl : b.monthsBefore = b.monthsBefore)
  rw [monthLength, monthLength, hyear, hmonth, ← hyear', ← hmonth']

/-! ### Dates some months back -/

/-- A date is the one that is `n` months before another one: in the month so many before its month,
on its day or on the last one of a month that is too short. -/
structure IsMonthsBack (s : Date) (n : Nat) (d : Date) : Prop where
  months : s.monthsBefore + n = d.monthsBefore
  day : s.day = min d.day s.monthLength

namespace IsMonthsBack

/-- A later date does not lead to an earlier one. -/
theorem atMost (hs : s.IsMonthsBack n d) (ht : t.IsMonthsBack n e) (h : d.atMost e = true) :
    s.atMost t = true := by
  have hmonths := hs.months
  have hmonths' := ht.months
  rw [atMost_iff_monthsBefore] at h ⊢
  rcases h with hlt | ⟨heq, hday⟩
  · exact .inl (by omega)
  · have hsame : s.monthsBefore = t.monthsBefore := by omega
    refine .inr ⟨hsame, ?_⟩
    rw [hs.day, ht.day, monthLength_congr hsame]
    exact min_le_min_right _ hday

theorem unique (hs : s.IsMonthsBack n d) (ht : t.IsMonthsBack n d) : s = t := by
  have hrefl : d.atMost d = true := decide_eq_true (Nat.le_refl _)
  exact atMost_antisymm (hs.atMost ht hrefl) (ht.atMost hs hrefl)

/-- Two steps back lead to the month to which one step leads, but not to a later day of it: the day
may be lost on the way, in a shorter month. -/
theorem atMost_of_trans (hs : s.IsMonthsBack m d) (ht : t.IsMonthsBack n s)
    (hu : u.IsMonthsBack (m + n) d) : t.atMost u = true := by
  have hmonths := hs.months
  have hmonths' := ht.months
  have hboth := hu.months
  have hsame : t.monthsBefore = u.monthsBefore := by omega
  rw [atMost_iff_monthsBefore]
  refine .inr ⟨hsame, ?_⟩
  rw [ht.day, hu.day, hs.day, monthLength_congr hsame]
  exact min_le_min_right _ (min_le_left _ _)

/-- Two steps back are one step when the month between them has the day. -/
theorem trans (hs : s.IsMonthsBack m d) (ht : t.IsMonthsBack n s) (hday : d.day ≤ s.monthLength) :
    t.IsMonthsBack (m + n) d where
  months := by
    have hmonths := hs.months
    have hmonths' := ht.months
    omega
  day := by rw [ht.day, hs.day, min_eq_left hday]

end IsMonthsBack

/-! ### Months back in the calendar -/

/-- The year of the month that is `n` months before that of a date. -/
def targetYear (d : Date) (n : Nat) : Int := ((d.year : Int) * 12 + (d.month - 1) - n) / 12

theorem one_le_targetYear_iff : 1 ≤ d.targetYear n ↔ n ≤ d.monthsBefore := by
  have hyear := d.year_range
  have hmonth := d.month_range
  unfold targetYear monthsBefore
  omega

/-- Within the calendar a number of months back leads to the date so many months before. -/
theorem exists_subtractMonths (h : 1 ≤ d.targetYear n) :
    ∃ s, d.subtractMonths n = .ok s ∧ s.IsMonthsBack n d := by
  obtain ⟨m, hm⟩ := Nat.exists_eq_add_of_le' (one_le_targetYear_iff.1 h)
  have hyears := d.year_range
  have hmonths := d.month_range
  have hdays := d.day_range
  have hlength := daysInMonth_pos (m / 12 + 1) (m % 12 + 1)
  have hcount : (d.year - 1) * 12 + (d.month - 1) = m + n := hm
  let s : Date := ⟨m / 12 + 1, m % 12 + 1, min d.day (daysInMonth (m / 12 + 1) (m % 12 + 1)),
    by omega, by omega, by omega⟩
  have hs : s.monthsBefore = m := monthsBefore_eq_iff.2 ⟨rfl, rfl⟩
  refine ⟨s, ?_, ⟨hs ▸ hm.symm, rfl⟩⟩
  -- The months are counted from year 0 here, which has twelve of them before year 1.
  have hindex : (d.year : Int) * 12 + (d.month - 1) - n = ((m + 12 : Nat) : Int) := by omega
  have hyear : ((m + 12 : Nat) : Int) / 12 = s.year := by
    change _ = ((m / 12 + 1 : Nat) : Int)
    omega
  have hmonth : (((m + 12 : Nat) : Int) % 12).toNat + 1 = s.month := by
    change _ = m % 12 + 1
    omega
  have hperiod : ((s.year : Int) % 400).toNat = s.year % 400 := by omega
  simp only [subtractMonths, hindex, hyear, hmonth, hperiod, daysInMonth_mod]
  exact of?_self s

/-- Months back lead to a date exactly when they do not lead out of the calendar. -/
theorem exists_subtractMonths_iff :
    (∃ s, d.subtractMonths n = .ok s) ↔ 1 ≤ d.targetYear n := by
  refine ⟨fun ⟨s, hs⟩ ↦ ?_, fun h ↦ (exists_subtractMonths h).imp fun _ hs ↦ hs.1⟩
  rw [subtractMonths, of?] at hs
  split at hs
  · next hyear =>
    unfold targetYear
    omega
  · split at hs <;> cases hs

theorem isMonthsBack_of_subtractMonths (h : d.subtractMonths n = .ok s) : s.IsMonthsBack n d := by
  obtain ⟨s', hs', hback⟩ := exists_subtractMonths (exists_subtractMonths_iff.1 ⟨s, h⟩)
  cases h.symm.trans hs'
  exact hback

/-- A later date has months before it that an earlier date has. -/
theorem targetYear_mono (h : d.atMost e = true) (hd : 1 ≤ d.targetYear n) : 1 ≤ e.targetYear n := by
  rw [one_le_targetYear_iff] at hd ⊢
  rw [atMost_iff_monthsBefore] at h
  omega

theorem exists_subtractMonths_mono (hd : 1 ≤ d.targetYear n) (h : d.atMost e = true) :
    ∃ s t, d.subtractMonths n = .ok s ∧ e.subtractMonths n = .ok t ∧ s.atMost t = true := by
  obtain ⟨s, hs, hback⟩ := exists_subtractMonths hd
  obtain ⟨t, ht, hback'⟩ := exists_subtractMonths (targetYear_mono h hd)
  exact ⟨s, t, hs, ht, hback.atMost hback' h⟩

theorem exists_subtractMonths_add (h : 1 ≤ d.targetYear (m + n)) :
    ∃ s t u, d.subtractMonths m = .ok s ∧ s.subtractMonths n = .ok t ∧
      d.subtractMonths ↑(m + n) = .ok u ∧ t.atMost u = true ∧ (d.day ≤ s.monthLength → t = u) := by
  obtain ⟨u, hu, hback⟩ := exists_subtractMonths h
  rw [one_le_targetYear_iff] at h
  obtain ⟨s, hs, hfirst⟩ :=
    exists_subtractMonths (one_le_targetYear_iff.2 (Nat.le_of_add_right_le h))
  have hmonths := hfirst.months
  have hrest : n ≤ s.monthsBefore := by omega
  obtain ⟨t, ht, hsecond⟩ := exists_subtractMonths (one_le_targetYear_iff.2 hrest)
  exact ⟨s, t, u, hs, ht, hu, hfirst.atMost_of_trans hsecond hback,
    fun hday ↦ (hfirst.trans hsecond hday).unique hback⟩

end Date

namespace Period

open OutlineSearch.Text

variable {token : String} {today first : Date}

/-- A token asks for the last month. -/
def NamesLastMonth (token : String) : Prop :=
  String.ofList (lower (trim token.toList)) = "last-month" ∨
    String.ofList (lower (trim token.toList)) = "last month"

instance (token : String) : Decidable (NamesLastMonth token) :=
  inferInstanceAs (Decidable (_ ∨ _))

/-- The last month starts one month back. -/
theorem exists_ofToken_lastMonth (h : NamesLastMonth token) (hyear : 1 ≤ today.targetYear 1) :
    ∃ first, ofToken token today = .ok (some ⟨first, today⟩) ∧ first.IsMonthsBack 1 today := by
  obtain ⟨first, hfirst, hback⟩ := Date.exists_subtractMonths hyear
  have hfirst : today.subtractMonths 1 = .ok first := hfirst
  have hmonth : monthsBack today 1 = .ok first := by rw [monthsBack, hfirst]
  refine ⟨first, ?_, hback⟩
  rcases h with h | h <;> simp [ofToken, h, hmonth, Except.map]

/-- The days since some months before a day hold the day. -/
theorem contains_of_isMonthsBack {n : Nat} (h : first.IsMonthsBack n today) :
    (⟨first, today⟩ : Period).contains today = true := by
  have hmonths := h.months
  have hday := h.day
  have hfirst : first.atMost today = true := by
    rw [Date.atMost_iff_monthsBefore]
    omega
  have hlast : today.atMost today = true := Date.atMost_iff.2 (.inl rfl)
  rw [contains, hfirst, hlast]
  rfl

end Period

/-- A number of months back leads to a date exactly when it stays in years from 1 on. Then it leads
to the month that is so many before, on the same day or on the last one of a month that is too
short; a later date does not lead to an earlier one; and two steps do not lead to a later date than
one over all the months, and lead to the same date when the month between them has the day. So the
last month before a day holds the day, and does not start earlier for a later day. -/
theorem months_back (d e : Date) (a b : Nat) :
    ((∃ s, d.subtractMonths a = .ok s) ↔ 1 ≤ d.targetYear a) ∧
    (∀ s, d.subtractMonths a = .ok s → s.IsMonthsBack a d) ∧
    (1 ≤ d.targetYear a → d.atMost e = true →
      ∃ s t, d.subtractMonths a = .ok s ∧ e.subtractMonths a = .ok t ∧ s.atMost t = true) ∧
    (1 ≤ d.targetYear (a + b) →
      ∃ s t u, d.subtractMonths a = .ok s ∧ s.subtractMonths b = .ok t ∧
        d.subtractMonths ↑(a + b) = .ok u ∧ t.atMost u = true ∧
        (d.day ≤ s.monthLength → t = u)) ∧
    ∀ token, Period.NamesLastMonth token → 1 ≤ d.targetYear 1 →
      ∃ first, Period.ofToken token d = .ok (some ⟨first, d⟩) ∧
        (⟨first, d⟩ : Period).contains d = true ∧
        (d.atMost e = true → ∃ later, Period.ofToken token e = .ok (some ⟨later, e⟩) ∧
          first.atMost later = true) := by
  refine ⟨Date.exists_subtractMonths_iff, ?_, Date.exists_subtractMonths_mono,
    Date.exists_subtractMonths_add, ?_⟩
  · intro s hs
    exact Date.isMonthsBack_of_subtractMonths hs
  · intro token htoken hyear
    obtain ⟨first, hfirst, hback⟩ := Period.exists_ofToken_lastMonth htoken hyear
    refine ⟨first, hfirst, Period.contains_of_isMonthsBack hback, ?_⟩
    intro hle
    obtain ⟨later, hlater, hback'⟩ :=
      Period.exists_ofToken_lastMonth htoken (Date.targetYear_mono hle hyear)
    exact ⟨later, hlater, hback.atMost hback' hle⟩

/-- The last day of a May. -/
def lastOfMay : Date := ⟨2029, 5, 31, by decide, by decide, by decide⟩

/-- The day after it. -/
def firstOfJune : Date := ⟨2029, 6, 1, by decide, by decide, by decide⟩

/-- The last day of the February in the year before, which is a longer one. -/
def lastOfFebruary : Date := ⟨2028, 2, 29, by decide, by decide, by decide⟩

/-- The last of May leads fifteen months back to the last of February, and sixteen months back to a
later day than this one leads to in one month. -/
theorem lastOfMay_months_back :
    (lastOfMay.subtractMonths 15 = .ok lastOfFebruary ∧
      lastOfFebruary.IsMonthsBack 15 lastOfMay) ∧
    (1 ≤ lastOfMay.targetYear 15 ∧ lastOfMay.atMost firstOfJune = true ∧
      ∃ s t, lastOfMay.subtractMonths 15 = .ok s ∧ firstOfJune.subtractMonths 15 = .ok t ∧
        s.atMost t = true) ∧
    (1 ≤ lastOfMay.targetYear 16 ∧ ¬lastOfMay.day ≤ lastOfFebruary.monthLength ∧
      ∃ t u, lastOfFebruary.subtractMonths 1 = .ok t ∧ lastOfMay.subtractMonths 16 = .ok u ∧
        t.atMost u = true ∧ t ≠ u) ∧
    Period.NamesLastMonth " Last-Month" ∧
      ∃ first, Period.ofToken " Last-Month" lastOfMay = .ok (some ⟨first, lastOfMay⟩) ∧
        (⟨first, lastOfMay⟩ : Period).contains lastOfMay = true := by
  have hyear : 1 ≤ lastOfMay.targetYear 16 := by decide
  have htoken : Period.NamesLastMonth " Last-Month" := by decide +kernel
  obtain ⟨-, hback, hmono, hadd, hwindow⟩ := months_back lastOfMay firstOfJune 15 1
  have hfirst : lastOfMay.subtractMonths 15 = .ok lastOfFebruary := rfl
  refine ⟨⟨hfirst, hback _ hfirst⟩, ⟨by decide, by decide, hmono (by decide) (by decide)⟩,
    ⟨hyear, by decide, ?_⟩, htoken, ?_⟩
  · obtain ⟨s, t, u, hs, ht, hu, hle, -⟩ := hadd hyear
    cases hfirst.symm.trans hs
    refine ⟨t, u, ht, hu, hle, ?_⟩
    rintro rfl
    have hdiffer : lastOfFebruary.subtractMonths 1 ≠ lastOfMay.subtractMonths 16 := by decide
    exact hdiffer (ht.trans hu.symm)
  · obtain ⟨first, hperiod, hholds, -⟩ := hwindow _ htoken (by decide)
    exact ⟨first, hperiod, hholds⟩

end OutlineSearch
