import OutlineSearch.Calendar.Spelling
import OutlineSearch.Proofs.Calendar.Readings

/-!
# The numbers of journal days

A number is a journal day when its digits are a year from 1000 on, a month and a day. In a number of
eight digits month and day have two places each; a shorter one may have one place for the month, for
the day or for both, and where it could be read in two ways, two places for the month come first.
-/

namespace OutlineSearch

open OutlineSearch.Text OutlineSearch.Number OutlineSearch.Pattern

/-- The number of eight digits that names a day. -/
def Date.eightDigits (d : Date) : Nat := d.year * 10000 + d.month * 100 + d.day

/-- The numbers that are read as a day: its number of eight digits and those in which the month or
the day has one place. -/
inductive NumberOfDay (n : Int) (d : Date) : Prop where
  | full (h : n = d.eightDigits)
  | shortDay (hday : d.day ≤ 9) (h : n = (d.year * 1000 + d.month * 10 + d.day : Nat))
  | shortMonth (hmonth : d.month ≤ 9) (hfirst : d.month = 1 → d.day % 10 = 0 ∨ 30 ≤ d.day)
    (h : n = (d.year * 1000 + d.month * 100 + d.day : Nat))
  | short (hmonth : d.month ≤ 9) (hday : d.day ≤ 9)
    (h : n = (d.year * 100 + d.month * 10 + d.day : Nat))

/-! ### Numbers that are read -/

/-- The digits of a number that starts with a year. -/
theorem toList_toString_year {year month day a b : Nat} (hyear : 1000 ≤ year)
    (hfour : year < 10 ^ 4) (hmonth : month < 10 ^ a) (hday : day < 10 ^ b) :
    (toString (((year * 10 ^ a + month) * 10 ^ b + day : Nat) : Int)).toList =
      places 4 year ++ (places a month ++ places b day) := by
  have hlow : 10 ^ (a + b + 3) ≤ (year * 10 ^ a + month) * 10 ^ b + day := by
    calc 10 ^ (a + b + 3) = 1000 * 10 ^ a * 10 ^ b := by ring
      _ ≤ (year * 10 ^ a + month) * 10 ^ b + day := by
        refine Nat.le_add_right_of_le (Nat.mul_le_mul_right _ (Nat.le_add_right_of_le ?_))
        exact Nat.mul_le_mul_right _ hyear
  have hhigh : (year * 10 ^ a + month) * 10 ^ b + day < 10 ^ (a + b + 3 + 1) := by
    rw [show a + b + 3 + 1 = (4 + a) + b by omega]
    exact mul_add_lt (mul_add_lt hfour hmonth) hday
  rw [Json.toList_toString, if_neg (by omega), List.nil_append, Int.natAbs_natCast,
    toDigits_eq_places hlow hhigh, show a + b + 3 + 1 = (4 + a) + b by omega,
    places_mul_add _ hday, places_mul_add _ hmonth, List.append_assoc]

namespace Pattern

variable {f : Fields} {m n : Nat}

theorem day_places_one (hlow : 1 ≤ n) (hhigh : n ≤ 9) :
    ∃ others, day (places 1 n) = (n, []) :: others := by
  interval_cases n <;> exact ⟨_, rfl⟩

/-- A month that no second digit can follow is read with one place. -/
theorem month_places_one (hlow : 2 ≤ m) (hhigh : m ≤ 9) (n : Nat) :
    ∃ others, month (places 1 m ++ places 2 n) = (m, places 2 n) :: others := by
  interval_cases m <;> exact ⟨_, rfl⟩

/-- A month in one place and a day in two are read so when two places for the month leave no day. -/
theorem head?_shortMonth (hm : 1 ≤ m) (hm' : m ≤ 9) (hn : 1 ≤ n) (hn' : n ≤ 31)
    (hfirst : m = 1 → n % 10 = 0 ∨ 30 ≤ n) :
    (readings f [.month, .day] (places 1 m ++ places 2 n)).head? =
      some ({ f with month := m, day := n }, []) := by
  rcases Nat.lt_or_ge 1 m with hm₂ | hone
  · refine head?_flatMap (month_places_one hm₂ hm' n).choose_spec ?_
    rw [← List.append_nil (places 2 n)]
    exact head?_day hn hn' rfl
  · obtain rfl : m = 1 := Nat.le_antisymm hone hm
    have hdays : n = 10 ∨ n = 20 ∨ n = 30 ∨ n = 31 := by
      have := hfirst rfl
      omega
    rcases hdays with rfl | rfl | rfl | rfl <;> rfl

/-- Two places for the month and one for the day are read so. -/
theorem head?_shortDay (hm : 1 ≤ m) (hm' : m ≤ 12) (hn : 1 ≤ n) (hn' : n ≤ 9) :
    (readings f [.month, .day] (places 2 m ++ places 1 n)).head? =
      some ({ f with month := m, day := n }, []) :=
  head?_month hm hm' (head?_flatMap (day_places_one hn hn').choose_spec rfl)

/-- A month and a day in one place each are read so, since two places for the month leave no day. -/
theorem head?_short (hm : 1 ≤ m) (hm' : m ≤ 9) (hn : 1 ≤ n) (hn' : n ≤ 9) :
    (readings f [.month, .day] (places 1 m ++ places 1 n)).head? =
      some ({ f with month := m, day := n }, []) := by
  interval_cases m <;> interval_cases n <;> rfl

end Pattern

/-- A number of a day is read as its day. -/
theorem NumberOfDay.head? {n : Int} {d : Date} (h : NumberOfDay n d) (hyear : 1000 ≤ d.year) :
    (readings {} compact (toString n).toList).head? = some (Fields.onDay {} d, []) := by
  have hmonth : d.month < 10 ^ 2 := Nat.lt_of_le_of_lt d.month_range.2 (by decide)
  have hday : d.day < 10 ^ 2 := Nat.lt_of_le_of_lt d.day_le (by decide)
  have htext {a b : Nat} (hmonth : d.month < 10 ^ a) (hday : d.day < 10 ^ b)
      (hn : n = (((d.year * 10 ^ a + d.month) * 10 ^ b + d.day : Nat) : Int))
      (hrest : (readings { year := d.year } [.month, .day]
        (places a d.month ++ places b d.day)).head? = some (Fields.onDay {} d, [])) :
      (readings {} compact (toString n).toList).head? = some (Fields.onDay {} d, []) := by
    rw [hn, toList_toString_year hyear d.year_lt hmonth hday, compact, readings_year d.year_lt]
    exact hrest
  cases h with
  | full h =>
    refine htext hmonth hday (by rw [h, Date.eightDigits]; omega) ?_
    refine head?_month d.month_range.1 d.month_range.2 ?_
    rw [← List.append_nil (places 2 d.day)]
    exact head?_day d.day_range.1 d.day_le rfl
  | shortDay hd h =>
    exact htext (b := 1) hmonth (by omega) (by rw [h]; omega)
      (head?_shortDay d.month_range.1 d.month_range.2 d.day_range.1 hd)
  | shortMonth hm hfirst h =>
    exact htext (a := 1) (by omega) hday (by rw [h]; omega)
      (head?_shortMonth d.month_range.1 hm d.day_range.1 d.day_le hfirst)
  | short hm hd h =>
    exact htext (a := 1) (b := 1) (by omega) (by omega) (by rw [h]; omega)
      (head?_short d.month_range.1 hm d.day_range.1 hd)

/-! ### Only these numbers -/

/-- What is read is a number in four places and two in one or two places each. -/
theorem exists_of_mem_compact {s : List Char} {f : Fields} (hs : ∀ c ∈ s, c.isDigit = true)
    (h : (f, []) ∈ readings {} compact s) : ∃ year month day, s = year ++ (month ++ day) ∧
      year.length = 4 ∧ ofDigits (decimals year) = f.year ∧
      (month.length = 1 ∨ month.length = 2) ∧ ofDigits (decimals month) = f.month ∧
      (day.length = 1 ∨ day.length = 2) ∧ ofDigits (decimals day) = f.day := by
  simp only [compact, readings, List.mem_flatMap, List.mem_singleton, Prod.exists,
    Prod.mk.injEq] at h
  obtain ⟨y, rest, hy, m, rest', hm, n, rest'', hn, rfl, rfl⟩ := h
  obtain ⟨year, rfl, hyear, hyear'⟩ := of_mem_fourDigits hy
  obtain ⟨month, rfl, hmonth, hmonth'⟩ := reads_of_mem_month hm
  have hblank : ∀ rest, rest' ≠ ' ' :: rest := by
    rintro rest rfl
    cases hs ' ' (by simp)
  obtain ⟨day, rfl, hday, hday'⟩ := reads_of_mem_day hblank hn
  rw [List.append_nil]
  exact ⟨year, month, day, rfl, hyear, hyear', hmonth, hmonth', hday, hday'⟩

/-- One place for January is not preferred to two places for a month with a day behind them. -/
theorem head?_january {f : Fields} {n : Nat} (hn : n < 30) (hplace : n % 10 ≠ 0) :
    (readings f [.month, .day] (places 1 1 ++ places 2 n)).head? =
      some ({ f with month := 10 + n / 10, day := n % 10 }, []) := by
  have htext : places 1 1 ++ places 2 n = places 2 (10 + n / 10) ++ places 1 (n % 10) := by
    interval_cases n <;> rfl
  rw [htext]
  exact head?_shortDay (by omega) (by omega) (by omega) (by omega)

theorem readings_compact_of_neg {n : Int} (h : n < 0) :
    readings {} compact (toString n).toList = [] := by
  have hfour (rest : List Char) : fourDigits ('-' :: rest) = [] := by
    unfold fourDigits
    split
    · next heq =>
      cases heq
      rfl
    · rfl
  rw [Json.toList_toString, if_pos h, List.singleton_append, compact, readings, hfour]
  rfl

/-- The digits of a number that is read as a day. -/
theorem exists_of_head? {n : Int} {f : Fields}
    (h : (readings {} compact (toString n).toList).head? = some (f, [])) :
    ∃ a b, (a = 1 ∨ a = 2) ∧ (b = 1 ∨ b = 2) ∧ 1000 ≤ f.year ∧ f.month < 10 ^ a ∧ f.day < 10 ^ b ∧
      n = (((f.year * 10 ^ a + f.month) * 10 ^ b + f.day : Nat) : Int) := by
  have hpos : ¬n < 0 := fun hneg ↦ by
    rw [readings_compact_of_neg hneg] at h
    cases h
  rw [Json.toList_toString, if_neg hpos, List.nil_append] at h
  obtain ⟨year, month, day, htext, hyear, hyear', hmonth, hmonth', hday, hday'⟩ :=
    exists_of_mem_compact (Json.isDigit_toDigits _) (List.mem_of_head? h)
  have hlt (s : List Char) : ofDigits (decimals s) < 10 ^ s.length :=
    length_decimals s ▸ ofDigits_lt lt_of_mem_decimals
  have hvalue : (f.year * 10 ^ month.length + f.month) * 10 ^ day.length + f.day = n.natAbs := by
    rw [← ofDigits_decimals_toDigits n.natAbs, htext, decimals_append, decimals_append,
      ofDigits_append, ofDigits_append, List.length_append, length_decimals, length_decimals,
      hyear', hmonth', hday']
    ring
  have hlong : 10 ^ (3 + month.length + day.length) ≤ n.natAbs := by
    refine Nat.le_of_not_lt fun hless ↦ ?_
    have hlength := (Nat.length_toDigits_le_iff (by decide) (by omega)).2 hless
    rw [htext, List.length_append, List.length_append, hyear] at hlength
    omega
  have hm := hlt month
  have hd := hlt day
  rw [hmonth'] at hm
  rw [hday'] at hd
  refine ⟨month.length, day.length, hmonth, hday, ?_, hm, hd, by rw [hvalue]; omega⟩
  refine Nat.le_of_not_lt fun hless ↦ Nat.not_lt.2 hlong ?_
  rw [← hvalue]
  exact mul_add_lt (mul_add_lt (show f.year < 10 ^ 3 from hless) hm) hd

/-- A number that is read as a day is a number of this day. -/
theorem NumberOfDay.of_head? {n : Int} {d : Date} {f : Fields}
    (h : (readings {} compact (toString n).toList).head? = some (f, []))
    (hyear : f.year = d.year) (hmonth : f.month = d.month) (hday : f.day = d.day) :
    1000 ≤ d.year ∧ NumberOfDay n d := by
  obtain ⟨a, b, ha, hb, hlow, hm, hd, hn⟩ := exists_of_head? h
  rw [hyear, hmonth, hday] at hn
  rw [hyear] at hlow
  rw [hmonth] at hm
  rw [hday] at hd
  refine ⟨hlow, ?_⟩
  rcases ha with rfl | rfl <;> rcases hb with rfl | rfl
  · exact .short (by omega) (by omega) (by omega)
  · refine .shortMonth (by omega) (fun hone ↦ ?_) (by omega)
    by_contra hnot
    rw [hn, toList_toString_year hlow d.year_lt hm hd, compact, readings_year d.year_lt, hone,
      head?_january (by omega) (by omega)] at h
    have hmonths := congrArg Fields.month (congrArg Prod.fst (Option.some.inj h))
    simp only [hmonth, hone] at hmonths
    omega
  · exact .shortDay (by omega) (by omega)
  · exact .full (by rw [hn, Date.eightDigits]; omega)

/-- A number is read as a day exactly when it is a number of this day, from the year 1000 on. -/
theorem Spelling.journalDay_eq_some_iff {n : Int} {d : Date} :
    journalDay n = some d ↔ 1000 ≤ d.year ∧ NumberOfDay n d := by
  constructor
  · intro h
    obtain ⟨m, hread, rfl⟩ := Option.map_eq_some_iff.1 h
    obtain ⟨f, hhead, hmoment⟩ := exists_of_read? hread
    obtain ⟨d, hd, rfl⟩ := Option.map_eq_some_iff.1 hmoment
    cases hdate : Date.of? f.year f.month f.day with
    | error e =>
      rw [hdate] at hd
      cases hd
    | ok d' =>
      rw [hdate] at hd
      cases hd
      obtain ⟨hyear, hmonth, hday⟩ := Date.of?_eq_ok hdate
      exact NumberOfDay.of_head? hhead hyear.symm hmonth.symm hday.symm
  · rintro ⟨hyear, h⟩
    rw [journalDay, read?_of_head? (h.head? hyear), moment?_onDay]
    rfl

/-- Of the numbers with less than six digits or more than seven, those of eight digits that name a
day are read as this day, and no others. -/
theorem Spelling.journalDay_eq_some_iff_eightDigits {n : Int} {d : Date}
    (h : n < 100000 ∨ 10000000 ≤ n) :
    journalDay n = some d ↔ 1000 ≤ d.year ∧ n = d.eightDigits := by
  have hyear := d.year_range.2
  have hmonth := d.month_range.2
  have hday := d.day_le
  rw [journalDay_eq_some_iff]
  refine and_congr_right fun hlow ↦ ⟨fun hn ↦ ?_, .full⟩
  cases hn with
  | full hn => exact hn
  | shortDay _ hn => omega
  | shortMonth _ _ hn => omega
  | short _ _ hn => omega

end OutlineSearch
