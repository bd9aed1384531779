import OutlineSearch.Calendar.Pattern
import OutlineSearch.Proofs.Calendar.Digits

/-!
# The first reading by a pattern

A field of two places is read as its number before it is read in any other way. So a text made of
such fields and of the marks between them is read by its pattern as what it spells, and the text
behind it is left over.
-/

namespace OutlineSearch

open OutlineSearch.Text OutlineSearch.Number

namespace Pattern

variable {f : Fields} {parts : List Part} {n : Nat} {s rest : List Char} {r : Fields × List Char}

/-! ### Fields -/

theorem fourDigits_places (h : n < 10 ^ 4) : fourDigits (places 4 n ++ rest) = [(n, rest)] := by
  have hdigit (k : Nat) : digitValue? (k % 10).digitChar = some (k % 10) :=
    digitValue?_digitChar (Nat.mod_lt k (by decide))
  show fourDigits ((n / 10 / 10 / 10 % 10).digitChar :: (n / 10 / 10 % 10).digitChar ::
    (n / 10 % 10).digitChar :: (n % 10).digitChar :: rest) = [(n, rest)]
  rw [fourDigits, hdigit, hdigit, hdigit, hdigit]
  simp only [List.cons.injEq, Prod.mk.injEq, and_true]
  omega

theorem month_places (hlow : 1 ≤ n) (hhigh : n ≤ 12) :
    ∃ others, month (places 2 n ++ rest) = (n, rest) :: others := by
  interval_cases n <;> exact ⟨_, rfl⟩

theorem day_places (hlow : 1 ≤ n) (hhigh : n ≤ 31) :
    ∃ others, day (places 2 n ++ rest) = (n, rest) :: others := by
  interval_cases n <;> exact ⟨_, rfl⟩

theorem hour_places (h : n < 24) : ∃ others, hour (places 2 n ++ rest) = (n, rest) :: others := by
  interval_cases n <;> exact ⟨_, rfl⟩

theorem minute_places (h : n < 60) :
    ∃ others, minute (places 2 n ++ rest) = (n, rest) :: others := by
  interval_cases n <;> exact ⟨_, rfl⟩

/-! ### What fields read -/

/-- What a field of one or two digits reads at the start of a text: their value, the rest being left
behind them. -/
def Reads (s : List Char) (n : Nat) (rest : List Char) : Prop :=
  ∃ front, s = front ++ rest ∧ (front.length = 1 ∨ front.length = 2) ∧ ofDigits (decimals front) = n

theorem reads_two {a b : Char} {x y : Nat} (ha : digitValue? a = some x)
    (hb : digitValue? b = some y) : Reads (a :: b :: rest) (x * 10 + y) rest := by
  refine ⟨[a, b], rfl, .inr rfl, ?_⟩
  simp [decimals, ofDigits, ha, hb]

theorem reads_one {a : Char} {x : Nat} (ha : digitValue? a = some x) :
    Reads (a :: rest) x rest := by
  refine ⟨[a], rfl, .inl rfl, ?_⟩
  simp [decimals, ofDigits, ha]

theorem digitValue?_of_range {a low high : Char} (hlow : '0' ≤ low) (hhigh : high ≤ '9')
    (h : low ≤ a ∧ a ≤ high) : digitValue? a = some (a.toNat - 48) := by
  have hzero : '0' ≤ a := Char.le_trans hlow h.1
  have hnine : a ≤ '9' := Char.le_trans h.2 hhigh
  exact digitValue?_of_isDigit (Char.isDigit_iff_toNat.2 ⟨hzero, hnine⟩)

theorem reads_of_mem_fixedFirst {first low high : Char} (hfirst : first.isDigit = true)
    (hlow : '0' ≤ low) (hhigh : high ≤ '9') (h : (n, rest) ∈ fixedFirst first low high s) :
    Reads s n rest := by
  unfold fixedFirst at h
  split at h
  · split at h
    · next hrange =>
      cases List.mem_singleton.1 h
      exact reads_two (digitValue?_of_isDigit (hrange.1 ▸ hfirst))
        (digitValue?_of_range hlow hhigh hrange.2)
    · cases h
  · cases h

theorem reads_of_mem_twoDigits {low high : Char} (hlow : '0' ≤ low) (hhigh : high ≤ '9')
    (h : (n, rest) ∈ twoDigits low high s) : Reads s n rest := by
  unfold twoDigits at h
  split at h
  · split at h
    · next hb =>
      split at h
      · next hrange =>
        cases List.mem_singleton.1 h
        exact reads_two (digitValue?_of_range hlow hhigh hrange) hb
      · cases h
    · cases h
  · cases h

theorem reads_of_mem_oneNonzero (h : (n, rest) ∈ oneNonzero s) : Reads s n rest := by
  unfold oneNonzero at h
  split at h
  · split at h
    · next hrange =>
      cases List.mem_singleton.1 h
      exact reads_one (digitValue?_of_range (by decide) (by decide) hrange)
    · cases h
  · cases h

theorem reads_of_mem_month (h : (n, rest) ∈ month s) : Reads s n rest := by
  simp only [month, List.mem_append] at h
  rcases h with (h | h) | h
  · exact reads_of_mem_fixedFirst rfl (by decide) (by decide) h
  · exact reads_of_mem_fixedFirst rfl (by decide) (by decide) h
  · exact reads_of_mem_oneNonzero h

theorem reads_of_mem_day (hs : ∀ rest, s ≠ ' ' :: rest) (h : (n, rest) ∈ day s) :
    Reads s n rest := by
  simp only [day, List.mem_append] at h
  rcases h with (((h | h) | h) | h) | h
  · exact reads_of_mem_fixedFirst rfl (by decide) (by decide) h
  · exact reads_of_mem_twoDigits (by decide) (by decide) h
  · exact reads_of_mem_fixedFirst rfl (by decide) (by decide) h
  · exact reads_of_mem_oneNonzero h
  · cases h

theorem of_mem_fourDigits (h : (n, rest) ∈ fourDigits s) :
    ∃ front, s = front ++ rest ∧ front.length = 4 ∧ ofDigits (decimals front) = n := by
  unfold fourDigits at h
  split at h
  · next a b c d behind =>
    split at h
    · next w x y z ha hb hc hd =>
      cases List.mem_singleton.1 h
      refine ⟨[a, b, c, d], rfl, rfl, ?_⟩
      simp only [decimals, ofDigits, List.map_cons, List.map_nil, List.foldl_cons, List.foldl_nil,
        ha, hb, hc, hd, Option.getD_some]
      omega
    · cases h
  · cases h

/-! ### Patterns -/

/-- The first way of reading a field goes on with the first reading of the text behind it. -/
theorem head?_flatMap {others readings : Readings} {g : Nat × List Char → List (Fields × List Char)}
    (hfield : readings = (n, rest) :: others) (hrest : (g (n, rest)).head? = some r) :
    (readings.flatMap g).head? = some r := by
  rw [hfield, List.flatMap_cons, List.head?_append, hrest, Option.some_or]

theorem readings_year (h : n < 10 ^ 4) :
    readings f (.year :: parts) (places 4 n ++ rest) =
      readings { f with year := n } parts rest := by
  rw [readings, fourDigits_places h, List.flatMap_singleton]

theorem readings_mark (c : Char) :
    readings f (.mark c :: parts) (c :: rest) = readings f parts rest := by
  rw [readings]
  exact if_pos rfl

theorem readings_mark_of_ne {c d : Char} (h : d ≠ c) :
    readings f (.mark c :: parts) (d :: rest) = [] := by
  rw [readings]
  exact if_neg h

theorem head?_month (hlow : 1 ≤ n) (hhigh : n ≤ 12)
    (h : (readings { f with month := n } parts rest).head? = some r) :
    (readings f (.month :: parts) (places 2 n ++ rest)).head? = some r :=
  head?_flatMap (month_places hlow hhigh).choose_spec h

theorem head?_day (hlow : 1 ≤ n) (hhigh : n ≤ 31)
    (h : (readings { f with day := n } parts rest).head? = some r) :
    (readings f (.day :: parts) (places 2 n ++ rest)).head? = some r :=
  head?_flatMap (day_places hlow hhigh).choose_spec h

theorem head?_hour (hhigh : n < 24)
    (h : (readings { f with hour := n } parts rest).head? = some r) :
    (readings f (.hour :: parts) (places 2 n ++ rest)).head? = some r :=
  head?_flatMap (hour_places hhigh).choose_spec h

theorem head?_minute (hhigh : n < 60)
    (h : (readings { f with minute := n } parts rest).head? = some r) :
    (readings f (.minute :: parts) (places 2 n ++ rest)).head? = some r :=
  head?_flatMap (minute_places hhigh).choose_spec h

/-- One blank in front of something else is passed over. -/
theorem readings_blanks {c : Char} (hc : isBlank c = false) :
    readings f (.blanks :: parts) (' ' :: c :: rest) = readings f parts (c :: rest) := by
  have hblanks : afterBlanks (' ' :: c :: rest) = [c :: rest] := by
    rw [afterBlanks, if_pos (by rfl), afterBlanks, if_neg (Bool.eq_false_iff.1 hc)]
    rfl
  rw [readings, hblanks, List.flatMap_singleton]

/-! ### Moments -/

/-- The moment of the fields that have been read, when they give a date. -/
def Fields.moment? (f : Fields) : Option Moment :=
  (Date.of? f.year f.month f.day).toOption.map fun d => ⟨d, ⟨f.hour, f.minute, 0, 0⟩, none⟩

theorem read?_of_head? (h : (readings {} parts s).head? = some (f, [])) :
    read? parts s = f.moment? := by
  obtain ⟨others, hs⟩ := List.head?_eq_some_iff.1 h
  rw [read?, hs]
  rfl

/-- A first reading that leaves something over is refused. -/
theorem read?_eq_none_of_head? {c : Char}
    (h : (readings {} parts s).head? = some (f, c :: rest)) : read? parts s = none := by
  obtain ⟨others, hs⟩ := List.head?_eq_some_iff.1 h
  rw [read?, hs]

theorem read?_eq_none (h : readings {} parts s = []) : read? parts s = none := by
  rw [read?, h]

theorem exists_of_read? {m : Moment} (h : read? parts s = some m) :
    ∃ f, (readings {} parts s).head? = some (f, []) ∧ f.moment? = some m := by
  unfold read? at h
  split at h
  · next f others hs => exact ⟨f, by rw [hs]; rfl, h⟩
  · cases h

end Pattern

/-! ### Dates -/

namespace Date

theorem daysInMonth_le (year month : Nat) : daysInMonth year month ≤ 31 := by
  unfold daysInMonth
  split
  · split <;> decide
  · split <;> decide

theorem of?_eq_ok {year month day : Nat} {d : Date} (h : of? year month day = .ok d) :
    d.year = year ∧ d.month = month ∧ d.day = day := by
  unfold of? at h
  split at h
  · split at h
    · split at h
      · cases h
        exact ⟨rfl, rfl, rfl⟩
      · cases h
    · cases h
  · split at h <;> cases h

theorem of?_self (d : Date) : of? d.year d.month d.day = .ok d := by
  simp [of?, d.year_range, d.month_range, d.day_range]

theorem year_lt (d : Date) : d.year < 10 ^ 4 := Nat.lt_succ_of_le d.year_range.2

theorem day_le (d : Date) : d.day ≤ 31 :=
  Nat.le_trans d.day_range.2 (daysInMonth_le d.year d.month)

/-- Year, month and day in their places, joined by hyphens. -/
def hyphened (d : Date) : List Char :=
  places 4 d.year ++ '-' :: (places 2 d.month ++ '-' :: places 2 d.day)

theorem length_hyphened (d : Date) : d.hyphened.length = 10 := rfl

theorem of_mem_hyphened {d : Date} {c : Char} (h : c ∈ d.hyphened) :
    c.isDigit = true ∨ c = '-' := by
  simp only [hyphened, List.mem_append, List.mem_cons] at h
  rcases h with h | rfl | h | rfl | h
  · exact .inl (isDigit_of_mem_places h)
  · exact .inr rfl
  · exact .inl (isDigit_of_mem_places h)
  · exact .inr rfl
  · exact .inl (isDigit_of_mem_places h)

theorem bare_hyphened (d : Date) : Bare d.hyphened := .of_forall fun c hc ↦ by
  rcases of_mem_hyphened hc with hdigit | rfl
  · exact isBlank_of_isDecimal (isDecimal_of_isDigit hdigit)
  · rfl

/-- Year, month and day in their places, joined by slashes. -/
def slashed (d : Date) : List Char :=
  places 4 d.year ++ '/' :: (places 2 d.month ++ '/' :: places 2 d.day)

/-- Month, day and year in their places, joined by slashes. -/
def monthFirst (d : Date) : List Char :=
  places 2 d.month ++ '/' :: (places 2 d.day ++ '/' :: places 4 d.year)

end Date

namespace Pattern

variable {f : Fields} {parts : List Part} {rest : List Char} {r : Fields × List Char}

/-- The fields with those of a date. -/
def Fields.onDay (f : Fields) (d : Date) : Fields :=
  { f with year := d.year, month := d.month, day := d.day }

theorem moment?_onDay (f : Fields) (d : Date) :
    (f.onDay d).moment? = some ⟨d, ⟨f.hour, f.minute, 0, 0⟩, none⟩ := by
  rw [Fields.moment?, Fields.onDay, Date.of?_self]
  rfl

variable {d : Date}

/-- The first reading of a date with the year in front, whatever the mark between its fields. -/
theorem head?_yearFirst (c : Char) (h : (readings (f.onDay d) parts rest).head? = some r) :
    (readings f (.year :: .mark c :: .month :: .mark c :: .day :: parts)
      (places 4 d.year ++ c :: (places 2 d.month ++ c :: (places 2 d.day ++ rest)))).head? =
        some r := by
  rw [readings_year d.year_lt, readings_mark]
  refine head?_month d.month_range.1 d.month_range.2 ?_
  rw [readings_mark]
  exact head?_day d.day_range.1 d.day_le h

theorem head?_hyphened (h : (readings (f.onDay d) parts rest).head? = some r) :
    (readings f (hyphens ++ parts) (d.hyphened ++ rest)).head? = some r := by
  simp only [hyphens, Date.hyphened, List.append_assoc, List.cons_append, List.nil_append]
  exact head?_yearFirst '-' h

theorem head?_slashed (h : (readings (f.onDay d) parts rest).head? = some r) :
    (readings f (slashes ++ parts) (d.slashed ++ rest)).head? = some r := by
  simp only [slashes, Date.slashed, List.append_assoc, List.cons_append, List.nil_append]
  exact head?_yearFirst '/' h

theorem head?_monthFirst (h : (readings (f.onDay d) parts rest).head? = some r) :
    (readings f (monthFirst ++ parts) (d.monthFirst ++ rest)).head? = some r := by
  simp only [monthFirst, Date.monthFirst, List.append_assoc, List.cons_append, List.nil_append]
  refine head?_month d.month_range.1 d.month_range.2 ?_
  rw [readings_mark]
  refine head?_day d.day_range.1 d.day_le ?_
  rw [readings_mark, readings_year d.year_lt]
  exact h

/-- Where another mark stands behind the year, no date is read. -/
theorem readings_year_of_ne {c d : Char} (h : d ≠ c) (hn : n < 10 ^ 4) :
    readings f (.year :: .mark c :: parts) (places 4 n ++ d :: rest) = [] := by
  rw [readings_year hn, readings_mark_of_ne h]

theorem readings_monthFirst_places (n : Nat) :
    readings f monthFirst (places 4 n ++ rest) = [] := by
  refine List.flatMap_eq_nil_iff.2 fun (month, behind) hmem ↦ ?_
  obtain ⟨front, hs, hlength, -⟩ := reads_of_mem_month hmem
  -- the month takes one or two of the four digits, so that no slash stands behind it
  match front, hlength with
  | [a], _ =>
    cases hs
    exact readings_mark_of_ne (place_ne rfl _)
  | [a, b], _ =>
    cases hs
    exact readings_mark_of_ne (place_ne rfl _)

theorem readings_hyphens_monthFirst (d : Date) : readings f hyphens d.monthFirst = [] := by
  have hfour : fourDigits d.monthFirst = [] := by
    show fourDigits (_ :: _ :: '/' :: _ :: _) = []
    rw [fourDigits]
    split
    · next hslash _ => cases hslash
    · rfl
  rw [hyphens, readings, hfour]
  rfl

/-- A date is read when its pattern reads it first and nothing stands behind it. -/
theorem read?_of_onDay {s : List Char}
    (h : (readings {} (parts ++ []) (s ++ [])).head? = some (Fields.onDay {} d, [])) :
    read? parts s = some (.ofDate d) := by
  rw [List.append_nil, List.append_nil] at h
  rw [read?_of_head? h, moment?_onDay]
  rfl

variable (d : Date)

theorem read?_hyphened : read? hyphens d.hyphened = some (.ofDate d) :=
  read?_of_onDay (head?_hyphened rfl)

theorem read?_slashed : read? slashes d.slashed = some (.ofDate d) :=
  read?_of_onDay (head?_slashed rfl)

theorem read?_monthFirst : read? monthFirst d.monthFirst = some (.ofDate d) :=
  read?_of_onDay (head?_monthFirst rfl)

theorem readDate?_hyphened : readDate? d.hyphened = some (.ofDate d) := by
  rw [readDate?, List.findSome?_cons, read?_hyphened]

theorem readDate?_monthFirst : readDate? d.monthFirst = some (.ofDate d) := by
  rw [readDate?, List.findSome?_cons, read?_eq_none (readings_hyphens_monthFirst d),
    List.findSome?_cons, read?_monthFirst]

theorem readDate?_slashed : readDate? d.slashed = some (.ofDate d) := by
  have hhyphens : read? hyphens d.slashed = none :=
    read?_eq_none (readings_year_of_ne (by decide) d.year_lt)
  have hmonthFirst : read? monthFirst d.slashed = none :=
    read?_eq_none (readings_monthFirst_places d.year)
  rw [readDate?, List.findSome?_cons, hhyphens, List.findSome?_cons, hmonthFirst,
    List.findSome?_cons, read?_slashed]

/-- A date with something behind it is no date. -/
theorem readDate?_hyphened_cons (c : Char) (rest : List Char) :
    readDate? (d.hyphened ++ c :: rest) = none := by
  have hhyphens : (readings {} (hyphens ++ []) (d.hyphened ++ c :: rest)).head? =
      some (Fields.onDay {} d, c :: rest) := head?_hyphened rfl
  have hyear (tail : List Char) : d.hyphened ++ tail = places 4 d.year ++
      '-' :: (places 2 d.month ++ '-' :: places 2 d.day ++ tail) := by
    simp [Date.hyphened]
  have hslashes : read? slashes (d.hyphened ++ c :: rest) = none := by
    rw [hyear]
    exact read?_eq_none (readings_year_of_ne (by decide) d.year_lt)
  have hmonthFirst : read? monthFirst (d.hyphened ++ c :: rest) = none := by
    rw [hyear]
    exact read?_eq_none (readings_monthFirst_places d.year)
  rw [List.append_nil] at hhyphens
  simp only [readDate?, List.findSome?_cons, List.findSome?_nil, read?_eq_none_of_head? hhyphens,
    hmonthFirst, hslashes]

/-- A date, a blank and a time are read together. -/
theorem read?_withClock {h m : Nat} (hh : h < 24) (hm : m < 60) :
    read? withClock (d.hyphened ++ ' ' :: (places 2 h ++ ':' :: places 2 m)) =
      some ⟨d, ⟨h, m, 0, 0⟩, none⟩ := by
  have hclock : (readings (Fields.onDay {} d) [.hour, .mark ':', .minute]
      (places 2 h ++ ':' :: places 2 m)).head? =
        some ({ Fields.onDay {} d with hour := h, minute := m }, []) := by
    refine head?_hour hh ?_
    rw [readings_mark, ← List.append_nil (places 2 m)]
    exact head?_minute hm rfl
  have hhead : (readings {} withClock
      (d.hyphened ++ ' ' :: (places 2 h ++ ':' :: places 2 m))).head? =
        some ({ Fields.onDay {} d with hour := h, minute := m }, []) := by
    refine head?_hyphened ?_
    rw [← hclock]
    exact congrArg List.head? (readings_blanks (isBlank_place _))
  rw [read?_of_head? hhead]
  exact moment?_onDay { hour := h, minute := m } d

end Pattern

end OutlineSearch
