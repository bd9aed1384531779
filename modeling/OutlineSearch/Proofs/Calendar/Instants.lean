import OutlineSearch.Proofs.Calendar.Days
import OutlineSearch.Proofs.Calendar.IsoTexts
import OutlineSearch.Proofs.Number.Exactness
import OutlineSearch.Proofs.Text.Blanks

/-!
# The instants that texts spell

A date stands for its midnight, the body of a scheduling note for its date and time, and a moment in
ISO form for its time less its offset. Each of these texts is read as the exact number of
milliseconds of its instant, so that two of them are in the order of their instants.
-/

namespace OutlineSearch

open OutlineSearch.Text OutlineSearch.Number OutlineSearch.Spelling

/-! ### Instants -/

theorem Date.dayNumber_pos (d : Date) : 1 ≤ d.dayNumber :=
  Nat.le_trans d.day_range.1 (Nat.le_add_left _ _)

theorem Date.dayNumber_le (d : Date) : d.dayNumber ≤ 3652059 := by
  have hyear : daysBeforeYear d.year + daysInYear d.year ≤ daysBeforeYear 10000 :=
    add_daysInYear_le d.year_range.1 (Nat.lt_succ_of_le d.year_range.2)
  have hlast : daysBeforeYear 10000 = 3652059 := rfl
  have hday := d.dayOfYear_le
  rw [dayNumber]
  omega

namespace Moment

/-- The seconds from the start of 1970 to a time of a day in universal time. -/
def secondsAt (d : Date) (t : ClockTime) : Int :=
  ((d.dayNumber : Int) - epochDay) * 86400 + ((t.hour * 60 + t.minute) * 60 + t.second : Nat)

/-- The seconds are counted from the start of 1970. -/
example : secondsAt ⟨1970, 1, 1, by decide, by decide, by decide⟩ .midnight = 0 := rfl

theorem epochMicros_eq (d : Date) {t : ClockTime} (ht : t.micro = 0) (offset : Option Int) :
    epochMicros ⟨d, t, offset⟩ = secondsAt d t * 1000000 - offset.getD 0 := by
  simp only [epochMicros, secondsAt, ClockTime.micros, ht]
  push_cast
  ring

/-- A whole number of seconds is taken to milliseconds without rounding. -/
theorem epochMillis_eq {m : Moment} {t : Int} (hm : m.epochMicros = t * 1000000)
    (ht : (t * 1000).natAbs ≤ 2 ^ 53) :
    m.epochMillis = .finite (t * 1000 * Binary64.stepsPerOne) := by
  have hseconds : t.natAbs ≤ 2 ^ 53 := by omega
  have hratio : Binary64.ofRatio (t * 1000000) 1000000 = .finite (t * Binary64.stepsPerOne) :=
    Binary64.ofRatio_mul (d := 1000000) hseconds (by decide)
  have hthousand : Binary64.ofInt 1000 = .finite (1000 * Binary64.stepsPerOne) :=
    Binary64.ofInt_of_le (by decide)
  rw [epochMillis, hm, hratio, hthousand, Binary64.mul_of_pos (by decide) ht]

/-- The instants of the years 1 to 9999. -/
theorem secondsAt_range (d : Date) {t : ClockTime}
    (ht : t.hour < 24 ∧ t.minute < 60 ∧ t.second < 60) :
    -62135596800 ≤ secondsAt d t ∧ secondsAt d t < 253402300800 := by
  have hfirst := d.dayNumber_pos
  have hlast := d.dayNumber_le
  have hepoch : epochDay = 719163 := rfl
  rw [secondsAt]
  omega

theorem epochMicros_ofDate (d : Date) :
    (ofDate d).epochMicros = secondsAt d .midnight * 1000000 := by
  rw [ofDate, epochMicros_eq d rfl, Option.getD_none, Int.sub_zero]

end Moment

/-! ### Texts of instants -/

/-- Digits with a mark behind them that is no point are not the text of a number. -/
theorem Spelling.isNumberShape_places (width n : Nat) {c : Char} (hdecimal : isDecimal c = false)
    (hpoint : c ≠ '.') (rest : List Char) :
    isNumberShape (places (width + 1) n ++ c :: rest) = false := by
  have hdigits : ∀ d ∈ places (width + 1) n, isDecimal d = true :=
    fun d hd ↦ isDecimal_of_isDigit (isDigit_of_mem_places hd)
  have hdrop : (places (width + 1) n ++ c :: rest).dropWhile isDecimal = c :: rest := by
    rw [List.dropWhile_append_of_pos hdigits,
      List.dropWhile_cons_of_neg (Bool.eq_false_iff.1 hdecimal)]
  obtain ⟨d, front, hfront⟩ : ∃ d front, places (width + 1) n = d :: front :=
    List.exists_cons_of_length_eq_add_one (length_places (width + 1) n)
  have hminus : d ≠ '-' := by
    rintro rfl
    exact absurd (hdigits '-' (hfront ▸ List.mem_cons_self)) (by decide)
  rw [hfront, List.cons_append] at hdrop ⊢
  unfold isNumberShape
  split
  · next heq => exact absurd (List.cons.inj heq).1 hminus
  · simp only [hdrop]
    split
    · next heq => cases heq
    · next heq => exact absurd (List.cons.inj heq).1 hpoint
    · rfl

/-- The text ends with something else than a blank. -/
def Closed (s : List Char) : Prop := ∃ c, s.getLast? = some c ∧ isBlank c = false

theorem Closed.append {s : List Char} (front : List Char) (h : Closed s) : Closed (front ++ s) := by
  obtain ⟨c, hc, hblank⟩ := h
  exact ⟨c, by rw [List.getLast?_append, hc, Option.some_or], hblank⟩

theorem Closed.cons {s : List Char} (c : Char) (h : Closed s) : Closed (c :: s) := h.append [c]

theorem Spelling.WeekdayName.closed (name : WeekdayName) : Closed name.letters := by
  have hne : name.letters ≠ [] :=
    List.ne_nil_of_length_pos (Nat.lt_of_lt_of_le (by decide) name.two_le)
  obtain ⟨c, hc⟩ := Option.isSome_iff_exists.1 (List.getLast?_isSome.2 hne)
  exact ⟨c, hc, isBlank_of_isLatin (name.latin (List.mem_of_getLast? hc))⟩

theorem WrittenTime.closed (t : WrittenTime) : Closed t.text := by
  obtain ⟨hour, minute, second⟩ := t
  cases second with
  | none => exact ⟨_, rfl, isBlank_place minute⟩
  | some second => exact ⟨_, rfl, isBlank_place second⟩

/-- The mark of a repeated date: it starts with neither a blank nor a digit, and it does not end
with a blank. -/
structure Mark where
  text : List Char
  ne_nil : text ≠ []
  bare : Bare text
  first {c : Char} {rest : List Char} (h : text = c :: rest) : isDecimal c = false

/-- What stands at the end of a note: nothing, or a mark behind a blank. -/
def Mark.behind : Option Mark → List Char
  | none => []
  | some mark => ' ' :: mark.text

namespace Mark

theorem closed (mark : Mark) : Closed mark.text := by
  obtain ⟨c, hc⟩ := Option.isSome_iff_exists.1 (List.getLast?_isSome.2 mark.ne_nil)
  obtain ⟨front, htext⟩ := List.getLast?_eq_some_iff.1 hc
  exact ⟨c, hc, mark.bare.last htext⟩

theorem separate_behind (mark : Option Mark) : Separate (behind mark) := by
  cases mark with
  | none => exact .inl rfl
  | some mark => exact .inr ⟨_, rfl⟩

theorem clockText?_behind (mark : Option Mark) : clockText? (behind mark) = none := by
  cases mark with
  | none => rfl
  | some mark =>
    obtain ⟨c, rest, htext⟩ := List.exists_cons_of_ne_nil mark.ne_nil
    rw [behind, htext]
    exact clockText?_of_not_isDecimal (mark.bare.first htext) (mark.first htext) rest

end Mark

/-- The texts of an instant, which is given in seconds from the start of 1970. -/
inductive InstantText : List Char → Int → Prop where
  | hyphened (d : Date) : InstantText d.hyphened (Moment.secondsAt d .midnight)
  | monthFirst (d : Date) : InstantText d.monthFirst (Moment.secondsAt d .midnight)
  | slashed (d : Date) : InstantText d.slashed (Moment.secondsAt d .midnight)
  | note (d : Date) (name : WeekdayName) (mark : Option Mark) :
    InstantText (d.hyphened ++ ' ' :: (name.letters ++ Mark.behind mark))
      (Moment.secondsAt d .midnight)
  | timedNote (d : Date) (name : WeekdayName) (hour : Fin 24) (minute : Fin 60)
    (mark : Option Mark) :
    InstantText
      (d.hyphened ++ ' ' :: (name.letters ++ ' ' :: (clock hour minute ++ Mark.behind mark)))
      (Moment.secondsAt d ⟨hour, minute, 0, 0⟩)
  | iso (d : Date) (t : WrittenTime) (z : Zone) :
    InstantText (isoText d t z) (Moment.secondsAt d t.time - z.seconds)

/-- A string spells an instant when it is one of its texts, perhaps with blanks around it. -/
def Spells (s : String) (t : Int) : Prop :=
  ∃ before text after, s.toList = before ++ text ++ after ∧ (∀ c ∈ before, isBlank c = true) ∧
    (∀ c ∈ after, isBlank c = true) ∧ InstantText text t

namespace InstantText

variable {s : List Char} {t : Int}

/-- The text of an instant starts with two or four digits and a mark between fields. -/
theorem exists_places (h : InstantText s t) : ∃ width n c rest,
    s = places (width + 1) n ++ c :: rest ∧ (c = '-' ∨ c = '/') := by
  have hhyphened (d : Date) (rest : List Char) : ∃ width n c behind,
      d.hyphened ++ rest = places (width + 1) n ++ c :: behind ∧ (c = '-' ∨ c = '/') :=
    ⟨3, d.year, '-', _, rfl, .inl rfl⟩
  cases h with
  | hyphened d => exact ⟨3, d.year, '-', _, rfl, .inl rfl⟩
  | monthFirst d => exact ⟨1, d.month, '/', _, rfl, .inr rfl⟩
  | slashed d => exact ⟨3, d.year, '/', _, rfl, .inr rfl⟩
  | note d => exact hhyphened d _
  | timedNote d => exact hhyphened d _
  | iso d => exact hhyphened d _

theorem isNumberShape_eq_false (h : InstantText s t) : isNumberShape s = false := by
  obtain ⟨width, n, c, rest, rfl, hc⟩ := h.exists_places
  rcases hc with rfl | rfl
  · exact isNumberShape_places width n rfl (by decide) rest
  · exact isNumberShape_places width n rfl (by decide) rest

theorem closed (h : InstantText s t) : Closed s := by
  cases h with
  | hyphened d => exact ⟨_, rfl, isBlank_place d.day⟩
  | monthFirst d => exact ⟨_, rfl, isBlank_place d.year⟩
  | slashed d => exact ⟨_, rfl, isBlank_place d.day⟩
  | note d name mark =>
    refine Closed.append _ (Closed.cons _ ?_)
    cases mark with
    | none =>
      rw [Mark.behind, List.append_nil]
      exact name.closed
    | some mark => exact Closed.append _ (Closed.cons _ mark.closed)
  | timedNote d name hour minute mark =>
    refine Closed.append _ (Closed.cons _ (Closed.append _ (Closed.cons _ ?_)))
    cases mark with
    | none => exact ⟨_, rfl, isBlank_place minute⟩
    | some mark => exact Closed.append _ (Closed.cons _ mark.closed)
  | iso d t z =>
    refine Closed.append _ (Closed.cons _ ?_)
    cases z with
    | naive =>
      rw [Zone.text, List.append_nil]
      exact t.closed
    | zulu => exact Closed.append _ ⟨'Z', rfl, rfl⟩
    | offset behind hours minutes => exact Closed.append _ ⟨_, rfl, isBlank_place minutes⟩

/-- No blank stands at either end of the text of an instant. -/
theorem bare (h : InstantText s t) : Bare s where
  first {c rest} hs := by
    obtain ⟨width, n, d, behind, heq, -⟩ := h.exists_places
    obtain ⟨a, front, hfront⟩ : ∃ a front, places (width + 1) n = a :: front :=
      List.exists_cons_of_length_eq_add_one (length_places (width + 1) n)
    rw [hs, hfront] at heq
    cases heq
    exact isBlank_of_isDecimal (isDecimal_of_isDigit
      (isDigit_of_mem_places (hfront ▸ List.mem_cons_self)))
  last {c front} hs := by
    obtain ⟨d, hd, hblank⟩ := h.closed
    rw [hs, List.getLast?_concat] at hd
    cases hd
    exact hblank

/-- The moment that the text of an instant spells. -/
theorem exists_moment? (h : InstantText s t) :
    ∃ m, Spelling.moment? s = some m ∧ m.epochMicros = t * 1000000 := by
  cases h with
  | hyphened d =>
    refine ⟨.ofDate d, ?_, Moment.epochMicros_ofDate d⟩
    rw [Spelling.moment?, Pattern.readDate?_hyphened]
  | monthFirst d =>
    refine ⟨.ofDate d, ?_, Moment.epochMicros_ofDate d⟩
    rw [Spelling.moment?, Pattern.readDate?_monthFirst]
  | slashed d =>
    refine ⟨.ofDate d, ?_, Moment.epochMicros_ofDate d⟩
    rw [Spelling.moment?, Pattern.readDate?_slashed]
  | note d name mark =>
    refine ⟨.ofDate d, ?_, Moment.epochMicros_ofDate d⟩
    rw [moment?_note d name (Mark.separate_behind mark), Mark.clockText?_behind]
    exact Pattern.read?_withClock d (by decide) (by decide)
  | timedNote d name hour minute mark =>
    refine ⟨_, ?_, (Moment.epochMicros_eq d rfl none).trans (Int.sub_zero _)⟩
    rw [moment?_note d name (.inr ⟨_, rfl⟩), clockText?_clock]
    exact Pattern.read?_withClock d hour.2 minute.2
  | iso d t z =>
    refine ⟨⟨d, t.time, z.micros?⟩, moment?_isoText d t z, ?_⟩
    rw [Moment.epochMicros_eq d rfl, z.micros?_getD, Int.sub_mul]

/-- The milliseconds of an instant are few enough to be exact. -/
theorem natAbs_le (h : InstantText s t) : (t * 1000).natAbs ≤ 2 ^ 53 := by
  have hmidnight (d : Date) : (Moment.secondsAt d .midnight * 1000).natAbs ≤ 2 ^ 53 := by
    have hrange := Moment.secondsAt_range d (t := .midnight) (by decide)
    omega
  cases h with
  | hyphened d => exact hmidnight d
  | monthFirst d => exact hmidnight d
  | slashed d => exact hmidnight d
  | note d => exact hmidnight d
  | timedNote d name hour minute =>
    have hrange := Moment.secondsAt_range d (t := ⟨hour, minute, 0, 0⟩)
      ⟨hour.2, minute.2, (by decide : 0 < 60)⟩
    omega
  | iso d t z =>
    have hrange := Moment.secondsAt_range d t.time_range
    have hzone := z.seconds_range
    omega

end InstantText

/-! ### Reading -/

/-- A string that spells an instant is read as its milliseconds. -/
theorem Spells.millis_eq {s : String} {t : Int} (h : Spells s t) :
    millis (.text s) = .ok (some (.finite (t * 1000 * Binary64.stepsPerOne))) := by
  obtain ⟨before, text, after, hs, hbefore, hafter, htext⟩ := h
  obtain ⟨m, hm, hmicros⟩ := htext.exists_moment?
  have hne : text.isEmpty = false := by
    obtain ⟨c, hc, -⟩ := htext.closed
    cases text with
    | nil => cases hc
    | cons c text => rfl
  have htrim : trim s.toList = text := by rw [hs, htext.bare.trim_padded hbefore hafter]
  unfold millis
  dsimp only
  rw [htrim, hne, htext.isNumberShape_eq_false, if_neg Bool.false_ne_true,
    if_neg Bool.false_ne_true, hm, Option.map_some, Moment.epochMillis_eq hmicros htext.natAbs_le]

/-- Any two texts of instants are read as the milliseconds of these, which are equal and in order
exactly when the instants are. -/
theorem millis_spelled {s₁ s₂ : String} {t₁ t₂ : Int} (h₁ : Spells s₁ t₁) (h₂ : Spells s₂ t₂) :
    ∃ x₁ x₂, millis (.text s₁) = .ok (some x₁) ∧ millis (.text s₂) = .ok (some x₂) ∧
      x₁ = .finite (t₁ * 1000 * Binary64.stepsPerOne) ∧
      x₂ = .finite (t₂ * 1000 * Binary64.stepsPerOne) ∧
      (x₁.equals x₂ = true ↔ t₁ = t₂) ∧ (x₁.less x₂ = true ↔ t₁ < t₂) := by
  have hone : (0 : Int) < Binary64.stepsPerOne := Int.natCast_pos.2 stepsPerOne_pos
  refine ⟨_, _, h₁.millis_eq, h₂.millis_eq, rfl, rfl, ?_, ?_⟩
  · rw [Binary64.equals_finite, beq_iff_eq, Int.mul_eq_mul_right_iff hone.ne',
      Int.mul_eq_mul_right_iff (by decide)]
  · rw [Binary64.less_finite, decide_eq_true_iff, Int.mul_lt_mul_right hone]
    omega

/-- The short name of Thursday. -/
def thursday : WeekdayName where
  letters := ['T', 'h', 'u']
  latin h := List.all_eq_true.1 (by decide) _ h
  two_le := by decide
  le_three := by decide

/-- The mark of a date that is repeated each day, counted from when it is done. -/
def fromDoneDaily : Mark where
  text := ['.', '+', '1', 'd']
  ne_nil := List.cons_ne_nil _ _
  bare := .of_forall (List.all_iff_forall_prop.1 (by decide))
  first h := by
    cases h
    decide

/-- The last minute of a leap day in a note that is repeated, and a moment on the next day, ahead of
universal time and behind a blank. -/
theorem leapDay_millis_spelled : Spells "2024-02-29 Thu 23:59 .+1d" 1709251140 ∧
    Spells " 2024-03-01T01:00:30+01:00" 1709251230 ∧
    ∃ x₁ x₂, millis (.text "2024-02-29 Thu 23:59 .+1d") = .ok (some x₁) ∧
      millis (.text " 2024-03-01T01:00:30+01:00") = .ok (some x₂) ∧
      x₁ = .finite (1709251140 * 1000 * Binary64.stepsPerOne) ∧
      x₂ = .finite (1709251230 * 1000 * Binary64.stepsPerOne) ∧
      (x₁.equals x₂ = true ↔ (1709251140 : Int) = 1709251230) ∧
      (x₁.less x₂ = true ↔ (1709251140 : Int) < 1709251230) := by
  have hnote : Spells "2024-02-29 Thu 23:59 .+1d" 1709251140 :=
    ⟨[], _, [], rfl, List.forall_mem_nil _, List.forall_mem_nil _,
      .timedNote ⟨2024, 2, 29, by decide, by decide, by decide⟩ thursday 23 59 (some fromDoneDaily)⟩
  have hmoment : Spells " 2024-03-01T01:00:30+01:00" 1709251230 := by
    have htext := InstantText.iso ⟨2024, 3, 1, by decide, by decide, by decide⟩ ⟨1, 0, some 30⟩
      (.offset false 1 0)
    rw [show Moment.secondsAt _ _ - _ = 1709251230 by decide] at htext
    exact ⟨[' '], _, [], rfl, List.forall_mem_singleton.2 rfl, List.forall_mem_nil _, htext⟩
  exact ⟨hnote, hmoment, millis_spelled hnote hmoment⟩

end OutlineSearch
