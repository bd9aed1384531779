import OutlineSearch.Calendar.Spelling
import OutlineSearch.Proofs.Calendar.Readings
import OutlineSearch.Proofs.Text.Splitting
import OutlineSearch.Text.Utf8
import Mathlib.Data.Bool.AllAny

/-!
# Scheduling notes and moments in ISO form

The body of a scheduling note is a date and the short name of a weekday, with a time behind them or
none. What else stands behind it, such as the mark of a repeated date, is passed over. A date, a `T`
and a time, with an offset in hours and minutes, with a `Z` or with neither, are read as the moment
that they spell. A text of ASCII characters has one byte for each character, its code point.
-/

namespace OutlineSearch.Text

/-! ### Bytes in order -/

theorem toList_loop (bytes : ByteArray) (i : Nat) (front : List UInt8) :
    ByteArray.toList.loop bytes i front = front.reverse ++ bytes.data.toList.drop i := by
  fun_induction ByteArray.toList.loop bytes i front with
  | case1 i front hi ih =>
    have hget : bytes.get! i = bytes.data.toList[i] := by
      show bytes.data[i]! = _
      rw [getElem!_pos bytes.data i hi, Array.getElem_toList]
    rw [ih, List.drop_eq_getElem_cons hi, List.reverse_cons, List.append_assoc, hget]
    rfl
  | case2 i front hi =>
    rw [List.drop_eq_nil_of_le (Nat.le_of_not_lt hi), List.append_nil]

/-- The bytes of a text are those of its characters, one after the other. -/
theorem encode_ofList (s : List Char) :
    encode (String.ofList s) = s.flatMap String.utf8EncodeChar := by
  rw [encode, String.toUTF8, String.toByteArray_ofList, List.utf8Encode, ByteArray.toList,
    toList_loop, List.data_toByteArray]
  rfl

/-! ### One byte for each character -/

theorem utf8EncodeChar_ascii {c : Char} (h : c.toNat < 128) :
    String.utf8EncodeChar c = [c.val.toUInt8] := by
  refine String.utf8EncodeChar_eq_singleton ?_
  have hle : c.val ≤ 127 := UInt32.le_iff_toNat_le.2 (Nat.le_of_lt_succ h)
  exact if_pos hle

/-- The bytes of an ASCII text, each taken for a code point, are its characters. -/
theorem map_encode_ascii {s : List Char} (h : ∀ c ∈ s, c.toNat < 128) :
    (encode (String.ofList s)).map (fun b => Char.ofNat b.toNat) = s := by
  rw [encode_ofList]
  induction s with
  | nil => rfl
  | cons c s ih =>
    obtain ⟨hc, hs⟩ := List.forall_mem_cons.1 h
    have hbyte : c.val.toUInt8.toNat = c.toNat := by
      rw [UInt32.toNat_toUInt8]
      exact Nat.mod_eq_of_lt (Nat.lt_trans hc (by decide))
    rw [List.flatMap_cons, utf8EncodeChar_ascii hc, List.singleton_append, List.map_cons, ih hs,
      hbyte, Char.ofNat_toNat]

end OutlineSearch.Text

/-! ### The body of a scheduling note -/

namespace OutlineSearch.Spelling

open OutlineSearch.Text OutlineSearch.Pattern

/-! ### Times -/

/-- Hour and minute in their places, joined by a colon. -/
def clock (hour minute : Nat) : List Char := places 2 hour ++ ':' :: places 2 minute

/-- A time behind a blank is found, whatever stands behind it. -/
theorem clockText?_clock (hour minute : Nat) (rest : List Char) :
    clockText? (' ' :: (clock hour minute ++ rest)) = some (clock hour minute) := by
  have htrim : trimStart (' ' :: (clock hour minute ++ rest)) = clock hour minute ++ rest := by
    rw [trimStart, List.dropWhile_cons_of_pos (by rfl)]
    exact List.dropWhile_cons_of_neg (by rw [isBlank_place]; decide)
  have hhour : ((clock hour minute ++ rest).take 2).takeWhile isDecimal = places 2 hour := by
    show [(hour / 10 % 10).digitChar, (hour % 10).digitChar].takeWhile isDecimal = _
    rw [List.takeWhile_cons_of_pos (isDecimal_place _),
      List.takeWhile_cons_of_pos (isDecimal_place _)]
    rfl
  have hdrop : (clock hour minute ++ rest).drop (places 2 hour).length =
      ':' :: (minute / 10 % 10).digitChar :: (minute % 10).digitChar :: rest := rfl
  have hblank : isBlank ' ' = true := rfl
  have hne : (places 2 hour).isEmpty = false := rfl
  simp only [clockText?, htrim, hhour, hdrop, hblank, hne, isDecimal_place, Bool.and_self,
    if_true, Bool.false_eq_true, if_false]
  rfl

/-- Behind a blank, what starts with neither a digit nor a blank is no time. -/
theorem clockText?_of_not_isDecimal {c : Char} (hblank : isBlank c = false)
    (hdecimal : isDecimal c = false) (rest : List Char) : clockText? (' ' :: c :: rest) = none := by
  have htrim : trimStart (' ' :: c :: rest) = c :: rest := by
    rw [trimStart, List.dropWhile_cons_of_pos (by rfl),
      List.dropWhile_cons_of_neg (Bool.eq_false_iff.1 hblank)]
  have hhour : ((c :: rest).take 2).takeWhile isDecimal = [] :=
    List.takeWhile_cons_of_neg (Bool.eq_false_iff.1 hdecimal)
  unfold clockText?
  rw [htrim]
  simp only [hhour]
  rfl

/-! ### Notes -/

theorem dropShape?_hyphened (d : Date) (rest : List Char) :
    dropShape? (shape '-' [4, 2, 2]) (d.hyphened ++ rest) = some rest := by
  show dropShape? [.digit, .digit, .digit, .digit, .mark '-', .digit, .digit, .mark '-', .digit,
    .digit] (_ :: _ :: _ :: _ :: '-' :: _ :: _ :: '-' :: _ :: _ :: rest) = some rest
  simp only [dropShape?, isDecimal_place, beq_self_eq_true, if_true]

/-- The short name of a weekday: two or three letters. -/
structure WeekdayName where
  letters : List Char
  latin {c : Char} (h : c ∈ letters) : isLatin c = true
  two_le : 2 ≤ letters.length
  le_three : letters.length ≤ 3

/-- What may stand behind the name of a weekday: nothing, or something behind a blank. -/
def Separate (s : List Char) : Prop := s = [] ∨ ∃ rest, s = ' ' :: rest

theorem isBlank_of_isLatin {c : Char} (h : isLatin c = true) : isBlank c = false := by
  cases hblank : isBlank c with
  | false => rfl
  | true =>
    have hnot := of_blankPoints (P := fun c ↦ Text.isLatin c = false) (by decide +kernel) hblank
    cases h.symm.trans hnot

namespace WeekdayName

variable (name : WeekdayName) {behind : List Char}

theorem trimStart_eq : trimStart (' ' :: (name.letters ++ behind)) = name.letters ++ behind := by
  obtain ⟨letters, hlatin, htwo, -⟩ := name
  rw [trimStart, List.dropWhile_cons_of_pos (by rfl)]
  cases letters with
  | nil => cases htwo
  | cons c letters =>
    exact List.dropWhile_cons_of_neg (Bool.eq_false_iff.1 (isBlank_of_isLatin (hlatin (.head _))))

/-- The letters end where something else begins. -/
theorem takeWhile_eq (h : Separate behind) :
    ((name.letters ++ behind).take 3).takeWhile isLatin = name.letters := by
  have hrest : (behind.take (3 - name.letters.length)).takeWhile isLatin = [] := by
    rcases h with rfl | ⟨rest, rfl⟩
    · rw [List.take_nil, List.takeWhile_nil]
    · cases 3 - name.letters.length with
      | zero => rfl
      | succ n => rfl
  rw [List.take_append, List.take_of_length_le name.le_three,
    List.takeWhile_append_of_pos fun _ ↦ name.latin, hrest, List.append_nil]

end WeekdayName

theorem noteParts?_eq (d : Date) (name : WeekdayName) {behind : List Char} (h : Separate behind) :
    noteParts? (d.hyphened ++ ' ' :: (name.letters ++ behind)) =
      some (d.hyphened, clockText? behind) := by
  have hdate : (d.hyphened ++ ' ' :: (name.letters ++ behind)).take 10 = d.hyphened := rfl
  have hblank : isBlank ' ' = true := rfl
  simp only [noteParts?, dropShape?_hyphened, hdate, hblank, name.trimStart_eq, name.takeWhile_eq h,
    List.drop_left, name.two_le, decide_true, Bool.true_and, if_true, Option.bind_eq_bind,
    Option.bind_some, Option.pure_def]
  rcases h with rfl | ⟨rest, rfl⟩
  · rfl
  · rfl

/-- The body of a note is the moment of its date and its time, or of the start of the day. -/
theorem moment?_note (d : Date) (name : WeekdayName) {behind : List Char} (h : Separate behind) :
    moment? (d.hyphened ++ ' ' :: (name.letters ++ behind)) =
      read? withClock (d.hyphened ++ ' ' :: (clockText? behind).getD (clock 0 0)) := by
  rw [moment?, readDate?_hyphened_cons, noteParts?_eq d name h]
  rfl

end OutlineSearch.Spelling

namespace OutlineSearch

open OutlineSearch.Text OutlineSearch.Spelling

/-! ### Texts -/

/-- A time of day by hour and minute and perhaps second. -/
structure WrittenTime where
  hour : Fin 24
  minute : Fin 60
  second : Option (Fin 60)

namespace WrittenTime

/-- The text of a time, its fields joined by colons. -/
def text (t : WrittenTime) : List Char :=
  clock t.hour t.minute ++
    match t.second with
    | none => []
    | some s => ':' :: places 2 s

/-- The numbers in the fields. -/
def fields (t : WrittenTime) : List Nat :=
  match t.second with
  | none => [t.hour, t.minute]
  | some s => [t.hour, t.minute, s]

/-- The time of day that is written. -/
def time (t : WrittenTime) : ClockTime := ⟨t.hour, t.minute, (t.second.map Fin.val).getD 0, 0⟩

theorem time_range (t : WrittenTime) :
    t.time.hour < 24 ∧ t.time.minute < 60 ∧ t.time.second < 60 := by
  obtain ⟨hour, minute, second⟩ := t
  cases second with
  | none => exact ⟨hour.2, minute.2, (by decide : 0 < 60)⟩
  | some second => exact ⟨hour.2, minute.2, second.2⟩

end WrittenTime

/-- What stands behind the time of a moment: nothing, a `Z`, or an offset, ahead of universal time
or behind it. -/
inductive Zone where
  | naive
  | zulu
  | offset (behind : Bool) (hours : Fin 24) (minutes : Fin 60)

namespace Zone

/-- The text of a zone. -/
def text : Zone → List Char
  | naive => []
  | zulu => ['Z']
  | offset behind hours minutes => (if behind then '-' else '+') :: clock hours minutes

/-- The offset of a zone in seconds ahead of universal time. -/
def seconds : Zone → Int
  | naive => 0
  | zulu => 0
  | offset behind hours minutes =>
    let span : Int := (hours * 3600 + minutes * 60 : Nat)
    if behind then -span else span

/-- The offset of a zone in microseconds, if it has one. -/
def micros? : Zone → Option Int
  | naive => none
  | z => some (z.seconds * 1000000)

theorem micros?_getD (z : Zone) : z.micros?.getD 0 = z.seconds * 1000000 := by
  cases z <;> rfl

theorem seconds_range (z : Zone) : -86400 < z.seconds ∧ z.seconds < 86400 := by
  rcases z with _ | _ | ⟨_ | _, hours, minutes⟩
  · decide
  · decide
  · simp only [seconds, Bool.false_eq_true, if_false]
    omega
  · simp only [seconds, if_true]
    omega

end Zone

/-- The text of a moment: a date, a `T`, a time and a zone. -/
def isoText (d : Date) (t : WrittenTime) (z : Zone) : List Char :=
  d.hyphened ++ 'T' :: (t.text ++ z.text)

/-! ### Characters -/

theorem of_mem_clock {hour minute : Nat} {c : Char} (h : c ∈ clock hour minute) :
    c.isDigit = true ∨ c = ':' := by
  simp only [clock, List.mem_append, List.mem_cons] at h
  rcases h with h | rfl | h
  · exact .inl (isDigit_of_mem_places h)
  · exact .inr rfl
  · exact .inl (isDigit_of_mem_places h)

theorem WrittenTime.of_mem_text {t : WrittenTime} {c : Char} (h : c ∈ t.text) :
    c.isDigit = true ∨ c = ':' := by
  rcases List.mem_append.1 h with h | h
  · exact of_mem_clock h
  · split at h
    · cases h
    · rcases List.mem_cons.1 h with rfl | h
      · exact .inr rfl
      · exact .inl (isDigit_of_mem_places h)

theorem Zone.of_mem_text {z : Zone} {c : Char} (h : c ∈ z.text) :
    c.isDigit = true ∨ c ∈ [':', '+', '-', 'Z'] := by
  cases z with
  | naive => cases h
  | zulu =>
    cases List.mem_singleton.1 h
    exact .inr (by decide)
  | offset behind hours minutes =>
    rcases List.mem_cons.1 h with rfl | h
    · cases behind
      · exact .inr (by decide)
      · exact .inr (by decide)
    · rcases of_mem_clock h with hdigit | rfl
      · exact .inl hdigit
      · exact .inr (by decide)

/-- The characters of a moment in ISO form are ASCII. -/
theorem ascii_isoText (d : Date) (t : WrittenTime) (z : Zone) :
    ∀ c ∈ isoText d t z, c.toNat < 128 := by
  have hascii {c : Char} (h : c.isDigit = true) : c.toNat < 128 :=
    Number.ascii_of_isDigit h
  have hmark : ∀ c ∈ [':', '+', '-', 'Z'], c.toNat < 128 :=
    List.all_iff_forall_prop.1 (by decide)
  intro c h
  simp only [isoText, List.mem_append, List.mem_cons] at h
  rcases h with h | rfl | h | h
  · exact (Date.of_mem_hyphened h).elim hascii fun h ↦ hmark c (by simp [h])
  · decide
  · exact (WrittenTime.of_mem_text h).elim hascii fun h ↦ hmark c (by simp [h])
  · exact (Zone.of_mem_text h).elim hascii (hmark c)

/-! ### Reading -/

namespace Iso

variable {rest : List Char} {n : Nat}

theorem foldl_places {width : Nat} (h : n < 10 ^ width) :
    (places width n).foldl (fun n d => n * 10 + (d.toNat - 48)) 0 = n := by
  have hvalues : (places width n).foldl (fun n d => n * 10 + (d.toNat - 48)) 0 =
      Number.ofDigits (Number.decimals (places width n)) := by
    rw [Number.decimals_of_isDigit fun _ ↦ isDigit_of_mem_places, Number.ofDigits, List.foldl_map]
  rw [hvalues, ofDigits_decimals_places h]

theorem digits?_places {width : Nat} (h : n < 10 ^ width) (rest : List Char) :
    digits? width (places width n ++ rest) = some (n, rest) := by
  have htake : (places width n ++ rest).take width = places width n :=
    List.take_left' (length_places width n)
  have hdrop : (places width n ++ rest).drop width = rest :=
    List.drop_left' (length_places width n)
  have hdigits : (places width n).all Char.isDigit = true :=
    List.all_eq_true.2 fun _ ↦ isDigit_of_mem_places
  rw [digits?, htake, hdrop, if_pos ⟨length_places width n, hdigits⟩, foldl_places h]

theorem date?_hyphened (d : Date) : date? d.hyphened = some d := by
  have hmonth : d.month < 10 ^ 2 := Nat.lt_of_le_of_lt d.month_range.2 (by decide)
  have hday : d.day < 10 ^ 2 := Nat.lt_of_le_of_lt d.day_le (by decide)
  have hlast := digits?_places hday []
  rw [List.append_nil] at hlast
  rw [date?, Date.hyphened, digits?_places d.year_lt]
  simp only [Option.bind_eq_bind, Option.bind_some]
  split
  · next hweek => exact absurd (List.cons.inj hweek).1 (place_ne rfl _)
  · simp only [digits?_places hmonth, hlast, Option.bind_some, List.isEmpty_nil, if_true,
      Date.of?_self]
    rfl

/-! ### Times -/

/-- A field that ends the text. -/
theorem clockFrom?_last (separated : Option Bool) (fields : List Nat) (missing : Nat)
    (h : n < 10 ^ 2) :
    clockFrom? separated fields (missing + 1) (places 2 n) = some ⟨fields ++ [n], 0, false⟩ := by
  have hfield := digits?_places h []
  rw [List.append_nil] at hfield
  rw [clockFrom?, hfield]
  rfl

/-- A field with a colon and something else behind it. -/
theorem clockFrom?_colon {separated : Option Bool} (hseparated : separated ≠ some false)
    (fields : List Nat) (missing : Nat) (h : n < 10 ^ 2) (hrest : rest ≠ []) :
    clockFrom? separated fields (missing + 1) (places 2 n ++ ':' :: rest) =
      clockFrom? (some true) (fields ++ [n]) missing rest := by
  have htrue : separated.getD true = true := by
    rcases separated with _ | _ | _
    · rfl
    · exact absurd rfl hseparated
    · rfl
  have hempty : rest.isEmpty = false := List.isEmpty_eq_false_iff.2 hrest
  rw [clockFrom?, digits?_places h]
  simp only [Option.bind_eq_bind, Option.bind_some, beq_self_eq_true, htrue, hempty,
    Bool.and_self, Bool.false_eq_true, if_false, if_true]

theorem clock?_clock {hour minute : Nat} (hh : hour < 10 ^ 2) (hm : minute < 10 ^ 2) :
    clock? (Spelling.clock hour minute) = some ⟨[hour, minute], 0, false⟩ := by
  have hne : places 2 minute ≠ [] := List.cons_ne_nil _ _
  rw [clock?, Spelling.clock, clockFrom?_colon (by decide) [] 2 hh hne,
    clockFrom?_last (some true) _ 1 hm]
  rfl

theorem clock?_seconds {hour minute second : Nat} (hh : hour < 10 ^ 2) (hm : minute < 10 ^ 2)
    (hs : second < 10 ^ 2) :
    clock? (Spelling.clock hour minute ++ ':' :: places 2 second) =
      some ⟨[hour, minute, second], 0, false⟩ := by
  have hne : places 2 second ≠ [] := List.cons_ne_nil _ _
  have hne' : places 2 minute ++ ':' :: places 2 second ≠ [] := List.cons_ne_nil _ _
  rw [clock?, Spelling.clock, List.append_assoc, List.cons_append,
    clockFrom?_colon (by decide) [] 2 hh hne', clockFrom?_colon (by decide) _ 1 hm hne,
    clockFrom?_last (some true) _ 0 hs]
  rfl

/-- A written time is read, with nothing left over. -/
theorem clock?_text (t : WrittenTime) : clock? t.text = some ⟨t.fields, 0, false⟩ := by
  obtain ⟨hour, minute, second⟩ := t
  have hh : (hour : Nat) < 10 ^ 2 := Nat.lt_trans hour.2 (by decide)
  have hm : (minute : Nat) < 10 ^ 2 := Nat.lt_trans minute.2 (by decide)
  cases second with
  | none =>
    rw [WrittenTime.text, List.append_nil]
    exact clock?_clock hh hm
  | some second => exact clock?_seconds hh hm (Nat.lt_trans second.2 (by decide))

theorem time?_fields (t : WrittenTime) (leftOver : Bool) :
    (ClockReading.mk t.fields 0 leftOver).time? = some t.time := by
  have hrange := t.time_range
  obtain ⟨hour, minute, second⟩ := t
  cases second with
  | none => exact if_pos hrange
  | some second => exact if_pos hrange

/-! ### Offsets -/

theorem not_startsOffset_text {t : WrittenTime} {c : Char} (h : c ∈ t.text) :
    startsOffset c = false := by
  rw [startsOffset, Bool.or_eq_false_iff, Bool.or_eq_false_iff, beq_eq_false_iff_ne,
    beq_eq_false_iff_ne, beq_eq_false_iff_ne]
  rcases WrittenTime.of_mem_text h with hdigit | rfl
  · refine ⟨⟨?_, ?_⟩, ?_⟩ <;> rintro rfl <;> cases hdigit
  · decide

/-- A time is read up to the first sign of an offset. -/
theorem span_text (t : WrittenTime) (z : Zone) :
    (t.text ++ z.text).takeWhile (fun c => !startsOffset c) = t.text ∧
      (t.text ++ z.text).dropWhile (fun c => !startsOffset c) = z.text := by
  have htime (c : Char) (hc : c ∈ t.text) : (!startsOffset c) = true := by
    rw [not_startsOffset_text hc]
    rfl
  have hzone : z.text.takeWhile (fun c => !startsOffset c) = [] ∧
      z.text.dropWhile (fun c => !startsOffset c) = z.text := by
    rcases z with _ | _ | ⟨_ | _, hours, minutes⟩
    · exact ⟨rfl, rfl⟩
    · exact ⟨rfl, rfl⟩
    · exact ⟨rfl, rfl⟩
    · exact ⟨rfl, rfl⟩
  rw [List.takeWhile_append_of_pos htime, List.dropWhile_append_of_pos htime, hzone.1, hzone.2,
    List.append_nil]
  exact ⟨rfl, rfl⟩

theorem timeAndOffset?_text (t : WrittenTime) (z : Zone) :
    timeAndOffset? (t.text ++ z.text) = some (t.time, z.micros?) := by
  obtain ⟨htime, hzone⟩ := span_text t z
  rw [timeAndOffset?, htime, hzone, clock?_text]
  simp only [Option.bind_eq_bind, Option.bind_some, time?_fields]
  rcases z with _ | _ | ⟨behind, hours, minutes⟩
  · rfl
  · rfl
  · have hclock : clock? (Spelling.clock hours minutes) = some ⟨[hours, minutes], 0, false⟩ :=
      clock?_clock (Nat.lt_trans hours.2 (by decide)) (Nat.lt_trans minutes.2 (by decide))
    have hspan : ClockReading.span ⟨[hours, minutes], 0, false⟩ =
        (((hours * 3600 + minutes * 60) * 1000000 : Nat) : Int) := by
      simp [ClockReading.span]
    have hday : (((hours * 3600 + minutes * 60) * 1000000 : Nat) : Int) < 86400000000 := by
      omega
    cases behind with
    | false =>
      show ((clock? (Spelling.clock hours minutes)).bind fun offset => _) = _
      rw [hclock, Option.bind_some, hspan, if_neg Bool.false_ne_true, if_pos hday, Nat.cast_mul]
      rfl
    | true =>
      show ((clock? (Spelling.clock hours minutes)).bind fun offset => _) = _
      rw [hclock, Option.bind_some, hspan, if_neg Bool.false_ne_true, if_pos hday, Nat.cast_mul,
        ← Int.neg_mul]
      rfl

/-! ### Moments -/

theorem separatorAt_hyphened (d : Date) (rest : List Char) :
    separatorAt (d.hyphened ++ 'T' :: rest) = 10 := by
  have hlength : (d.hyphened ++ 'T' :: rest).length ≠ 7 := by
    rw [List.length_append, d.length_hyphened]
    omega
  have hhyphen : (d.hyphened ++ 'T' :: rest)[4]? = some '-' := rfl
  have hmonth : (d.hyphened ++ 'T' :: rest)[5]? = some (d.month / 10 % 10).digitChar := rfl
  have hweek : (some (d.month / 10 % 10).digitChar == some 'W') = false :=
    beq_eq_false_iff_ne.2 fun h ↦ place_ne rfl _ (Option.some.inj h)
  simp only [separatorAt, if_neg hlength, hhyphen, hmonth, hweek, beq_self_eq_true, if_true,
    Bool.false_eq_true, if_false]

/-- A moment in ISO form is read as what it spells. -/
theorem moment?_isoText (d : Date) (t : WrittenTime) (z : Zone) :
    moment? (String.ofList (isoText d t z)) = some ⟨d, t.time, z.micros?⟩ := by
  have hlength : ¬(isoText d t z).length < 7 := by
    rw [isoText, List.length_append, d.length_hyphened]
    omega
  have hplace : separatorAt (isoText d t z) = 10 := separatorAt_hyphened d _
  have htake : (isoText d t z).take 10 = d.hyphened := rfl
  have hdrop : (isoText d t z).drop 10 = 'T' :: (t.text ++ z.text) := rfl
  have hwidth : separatorWidth 'T' = 1 := rfl
  rw [moment?, map_encode_ascii (ascii_isoText d t z), if_neg hlength]
  simp only [hplace, htake, hdrop, date?_hyphened, hwidth, List.drop_succ_cons, List.drop_zero,
    timeAndOffset?_text, Option.bind_eq_bind, Option.bind_some, Option.pure_def]

end Iso

/-! ### A capital Z -/

/-- The offset of a zone, a `Z` being replaced by the offset zero. -/
def Zone.explicit : Zone → Zone
  | zulu => offset false 0 0
  | z => z

theorem Zone.micros?_explicit (z : Zone) : z.explicit.micros? = z.micros? := by
  cases z <;> rfl

theorem replace_isoText (d : Date) (t : WrittenTime) (z : Zone) :
    replace ['Z'] "+00:00".toList (isoText d t z) = isoText d t z.explicit := by
  have hfront : 'Z' ∉ d.hyphened ++ 'T' :: t.text := by
    simp only [List.mem_append, List.mem_cons, not_or]
    exact ⟨fun h ↦ absurd (Date.of_mem_hyphened h) (by decide), by decide,
      fun h ↦ absurd (WrittenTime.of_mem_text h) (by decide)⟩
  have htext (z : Zone) : isoText d t z = (d.hyphened ++ 'T' :: t.text) ++ z.text := by
    simp [isoText]
  rw [htext, htext]
  cases z with
  | naive =>
    show replace _ _ (_ ++ []) = _ ++ []
    rw [List.append_nil]
    exact replace_of_notMem hfront _
  | zulu => exact replace_concat hfront _
  | offset behind hours minutes =>
    refine replace_of_notMem ?_ _
    rw [List.mem_append, not_or, Zone.text, List.mem_cons, not_or]
    refine ⟨hfront, ?_, fun h ↦ absurd (of_mem_clock h) (by decide)⟩
    cases behind
    · decide
    · decide

namespace Spelling

/-- A moment in ISO form is read as what it spells, with a `Z` as well. -/
theorem isoMoment?_isoText (d : Date) (t : WrittenTime) (z : Zone) :
    isoMoment? (isoText d t z) = some ⟨d, t.time, z.micros?⟩ := by
  rw [isoMoment?, replace_isoText, Iso.moment?_isoText, z.micros?_explicit]

theorem moment?_isoText (d : Date) (t : WrittenTime) (z : Zone) :
    moment? (isoText d t z) = some ⟨d, t.time, z.micros?⟩ := by
  have hnote : noteParts? (isoText d t z) = none := by
    rw [noteParts?, isoText, dropShape?_hyphened]
    rfl
  rw [moment?, hnote, isoText, Pattern.readDate?_hyphened_cons, ← isoText]
  exact isoMoment?_isoText d t z

end Spelling

end OutlineSearch
