import OutlineSearch.Calendar.Moment
import OutlineSearch.Text.Utf8

/-!
# ISO 8601 moments

A date by month and day or by week and weekday, in extended or basic form, and behind any one
character a time with an optional offset. A fraction of a second is cut after six places.
-/

namespace OutlineSearch.Iso

/-- The value of the first `count` ASCII digits, and the text behind them. -/
def digits? (count : Nat) (s : List Char) : Option (Nat × List Char) :=
  let ds := s.take count
  if ds.length = count ∧ ds.all Char.isDigit then
    some (ds.foldl (fun n d => n * 10 + (d.toNat - 48)) 0, s.drop count)
  else none

/-- Where the time's separator stands, by the form of the date in front of it. -/
def separatorAt (s : List Char) : Nat :=
  let length := s.length
  let isAt (i : Nat) (c : Char) : Bool := s[i]? == some c
  if length = 7 then 7
  else if isAt 4 '-' then
    if isAt 5 'W' then
      if length < 8 then length
      else if isAt 8 '-' && length ≠ 9 then
        if (s[10]?.map Char.isDigit).getD false then 8 else 10
      else if isAt 8 '-' then 10
      else 8
    else 10
  else if isAt 4 'W' then
    let stop := 7 + ((s.drop 7).takeWhile Char.isDigit).length
    if stop < 9 then stop else if stop % 2 = 0 then 7 else 8
  else 8

/-- The weekday of a day number, Monday being 0. -/
def weekday (dayNumber : Nat) : Nat := (dayNumber + 6) % 7

/-- The day number of the first of January of a year. -/
def newYear (year : Nat) : Nat := Date.daysBeforeYear year + 1

/-- The day number of the Monday of the first week of a year, the week of its first Thursday. -/
def firstMonday (year : Nat) : Int :=
  let first := newYear year
  let monday : Int := (first : Int) - weekday first
  if 3 < weekday first then monday + 7 else monday

/-- Whether a year has a week of that number. -/
def hasWeek (year week : Nat) : Bool :=
  let first := weekday (newYear year)
  (1 ≤ week && week ≤ 52) || (week == 53 && (first == 3 || (first == 2 && isLeapYear year)))

/-- The date of a weekday, Monday being 1, in a week of a year. -/
def ofWeek? (year week day : Nat) : Option Date :=
  if 1 ≤ year ∧ hasWeek year week ∧ 1 ≤ day ∧ day ≤ 7 then
    Date.ofDayNumber? (firstMonday year + ((week - 1) * 7 + (day - 1) : Nat))
  else none

/-- The date that a text spells. -/
def date? (s : List Char) : Option Date := do
  let (year, rest) ← digits? 4 s
  let (separated, rest) := match rest with
    | '-' :: more => (true, more)
    | _ => (false, rest)
  match rest with
  | 'W' :: more =>
    let (week, rest) ← digits? 2 more
    match rest, separated with
    | [], _ => ofWeek? year week 1
    | '-' :: more, true =>
      let (day, _) ← digits? 1 more
      ofWeek? year week day
    | _, true => none
    | rest, false =>
      let (day, _) ← digits? 1 rest
      ofWeek? year week day
  | _ =>
    let (month, rest) ← digits? 2 rest
    let rest ← match rest, separated with
      | '-' :: more, true => some more
      | _, true => none
      | _, false => some rest
    let (day, rest) ← digits? 2 rest
    if rest.isEmpty then (Date.of? year month day).toOption else none

/-- A time that was read, and whether something is left behind it. -/
structure ClockReading where
  fields : List Nat
  micro : Nat
  leftOver : Bool
deriving Repr

/-- Reads the fraction of a second. -/
def fraction? (fields : List Nat) (s : List Char) : Option ClockReading := do
  let count := min s.length 6
  let (n, rest) ← digits? count s
  return ⟨fields, n * Nat.pow 10 (6 - count), !(rest.dropWhile Char.isDigit).isEmpty⟩

/-- Reads the fields of a time that are still missing, the colon between fields being used
throughout or not at all. -/
def clockFrom? (separated : Option Bool) (fields : List Nat) :
    (missing : Nat) → List Char → Option ClockReading
  | 0, s => fraction? fields s
  | missing + 1, s => do
    let (n, rest) ← digits? 2 s
    let fields := fields ++ [n]
    match rest with
    | [] => return ⟨fields, 0, false⟩
    | c :: more =>
      let separated := separated.getD (c == ':')
      if more.isEmpty then return ⟨fields, 0, true⟩
      else if separated && c == ':' then clockFrom? (some separated) fields missing more
      else if c == '.' || c == ',' then fraction? fields more
      else if !separated then clockFrom? (some separated) fields missing rest
      else none

/-- Reads a time. -/
def clock? (s : List Char) : Option ClockReading := clockFrom? none [] 3 s

/-- The time of day of a reading, when it is one. -/
def ClockReading.time? (r : ClockReading) : Option ClockTime :=
  let t : ClockTime := ⟨r.fields.getD 0 0, r.fields.getD 1 0, r.fields.getD 2 0, r.micro⟩
  if t.hour < 24 ∧ t.minute < 60 ∧ t.second < 60 then some t else none

/-- The microseconds of a reading taken as a span of time. -/
def ClockReading.span (r : ClockReading) : Int :=
  ((r.fields.getD 0 0 * 3600 + r.fields.getD 1 0 * 60 + r.fields.getD 2 0) * 1000000 + r.micro :
    Nat)

/-- Whether a character starts an offset. -/
def startsOffset (c : Char) : Bool := c == '+' || c == '-' || c == 'Z'

/-- The time and the offset that a text spells. -/
def timeAndOffset? (s : List Char) : Option (ClockTime × Option Int) := do
  let reading ← clock? (s.takeWhile fun c => !startsOffset c)
  let time ← reading.time?
  match s.dropWhile fun c => !startsOffset c with
  | [] => if reading.leftOver then none else return (time, none)
  | 'Z' :: rest => if rest.isEmpty then return (time, some 0) else none
  | sign :: rest =>
    let offset ← clock? rest
    if offset.leftOver then none
    else if offset.span < 86400000000 then
      return (time, some (if sign == '-' then -offset.span else offset.span))
    else none

/-- The number of bytes of a character by its first byte. -/
def separatorWidth (c : Char) : Nat :=
  let n := c.toNat
  if n < 0x80 then 1 else if n / 16 = 0xE then 3 else if n / 16 = 0xF then 4 else 2

/-- The moment that a text spells; positions in it count bytes. -/
def moment? (s : String) : Option Moment := do
  let s := (Text.encode s).map fun b => Char.ofNat b.toNat
  if s.length < 7 then none
  else
    let place := separatorAt s
    let date ← date? (s.take place)
    match s.drop place with
    | [] => return .ofDate date
    | c :: rest =>
      let (time, offset) ← timeAndOffset? ((c :: rest).drop (separatorWidth c))
      return ⟨date, time, offset⟩

end OutlineSearch.Iso
