/-!
# Calendar dates

Dates of the Gregorian calendar, carried back to year 1 and on to year 9999. Every date has a day
number, day 1 being the first of January of year 1; moving by days goes through it. Moving back by
months keeps the day of the month where the target month has it and otherwise takes its last day.
-/

namespace OutlineSearch

/-- Whether a year has a 29th of February. -/
def isLeapYear (year : Nat) : Bool := year % 4 == 0 && (year % 100 != 0 || year % 400 == 0)

/-- The number of days of a month, the months counting from 1. -/
def daysInMonth (year month : Nat) : Nat :=
  if month = 2 then (if isLeapYear year then 29 else 28)
  else if month = 4 ∨ month = 6 ∨ month = 9 ∨ month = 11 then 30 else 31

/-- A day of years 1 to 9999. -/
structure Date where
  year : Nat
  month : Nat
  day : Nat
  year_range : 1 ≤ year ∧ year ≤ 9999
  month_range : 1 ≤ month ∧ month ≤ 12
  day_range : 1 ≤ day ∧ day ≤ daysInMonth year month
deriving DecidableEq

/-- Why a date does not exist. -/
inductive DateError where
  | yearOutOfRange (year : Int)
  | yearTooFar
  | monthOutOfRange
  | dayOutOfRange
deriving DecidableEq, Repr

/-- The cause in words. -/
def DateError.message : DateError → String
  | yearOutOfRange year => s!"year {year} is out of range"
  | yearTooFar => "signed integer is out of range"
  | monthOutOfRange => "month must be in 1..12"
  | dayOutOfRange => "day is out of range for month"

namespace Date

instance : Inhabited Date :=
  ⟨⟨1, 1, 1, by decide, by decide, by decide⟩⟩

/-- The date of a year, a month and a day, the year being tested first and the day last. -/
def of? (year : Int) (month day : Nat) : Except DateError Date :=
  if hy : 1 ≤ year.toNat ∧ year.toNat ≤ 9999 then
    if hm : 1 ≤ month ∧ month ≤ 12 then
      if hd : 1 ≤ day ∧ day ≤ daysInMonth year.toNat month then
        .ok ⟨year.toNat, month, day, hy, hm, hd⟩
      else .error .dayOutOfRange
    else .error .monthOutOfRange
  else if year.natAbs < Nat.pow 2 31 then .error (.yearOutOfRange year) else .error .yearTooFar

/-- The number of days before the first of January of a year. -/
def daysBeforeYear (year : Nat) : Nat :=
  let y := year - 1
  y * 365 + y / 4 - y / 100 + y / 400

/-- The number of days of a year before the first of a month. -/
def daysBeforeMonth (year : Nat) : (month : Nat) → Nat
  | 0 => 0
  | 1 => 0
  | month + 2 => daysBeforeMonth year (month + 1) + daysInMonth year (month + 1)

/-- The day number, the first of January of year 1 having number 1. -/
def dayNumber (d : Date) : Nat := daysBeforeYear d.year + daysBeforeMonth d.year d.month + d.day

/-- The year that holds a day number and the number of its days up to that day, the first day of
the year counting zero. -/
def yearOfDayNumber (n : Nat) : Nat × Nat :=
  let n := n - 1
  let cycles := n / 146097
  let n := n % 146097
  let centuries := min (n / 36524) 3
  let n := n - centuries * 36524
  let fours := n / 1461
  let n := n % 1461
  let years := min (n / 365) 3
  (cycles * 400 + centuries * 100 + fours * 4 + years + 1, n - years * 365)

/-- The month from `month` on, within `fuel` months, that holds the day `rest` days after the first
of `month`, and the day in it. -/
def monthOfDay (year month rest : Nat) : (fuel : Nat) → Nat × Nat
  | 0 => (month, rest + 1)
  | fuel + 1 =>
    if rest < daysInMonth year month then (month, rest + 1)
    else monthOfDay year (month + 1) (rest - daysInMonth year month) fuel

/-- The date of a day number, when it is one. -/
def ofDayNumber? (n : Int) : Option Date :=
  if n < 1 then none
  else
    let (year, rest) := yearOfDayNumber n.toNat
    let (month, day) := monthOfDay year 1 rest 11
    (of? year month day).toOption

/-- The date some days away, when it is in range. -/
def addDays? (d : Date) (days : Int) : Option Date := ofDayNumber? (d.dayNumber + days)

/-- The date a number of calendar months back, on the last day of the month when that month is too
short. -/
def subtractMonths (d : Date) (months : Int) : Except DateError Date :=
  let index := (d.year : Int) * 12 + (d.month - 1) - months
  let year := index / 12
  let month := (index % 12).toNat + 1
  -- Month lengths repeat every 400 years, so the length is defined for every year.
  of? year month (min d.day (daysInMonth (year % 400).toNat month))

/-- Whether one date is before or equal to another. -/
def atMost (a b : Date) : Bool := a.dayNumber ≤ b.dayNumber

private def pad (width n : Nat) : String :=
  let digits := Nat.toDigits 10 n
  String.ofList (List.replicate (width - digits.length) '0' ++ digits)

/-- The date as year, month and day joined by hyphens. -/
def iso (d : Date) : String := s!"{pad 4 d.year}-{pad 2 d.month}-{pad 2 d.day}"

instance : Repr Date := ⟨fun d _ => d.iso⟩

end Date

end OutlineSearch
