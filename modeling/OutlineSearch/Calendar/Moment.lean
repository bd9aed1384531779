import OutlineSearch.Calendar.Date
import OutlineSearch.Number.Binary64

/-!
# Moments

A date with a time of day and perhaps an offset from universal time. A moment without an offset is
taken as universal time when it is placed on the line of time, which counts microseconds from the
start of 1970.
-/

namespace OutlineSearch

/-- A time of day, exact to the microsecond. -/
structure ClockTime where
  hour : Nat
  minute : Nat
  second : Nat
  micro : Nat
deriving DecidableEq, Inhabited, Repr

/-- A date and a time of day; the offset is in microseconds ahead of universal time. -/
structure Moment where
  date : Date
  time : ClockTime
  offset : Option Int
deriving DecidableEq, Inhabited, Repr

namespace ClockTime

/-- The start of the day. -/
def midnight : ClockTime := ⟨0, 0, 0, 0⟩

/-- Microseconds since the start of the day. -/
def micros (t : ClockTime) : Nat :=
  ((t.hour * 60 + t.minute) * 60 + t.second) * 1000000 + t.micro

private def padClock (width n : Nat) : String :=
  let digits := Nat.toDigits 10 n
  String.ofList (List.replicate (width - digits.length) '0' ++ digits)

/-- Hours, minutes and seconds joined by colons, with six places when there are microseconds. -/
def iso (t : ClockTime) : String :=
  let base := s!"{padClock 2 t.hour}:{padClock 2 t.minute}:{padClock 2 t.second}"
  if t.micro = 0 then base else base ++ "." ++ padClock 6 t.micro

/-- An offset as signed hours and minutes, with seconds and their fraction only when they are not
zero. -/
def isoOffset (offset : Int) : String :=
  let sign := if offset < 0 then "-" else "+"
  let n := offset.natAbs
  let seconds := n / 1000000
  let base := s!"{sign}{padClock 2 (seconds / 3600)}:{padClock 2 (seconds / 60 % 60)}"
  let base := if n % 60000000 = 0 then base else s!"{base}:{padClock 2 (seconds % 60)}"
  if n % 1000000 = 0 then base else s!"{base}.{padClock 6 (n % 1000000)}"

end ClockTime

namespace Moment

/-- The day number of the first of January 1970. -/
def epochDay : Nat := 719163

/-- The start of a day, without an offset. -/
def ofDate (d : Date) : Moment := ⟨d, .midnight, none⟩

/-- Microseconds from the start of 1970; without an offset the moment is in universal time. -/
def epochMicros (m : Moment) : Int :=
  ((m.date.dayNumber : Int) - epochDay) * 86400000000 + m.time.micros - m.offset.getD 0

/-- Milliseconds from the start of 1970: the seconds rounded to a floating point number, times a
thousand. -/
def epochMillis (m : Moment) : Binary64 :=
  (Binary64.ofRatio m.epochMicros 1000000).mul (Binary64.ofInt 1000)

/-- Whether two moments are the same: in time when both have an offset, field by field when neither
has one. -/
def same (a b : Moment) : Bool :=
  match a.offset, b.offset with
  | some _, some _ => a.epochMicros == b.epochMicros
  | none, none => a == b
  | _, _ => false

/-- Date and time with a character between them, and the offset if there is one. -/
def isoWith (between : String) (m : Moment) : String :=
  m.date.iso ++ between ++ m.time.iso ++ (m.offset.map ClockTime.isoOffset).getD ""

/-- Date and time with a `T` between them. -/
def iso (m : Moment) : String := m.isoWith "T"

/-- Date and time with a `T` between them, universal time being marked by a `Z`; offsets are given
in hours and minutes. -/
def isoZulu (m : Moment) : String :=
  let base := m.date.iso ++ "T" ++ m.time.iso
  match m.offset with
  | none => base
  | some 0 => base ++ "Z"
  | some n => base ++ ClockTime.isoOffset (n.tdiv 60000000 * 60000000)

end Moment

end OutlineSearch
