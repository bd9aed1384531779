import OutlineSearch.Calendar.Pattern
import OutlineSearch.Text.Case
import OutlineSearch.Text.Split
import OutlineSearch.Fault

/-!
# Periods named by a date token

A token names today, yesterday, the last week, the last month or one day. A period holds both of
its ends.
-/

namespace OutlineSearch

/-- The days from `first` to `last`. -/
structure Period where
  first : Date
  last : Date
deriving DecidableEq, Repr, Inhabited

namespace Period

/-- The period of one day. -/
def single (d : Date) : Period := ⟨d, d⟩

/-- Whether a day belongs to the period. -/
def contains (p : Period) (d : Date) : Bool := p.first.atMost d && d.atMost p.last

/-- A date as many days back, which may not exist. -/
def daysBack (d : Date) (n : Nat) : Outcome Date :=
  match d.addDays? (-(n : Int)) with
  | some e => .ok e
  | none => .error (.overflow "date value out of range")

/-- A date as many months back, which may not exist. -/
def monthsBack (d : Date) (n : Int) : Outcome Date :=
  match d.subtractMonths n with
  | .ok e => .ok e
  | .error .yearTooFar => .error (.overflow DateError.yearTooFar.message)
  | .error e => .error (.badValue e.message)

/-- The period that a token names, if it names one. -/
def ofToken (token : String) (today : Date) : Outcome (Option Period) :=
  let word := Text.lower (Text.trim token.toList)
  let name := String.ofList word
  if name == "today" then .ok (some (single today))
  else if name == "yesterday" then (daysBack today 1).map fun d => some (single d)
  else if name == "last-week" || name == "last week" then
    (daysBack today 7).map fun d => some ⟨d, today⟩
  else if name == "last-month" || name == "last month" then
    (monthsBack today 1).map fun d => some ⟨d, today⟩
  else .ok ((Pattern.read? Pattern.hyphens word).map fun m => single m.date)

end Period

end OutlineSearch
