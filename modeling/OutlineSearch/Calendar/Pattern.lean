import OutlineSearch.Calendar.Moment
import OutlineSearch.Text.Class

/-!
# Date patterns

A pattern is a list of fields and separators. A field may be read in more than one way, the
preferred one first; the first way of reading all fields counts, and it must use up the text. A
month or a day may be written with one digit, so that a text without separators can be read in a
way that leaves digits over and is then refused.
-/

namespace OutlineSearch.Pattern

open OutlineSearch.Text

/-- A part of a pattern. -/
inductive Part where
  | year
  | month
  | day
  | hour
  | minute
  | mark (c : Char)
  | blanks
deriving DecidableEq, Repr

/-- The ways of reading a field: its value and the text behind it, the preferred way first. -/
abbrev Readings := List (Nat × List Char)

/-- A first digit in a range of ASCII digits followed by a digit of any script. -/
def twoDigits (low high : Char) : List Char → Readings
  | a :: b :: rest =>
    match digitValue? b with
    | some d => if low ≤ a ∧ a ≤ high then [((a.toNat - 48) * 10 + d, rest)] else []
    | none => []
  | _ => []

/-- A first digit followed by a second one in a range of ASCII digits. -/
def fixedFirst (first low high : Char) : List Char → Readings
  | a :: b :: rest =>
    if a = first ∧ low ≤ b ∧ b ≤ high then [((a.toNat - 48) * 10 + (b.toNat - 48), rest)] else []
  | _ => []

/-- One ASCII digit from 1 to 9. -/
def oneNonzero : List Char → Readings
  | a :: rest => if '1' ≤ a ∧ a ≤ '9' then [(a.toNat - 48, rest)] else []
  | [] => []

/-- One digit of any script. -/
def oneDigit : List Char → Readings
  | a :: rest => match digitValue? a with
    | some d => [(d, rest)]
    | none => []
  | [] => []

/-- Four digits of any script. -/
def fourDigits : List Char → Readings
  | a :: b :: c :: d :: rest =>
    match digitValue? a, digitValue? b, digitValue? c, digitValue? d with
    | some w, some x, some y, some z => [(w * 1000 + x * 100 + y * 10 + z, rest)]
    | _, _, _, _ => []
  | _ => []

/-- A month: 10 to 12, 01 to 09, then 1 to 9. -/
def month (s : List Char) : Readings :=
  fixedFirst '1' '0' '2' s ++ fixedFirst '0' '1' '9' s ++ oneNonzero s

/-- A day: 30 and 31, 10 to 29, 01 to 09, 1 to 9, then a blank and 1 to 9. -/
def day (s : List Char) : Readings :=
  fixedFirst '3' '0' '1' s ++ twoDigits '1' '2' s ++ fixedFirst '0' '1' '9' s ++ oneNonzero s ++
    (match s with
    | ' ' :: rest => oneNonzero rest
    | _ => [])

/-- An hour: 20 to 23, 00 to 19, then 0 to 9. -/
def hour (s : List Char) : Readings :=
  fixedFirst '2' '0' '3' s ++ twoDigits '0' '1' s ++ oneDigit s

/-- A minute: 00 to 59, then 0 to 9. -/
def minute (s : List Char) : Readings := twoDigits '0' '5' s ++ oneDigit s

/-- The suffixes left when a number of blanks from the longest run down to one is passed over. -/
def afterBlanks (s : List Char) : List (List Char) :=
  match s with
  | c :: rest => if isBlank c then afterBlanks rest ++ [rest] else []
  | [] => []

/-- The fields that have been read. -/
structure Fields where
  year : Nat := 1900
  month : Nat := 1
  day : Nat := 1
  hour : Nat := 0
  minute : Nat := 0
deriving Repr

/-- The ways of reading a text by a pattern: the fields and the text behind them. -/
def readings (f : Fields) : List Part → List Char → List (Fields × List Char)
  | [], s => [(f, s)]
  | .year :: parts, s => (fourDigits s).flatMap fun (n, rest) =>
      readings { f with year := n } parts rest
  | .month :: parts, s => (month s).flatMap fun (n, rest) =>
      readings { f with month := n } parts rest
  | .day :: parts, s => (day s).flatMap fun (n, rest) => readings { f with day := n } parts rest
  | .hour :: parts, s => (hour s).flatMap fun (n, rest) => readings { f with hour := n } parts rest
  | .minute :: parts, s => (minute s).flatMap fun (n, rest) =>
      readings { f with minute := n } parts rest
  | .mark c :: parts, s =>
    match s with
    | a :: rest => if a = c then readings f parts rest else []
    | [] => []
  | .blanks :: parts, s => (afterBlanks s).flatMap fun rest => readings f parts rest

/-- The moment that a whole text spells by a pattern, by the first way of reading it. -/
def read? (parts : List Part) (s : List Char) : Option Moment :=
  match readings {} parts s with
  | (f, []) :: _ =>
    (Date.of? f.year f.month f.day).toOption.map fun d => ⟨d, ⟨f.hour, f.minute, 0, 0⟩, none⟩
  | _ => none

/-- Year, month and day joined by hyphens. -/
def hyphens : List Part := [.year, .mark '-', .month, .mark '-', .day]

/-- Month, day and year joined by slashes. -/
def monthFirst : List Part := [.month, .mark '/', .day, .mark '/', .year]

/-- Year, month and day joined by slashes. -/
def slashes : List Part := [.year, .mark '/', .month, .mark '/', .day]

/-- Year, month and day without separators. -/
def compact : List Part := [.year, .month, .day]

/-- Year, month and day joined by hyphens, blanks, hour and minute joined by a colon. -/
def withClock : List Part := hyphens ++ [.blanks, .hour, .mark ':', .minute]

/-- The moment that a text spells by the first of the three date patterns that fits. -/
def readDate? (s : List Char) : Option Moment :=
  [hyphens, monthFirst, slashes].findSome? fun parts => read? parts s

end OutlineSearch.Pattern
