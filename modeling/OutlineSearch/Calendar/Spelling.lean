import OutlineSearch.Calendar.Pattern
import OutlineSearch.Calendar.Iso
import OutlineSearch.Number.Numeral
import OutlineSearch.Text.Split
import OutlineSearch.Value
import OutlineSearch.Fault

/-!
# Dates and times in property values

A value can spell a journal day, a date or a point in time. A text spells a date only when it has
one of the shapes of a date; a point in time has further spellings, among them the body of a
scheduling note and a plain number of milliseconds.
-/

namespace OutlineSearch.Spelling

open OutlineSearch.Text

/-- The day that a number of eight digits spells: year, month and day without separators. -/
def journalDay (n : Int) : Option Date :=
  (Pattern.read? Pattern.compact (toString n).toList).map (·.date)

/-- The journal day that a value spells. -/
def journalDayOf : Value → Outcome (Option Date)
  | .int n => .ok (journalDay n)
  | .float x =>
    match x with
    | .infinite _ => .error (.overflow "cannot convert float infinity to integer")
    | x => .ok (x.truncate?.bind journalDay)
  | .text s =>
    match Number.readInteger s.toList with
    | .ok n => .ok (journalDay n)
    | .error _ => .ok none
  | _ => .ok none

/-- A place in the shape of a text: a digit of any script or a given character. -/
inductive Place where
  | digit
  | mark (c : Char)

/-- The text behind a start of the given shape. -/
def dropShape? : List Place → List Char → Option (List Char)
  | [], s => some s
  | _ :: _, [] => none
  | .digit :: ps, c :: rest => if isDecimal c then dropShape? ps rest else none
  | .mark m :: ps, c :: rest => if c == m then dropShape? ps rest else none

/-- Digits in the number of the given list, with a character between them. -/
def shape (c : Char) : List Nat → List Place
  | [] => []
  | [n] => List.replicate n .digit
  | n :: rest => List.replicate n .digit ++ .mark c :: shape c rest

/-- Whether a text has the shape of a date: a whole one, or the start of a date with a time. -/
def isDateShape (s : List Char) : Bool :=
  let whole (ps : List Place) : Bool := ((dropShape? ps s).map List.isEmpty).getD false
  whole (shape '-' [4, 2, 2]) || whole (shape '/' [2, 2, 4]) || whole (shape '/' [4, 2, 2]) ||
    (dropShape? (shape '-' [4, 2, 2] ++ .mark 'T' :: shape ':' [2, 2]) s).isSome

/-- Whether a value is a text in the shape of a date. -/
def isDateLike : Value → Bool
  | .text s => isDateShape (trim s.toList)
  | _ => false

/-- The moment that a text spells in ISO form, a capital Z standing for no offset. -/
def isoMoment? (s : List Char) : Option Moment :=
  Iso.moment? (String.ofList (replace ['Z'] "+00:00".toList s))

/-- The date that a value spells. -/
def date? : Value → Option Date
  | .moment m => some m.date
  | .date d => some d
  | .text s =>
    let s := trim s.toList
    if isDateShape s then
      match Pattern.readDate? s with
      | some m => some m.date
      | none => (isoMoment? s).map (·.date)
    else none
  | _ => none

/-- Whether a text is a number with an optional sign and an optional fraction. -/
def isNumberShape (s : List Char) : Bool :=
  let s := match s with
    | '-' :: rest => rest
    | _ => s
  let whole := s.takeWhile isDecimal
  match s.dropWhile isDecimal with
  | [] => !whole.isEmpty
  | '.' :: fraction => !whole.isEmpty && !fraction.isEmpty && fraction.all isDecimal
  | _ => false

/-- The hour and minute behind blanks at the start of a text. -/
def clockText? (s : List Char) : Option (List Char) :=
  match s with
  | c :: _ =>
    if isBlank c then
      let s := trimStart s
      let hour := (s.take 2).takeWhile isDecimal
      if hour.isEmpty then none
      else
        match s.drop hour.length with
        | ':' :: a :: b :: _ =>
          if isDecimal a && isDecimal b then some (hour ++ [':', a, b]) else none
        | _ => none
    else none
  | [] => none

/-- The date and the time in the body of a scheduling note: a date, blanks, the short name of a
weekday and perhaps blanks and a time. -/
def noteParts? (s : List Char) : Option (List Char × Option (List Char)) := do
  let rest ← dropShape? (shape '-' [4, 2, 2]) s
  let date := s.take 10
  match rest with
  | c :: _ =>
    if isBlank c then
      let rest := trimStart rest
      let name := (rest.take 3).takeWhile isLatin
      let behind := rest.drop name.length
      let ends := match behind with
        | [] => true
        | c :: _ => !isWord c
      if 2 ≤ name.length && ends then return (date, clockText? behind) else none
    else none
  | [] => none

/-- The moment that a text spells. -/
def moment? (s : List Char) : Option Moment :=
  match Pattern.readDate? s with
  | some m => some m
  | none =>
    match noteParts? s with
    | some (date, clock) =>
      Pattern.read? Pattern.withClock (date ++ ' ' :: clock.getD "00:00".toList)
    | none => isoMoment? s

/-- The milliseconds since 1970 that a value spells; a number counts milliseconds. -/
def millis : Value → Outcome (Option Binary64)
  | .int n =>
    match Binary64.ofInt? n with
    | some x => .ok (some x)
    | none => .error (.overflow "int too large to convert to float")
  | .float x => .ok (some x)
  | .moment m => .ok (some m.epochMillis)
  | .date d => .ok (some (Moment.ofDate d).epochMillis)
  | .text s =>
    let s := trim s.toList
    if s.isEmpty then .ok none
    else if isNumberShape s then .ok (Number.readFloat? s)
    else .ok ((moment? s).map (·.epochMillis))
  | _ => .ok none

end OutlineSearch.Spelling
