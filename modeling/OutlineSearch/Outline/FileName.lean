import OutlineSearch.Text.Percent
import OutlineSearch.Text.Class
import OutlineSearch.Text.Split
import OutlineSearch.Number.Numeral

/-!
# Page names from file names

The name of a page file gives the name of its page: three underscores stand for a slash, and percent
escapes are allowed. A file in the folder of journals whose name is a date gives a journal page.
-/

namespace OutlineSearch.Outline

open OutlineSearch.Text OutlineSearch.Number

/-- The parts of a path, empty parts and parts that mean the folder itself left out. -/
def pathParts (path : List Char) : List (List Char) :=
  (split ['/'] path).filter fun part => !part.isEmpty && part != ['.']

/-- A file name without the extension behind its last point; a point in front or at the end starts
no extension. -/
def stem (name : List Char) : List Char :=
  let extension := name.reverse.takeWhile (· != '.')
  let front := name.length - extension.length - 1
  if extension.isEmpty || name.length ≤ extension.length || front = 0 then name
  else name.take front

/-- Some decimal digits at the start of a text and the rest. -/
def digitRun? (count : Nat) (s : List Char) : Option (List Char × List Char) :=
  let ds := s.take count
  if ds.length = count && ds.all isDecimal then some (ds, s.drop count) else none

/-- The digits of the year, the month and the day that a journal file is named by. -/
def journalParts? (s : List Char) : Option (List Char × List Char × List Char) := do
  let (year, rest) ← digitRun? 4 s
  let (month, rest) ← digitRun? 2 (← dropPrefix? ['_'] rest)
  let (day, rest) ← digitRun? 2 (← dropPrefix? ['_'] rest)
  if rest = [] ∨ rest = ['\n'] then return (year, month, day) else none

/-- The number that decimal digits of any script spell. -/
def digitsNumber (s : List Char) : Int := ofDigits (s.map fun c => (digitValue? c).getD 0)

/-- The name of the page of a file, and the number of its day when it is a journal page. -/
def pageName (path : String) : String × Option Int :=
  let parts := (pathParts path.toList).reverse
  let name := stem (parts.headD [])
  let journal :=
    if parts.tail.headD [] = "journals".toList then journalParts? name else none
  match journal with
  | some (year, month, day) =>
    (String.ofList (year ++ '-' :: (month ++ '-' :: day)),
      some (digitsNumber (year ++ month ++ day)))
  | none => (String.ofList (unescapePercent (replace "___".toList ['/'] name)), none)

end OutlineSearch.Outline
