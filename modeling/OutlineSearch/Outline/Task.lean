import OutlineSearch.Text.Find

/-!
# Tasks

A block whose text starts with a task marker is a task. The rest of the first line is what is to be
done; a scheduled time and a deadline stand in angle brackets anywhere in the text.
-/

namespace OutlineSearch.Outline

open OutlineSearch.Text

/-- The words that make a block a task. -/
def taskMarkers : List String :=
  ["TODO", "DOING", "DONE", "WAITING", "LATER", "NOW", "CANCELED", "CANCELLED"]

/-- The state that a marker stands for. -/
def taskState (marker : String) : String := if marker = "CANCELLED" then "CANCELED" else marker

/-- Whether a character is a space or a tab. -/
def isSpaceOrTab (c : Char) : Bool := c == ' ' || c == '\t'

/-- What is to be done, behind a marker at the start of a text. -/
def taskBehind? (marker : String) (s : List Char) : Option String := do
  let rest ← dropPrefix? marker.toList s
  if !(rest.head?.map isSpaceOrTab).getD false then none
  else
    let line := trimEnd ((rest.dropWhile isSpaceOrTab).takeWhile (· != '\n'))
    if line.isEmpty then none else some (String.ofList line)

/-- The state and the text of a task. -/
def task? (content : String) : Option (String × String) :=
  let s := content.toList.dropWhile isSpaceOrTab
  taskMarkers.findSome? fun marker =>
    (taskBehind? marker s).map fun text => (taskState marker, text)

/-- Finds a time in angle brackets behind a name. -/
def timeBehind (name : String) : Reader (List Char) := fun s => do
  let rest ← dropPrefix? name.toList s
  let blanks := rest.takeWhile isBlank
  let (time, n) ← enclosed ['<'] ['>'] (rest.drop blanks.length)
  return (time, name.toList.length + blanks.length + n)

/-- When a task is scheduled. -/
def scheduled? (content : String) : Option String :=
  (findFirst? (timeBehind "SCHEDULED:") content.toList).map String.ofList

/-- When a task is due. -/
def deadline? (content : String) : Option String :=
  (findFirst? (timeBehind "DEADLINE:") content.toList).map String.ofList

end OutlineSearch.Outline
