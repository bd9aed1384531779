import OutlineSearch.Text.Blank
import OutlineSearch.Text.Split

/-!
# Finding what a text holds

A reader looks at the start of a text and says what it finds there and how many characters that
takes. A text is scanned from left to right: where something is found the scan goes on behind it,
elsewhere it goes on one character further.
-/

namespace OutlineSearch.Text

variable {α : Type}

/-- Looks at the start of a text: what is found there and the number of characters it takes. -/
abbrev Reader (α : Type) := List Char → Option (α × Nat)

/-- All that is found in a text; `skip` characters of the last find are still to be passed over. -/
def findAllFrom (read : Reader α) (skip : Nat) : List Char → List α
  | [] => []
  | c :: rest =>
    if 0 < skip then findAllFrom read (skip - 1) rest
    else
      match read (c :: rest) with
      | some (a, n) => a :: findAllFrom read (n - 1) rest
      | none => findAllFrom read 0 rest

/-- All that is found in a text. -/
def findAll (read : Reader α) (s : List Char) : List α := findAllFrom read 0 s

/-- What is found first in a text. -/
def findFirst? (read : Reader α) : List Char → Option α
  | [] => none
  | c :: rest =>
    match read (c :: rest) with
    | some (a, _) => some a
    | none => findFirst? read rest

/-- Finds a text between two marks that holds at least one character and none equal to the first one
of the closing mark. -/
def enclosed (opening closing : List Char) : Reader (List Char) := fun s => do
  let rest ← dropPrefix? opening s
  let inner := rest.takeWhile fun c => closing.head? != some c
  if inner.isEmpty then none
  else
    let _ ← dropPrefix? closing (rest.drop inner.length)
    return (inner, opening.length + inner.length + closing.length)

/-- Finds a phrase between double quotes. -/
def phrase : Reader (List Char) := enclosed ['"'] ['"']

/-- The phrases between double quotes in a text. -/
def phrases (s : String) : List String := (findAll phrase s.toList).map String.ofList

end OutlineSearch.Text
