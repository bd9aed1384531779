import OutlineSearch.Json
import OutlineSearch.Fault
import OutlineSearch.Number.Shortest
import OutlineSearch.Number.Refusal

/-!
# Writing JSON

Documents are written in ASCII: every other character is written by its UTF-16 units. A layout says
what stands between items and whether each item has a line of its own. An integer with more than
`digitLimit` digits has no text for callers.
-/

namespace OutlineSearch.Json

open OutlineSearch.Text OutlineSearch.Number

/-- How the parts of a document are separated. -/
structure Layout where
  /-- Columns by which an inner line is indented, or nothing for one line. -/
  indent : Option Nat
  itemSeparator : String
  nameSeparator : String

/-- One line, a blank behind each comma and colon. -/
def spaced : Layout := ⟨none, ", ", ": "⟩

/-- A line for each item, indented by two columns. -/
def indented : Layout := ⟨some 2, ",", ": "⟩

/-- Numbers from `1e-4` up to below `1e16` are written positionally. -/
def numberFormat : FloatFormat := ⟨-3, 16, 2, "NaN", "Infinity"⟩

/-- A UTF-16 unit behind a backslash. -/
def unitEscape (n : Nat) : List Char := '\\' :: 'u' :: hex 4 n

/-- A character inside quotes. -/
def escapeChar (c : Char) : List Char :=
  let n := c.toNat
  if c == '"' || c == '\\' then ['\\', c]
  else if c == '\n' then ['\\', 'n']
  else if c == '\r' then ['\\', 'r']
  else if c == '\t' then ['\\', 't']
  else if n == 8 then ['\\', 'b']
  else if n == 12 then ['\\', 'f']
  else if 0x20 ≤ n ∧ n < 0x7F then [c]
  else if n < 0x10000 then unitEscape n
  else unitEscape (0xD800 + (n - 0x10000) / 0x400) ++ unitEscape (0xDC00 + (n - 0x10000) % 0x400)

/-- The text between quotes. -/
def writeText (s : String) : String := String.ofList ('"' :: (s.toList.flatMap escapeChar ++ ['"']))

/-- The line break in front of an item at a depth. -/
def Layout.lineBreak (l : Layout) (depth : Nat) : String :=
  match l.indent with
  | none => ""
  | some n => String.ofList ('\n' :: List.replicate (n * depth) ' ')

/-- The parts of a collection between brackets. -/
def Layout.enclose (l : Layout) (depth : Nat) (opening closing : String) (parts : List String) :
    String :=
  if parts.isEmpty then opening ++ closing
  else
    let between := l.itemSeparator ++ l.lineBreak (depth + 1)
    opening ++ l.lineBreak (depth + 1) ++ between.intercalate parts ++ l.lineBreak depth ++ closing

mutual

/-- The text of a document inside `depth` collections. -/
def writeAt (l : Layout) (depth : Nat) : Json → String
  | null => "null"
  | bool b => if b then "true" else "false"
  | int n => toString n
  | float x => writeFloat numberFormat x
  | text s => writeText s
  | list items => l.enclose depth "[" "]" (writeAll l (depth + 1) items)
  | object members => l.enclose depth "\x7b" "\x7d" (writeMembers l (depth + 1) members)

/-- The texts of the items of a list. -/
def writeAll (l : Layout) (depth : Nat) : List Json → List String
  | [] => []
  | j :: rest => writeAt l depth j :: writeAll l depth rest

/-- The texts of the members of an object. -/
def writeMembers (l : Layout) (depth : Nat) : List (String × Json) → List String
  | [] => []
  | (k, j) :: rest =>
    (writeText k ++ l.nameSeparator ++ writeAt l depth j) :: writeMembers l depth rest

end

/-- The text of a document. -/
def write (l : Layout) (j : Json) : String := writeAt l 0 j

mutual

/-- Whether every integer of a document has few enough digits to be written. -/
def isShort : Json → Bool
  | int n => (Nat.toDigits 10 n.natAbs).length ≤ digitLimit
  | list items => areShort items
  | object members => areShortMembers members
  | _ => true

/-- Whether every integer of some documents has few enough digits. -/
def areShort : List Json → Bool
  | [] => true
  | j :: rest => isShort j && areShort rest

/-- Whether every integer in the values of some members has few enough digits. -/
def areShortMembers : List (String × Json) → Bool
  | [] => true
  | (_, j) :: rest => isShort j && areShortMembers rest

end

/-- The text of a document for a caller. -/
def written (l : Layout) (j : Json) : Outcome String :=
  if j.isShort then .ok (write l j) else .error (.badValue tooLongToWrite)

mutual

/-- The document with the members of every object in increasing order of name. -/
def sortNames : Json → Json
  | list items => list (sortNamesAll items)
  | object members =>
    object ((sortNamesMembers members).mergeSort fun a b => a.1 ≤ b.1)
  | j => j

/-- The documents with the members of every object in increasing order of name. -/
def sortNamesAll : List Json → List Json
  | [] => []
  | j :: rest => sortNames j :: sortNamesAll rest

/-- The members with those of every inner object in increasing order of name. -/
def sortNamesMembers : List (String × Json) → List (String × Json)
  | [] => []
  | (k, j) :: rest => (k, sortNames j) :: sortNamesMembers rest

end

end OutlineSearch.Json
