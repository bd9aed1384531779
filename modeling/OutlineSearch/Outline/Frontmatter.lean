import OutlineSearch.Yaml.Load
import OutlineSearch.Text.Blank

/-!
# Frontmatter

A text may start with a mapping in YAML between two lines of three hyphens. A frontmatter that is
malformed or no mapping is cut off all the same and gives no entries; a scalar in it that cannot be
built is a fault.
-/

namespace OutlineSearch.Outline

open OutlineSearch.Text

/-- The text behind the last line feed of the blanks at the start, if there is one. -/
def skipBlankLines? (s : List Char) : Option (List Char) :=
  let blanks := s.takeWhile isBlank
  if blanks.contains '\n' then
    some ((blanks.reverse.takeWhile (· != '\n')).reverse ++ s.drop blanks.length)
  else none

/-- The text behind a closing line of hyphens at the start. -/
def closing? (s : List Char) : Option (List Char) := do
  skipBlankLines? (← dropPrefix? "\n---".toList s)

/-- The text in front of the first closing line and the text behind it. -/
def cutAtClosing? : List Char → Option (List Char × List Char)
  | [] => none
  | c :: rest =>
    match closing? (c :: rest) with
    | some body => some ([], body)
    | none => (cutAtClosing? rest).map fun (front, body) => (c :: front, body)

/-- The places behind the line feeds among the blanks at the start, the last one first. -/
def blankLineEnds : List Char → List (List Char)
  | [] => []
  | c :: rest =>
    if isBlank c then blankLineEnds rest ++ (if c == '\n' then [rest] else []) else []

/-- The source of the frontmatter and the text behind it. -/
def frontmatterParts? (s : List Char) : Option (List Char × List Char) := do
  let rest ← dropPrefix? "---".toList s
  (blankLineEnds rest).findSome? cutAtClosing?

/-- The entries of the frontmatter of a text, and the text behind it. -/
def frontmatter (s : List Char) : Outcome (List (Value × Value) × List Char) :=
  match frontmatterParts? s with
  | none => .ok ([], s)
  | some (source, body) =>
    match Yaml.load source with
    | .ok (.map entries) => .ok (entries, body)
    | .ok _ | .error .malformed => .ok ([], body)
    | .error (.failed fault) => .error fault

end OutlineSearch.Outline
