import OutlineSearch.Value.Display
import OutlineSearch.Number.Refusal
import OutlineSearch.Text.Case
import OutlineSearch.Text.Split
import OutlineSearch.Fault

/-!
# Property lines

A line of the form `key:: value` gives a page or a block a property. The key is written in
lower-case, and the value is a truth value, an integer, a list of the parts between commas, or the
text itself.
-/

namespace OutlineSearch.Outline

open OutlineSearch.Text OutlineSearch.Number

/-- Whether a text is decimal digits of any script, perhaps behind a minus sign. -/
def isIntegerShape (s : List Char) : Bool :=
  let digits := match s with
    | '-' :: rest => rest
    | _ => s
  !digits.isEmpty && digits.all isDecimal

/-- The value that a text stands for. -/
def propertyValue (raw : List Char) : Outcome Value :=
  let s := trim raw
  let word := lower s
  if word = "true".toList then .ok (.bool true)
  else if word = "false".toList then .ok (.bool false)
  else if isIntegerShape s then
    match readInteger s with
    | .ok n => .ok (.int n)
    | .error e => .error (.badValue (e.words s))
  else if s.contains ',' then
    let parts := (split [','] s).map trim
    .ok (.list ((parts.filter (!·.isEmpty)).map fun part => .text (String.ofList part)))
  else .ok (.text (String.ofList s))

/-- Whether a character may stand in the key of a property line. -/
def isKeyChar (c : Char) : Bool := c.isAlphanum || c == '_' || c == '-' || c == '?'

/-- The key and the raw value of a property line. The value may not run over a line end. -/
def propertyParts? (line : List Char) : Option (List Char × List Char) := do
  let s := trimStart line
  let key := s.takeWhile isKeyChar
  if key.isEmpty then none
  else
    let raw := trim (← dropPrefix? "::".toList (s.drop key.length))
    if raw.contains '\n' then none else some (key, raw)

/-- The property that a line gives, or none when it is no property line. -/
def propertyLine (line : List Char) : Outcome (Option (String × Value)) :=
  match propertyParts? line with
  | none => .ok none
  | some (key, raw) =>
    (propertyValue raw).map fun value => some (String.ofList (lower key), value)

end OutlineSearch.Outline

namespace OutlineSearch.Value

/-- The value under a name in a map: the name itself counts first, then the first key whose text
differs from it only in case. -/
def find? (entries : List (Value × Value)) (key : String) : Option Value :=
  match lookup key entries with
  | some v => some v
  | none =>
    (entries.find? fun (k, _) => Text.lowered k.plainText == Text.lowered key).map (·.2)

end OutlineSearch.Value

namespace OutlineSearch.Properties

/-- The value under a name: the name itself counts first, then the first one that differs from it
only in case. -/
def findValue? (p : Properties) (key : String) : Option Value :=
  match p.get? key with
  | some v => some v
  | none => (List.find? (fun (k, _) => Text.lowered k == Text.lowered key) p).map (·.2)

end OutlineSearch.Properties
