import OutlineSearch.Schema.Read
import OutlineSearch.Json

/-!
# Time stamps as they are given

A time stamp is kept in the form in which it was given: an integer, a floating point number or a
text. A value is read as the form that it already has.
-/

namespace OutlineSearch

/-- A time stamp in the form in which it was given. -/
inductive Stamp where
  | int (n : Int)
  | float (x : Binary64)
  | text (s : String)
deriving DecidableEq, Inhabited, Repr

namespace Stamp

/-- The time stamp as a value. -/
def toValue : Stamp → Value
  | int n => .int n
  | float x => .float x
  | text s => .text s

/-- An optional time stamp as a value. -/
def valueOf : Option Stamp → Value
  | none => .null
  | some s => s.toValue

/-- The document of a time stamp. -/
def document : Stamp → Json
  | int n => .int n
  | float x => .float x
  | text s => .text s

/-- The document of an optional time stamp. -/
def documentOf : Option Stamp → Json
  | none => .null
  | some s => s.document

/-- Reads a time stamp; a refusal names the issue of each form. -/
def read : Value → Checked Stamp
  | .int n => .valid (int n)
  | .float x => .valid (float x)
  | .text s => .valid (text s)
  | .bool b => .valid (int (if b then 1 else 0))
  | v =>
    match (Schema.integer v).under "int", (Schema.real v).under "float",
      (Schema.string v).under "str" with
    | .valid n, _, _ => .valid (int n)
    | _, .valid x, _ => .valid (float x)
    | _, _, .valid s => .valid (text s)
    | .invalid a, .invalid b, .invalid c => .invalid (a ++ b ++ c)
    | _, _, _ => .refuse "Input should be a valid string"

end Stamp

end OutlineSearch
