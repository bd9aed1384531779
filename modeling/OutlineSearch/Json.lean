import OutlineSearch.Value

/-!
# JSON documents

A document keeps the order of the members of its objects and tells integers, of any size, from
floating point numbers.
-/

namespace OutlineSearch

/-- A JSON document. -/
inductive Json where
  | null
  | bool (b : Bool)
  | int (n : Int)
  | float (x : Binary64)
  | text (s : String)
  | list (items : List Json)
  | object (members : List (String × Json))
deriving Inhabited, Repr

namespace Json

/-- The members of an object with the value under a name replaced, or added behind the others. -/
def putMember (key : String) (value : Json) : List (String × Json) → List (String × Json)
  | [] => [(key, value)]
  | (k, v) :: rest =>
    if k == key then (k, value) :: rest else (k, v) :: putMember key value rest

/-- The value of a member of an object. -/
def member? (j : Json) (key : String) : Option Json :=
  match j with
  | object members => (members.find? (·.1 == key)).map (·.2)
  | _ => none

mutual

/-- The value that a document stands for. -/
def toValue : Json → Value
  | null => .null
  | bool b => .bool b
  | int n => .int n
  | float x => .float x
  | text s => .text s
  | list items => .list (toValues items)
  | object members => .map (toEntries members)

/-- The values that a list of documents stands for. -/
def toValues : List Json → List Value
  | [] => []
  | j :: rest => toValue j :: toValues rest

/-- The entries that the members of an object stand for. -/
def toEntries : List (String × Json) → List (Value × Value)
  | [] => []
  | (k, j) :: rest => (.text k, toValue j) :: toEntries rest

end

/-- An optional string. -/
def ofText? : Option String → Json
  | none => null
  | some s => text s

end Json

end OutlineSearch
