import OutlineSearch.Corpus.Cache
import OutlineSearch.Fault
import OutlineSearch.Value.Display

/-!
# Changes told by a caller

A caller says what has changed by a kind and an identifier, which may be any values.
-/

namespace OutlineSearch.Cache.Change

/-- The name of the type of a value. -/
def typeName : Value → String
  | .null => "NoneType"
  | .bool _ => "bool"
  | .int _ => "int"
  | .float _ => "float"
  | .text _ => "str"
  | .list _ => "list"
  | .tuple _ => "tuple"
  | .set _ => "set"
  | .map _ => "dict"
  | .date _ => "datetime.date"
  | .moment _ => "datetime.datetime"
  | .bytes _ => "bytes"

/-- The change that a kind and an identifier tell. An identifier that is needed has to be a text. -/
def told (kind identifier : Value) : Outcome Change :=
  let unknown : Outcome Change := .error (.invalidArgument (unknownKind kind.plainText))
  match kind with
  | .text k =>
    match identifier with
    | .text name => ((ofKind? k (some name)).map .ok).getD unknown
    | other =>
      match ofKind? k none with
      | none => unknown
      | some .everything => .ok .everything
      | some change =>
        if other.isTruthy then
          .error (.noParts s!"'{typeName other}' object has no attribute 'lower'")
        else .ok change
  | _ => unknown

end OutlineSearch.Cache.Change
