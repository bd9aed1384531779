import OutlineSearch.Json
import OutlineSearch.Fault
import OutlineSearch.Text.Utf8
import OutlineSearch.Value.Display

/-!
# Values as JSON documents

Dates and moments become strings, collections become lists, keys become strings, and numbers that
are not finite become null. Only bytes that are no text have no document.
-/

namespace OutlineSearch.Value

open OutlineSearch.Text

/-- The text of bytes. -/
def bytesDocument (data : List UInt8) : Outcome String :=
  match Text.decode (data.map (·.toNat)) with
  | .ok s => .ok (String.ofList s)
  | .error e => .error (.undecodable ({ e with length := 1 }.withReason "invalid utf-8"))

mutual

/-- The string under which a key is written. -/
def keyDocument : Value → Outcome String
  | text s => .ok s
  | bool b => .ok (if b then "true" else "false")
  | float x =>
    match x with
    | .nan => .ok "NaN"
    | .infinite negative => .ok (if negative then "-Infinity" else "Infinity")
    | x => .ok (float x).exactText
  | date d => .ok d.iso
  | moment m => .ok m.isoZulu
  | bytes data => bytesDocument data
  | tuple items => (keyDocuments items).map fun parts => ",".intercalate parts
  | v => .ok v.exactText

/-- The strings under which the parts of a key are written. -/
def keyDocuments : List Value → Outcome (List String)
  | [] => .ok []
  | v :: rest => do
    let k ← keyDocument v
    let ks ← keyDocuments rest
    return k :: ks

end

mutual

/-- The document of a value. -/
def document : Value → Outcome Json
  | null => .ok .null
  | bool b => .ok (.bool b)
  | int n => .ok (.int n)
  | float x => .ok (if x.isFinite then .float x else .null)
  | text s => .ok (.text s)
  | list items => (documents items).map .list
  | tuple items => (documents items).map .list
  | set items => (documents items).map .list
  | map entries => (memberDocuments [] entries).map .object
  | date d => .ok (.text d.iso)
  | moment m => .ok (.text m.isoZulu)
  | bytes data => (bytesDocument data).map .text

/-- The documents of the items of a collection. -/
def documents : List Value → Outcome (List Json)
  | [] => .ok []
  | v :: rest => do
    let j ← document v
    let js ← documents rest
    return j :: js

/-- The members of a map put behind those already written. -/
def memberDocuments (written : List (String × Json)) :
    List (Value × Value) → Outcome (List (String × Json))
  | [] => .ok written
  | (k, v) :: rest => do
    let key ← keyDocument k
    let j ← document v
    memberDocuments (Json.putMember key j written) rest

end

/-- The document of properties. -/
def propertiesDocument (p : Properties) : Outcome Json := document (ofProperties p)

end OutlineSearch.Value
