import OutlineSearch.Stamp
import OutlineSearch.Value.Document

/-!
# Blocks

A block is a node of the outline of a page. Raw blocks name their page and their parent by a
reference, and their children may be mixed with other things, which are passed over.
-/

namespace OutlineSearch

open OutlineSearch.Schema

/-- A node of an outline. -/
inductive Block where
  | mk (uuid content : String) (properties : Properties) (page parent : Option String)
    (children : List Block) (createdAt updatedAt : Option Stamp)
deriving Inhabited, Repr

namespace Block

/-- The identity of the block. -/
def uuid : Block → String
  | mk uuid _ _ _ _ _ _ _ => uuid

/-- The text of the block itself. -/
def content : Block → String
  | mk _ content _ _ _ _ _ _ => content

/-- The properties of the block itself. -/
def properties : Block → Properties
  | mk _ _ properties _ _ _ _ _ => properties

/-- The page that the block names. -/
def page : Block → Option String
  | mk _ _ _ page _ _ _ _ => page

/-- The block that the block names as the one it stands under. -/
def parent : Block → Option String
  | mk _ _ _ _ parent _ _ _ => parent

/-- The blocks under the block. -/
def children : Block → List Block
  | mk _ _ _ _ _ children _ _ => children

/-- When the block was made. -/
def createdAt : Block → Option Stamp
  | mk _ _ _ _ _ _ createdAt _ => createdAt

/-- When the block was last changed. -/
def updatedAt : Block → Option Stamp
  | mk _ _ _ _ _ _ _ updatedAt => updatedAt

/-- The identity that a reference names. -/
def reference : Value → Value
  | .map es =>
    let target :=
      if (Value.get es "uuid").isTruthy then Value.get es "uuid"
      else if (Value.get es "name").isTruthy then Value.get es "name"
      else Value.get es "id"
    if target.isNull then .null else .text target.plainText
  | .null => .null
  | v => .text v.plainText

/-- The name of the type of a value that is no collection. -/
def scalarName : Value → String
  | .bool _ => "bool"
  | .int _ => "int"
  | .float _ => "float"
  | .date _ => "datetime.date"
  | .moment _ => "datetime.datetime"
  | _ => "NoneType"

/-- The items that a present value holds; a value that is no collection is of the wrong type. -/
def itemsOf (v : Value) : Outcome (List Value) :=
  if !v.isTruthy then .ok []
  else
    match v with
    | .list items | .tuple items | .set items => .ok items
    | .text _ | .bytes _ | .map _ => .ok []
    | v => .error (.wrongType s!"'{scalarName v}' object is not iterable")

/-- Whether a value is a map. -/
def isMap : Value → Bool
  | .map _ => true
  | _ => false

/-- The fields of a raw block, its children aside, with its identity and its references settled. -/
def settleFields (es : List (Value × Value)) : List (Value × Value) :=
  let id := Value.get es "id"
  let es :=
    if !(Value.get es "uuid").isTruthy && !id.isNull then
      Value.putText "uuid" (.text id.plainText) es
    else es
  let es := if (Value.get es "content").isNull then Value.putText "content" (.text "") es else es
  let es :=
    if (Value.get es "properties").isNull then Value.putText "properties" (.map []) es else es
  let es := Value.putText "page" (reference (Value.get es "page")) es
  Value.putText "parent" (reference (Value.get es "parent")) es

/-- Reads the fields of a raw block whose children have been read. -/
def readFields (raw : List (Value × Value)) (children : Checked (List Block)) : Checked Block :=
  let es := settleFields raw
  mk <$> required es ["uuid"] string
    <*> field es ["content"] "" string
    <*> field es ["properties"] [] namedValues
    <*> field es ["page"] none (optional string)
    <*> field es ["parent"] none (optional string)
    <*> children.under "children"
    <*> field es ["created-at", "createdAt", "created_at"] none (optional Stamp.read)
    <*> field es ["updated-at", "updatedAt", "updated_at"] none (optional Stamp.read)

mutual

/-- Reads a raw block. -/
def read : Value → Checked Block
  | .map es =>
    match itemsOf (Value.get es "children") with
    | .error fault => .broken fault
    | .ok _ => readFields es (readChildren es)
  | _ => .refuse "Input should be a valid dictionary or instance of Block"

/-- Reads the children among the fields of a raw block. -/
def readChildren : List (Value × Value) → Checked (List Block)
  | [] => .valid []
  | (.text "children", v) :: _ => readItems v
  | _ :: rest => readChildren rest

/-- Reads the raw blocks in a collection. -/
def readItems : Value → Checked (List Block)
  | .list items => readAll 0 items
  | .tuple items => readAll 0 items
  | .set items => readAll 0 items
  | _ => .valid []

/-- Reads the raw blocks among some values, numbering them from `index` on. -/
def readAll (index : Nat) : List Value → Checked (List Block)
  | [] => .valid []
  | v :: rest =>
    if isMap v then
      Checked.apply (Checked.map List.cons ((read v).under (toString index)))
        (readAll (index + 1) rest)
    else readAll index rest

end

mutual

/-- The document of a block. -/
def document : Block → Outcome Json
  | mk uuid content properties page parent children createdAt updatedAt => do
    let properties ← Value.propertiesDocument properties
    let children ← documents children
    return .object
      [("uuid", .text uuid), ("content", .text content), ("properties", properties),
        ("page", Json.ofText? page), ("parent", Json.ofText? parent),
        ("children", .list children), ("created_at", Stamp.documentOf createdAt),
        ("updated_at", Stamp.documentOf updatedAt)]

/-- The documents of some blocks. -/
def documents : List Block → Outcome (List Json)
  | [] => .ok []
  | b :: rest => do
    let j ← document b
    let js ← documents rest
    return j :: js

end

end Block

end OutlineSearch
