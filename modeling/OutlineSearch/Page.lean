import OutlineSearch.Stamp
import OutlineSearch.Value.Document
import OutlineSearch.Text.Case

/-!
# Pages

A page of the graph as a provider lists it. Raw pages name their fields in several ways; the first
name that is there counts, and the identity of a page is its `uuid` if it has one.
-/

namespace OutlineSearch

open OutlineSearch.Schema

/-- A page of the graph. -/
structure Page where
  id : String
  name : String
  originalName : Option String := none
  journal : Bool := false
  journalDay : Option Int := none
  properties : Properties := []
  createdAt : Option Stamp := none
  updatedAt : Option Stamp := none
  content : String := ""
deriving Inhabited, Repr

namespace Page

/-- The name that a page is shown under. -/
def displayName (p : Page) : String :=
  match p.originalName with
  | some n => if n.isEmpty then p.name else n
  | none => p.name

/-- The fields of a raw page with its identity settled and absent parts left out. -/
def settleFields (es : List (Value × Value)) : List (Value × Value) :=
  let uuid := Value.get es "uuid"
  let id := Value.get es "id"
  let es :=
    if uuid.isTruthy then Value.putText "id" (.text uuid.plainText) es
    else if !id.isNull then Value.putText "id" (.text id.plainText) es
    else es
  let es :=
    if (Value.get es "properties").isNull then Value.putText "properties" (.map []) es else es
  if (Value.get es "content").isNull then Value.erase (.text "content") es else es

/-- Reads the fields of a raw page. -/
def readFields (raw : List (Value × Value)) : Checked Page :=
  let es := settleFields raw
  mk <$> required es ["id"] string
    <*> required es ["name"] string
    <*> field es ["originalName", "original_name"] none (optional string)
    <*> field es ["journal?", "journal"] false truth
    <*> field es ["journalDay", "journal_day"] none (optional integer)
    <*> field es ["properties"] [] namedValues
    <*> field es ["createdAt", "created_at"] none (optional Stamp.read)
    <*> field es ["updatedAt", "updated_at"] none (optional Stamp.read)
    <*> field es ["content"] "" string

/-- Reads a raw page. -/
def read (v : Value) : Checked Page := record "Page" readFields v

/-- The document of a page. -/
def document (p : Page) : Outcome Json := do
  let properties ← Value.propertiesDocument p.properties
  return .object
    [("id", .text p.id), ("name", .text p.name), ("original_name", Json.ofText? p.originalName),
      ("journal", .bool p.journal),
      ("journal_day", (p.journalDay.map Json.int).getD .null), ("properties", properties),
      ("created_at", Stamp.documentOf p.createdAt), ("updated_at", Stamp.documentOf p.updatedAt),
      ("content", .text p.content)]

/-- The properties by lower-case name; of names that become one the last counts. -/
def loweredProperties (p : Page) : Properties :=
  p.properties.foldl (fun known (k, v) => known.put (Text.lowered k) v) []

/-- Whether a page is a template: by its name, or by its `template` or `page-type` property. -/
def isTemplate (p : Page) : Bool :=
  let known := p.loweredProperties
  Text.contains (Text.lowered p.displayName) "template" ||
    ((known.get? "template").getD .null).isTruthy ||
    Text.lowered ((known.get? "page-type").getD (.text "")).plainText == "template"

end Page

end OutlineSearch
