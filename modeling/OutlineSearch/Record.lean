import OutlineSearch.Stamp
import OutlineSearch.Value.Document
import OutlineSearch.Text.Blank

/-!
# Records

A search finds records. Every record has an identity, a name, a text, properties and tags; what else
it has depends on the kind of thing found. A record says which of its texts is searched, which is
ranked, and the name of the page that a scope looks at.
-/

namespace OutlineSearch

open OutlineSearch.Schema

/-- What has a property. -/
inductive Owner where
  | page
  | block
deriving DecidableEq, Repr, Inhabited

namespace Owner

/-- The owners by their names. -/
def named : List (String × Owner) := [("page", page), ("block", block)]

/-- The name of an owner. -/
def name : Owner → String
  | page => "page"
  | block => "block"

end Owner

/-- What a record has beside the fields of all records. -/
inductive Detail where
  | page (journal : Bool) (journalDay : Option Int) (matchReason : Option String)
  | block (page : String) (parent : Option String) (children : List String)
  | template (templateType : String) (placeholders : List String)
  | task (page status : String) (scheduled deadline : Option String)
  | property (owner : Owner) (page key : String) (value : Value)
deriving Repr, Inhabited

/-- Something that a search found. -/
structure Record where
  id : String
  name : String := ""
  content : String := ""
  properties : Properties := []
  tags : List String := []
  created : Option Stamp := none
  updated : Option Stamp := none
  score : Binary64 := .finite 0
  detail : Detail
deriving Repr, Inhabited

namespace Detail

/-- The name of the kind of a record. -/
def kindName : Detail → String
  | page .. => "page"
  | block .. => "block"
  | template .. => "template"
  | task .. => "task"
  | property .. => "property"

end Detail

namespace Record

/-- The text whose length and content filters look at. -/
def primaryText (r : Record) : String := if r.content.isEmpty then r.name else r.content

/-- The text that is ranked. -/
def rankingText (r : Record) : String :=
  match r.detail with
  | .page .. | .template .. => Text.trimmed s!"{r.name} {r.content}"
  | _ => r.primaryText

/-- The name of the page that a scope looks at. -/
def scopeName (r : Record) : String :=
  match r.detail with
  | .page .. | .template .. => r.name
  | .block page .. | .task page .. | .property _ page .. => page

/-- Whether the record is a page of the journal. -/
def isJournal (r : Record) : Bool :=
  match r.detail with
  | .page journal .. => journal
  | _ => false

/-- The kinds of records with the way each reads what is its own. -/
def details (es : List (Value × Value)) : List (String × Checked Detail) :=
  [("page", Detail.page <$> field es ["journal"] false truth
      <*> field es ["journal_day"] none (optional integer)
      <*> field es ["match_reason"] none (optional string)),
    ("block", Detail.block <$> field es ["page"] "" string
      <*> field es ["parent"] none (optional string)
      <*> field es ["children"] [] (list string)),
    ("template", Detail.template <$> field es ["template_type"] "page" string
      <*> field es ["placeholders"] [] (list string)),
    ("task", Detail.task <$> field es ["page"] "" string
      <*> field es ["status"] "TODO" string
      <*> field es ["scheduled"] none (optional string)
      <*> field es ["deadline"] none (optional string)),
    ("property", Detail.property <$> field es ["owner"] .page (choice Owner.named)
      <*> field es ["page"] "" string
      <*> field es ["key"] "" string
      <*> field es ["value"] .null .valid)]

/-- Reads the fields of a record whose own part has been read. -/
def readFields (es : List (Value × Value)) (detail : Checked Detail) : Checked Record :=
  mk <$> required es ["id"] string
    <*> field es ["name"] "" string
    <*> field es ["content"] "" string
    <*> field es ["properties"] [] namedValues
    <*> field es ["tags"] [] (list string)
    <*> field es ["created"] none (optional Stamp.read)
    <*> field es ["updated"] none (optional Stamp.read)
    <*> field es ["relevance_score"] (.finite 0) real
    <*> detail

/-- The names of the kinds of records, quoted. -/
def kindList (es : List (Value × Value)) : String :=
  ", ".intercalate ((details es).map fun (name, _) => s!"'{name}'")

/-- Reads a record; its type says which kind it is. -/
def read : Value → Checked Record
  | .map es =>
    match Value.lookup "type" es with
    | none => .refuse "Unable to extract tag using discriminator 'type'"
    | some tag =>
      let found := match tag with
        | .text s => (details es).find? fun (name, _) => name == s
        | _ => none
      match found with
      | some (name, detail) => (readFields es detail).under name
      | none =>
        .refuse (s!"Input tag '{tag.plainText}' found using 'type' does not match any of the " ++
          s!"expected tags: {kindList es}")
  | _ => .refuse "Input should be a valid dictionary or object to extract fields from"

/-- Reads a list of records. -/
def readAll (v : Value) : Checked (List Record) := list read v

/-- A field of a document; an absent one is null. -/
abbrev Field := String × Option Json

private def texts (items : List String) : Option Json := some (.list (items.map .text))

/-- The fields of the part of a record that is its own. -/
def detailFields : Detail → Outcome (List Field)
  | .page journal journalDay matchReason =>
    .ok [("journal", some (.bool journal)), ("journal_day", journalDay.map .int),
      ("match_reason", matchReason.map .text)]
  | .block page parent children =>
    .ok [("page", some (.text page)), ("parent", parent.map .text), ("children", texts children)]
  | .template templateType placeholders =>
    .ok [("template_type", some (.text templateType)), ("placeholders", texts placeholders)]
  | .task page status scheduled deadline =>
    .ok [("page", some (.text page)), ("status", some (.text status)),
      ("scheduled", scheduled.map .text), ("deadline", deadline.map .text)]
  | .property owner page key value => do
    let j ← value.document
    return [("owner", some (.text owner.name)), ("page", some (.text page)),
      ("key", some (.text key)), ("value", if value.isNull then none else some j)]

/-- The fields of a record. -/
def fields (r : Record) : Outcome (List Field) := do
  let properties ← Value.propertiesDocument r.properties
  let own ← detailFields r.detail
  return [("id", some (.text r.id)), ("name", some (.text r.name)),
    ("content", some (.text r.content)), ("properties", some properties), ("tags", texts r.tags),
    ("created", r.created.map Stamp.document), ("updated", r.updated.map Stamp.document),
    ("relevance_score", some (.float r.score)), ("type", some (.text r.detail.kindName))] ++ own

/-- The document of a record. -/
def document (r : Record) : Outcome Json := do
  return .object ((← r.fields).map fun (name, j) => (name, j.getD .null))

/-- The document of a record without the fields that are null. -/
def briefDocument (r : Record) : Outcome Json := do
  return .object ((← r.fields).filterMap fun (name, j) => j.map fun j => (name, j))

end Record

end OutlineSearch
