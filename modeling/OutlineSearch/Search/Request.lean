import OutlineSearch.Search.Scope
import OutlineSearch.Search.Filter
import OutlineSearch.Search.Sorting
import OutlineSearch.Number.Refusal
import OutlineSearch.Json.Reader
import OutlineSearch.Json.Writer
import OutlineSearch.Digest.Sha1
import OutlineSearch.Settings

/-!
# Search requests

A request is read from loose arguments: parts that are structured may be given as JSON texts, the
limit as a numeral and the cursor as an integer. The shape of a request is what decides its results
beside the query, the target and the page asked for.
-/

namespace OutlineSearch

open OutlineSearch.Schema OutlineSearch.Text OutlineSearch.Number

/-- What kind of records a search looks for. -/
inductive Target where
  | pages
  | blocks
  | templates
  | tasks
  | properties
  | both
deriving DecidableEq, Repr, Inhabited

namespace Target

/-- The targets by their names. -/
def named : List (String × Target) :=
  [("pages", pages), ("blocks", blocks), ("templates", templates), ("tasks", tasks),
    ("properties", properties), ("both", both)]

/-- The name of a target. -/
def name : Target → String
  | pages => "pages"
  | blocks => "blocks"
  | templates => "templates"
  | tasks => "tasks"
  | properties => "properties"
  | both => "both"

/-- The target of a name; an unknown one looks for properties. -/
def ofName (name : String) : Target := ((named.find? (·.1 == name)).map (·.2)).getD properties

end Target

/-- The limits of the number of records on a page. -/
structure Limits where
  /-- The limit of a request that names none. -/
  default : Option Int := none
  greatest : Int := 100
deriving DecidableEq, Repr

namespace Limits

/-- The limits of some settings. -/
def ofSettings (s : Settings) : Limits := ⟨some s.defaultLimit, s.maxLimit⟩

/-- A limit that has been read, if it is one that is allowed. -/
def check (l : Limits) (n : Int) : Checked Int :=
  if 1 ≤ n ∧ n ≤ l.greatest then .valid n
  else .refuse s!"Value error, limit must be between 1 and {l.greatest}"

end Limits

/-- A search request. -/
structure SearchRequest where
  query : Option String := none
  target : Target := .both
  scope : Option Scope := none
  filter : Option Filter := none
  sort : SortKey := .relevance
  order : SortOrder := .descending
  limit : Int := 20
  cursor : Option String := none
  strict : Bool := false
deriving Repr, Inhabited

namespace SearchRequest

/-- The value that a JSON text stands for; other values, and texts that are no JSON, stay. -/
def unwrap (v : Value) : Value :=
  match v with
  | .text s => ((Json.read? s.toList).map Json.toValue).getD v
  | v => v

/-- A map with the values under some of its keys unwrapped; other values stay. -/
def unwrapWithin (keys : List String) (v : Value) : Value :=
  match v with
  | .map es =>
    .map (es.map fun (k, v) =>
      match k with
      | .text s => if keys.contains s then (k, unwrap v) else (k, v)
      | _ => (k, v))
  | v => v

/-- Whether a text is digits between blanks and behind hyphens. -/
def isLimitText (s : List Char) : Bool :=
  let digits := (trim s).dropWhile (· == '-')
  !digits.isEmpty && digits.all isDigitLike

/-- The limit among the arguments, a text of digits being read as a number. -/
def limitOf (l : Limits) (es : List (Value × Value)) : Checked Value :=
  match Value.get es "limit" with
  | .null => .valid ((l.default.map Value.int).getD .null)
  | .text s =>
    if isLimitText s.toList then
      match readInteger s.toList with
      | .ok n => .valid (.int n)
      | .error e => .refuse s!"Value error, {e.words s.toList}"
    else .valid (.text s)
  | v => .valid v

/-- The cursor among the arguments, a number being written as a text. -/
def cursorOf (es : List (Value × Value)) : Value :=
  match Value.get es "cursor" with
  | .int n => .text (Value.int n).plainText
  | .bool b => .text (Value.bool b).plainText
  | v => v

/-- The arguments in their settled form: texts unwrapped and null arguments left out. -/
def settle (l : Limits) (es : List (Value × Value)) : Checked (List (Value × Value)) :=
  (limitOf l es).map fun limit =>
    let settled :=
      [("filter", unwrapWithin ["tags_all", "tags_any"] (unwrap (Value.get es "filter"))),
        ("scope", unwrapWithin ["page_titles"] (unwrap (Value.get es "scope"))),
        ("limit", limit), ("cursor", cursorOf es)]
    (settled.foldl (fun known (k, v) => Value.putText k v known) es).filter fun (_, v) => !v.isNull

/-- Reads the fields of a request from settled arguments. -/
def readFields (l : Limits) (es : List (Value × Value)) : Checked SearchRequest :=
  mk <$> field es ["query"] none (optional string)
    <*> field es ["target"] .both (choice Target.named)
    <*> field es ["scope"] none (optional Scope.read)
    <*> field es ["filter"] none (optional Filter.read)
    <*> field es ["sort"] .relevance (choice SortKey.named)
    <*> field es ["order"] .descending (choice SortOrder.named)
    <*> field es ["limit"] 20 (fun v => (integer v).bind l.check)
    <*> field es ["cursor"] none (optional string)
    <*> field es ["strict"] false truth

/-- Reads a request. -/
def read (l : Limits) (v : Value) : Checked SearchRequest :=
  record "SearchRequest" (fun es => (settle l es).bind (readFields l)) v

/-- Reads a request from the arguments of a caller. -/
def ofArguments (l : Limits) (arguments : Value) : Outcome SearchRequest :=
  match read l arguments with
  | .valid r => .ok r
  | .invalid issues =>
    .error (.invalidArgument
      ("Invalid search request: " ++ "; ".intercalate (issues.map (Issue.line "request"))))
  | .broken fault => .error fault

/-- The entries of some fields that have a value. -/
def entriesOf (fields : List (String × Option Value)) : Value :=
  .map (fields.filterMap fun (name, v) => v.map fun v => (.text name, v))

/-- The fields of a request, its scope and its filter put as given. -/
def fieldsWith (scope filter : Option Value) (r : SearchRequest) : List (String × Option Value) :=
  [("query", r.query.map .text), ("target", some (.text r.target.name)), ("scope", scope),
    ("filter", filter), ("sort", some (.text r.sort.name)), ("order", some (.text r.order.name)),
    ("limit", some (.int r.limit)), ("cursor", r.cursor.map .text),
    ("strict", some (.bool r.strict))]

/-- The arguments that give the request again. -/
def toArguments (r : SearchRequest) : Value :=
  entriesOf (r.fieldsWith (r.scope.map fun s => entriesOf s.fields)
    (r.filter.map fun f => entriesOf (f.fields.map fun x => (x.name, x.value))))

/-- The request read again under other limits. -/
def again (l : Limits) (r : SearchRequest) : Outcome SearchRequest := ofArguments l r.toArguments

/-- A field of the document of a scope or a filter. Numbers that are fields keep their form. -/
def fieldDocument : Value → Outcome Json
  | .float x => .ok (.float x)
  | v => v.document

/-- The members of the document of some fields. -/
def memberDocuments : List (String × Option Value) → Outcome (List (String × Json))
  | [] => .ok []
  | (name, v) :: rest => do
    let j ← (v.map fieldDocument).getD (.ok .null)
    let more ← memberDocuments rest
    return (name, j) :: more

/-- The document of some fields. -/
def fieldsDocument (fields : List (String × Option Value)) : Outcome Json :=
  (memberDocuments fields).map .object

/-- The document of an optional part. -/
def partDocument {α : Type} (fields : α → List (String × Option Value)) :
    Option α → Outcome Json
  | none => .ok .null
  | some a => fieldsDocument (fields a)

/-- The document of a request. -/
def document (r : SearchRequest) : Outcome Json := do
  let scope ← partDocument Scope.fields r.scope
  let filter ← partDocument (fun f : Filter => f.fields.map fun x => (x.name, x.value)) r.filter
  let .object members ← fieldsDocument (r.fieldsWith none none) | return .null
  return .object (Json.putMember "filter" filter (Json.putMember "scope" scope members))

/-- The members of the shape of a request; absent parts are left out. -/
def shapeMembers (r : SearchRequest) : Outcome (List (String × Json)) := do
  let present (fields : List (String × Option Value)) := fields.filter fun (_, v) => v.isSome
  let scope ← partDocument (fun s : Scope => present s.fields) r.scope
  let filter ← partDocument
    (fun f : Filter => present (f.fields.map fun x => (x.outerName, x.value))) r.filter
  let parts := [("scope", r.scope.map fun _ => scope), ("filter", r.filter.map fun _ => filter),
    ("sort", some (.text r.sort.name)), ("order", some (.text r.order.name)),
    ("strict", some (.bool r.strict))]
  return parts.filterMap fun (name, j) => j.map fun j => (name, j)

/-- The digest of the shape of a request: the first twelve digits of that of its document with
sorted names. -/
def shapeDigest (r : SearchRequest) : Outcome String := do
  let members ← r.shapeMembers
  let text := Json.write Json.spaced (Json.sortNames (.object members))
  return String.ofList ((Digest.hexText (Digest.sha1 (encode text))).take 12)

end SearchRequest

end OutlineSearch
