import OutlineSearch.Engine.Tool
import OutlineSearch.Corpus.Change
import OutlineSearch.Search.Execute

/-!
# Answers to callers

What a caller of a tool or a reader of a resource is told, as a JSON text.
-/

namespace OutlineSearch.Engine

/-- A search fault as a text. -/
def faultText (fault : Fault) : String :=
  Json.write Json.spaced
    (.object [("error", .object [("code", .text fault.code), ("message", .text fault.text)])])

/-- A fault as it is told by a tool: a search fault is a text, any other stays a fault. -/
def toldByTool (fault : Fault) : Outcome String :=
  if fault.isSearchFault then .ok (faultText fault) else .error fault

/-- A page of results as a text. -/
def resultText (r : SearchResult) : Outcome String := do
  Json.written Json.indented (← r.briefDocument)

/-- What a search is answered with. -/
def searchText : Outcome SearchResult → Outcome String
  | .ok r => resultText r
  | .error fault => toldByTool fault

/-- The job that answers a search. -/
def searchJob (arguments : Value) (next : Outcome String → EngineJob) : EngineJob :=
  Search.execute arguments fun r => next (searchText r)

mutual

/-- The JSON document of a value whose numbers need not be finite. -/
def looseDocument : Value → Outcome Json
  | .float x => .ok (.float x)
  | .list items | .tuple items => (looseDocuments items).map .list
  | .map entries => (looseMembers [] entries).map .object
  | .date _ => .error (.wrongType "Object of type date is not JSON serializable")
  | .moment _ => .error (.wrongType "Object of type datetime is not JSON serializable")
  | .set _ => .error (.wrongType "Object of type set is not JSON serializable")
  | .bytes _ => .error (.wrongType "Object of type bytes is not JSON serializable")
  | v => v.document

/-- The JSON documents of some values. -/
def looseDocuments : List Value → Outcome (List Json)
  | [] => .ok []
  | v :: rest => do
    let j ← looseDocument v
    let js ← looseDocuments rest
    return j :: js

/-- The members of a map put behind those already written. -/
def looseMembers (written : List (String × Json)) :
    List (Value × Value) → Outcome (List (String × Json))
  | [] => .ok written
  | (k, v) :: rest => do
    let j ← looseDocument v
    let name ← k.keyDocument
    looseMembers (written ++ [(name, j)]) rest

end

/-- What is told after a change: its kind and its identifier. -/
def changeText (kind identifier : Value) : Outcome String := do
  let k ← looseDocument kind
  let i ← looseDocument identifier
  Json.written Json.spaced (.object [("invalidated", k), ("identifier", i)])

/-- The job that makes the cache forget what a change made stale. -/
def forgetJob (kind identifier : Value) (next : Outcome Unit → EngineJob) : EngineJob :=
  match Cache.Change.told kind identifier with
  | .error fault => next (.error fault)
  | .ok change => .change (·.forget change) (next (.ok ()))

/-- The job that answers a call to make the cache forget. -/
def forgetToolJob (arguments : List (Value × Value)) (next : Outcome String → EngineJob) :
    EngineJob :=
  let kind := Value.get arguments "kind"
  let identifier := Value.get arguments "identifier"
  if !kind.isTruthy then next (.ok (faultText (.invalidArgument "kind is required")))
  else
    forgetJob kind identifier fun
      | .ok () => next (changeText kind identifier)
      | .error fault => next (toldByTool fault)

/-- The entries of the arguments of a call; none for a value without any. -/
def argumentEntries : Value → List (Value × Value)
  | .map es => es
  | _ => []

/-- The job that answers a call of a tool by name. A fault is told by its words. -/
def toolJob (name : String) (arguments : Value) (next : Outcome String → EngineJob) : EngineJob :=
  let told (r : Outcome String) : EngineJob :=
    next (.ok (match r with | .ok text => text | .error fault => fault.text))
  if name = searchTool.name then searchJob (.map (argumentEntries arguments)) told
  else if name = forgetTool.name then forgetToolJob (argumentEntries arguments) told
  else told (.ok s!"Unknown tool: {name}")

/-- The text of a resource. -/
def resourceText (w : World) (uri : String) : String :=
  if uri = statistics.uri then
    Json.write Json.indented (.object (w.cache.sizes.map fun (name, n) => (name, .int n)))
  else Json.write Json.spaced (.object [("error", .text s!"Unknown resource: {uri}")])

end OutlineSearch.Engine
