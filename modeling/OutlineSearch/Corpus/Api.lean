import OutlineSearch.Page
import OutlineSearch.Block
import OutlineSearch.Settings
import OutlineSearch.Json.Reader
import OutlineSearch.Text.Charset

/-!
# Graphs behind an interface

A server answers calls of methods with JSON. The answer may be wrapped in an object that has the
data or an error. Pages and blocks that are malformed are passed over.
-/

namespace OutlineSearch

open OutlineSearch.Text

/-- What comes back from a server. -/
inductive Exchange where
  | response (status : Int) (content : List UInt8)
  | refused
  | broken (text : String)

/-- A call of a method. -/
structure ApiCall where
  method : String
  arguments : List Value

/-- A graph behind a server. -/
structure ApiGraph where
  address : String
  authorization : Option String := none
  /-- What comes back for a call. -/
  server : ApiCall → Exchange
  /-- The calls made so far. -/
  sent : List ApiCall := []

namespace ApiGraph

mutual

/-- Whether a value can be sent: it is made of JSON values with finite numbers. -/
def sendable : Value → Outcome Unit
  | .float x =>
    if x.isFinite then .ok ()
    else .error (.badValue "Out of range float values are not JSON compliant")
  | .list items | .tuple items => allSendable items
  | .map entries => entriesSendable entries
  | .date _ => .error (.wrongType "Object of type date is not JSON serializable")
  | .moment _ => .error (.wrongType "Object of type datetime is not JSON serializable")
  | .set _ => .error (.wrongType "Object of type set is not JSON serializable")
  | .bytes _ => .error (.wrongType "Object of type bytes is not JSON serializable")
  | _ => .ok ()

/-- Whether all values of a list can be sent. -/
def allSendable : List Value → Outcome Unit
  | [] => .ok ()
  | v :: rest => do
    sendable v
    allSendable rest

/-- Whether all values of a map can be sent. -/
def entriesSendable : List (Value × Value) → Outcome Unit
  | [] => .ok ()
  | (_, v) :: rest => do
    sendable v
    entriesSendable rest

end

/-- The value in a payload: the error of an object is a failure, and its data counts if it has
any. -/
def payload (method : String) (v : Value) : Outcome Value :=
  match v with
  | .map es =>
    let error := Value.get es "error"
    if error.isTruthy then .error (.provider s!"{method} failed: {error.plainText}")
    else .ok ((Value.lookup "data" es).getD v)
  | v => .ok v

/-- The value that came back for a method. -/
def received (method : String) : Exchange → Outcome Value
  | .refused =>
    .error (.provider
      "Connection refused: make sure Logseq is running with the HTTP API enabled")
  | .broken text => .error (.provider s!"{method} request failed: {text}")
  | .response status content =>
    if status = 401 then .error (.provider "Unauthorized: invalid API token")
    else if 400 ≤ status then .error (.provider s!"{method} failed with HTTP {status}")
    else
      match (decodeAny? (content.map (·.toNat))).bind Json.read? with
      | none => .error (.provider s!"{method} returned invalid JSON")
      | some j => payload method j.toValue

/-- The value that a call brings, and the graph that has made the call. -/
def call (g : ApiGraph) (c : ApiCall) : Outcome Value × ApiGraph :=
  match allSendable c.arguments with
  | .error fault => (.error fault, g)
  | .ok () => (received c.method (g.server c), { g with sent := g.sent ++ [c] })

/-- The pages among some values. -/
def validPages (items : List Value) : List Page :=
  items.filterMap fun v =>
    match Page.read v with
    | .valid p => some p
    | _ => none

/-- The listing of the pages. -/
def listPages (g : ApiGraph) : Outcome (List Page) × ApiGraph :=
  let (answer, g) := g.call ⟨"logseq.Editor.getAllPages", []⟩
  (answer.map fun v =>
    match v with
    | .list items => validPages items
    | _ => [], g)

/-- The values that a value holds as its children. -/
def childItems (v : Value) : Outcome (List Value) :=
  if !v.isTruthy then .ok []
  else
    match v with
    | .list items | .tuple items | .set items => .ok items
    | .map es => .ok (es.map (·.1))
    | .text s => .ok (s.toList.map fun c => .text (String.ofList [c]))
    | v => .error (.wrongType s!"'{Block.scalarName v}' object is not iterable")

mutual

/-- The raw blocks among some values with the name of their page put on them and their children. -/
def stampAll (page : String) : List Value → Outcome (List Value)
  | [] => .ok []
  | .map es :: rest => do
    let children ← stampChildren page es
    let more ← stampAll page rest
    let stamped := Value.putText "children" (.list children) (Value.putText "page" (.text page) es)
    return .map stamped :: more
  | _ :: rest => stampAll page rest

/-- The stamped children among the fields of a raw block. -/
def stampChildren (page : String) : List (Value × Value) → Outcome (List Value)
  | [] => .ok []
  | (.text "children", v) :: _ => stampItems page v
  | _ :: rest => stampChildren page rest

/-- The stamped raw blocks in a value. -/
def stampItems (page : String) : Value → Outcome (List Value)
  | .list items => stampAll page items
  | .tuple items => stampAll page items
  | .set items => stampAll page items
  | v => (childItems v).map fun _ => []

end

/-- The blocks among some values, or the fault of one that is no matter of its form. -/
def validBlocks : List Value → Outcome (List Block)
  | [] => .ok []
  | v :: rest =>
    match Block.read v with
    | .valid b => (validBlocks rest).map (b :: ·)
    | .invalid _ => validBlocks rest
    | .broken fault => .error fault

/-- The outline in the answer for a page. -/
def outlineOf (page : String) (v : Value) : Outcome (List Block) :=
  match v with
  | .list items => do validBlocks (← stampAll page items)
  | _ => .ok []

/-- The outline of a page. -/
def outline (g : ApiGraph) (page : String) : Outcome (List Block) × ApiGraph :=
  let (answer, g) := g.call ⟨"logseq.Editor.getPageBlocksTree", [.text page]⟩
  (answer.bind (outlineOf page), g)

/-- What a query brings. -/
def query (g : ApiGraph) (text : String) : Outcome Value × ApiGraph :=
  g.call ⟨"logseq.DB.datascriptQuery", [.text text]⟩

end ApiGraph

end OutlineSearch
