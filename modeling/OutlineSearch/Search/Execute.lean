import OutlineSearch.Search.Evaluate
import OutlineSearch.Search.Paging

/-!
# Searches

A search reads its request, finds the records unless the cache has them, keeps them, and hands out
one page. What is kept is the whole list in order, so that later pages come from the same list.
-/

namespace OutlineSearch

open OutlineSearch.Search

namespace SearchRequest

/-- The query without blanks around it. -/
def trimmedQuery (r : SearchRequest) : String := Text.trimmed (r.query.getD "")

/-- The records found, restricted, filtered, scored and sorted. -/
def arrange (r : SearchRequest) (records : List Record) : Outcome (List Record) := do
  let kept ← Filter.apply r.filter (Scope.apply r.scope records)
  Record.sorted r.trimmedQuery r.sort r.order kept

/-- The fault of a search as it is told: one that is no search fault is the engine's own. -/
def toldFault (fault : Fault) : Fault :=
  if fault.isSearchFault then fault else .internal s!"Search failed: {fault.text}"

/-- The records of a request on a graph that stands still. -/
def runRecords (e : Evaluator) (g : Graph) (r : SearchRequest) : Outcome (List Record) :=
  let found :=
    if r.trimmedQuery.isEmpty then (e.collect r.target r.scope).run g
    else e.run g r.target r.scope r.strict (Expr.parse r.trimmedQuery)
  (found.bind r.arrange).mapError toldFault

/-- The job that finds the records of a request. -/
def recordsJob (e : Evaluator) (r : SearchRequest) (next : Outcome (List Record) → EngineJob) :
    EngineJob :=
  let told (found : Outcome (List Record)) := next ((found.bind r.arrange).mapError toldFault)
  if r.trimmedQuery.isEmpty then (e.collect r.target r.scope).job told
  else e.evaluate (Expr.parse r.trimmedQuery) r.target r.strict r.scope told

/-- The key under which the records of a request are kept. -/
def cacheKey (r : SearchRequest) : Outcome String :=
  r.shapeDigest.map fun shape => Cache.queryKey r.trimmedQuery r.target.name r.limit shape

/-- The number of records in front of the page asked for. -/
def offset (r : SearchRequest) : Outcome Nat :=
  SearchResult.offset ((r.cursor.map Value.text).getD .null)

end SearchRequest

namespace SearchResult

/-- The answer to a request on a graph that stands still. -/
def run (e : Evaluator) (g : Graph) (r : SearchRequest) : Outcome SearchResult := do
  let offset ← r.offset
  let records ← r.runRecords e g
  return ofRecords records offset r.limit

end SearchResult

namespace World

/-- What searches in a world are evaluated with. -/
def evaluator (w : World) : Evaluator := ⟨w.settings, w.today⟩

end World

namespace Search

/-- Hands out a page of records. -/
def handOut (offset limit : Int) (next : Outcome SearchResult → EngineJob)
    (records : List Record) : EngineJob :=
  next (.ok (SearchResult.ofRecords records offset limit))

/-- Answers a request from the cache, or finds its records and keeps them. -/
def answer (r : SearchRequest) (offset : Nat) (key : String)
    (next : Outcome SearchResult → EngineJob) : EngineJob :=
  .touch (·.cachedResults key) fun
    | some records => handOut offset r.limit next records
    | none => .look fun w =>
      r.recordsJob w.evaluator fun
        | .error fault => next (.error fault)
        | .ok records => .change (·.keepResults key records) (handOut offset r.limit next records)

/-- Answers a request that has been read. -/
def executeRead (next : Outcome SearchResult → EngineJob) (r : Outcome SearchRequest) : EngineJob :=
  match r with
  | .error fault => next (.error fault)
  | .ok r =>
    match r.offset, r.cacheKey with
    | .ok offset, .ok key => answer r offset key next
    | .error fault, _ => next (.error fault)
    | _, .error fault => next (.error fault)

/-- Answers the arguments of a caller. -/
def execute (arguments : Value) (next : Outcome SearchResult → EngineJob) : EngineJob :=
  .look fun w =>
    executeRead next (SearchRequest.ofArguments (Limits.ofSettings w.settings) arguments)

/-- Answers a request of the engine's own. -/
def executeRequest (r : SearchRequest) (next : Outcome SearchResult → EngineJob) : EngineJob :=
  .look fun w => executeRead next (r.again (Limits.ofSettings w.settings))

end Search

end OutlineSearch
