import OutlineSearch.Record
import OutlineSearch.Number.Numeral
import OutlineSearch.Search.Portion

/-!
# Result pages

The records of a search are handed out page by page. The cursor of a page is the number of records
in front of it; one that cannot be read starts over.
-/

namespace OutlineSearch

open OutlineSearch.Search OutlineSearch.Number

/-- One page of the results of a search. -/
structure SearchResult where
  results : List Record
  totalFound : Nat
  hasMore : Bool
  nextCursor : Option String := none
deriving Repr, Inhabited

namespace SearchResult

/-- The integer that a cursor stands for. -/
def cursorInteger : Value → Outcome (Option Int)
  | .int n => .ok (some n)
  | .bool b => .ok (some (if b then 1 else 0))
  | .float x =>
    match x with
    | .infinite _ => .error (.overflow "cannot convert float infinity to integer")
    | x => .ok x.truncate?
  | .text s =>
    match readInteger s.toList with
    | .ok n => .ok (some n)
    | .error _ => .ok none
  | _ => .ok none

/-- The number of records in front of the page of a cursor. -/
def offset (cursor : Value) : Outcome Nat :=
  (cursorInteger cursor).map fun n => (n.getD 0).toNat

/-- The page of some records that starts behind `offset` records and holds at most `limit`. -/
def ofRecords (records : List Record) (offset limit : Int) : SearchResult :=
  let hasMore : Bool := offset + limit < records.length
  { results := portion offset (offset + limit) records
    totalFound := records.length
    hasMore
    nextCursor := if hasMore then some (toString (offset + limit)) else none }

/-- The documents of records. -/
def recordDocuments (write : Record → Outcome Json) : List Record → Outcome (List Json)
  | [] => .ok []
  | r :: rest => do
    let j ← write r
    let js ← recordDocuments write rest
    return j :: js

/-- The document of a page. -/
def document (r : SearchResult) : Outcome Json := do
  return .object
    [("results", .list (← recordDocuments Record.document r.results)),
      ("total_found", .int r.totalFound), ("has_more", .bool r.hasMore),
      ("next_cursor", Json.ofText? r.nextCursor)]

/-- The document of a page without the fields that are null. -/
def briefDocument (r : SearchResult) : Outcome Json := do
  return .object
    ([("results", .list (← recordDocuments Record.briefDocument r.results)),
        ("total_found", .int r.totalFound), ("has_more", .bool r.hasMore)] ++
      (r.nextCursor.map fun c => ("next_cursor", Json.text c)).toList)

end SearchResult

end OutlineSearch
