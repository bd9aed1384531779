import OutlineSearch.Record
import OutlineSearch.Calendar.Spelling
import OutlineSearch.Search.Relevance

/-!
# Sorting

Records are scored and sorted by a key, the least first or the greatest first. Records with equal
keys keep their order either way, and a record without a date that can be read counts as earlier
than all others.
-/

namespace OutlineSearch

open OutlineSearch.Text

/-- What records are sorted by. -/
inductive SortKey where
  | relevance
  | created
  | updated
  | title
  | pageTitle
  | length
  | deadline
  | scheduled
deriving DecidableEq, Repr, Inhabited

namespace SortKey

/-- The sort keys by their names. -/
def named : List (String × SortKey) :=
  [("relevance", relevance), ("created", created), ("updated", updated), ("title", title),
    ("page_title", pageTitle), ("length", length), ("deadline", deadline),
    ("scheduled", scheduled)]

/-- The name of a sort key. -/
def name : SortKey → String
  | relevance => "relevance"
  | created => "created"
  | updated => "updated"
  | title => "title"
  | pageTitle => "page_title"
  | length => "length"
  | deadline => "deadline"
  | scheduled => "scheduled"

/-- The sort key of a name; an unknown one sorts by relevance. -/
def ofName (name : String) : SortKey := ((named.find? (·.1 == name)).map (·.2)).getD relevance

end SortKey

/-- Which end of the order comes first. -/
inductive SortOrder where
  | ascending
  | descending
deriving DecidableEq, Repr, Inhabited

namespace SortOrder

/-- The orders by their names. -/
def named : List (String × SortOrder) := [("asc", ascending), ("desc", descending)]

/-- The name of an order. -/
def name : SortOrder → String
  | ascending => "asc"
  | descending => "desc"

/-- The order of a name; an unknown one is ascending. -/
def ofName (name : String) : SortOrder := if name == "desc" then descending else ascending

end SortOrder

/-- What a record is compared by. -/
inductive Rank where
  | text (s : String)
  | count (n : Nat)
  | number (x : Binary64)
deriving Repr

namespace Rank

/-- Whether one rank is before another of the same kind. -/
def less : Rank → Rank → Bool
  | text s, text t => s < t
  | count m, count n => m < n
  | number x, number y => x.less y
  | _, _ => false

end Rank

namespace Record

/-- The rank of a time; one that cannot be read is before all others. -/
def timeRank (v : Value) : Outcome Rank :=
  (Spelling.millis v).map fun x => .number (x.getD (.infinite true))

/-- An optional string as a value. -/
def textValue (s : Option String) : Value := (s.map Value.text).getD .null

/-- When a task is due, null for other records. -/
def deadlineValue (r : Record) : Value :=
  match r.detail with
  | .task _ _ _ deadline => textValue deadline
  | _ => .null

/-- When a task is scheduled, null for other records. -/
def scheduledValue (r : Record) : Value :=
  match r.detail with
  | .task _ _ scheduled _ => textValue scheduled
  | _ => .null

/-- The rank of a record under a sort key. -/
def rank (key : SortKey) (r : Record) : Outcome Rank :=
  match key with
  | .relevance => .ok (.number r.score)
  | .title => .ok (.text (lowered r.name))
  | .pageTitle => .ok (.text (lowered r.scopeName))
  | .length => .ok (.count r.primaryText.length)
  | .created => timeRank (Stamp.valueOf r.created)
  | .updated => timeRank (Stamp.valueOf r.updated)
  | .deadline => timeRank r.deadlineValue
  | .scheduled => timeRank r.scheduledValue

/-- The record with its score for a query. -/
def scored (query : String) (r : Record) : Record :=
  { r with score := Search.score r.rankingText query }

/-- The records of a list with their ranks. -/
def ranked (key : SortKey) : List Record → Outcome (List (Rank × Record))
  | [] => .ok []
  | r :: rest => do
    let k ← r.rank key
    let more ← ranked key rest
    return (k, r) :: more

/-- Whether a ranked record may stay in front of another. -/
def inOrder (order : SortOrder) (a b : Rank × Record) : Bool :=
  match order with
  | .ascending => !b.1.less a.1
  | .descending => !a.1.less b.1

/-- The records scored for a query and sorted. -/
def sorted (query : String) (key : SortKey) (order : SortOrder) (records : List Record) :
    Outcome (List Record) := do
  let ranks ← ranked key (records.map (scored query))
  return (ranks.mergeSort (inOrder order)).map (·.2)

end Record

end OutlineSearch
