import OutlineSearch.Record

/-!
# Sets of records

Records are told apart by their identities. An intersection keeps the records of the first set in
their order, a union the first record of every identity in the order in which they are met.
-/

namespace OutlineSearch.Search

/-- Whether a record of some identity is in a set. -/
def hasId (id : String) (records : List Record) : Bool := records.any fun r => r.id == id

/-- The records of the first set that are in all others. -/
def intersect : List (List Record) → List Record
  | [] => []
  | first :: others => first.filter fun r => others.all (hasId r.id)

/-- The known records with those of a list that are new. -/
def addRecords (known : List Record) (records : List Record) : List Record :=
  records.foldl (fun known r => if hasId r.id known then known else known ++ [r]) known

/-- The records of all sets, each identity once. -/
def union (sets : List (List Record)) : List Record := sets.foldl addRecords []

end OutlineSearch.Search
