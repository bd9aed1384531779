/-!
# Portions of a list

A portion goes from one place to another. A negative place counts from the end of the list, and a
place outside the list is its nearest end.
-/

namespace OutlineSearch.Search

variable {α : Type}

/-- The number of items in front of a place in a list of some length. -/
def itemsBefore (length : Nat) (place : Int) : Nat :=
  if 0 ≤ place then min length place.toNat else length - place.natAbs

/-- The items of a list between two places. -/
def portion (start stop : Int) (items : List α) : List α :=
  (items.take (itemsBefore items.length stop)).drop (itemsBefore items.length start)

/-- The items of a list in front of a place. -/
def upTo (stop : Int) (items : List α) : List α := items.take (itemsBefore items.length stop)

end OutlineSearch.Search
