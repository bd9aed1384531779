/-!
# Names in order

A set of names is kept as a list that increases by code point.
-/

namespace OutlineSearch.Text

/-- The increasing names with one more among them. -/
def insertName (a : String) : List String → List String
  | [] => [a]
  | b :: rest =>
    if a < b then a :: b :: rest else if a = b then b :: rest else b :: insertName a rest

/-- The names of a list without repetition, increasing by code point. -/
def sortedNames (names : List String) : List String := names.foldr insertName []

end OutlineSearch.Text
