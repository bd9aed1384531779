import OutlineSearch.Text.Decompose
import OutlineSearch.Text.Case
import OutlineSearch.Text.Find
import OutlineSearch.Number.Binary64

/-!
# Relevance

How well a text answers a query. A query with phrases in double quotes asks for its phrases as they
stand; otherwise the normal forms are compared, as a whole and token by token.
-/

namespace OutlineSearch.Search

open OutlineSearch.Text

/-- Whether a character is neither part of a word, nor a blank, nor a hyphen. -/
def isPunctuation (c : Char) : Bool := !isWord c && !isBlank c && c != '-'

/-- The normal form of a text: in lower-case, without marks on letters and without punctuation, the
words one space apart. -/
def normalForm (s : List Char) : List Char :=
  let plain := (decompose (lower s)).filter fun c => combiningClass c == 0
  trim (collapseBlanks (plain.map fun c => if isPunctuation c then ' ' else c))

/-- The normal form of a string. -/
def normalizeText (text : String) : String := String.ofList (normalForm text.toList)

/-- Whether a text holds all phrases of a query, or the query itself when it has none. -/
def matchesQuery (text query : String) : Bool :=
  let haystack := lower text.toList
  match phrases query with
  | [] => occursIn (lower (trim query.toList)) haystack
  | ps => ps.all fun p => occursIn (lower p.toList) haystack

/-- The points of a token of a query for a token of a text. -/
def tokenPoints (queryToken textToken : List Char) : Nat :=
  if textToken == queryToken then 10 else if occursIn queryToken textToken then 5 else 0

/-- The total of some points. -/
def total : List Nat → Nat
  | [] => 0
  | p :: rest => p + total rest

/-- The points of a query without phrases for a text, both in their normal forms. -/
def normalPoints (text query : List Char) : Nat :=
  if query.isEmpty then 0
  else
    (if text == query then 100 else 0) + (if occursIn query text then 50 else 0) +
      total ((words query).map fun q => total ((words text).map (tokenPoints q)))

/-- The points of a query for a text. -/
def points (text query : String) : Nat :=
  if query.isEmpty || text.isEmpty then 0
  else
    match phrases query with
    | [] => normalPoints (normalForm text.toList) (normalForm query.toList)
    | ps =>
      let haystack := lower text.toList
      total (ps.map fun p => if occursIn (lower p.toList) haystack then 100 else 0)

/-- The score of a query for a text. -/
def score (text query : String) : Binary64 := Binary64.ofInt (points text query)

end OutlineSearch.Search
