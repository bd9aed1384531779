import OutlineSearch.Record
import OutlineSearch.Outline.Tag

/-!
# Scopes

A scope keeps the records of a namespace, of some pages, of the journal or of a tag.
-/

namespace OutlineSearch

open OutlineSearch.Schema OutlineSearch.Text

/-- What a search is restricted to; an absent part restricts nothing. -/
structure Scope where
  namespaceName : Option String := none
  journal : Option Bool := none
  pageTitles : Option (List String) := none
  tag : Option String := none
deriving DecidableEq, Repr, Inhabited

namespace Scope

/-- Reads the fields of a scope. -/
def readFields (es : List (Value × Value)) : Checked Scope :=
  mk <$> field es ["namespace"] none (optional string)
    <*> field es ["journal"] none (optional truth)
    <*> field es ["page_titles"] none (optional (list string))
    <*> field es ["tag"] none (optional string)

/-- Reads a scope. -/
def read (v : Value) : Checked Scope := record "SearchScope" readFields v

/-- The fields of a scope as values; an absent one is null. -/
def fields (s : Scope) : List (String × Option Value) :=
  [("namespace", s.namespaceName.map .text), ("journal", s.journal.map .bool),
    ("page_titles", s.pageTitles.map fun ts => .list (ts.map .text)), ("tag", s.tag.map .text)]

/-- Whether a page is the page of a namespace or stands under it. -/
def inNamespace (name space : String) : Bool :=
  let name := lower name.toList
  let space := lower (trimOf (· == '/') (trim space.toList))
  name == space || startsWith name (space ++ ['/'])

/-- A string that says something. -/
def spoken (s : Option String) : Option String := s.filter (!·.isEmpty)

/-- Whether a record lies in the namespace of a scope. -/
def keepsNamespace (s : Scope) (r : Record) : Bool :=
  (spoken s.namespaceName).all fun space => inNamespace r.scopeName space

/-- Whether a record is on a page of a scope. -/
def keepsPage (s : Scope) (r : Record) : Bool :=
  s.pageTitles.all fun titles => (titles.map lowered).contains (lowered r.scopeName)

/-- Whether a record agrees with a scope about the journal. -/
def keepsJournal (s : Scope) (r : Record) : Bool := s.journal.all fun j => r.isJournal == j

/-- Whether a record has the tag of a scope. -/
def keepsTag (s : Scope) (r : Record) : Bool :=
  (spoken s.tag).all fun tag => r.tags.contains (Outline.normalizeTag tag)

/-- Whether a scope keeps a record. -/
def keeps (s : Scope) (r : Record) : Bool :=
  s.keepsNamespace r && s.keepsPage r && s.keepsJournal r && s.keepsTag r

/-- The records that a scope keeps. -/
def apply (scope : Option Scope) (records : List Record) : List Record :=
  match scope with
  | none => records
  | some s => records.filter s.keeps

end Scope

end OutlineSearch
