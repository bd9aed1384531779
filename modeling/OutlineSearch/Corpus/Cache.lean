import OutlineSearch.Corpus.Store
import OutlineSearch.Page
import OutlineSearch.Block
import OutlineSearch.Record
import OutlineSearch.Text.Case

/-!
# The cache of a corpus

What is known of a corpus for a while: the listings of all pages and of the templates, the outlines
of pages, and the results of searches. After an edit a part of it is forgotten.
-/

namespace OutlineSearch

/-- The cache of a corpus. -/
structure Cache where
  pages : Store (List Page) := {}
  blocks : Store (List Block) := {}
  queries : Store (List Record) := {}

namespace Cache

/-- The key of the listing of all pages. -/
def allPagesKey : String := "all_pages"

/-- The key of the listing of the templates. -/
def templatesKey : String := "templates"

/-- The key of the outline of a page; the case of its name does not matter. -/
def blocksKey (page : String) : String := s!"page_blocks:{Text.lowered page}"

/-- The key of the results of a search of some shape. -/
def queryKey (query target : String) (limit : Int) (shape : String) : String :=
  s!"search:{target}:{limit}:{query}:{shape}"

/-- What has changed. -/
inductive Change where
  /-- A page and with it the listings; its outline too if its name is given. -/
  | page (name : Option String)
  /-- The outline of a page, or of any page if no name is given. -/
  | block (page : Option String)
  | everything
deriving DecidableEq, Repr

namespace Change

/-- The change of a kind and a name; an empty name is none. -/
def ofKind? (kind : String) (identifier : Option String) : Option Change :=
  let name := identifier.filter (!·.isEmpty)
  if kind = "page" then some (page name)
  else if kind = "block" then some (block name)
  else if kind = "all" then some everything
  else none

/-- The words for a kind of change that is unknown. -/
def unknownKind (kind : String) : String :=
  s!"Unknown invalidation kind '{kind}'. Valid kinds: page, block, all"

end Change

/-- The cache after a change, all that may be stale forgotten. -/
def forget (c : Cache) : Change → Cache
  | .page name =>
    { c with
      pages := (c.pages.erase allPagesKey).erase templatesKey
      blocks :=
        match name with
        | some n => c.blocks.erase (blocksKey n)
        | none => c.blocks }
  | .block (some page) => { c with blocks := c.blocks.erase (blocksKey page) }
  | .block none => { c with blocks := c.blocks.clear }
  | .everything => ⟨c.pages.clear, c.blocks.clear, c.queries.clear⟩

/-- The numbers of values that the cache keeps by the name of its part. -/
def sizes (c : Cache) : List (String × Nat) :=
  [("pages", c.pages.size), ("blocks", c.blocks.size), ("queries", c.queries.size)]

end Cache

end OutlineSearch
