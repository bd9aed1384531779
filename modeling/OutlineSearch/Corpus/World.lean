import OutlineSearch.Corpus.Cache
import OutlineSearch.Corpus.Provider
import OutlineSearch.Search.Paging
import OutlineSearch.Settings
import OutlineSearch.Calendar.Date
import OutlineSearch.Task.Loop

/-!
# Worlds

A world is what the jobs of an engine share: the graph, the cache, the flights that are under way,
the clock and the settings.
-/

namespace OutlineSearch

/-- What the jobs of an engine share. -/
structure World where
  provider : Provider
  cache : Cache := {}
  /-- The keys of what is being fetched. -/
  flights : List String := []
  clock : Binary64 := Binary64.ofInt 1000
  settings : Settings := {}
  today : Date

/-- What a job ends with when it does not fail. -/
inductive Reply where
  | pages (items : List Page)
  | blocks (items : List Block)
  | records (items : List Record)
  | result (page : SearchResult)
  | text (s : String)
  | value (v : Value)
  | nothing
  | outcomes (items : List (Except Fault Reply))

instance : Inhabited Reply := ⟨.nothing⟩

/-- A job of the engine. -/
abbrev EngineJob := Task.Job World String (Outcome Reply)

/-- The loop of the engine. -/
abbrev EngineLoop := Task.Loop World String (Outcome Reply)

/-- Whether a result is a failure. -/
def failed (r : Outcome Reply) : Bool :=
  match r with
  | .ok _ => false
  | .error _ => true

namespace World

/-- The world with its provider replaced. -/
def withProvider (w : World) (p : Provider) : World := { w with provider := p }

/-- The world after a call has begun. -/
def start (w : World) (q : Query) : World := w.withProvider (w.provider.start q)

/-- The answer to a call. -/
def answer (w : World) (q : Query) : Outcome Holding × World :=
  let (r, p) := w.provider.answer q
  (r, w.withProvider p)

/-- The world after a key has been taken off. -/
def takeOff (w : World) (key : String) : World := { w with flights := key :: w.flights }

/-- The world after the flight of a key is over. -/
def touchDown (w : World) (key : String) : World :=
  { w with flights := w.flights.filter (· != key) }

/-- Whether a key is being fetched. -/
def isInFlight (w : World) (key : String) : Bool := w.flights.contains key

/-- A listing that the cache has. -/
def cachedPages (w : World) (key : String) : Option (List Page) × World :=
  let (found, pages) := w.cache.pages.get w.clock key
  (found, { w with cache := { w.cache with pages } })

/-- An outline that the cache has. -/
def cachedBlocks (w : World) (key : String) : Option (List Block) × World :=
  let (found, blocks) := w.cache.blocks.get w.clock key
  (found, { w with cache := { w.cache with blocks } })

/-- The results of a search that the cache has. -/
def cachedResults (w : World) (key : String) : Option (List Record) × World :=
  let (found, queries) := w.cache.queries.get w.clock key
  (found, { w with cache := { w.cache with queries } })

/-- The world with the listing of all pages put into the cache. -/
def keepPages (w : World) (items : List Page) : World :=
  { w with cache := { w.cache with
      pages := w.cache.pages.put w.clock w.settings.pagesLifetime Cache.allPagesKey items } }

/-- The world with the listing of the templates put into the cache. -/
def keepTemplates (w : World) (items : List Page) : World :=
  { w with cache := { w.cache with
      pages := w.cache.pages.put w.clock w.settings.templatesLifetime Cache.templatesKey items } }

/-- The world with the outline of a page put into the cache. -/
def keepBlocks (w : World) (key : String) (items : List Block) : World :=
  { w with cache := { w.cache with
      blocks := w.cache.blocks.put w.clock w.settings.blocksLifetime key items } }

/-- The world with the results of a search put into the cache. -/
def keepResults (w : World) (key : String) (items : List Record) : World :=
  { w with cache := { w.cache with
      queries := w.cache.queries.put w.clock w.settings.resultsLifetime key items } }

/-- The world with a part of the cache forgotten. -/
def forget (w : World) (c : Cache.Change) : World := { w with cache := w.cache.forget c }

end World

end OutlineSearch
