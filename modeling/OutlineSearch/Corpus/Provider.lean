import OutlineSearch.Corpus.Memory
import OutlineSearch.Corpus.GraphFiles
import OutlineSearch.Corpus.Api

/-!
# Providers

A provider reads a graph that is held in memory, stored in files or kept by a server. A call is
first begun, then takes some turns, and is answered with what the graph holds at that time.
-/

namespace OutlineSearch

/-- What a graph is read from. -/
inductive Provider where
  | memory (graph : MemoryGraph)
  | files (graph : GraphFiles)
  | api (graph : ApiGraph)

/-- What a provider is asked for. -/
inductive Query where
  | pages
  | blocks (page : String)
deriving DecidableEq, Repr

/-- What a provider answers. -/
inductive Holding where
  | pages (items : List Page)
  | blocks (items : List Block)

namespace Provider

/-- The provider after a call has begun. -/
def start (p : Provider) (q : Query) : Provider :=
  match p with
  | memory g =>
    match q with
    | .pages => memory g.countPages
    | .blocks page => memory (g.countOutline page)
  | p => p

/-- The number of turns that a call takes. -/
def turns : Provider → Nat
  | memory g => g.turns
  | files _ => 1
  | api _ => 0

/-- The listing of the pages. -/
def listPages : Provider → Outcome (List Page) × Provider
  | memory g => (g.listPages, memory g)
  | files g => let (answer, g) := g.listPages; (answer, files g)
  | api g => let (answer, g) := g.listPages; (answer, api g)

/-- The outline of a page. -/
def outline (p : Provider) (page : String) : Outcome (List Block) × Provider :=
  match p with
  | memory g => (g.outline page, memory g)
  | files g => let (answer, g) := g.outline page; (answer, files g)
  | api g => let (answer, g) := g.outline page; (answer, api g)

/-- The answer to a call. -/
def answer (p : Provider) : Query → Outcome Holding × Provider
  | .pages => let (r, p) := p.listPages; (r.map .pages, p)
  | .blocks page => let (r, p) := p.outline page; (r.map .blocks, p)

end Provider

end OutlineSearch
