import OutlineSearch.Page
import OutlineSearch.Block
import OutlineSearch.Fault
import OutlineSearch.Text.Case

/-!
# Graphs held in memory

A graph that is given as its pages and outlines. Every call takes some turns before it answers, may
be told to fail, and is counted.
-/

namespace OutlineSearch

/-- A graph held in memory. -/
structure MemoryGraph where
  pages : List Page := []
  /-- The outlines by the lower-case names of their pages. -/
  outlines : List (String × List Block) := []
  pagesFault : Option Fault := none
  /-- The faults of calls by the name that is asked for. -/
  outlineFaults : List (String × Fault) := []
  /-- The turns that a call takes. -/
  turns : Nat := 0
  pagesCalls : Nat := 0
  outlineCalls : List (String × Nat) := []

namespace MemoryGraph

/-- The graph with a call for the listing counted. -/
def countPages (g : MemoryGraph) : MemoryGraph := { g with pagesCalls := g.pagesCalls + 1 }

/-- The numbers by name with that of a name increased. -/
def countName (name : String) : List (String × Nat) → List (String × Nat)
  | [] => [(name, 1)]
  | (n, k) :: rest => if n = name then (n, k + 1) :: rest else (n, k) :: countName name rest

/-- The graph with a call for an outline counted. -/
def countOutline (g : MemoryGraph) (name : String) : MemoryGraph :=
  { g with outlineCalls := countName name g.outlineCalls }

/-- The answer to a call for the listing. -/
def listPages (g : MemoryGraph) : Outcome (List Page) :=
  match g.pagesFault with
  | some fault => .error fault
  | none => .ok g.pages

/-- The answer to a call for the outline of a page; an unknown page has none. -/
def outline (g : MemoryGraph) (name : String) : Outcome (List Block) :=
  match g.outlineFaults.find? (·.1 == name) with
  | some (_, fault) => .error fault
  | none =>
    .ok (((g.outlines.find? (·.1 == Text.lowered name)).map (·.2)).getD [])

/-- The graph with another outline of a page. -/
def setOutline (g : MemoryGraph) (name : String) (blocks : List Block) : MemoryGraph :=
  { g with outlines := (name, blocks) :: g.outlines.filter (·.1 != name) }

end MemoryGraph

end OutlineSearch
