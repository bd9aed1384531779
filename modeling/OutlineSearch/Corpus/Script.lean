import OutlineSearch.Corpus.Read

/-!
# Scripts of reads

A script reads a corpus step by step and ends with a value or a fault. The same script runs on a
graph that stands still, without any cache, and as a job of the engine.
-/

namespace OutlineSearch

/-- A graph that stands still: what its provider answers. -/
structure Graph where
  pages : Outcome (List Page)
  blocks : String → Outcome (List Block)

namespace Graph

/-- The listing of the templates. -/
def templates (g : Graph) : Outcome (List Page) := g.pages.map fun ps => ps.filter Page.isTemplate

/-- The outline of a page, or nothing when the provider fails on it. -/
def tree (g : Graph) (page : String) : Outcome (Option (List Block)) :=
  match g.blocks page with
  | .ok items => .ok (some items)
  | .error (.provider _) => .ok none
  | .error fault => .error fault

end Graph

/-- Reads of a corpus that end with a value or a fault. -/
inductive Script (α : Type) where
  | done (r : Outcome α)
  | pages (next : Outcome (List Page) → Script α)
  | templates (next : Outcome (List Page) → Script α)
  | blocks (page : String) (next : Outcome (List Block) → Script α)
  | trees (names : List String) (next : Outcome (List (Option (List Block))) → Script α)

namespace Script

variable {α β : Type}

/-- Goes on with the value that a script ends with; a fault ends the whole. -/
def bind (s : Script α) (f : α → Script β) : Script β :=
  match s with
  | done (.ok a) => f a
  | done (.error fault) => done (.error fault)
  | pages next => pages fun r => (next r).bind f
  | templates next => templates fun r => (next r).bind f
  | blocks page next => blocks page fun r => (next r).bind f
  | trees names next => trees names fun r => (next r).bind f

instance : Monad Script where
  pure a := done (.ok a)
  bind := bind

/-- The script that only fails. -/
def fail (fault : Fault) : Script α := done (.error fault)

/-- The script whose faults end as a handler says. -/
def rescue (handler : Fault → Outcome α) : Script α → Script α
  | done (.ok a) => done (.ok a)
  | done (.error fault) => done (handler fault)
  | pages next => pages fun r => (next r).rescue handler
  | templates next => templates fun r => (next r).rescue handler
  | blocks page next => blocks page fun r => (next r).rescue handler
  | trees names next => trees names fun r => (next r).rescue handler

/-- Reads the listing of all pages. -/
def allPages : Script (List Page) := pages done

/-- Reads the listing of the templates. -/
def allTemplates : Script (List Page) := templates done

/-- Reads the outline of a page. -/
def outline (page : String) : Script (List Block) := blocks page done

/-- Reads the outlines of some pages; those that the provider fails on are left out. -/
def outlines (items : List Page) : Script (List (Page × List Block)) :=
  trees (items.map Page.name) fun r =>
    done (r.map fun found => (items.zip found).filterMap fun (p, b) => b.map fun b => (p, b))

/-- What a script ends with on a graph that stands still. -/
def run (g : Graph) : Script α → Outcome α
  | done r => r
  | pages next => (next g.pages).run g
  | templates next => (next g.templates).run g
  | blocks page next => (next (g.blocks page)).run g
  | trees names next => (next (names.mapM g.tree)).run g

/-- The script as a job of the engine. -/
def job (next : Outcome α → EngineJob) : Script α → EngineJob
  | done r => next r
  | pages step => Corpus.pages fun r => (step r).job next
  | templates step => Corpus.templates fun r => (step r).job next
  | blocks page step => Corpus.blocks page fun r => (step r).job next
  | trees names step => Corpus.trees names fun r => (step r).job next

end Script

end OutlineSearch
