import OutlineSearch.Corpus.World

/-!
# Reading a corpus

Every read asks the cache first. What is missing is fetched from the provider, by one call for all
who ask for it at the same time, and kept for its lifetime; a failure is told to all who wait and is
not kept.
-/

namespace OutlineSearch.Corpus

open OutlineSearch.Task

/-- The name under which the failure of a call is told. -/
def operation : Query → String
  | .pages => "list_all_pages"
  | .blocks _ => "list_page_blocks"

/-- The fault of a call as it is told: one that is no search fault is the provider's. -/
def toldFault (q : Query) (fault : Fault) : Fault :=
  if fault.isSearchFault then fault else .provider s!"{operation q} failed: {fault.text}"

/-- The key under which an answer is kept. -/
def keyOf : Query → String
  | .pages => Cache.allPagesKey
  | .blocks page => Cache.blocksKey page

/-- The answer that the cache has. -/
def cached (q : Query) (w : World) : Option Holding × World :=
  match q with
  | .pages => let (found, w) := w.cachedPages (keyOf q); (found.map .pages, w)
  | .blocks _ => let (found, w) := w.cachedBlocks (keyOf q); (found.map .blocks, w)

/-- The world with an answer put into the cache. -/
def keep (q : Query) (h : Holding) (w : World) : World :=
  match h with
  | .pages items => w.keepPages items
  | .blocks items => w.keepBlocks (keyOf q) items

/-- An answer as a reply. -/
def replyOf : Holding → Reply
  | .pages items => .pages items
  | .blocks items => .blocks items

/-- The world with the answer to a call in its cache if there is one. -/
def receive (q : Query) (w : World) : Outcome Reply × World :=
  match w.answer q with
  | (.ok h, w) => (.ok (replyOf h), keep q h w)
  | (.error fault, w) => (.error (toldFault q fault), w)

/-- Ends a fetch: receives the answer and tells it to all who wait. -/
def land (q : Query) (next : Outcome Reply → EngineJob) : EngineJob :=
  .touch (receive q) fun reply =>
    .change (·.touchDown (keyOf q)) (.settle (keyOf q) reply (next reply))

/-- Fetches from the provider and tells all who wait. -/
def fetch (q : Query) (next : Outcome Reply → EngineJob) : EngineJob :=
  .change (fun w => (w.takeOff (keyOf q)).start q) <|
    .look fun w => .pauses (land q next) w.provider.turns

/-- Reads from the cache, from a flight under way, or from the provider. -/
def read (q : Query) (next : Outcome Reply → EngineJob) : EngineJob :=
  .touch (cached q) fun found =>
    match found with
    | some h => next (.ok (replyOf h))
    | none =>
      .look fun w => if w.isInFlight (keyOf q) then .await (keyOf q) next else fetch q next

/-- The pages of a reply. -/
def toPages : Outcome Reply → Outcome (List Page)
  | .ok (.pages items) => .ok items
  | .ok _ => .ok []
  | .error fault => .error fault

/-- The blocks of a reply. -/
def toBlocks : Outcome Reply → Outcome (List Block)
  | .ok (.blocks items) => .ok items
  | .ok _ => .ok []
  | .error fault => .error fault

/-- The records of a reply. -/
def toRecords : Outcome Reply → Outcome (List Record)
  | .ok (.records items) => .ok items
  | .ok _ => .ok []
  | .error fault => .error fault

/-- Reads the listing of all pages. -/
def pages (next : Outcome (List Page) → EngineJob) : EngineJob :=
  read .pages fun r => next (toPages r)

/-- Reads the outline of a page. -/
def blocks (page : String) (next : Outcome (List Block) → EngineJob) : EngineJob :=
  read (.blocks page) fun r => next (toBlocks r)

/-- Reads the listing of the templates. -/
def templates (next : Outcome (List Page) → EngineJob) : EngineJob :=
  .touch (·.cachedPages Cache.templatesKey) fun found =>
    match found with
    | some items => next (.ok items)
    | none =>
      pages fun listing =>
        match listing with
        | .error fault => next (.error fault)
        | .ok items =>
          let templates := items.filter Page.isTemplate
          .change (·.keepTemplates templates) (next (.ok templates))

/-- An outline, or nothing when the provider failed. -/
def outlineOrNothing : Outcome (List Block) → Outcome Reply
  | .ok items => .ok (.blocks items)
  | .error (.provider _) => .ok .nothing
  | .error fault => .error fault

/-- An outline in the reply of a member of a group. -/
def outline? : Outcome Reply → Option (List Block)
  | .ok (.blocks items) => some items
  | _ => none

/-- Reads the outlines of some pages side by side; one that the provider fails on is none. -/
def trees (names : List String) (next : Outcome (List (Option (List Block))) → EngineJob) :
    EngineJob :=
  .fork (names.map fun name => blocks name fun r => .finish (outlineOrNothing r)) fun
    | .ok replies => next (.ok (replies.map outline?))
    | .error (.error fault) => next (.error fault)
    | .error (.ok _) => next (.ok [])

end OutlineSearch.Corpus
