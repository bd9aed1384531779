import OutlineSearch.Proofs.Search.Listing

/-!
# Searching after edits

A graph is edited while searches go on one after the other, and the cache is told of the edits. What
is stale is what has been edited since the cache was last told of it: of all else the cache keeps only
what the graph holds now. The results of searches are out of this, since no edit of a page or of its
blocks makes the cache forget them. So once the cache has been told of all edits, a search answers
like on a fresh corpus unless a page of older results is kept for it.
-/

namespace OutlineSearch

open OutlineSearch.Task OutlineSearch.Search OutlineSearch.Engine

/-! ### What is stale -/

/-- What has been edited since the cache was told of it. -/
structure Stale where
  pages : Prop
  blocks : String → Prop

namespace Stale

/-- Nothing is stale. -/
def nothing : Stale := ⟨False, fun _ ↦ False⟩

/-- What is stale after an edit of one graph into another. -/
def edited (s : Stale) (g g' : Graph) : Stale where
  pages := s.pages ∨ g'.pages ≠ g.pages
  blocks page := s.blocks page ∨ g'.blocks page ≠ g.blocks page

/-- What is still stale after the cache has been told of a change. -/
def without (s : Stale) : Cache.Change → Stale
  | .page name =>
    ⟨False, fun page ↦ s.blocks page ∧ ∀ n, name = some n → Text.lowered page ≠ Text.lowered n⟩
  | .block (some n) => ⟨s.pages, fun page ↦ s.blocks page ∧ Text.lowered page ≠ Text.lowered n⟩
  | .block none => ⟨s.pages, fun _ ↦ False⟩
  | .everything => nothing

/-- What is still stale after the cache has been told something, which need not be a change. -/
def afterTold (s : Stale) : Outcome Cache.Change → Stale
  | .ok change => s.without change
  | .error _ => s

/-- The case of the names of pages does not matter. -/
def Caseless (s : Stale) : Prop :=
  ∀ a b, Text.lowered a = Text.lowered b → s.blocks a → s.blocks b

variable {s : Stale}

theorem Caseless.edited (hs : s.Caseless) {g g' : Graph} (hg : g.Regular) (hg' : g'.Regular) :
    (s.edited g g').Caseless := by
  intro a b hab h
  rcases h with h | h
  · exact .inl (hs a b hab h)
  · right
    rw [← hg.caseless a b hab, ← hg'.caseless a b hab]
    exact h

theorem Caseless.without (hs : s.Caseless) (change : Cache.Change) :
    (s.without change).Caseless := by
  intro a b hab h
  cases change with
  | page name =>
    refine ⟨hs a b hab h.1, fun n hn ↦ ?_⟩
    rw [← hab]
    exact h.2 n hn
  | block page =>
    cases page with
    | none => exact h
    | some page =>
      refine ⟨hs a b hab h.1, ?_⟩
      rw [← hab]
      exact h.2
  | everything => exact h

end Stale

/-! ### What the cache keeps -/

/-- What may be said of a graph while something is stale: what the graph holds, or anything where it
is stale. -/
def Lore.stale (g : Graph) (s : Stale) (settings : Settings) (today : Date) : Lore where
  pages r := r = g.told.pages ∨ s.pages ∧ ∃ items, r = .ok items
  blocks page r := r = g.told.blocks page ∨ s.blocks page ∧ ∃ items, r = .ok items
  results _ _ := True
  provider p := p.Serves g
  settings := settings
  today := today

/-- The world after the cache has been told something, which need not be a change. -/
def World.afterTold (w : World) : Outcome Cache.Change → World
  | .ok change => w.forget change
  | .error _ => w

/-- What is kept keeps to a graph but for what is stale, and nothing is on its way. -/
structure World.Follows (w : World) (g : Graph) (s : Stale) : Prop where
  regular : g.Regular
  caseless : s.Caseless
  holds : (Lore.stale g s w.settings w.today).Holds w
  flights : w.flights = []

section

variable {g g' : Graph} {s : Stale} {settings : Settings} {today : Date} {w : World}

theorem Lore.fair_stale (hg : g.Regular) (hs : s.Caseless) :
    (Lore.stale g s settings today).Fair where
  start _ q h := h.becomes (.start .refl q)
  answer _ q h := h.becomes (.answer .refl q)
  pages p h := by
    rw [(h p .refl).1]
    exact .inl rfl
  blocks p page h := by
    rw [(h p .refl).2 page]
    exact .inl rfl
  caseless a b hab r hr := by
    rcases hr with hr | ⟨hstale, hr⟩
    · exact .inl (hr.trans (hg.told_blocks hab))
    · exact .inr ⟨hs a b hab hstale, hr⟩
  pagesFault fault h := by
    rcases h with h | ⟨-, items, h⟩
    · exact hg.told_pagesFault (Eq.symm h)
    · cases h
  blocksFault page fault h := by
    rcases h with h | ⟨-, items, h⟩
    · exact hg.told_blocksFault (Eq.symm h)
    · cases h

/-- What was said of the graph before an edit is stale if the edit concerns it. -/
theorem Lore.pages_edited {r : Outcome (List Page)} {items : List Page} (hr : r = .ok items)
    (h : (Lore.stale g s settings today).pages r) :
    (Lore.stale g' (s.edited g g') settings today).pages r := by
  rcases h with h | ⟨hstale, h⟩
  · by_cases hpages : g'.pages = g.pages
    · left
      rw [h, Graph.told, Graph.told, hpages]
    · exact .inr ⟨.inr hpages, items, hr⟩
  · exact .inr ⟨.inl hstale, h⟩

theorem Lore.blocks_edited {page : String} {r : Outcome (List Block)} {items : List Block}
    (hr : r = .ok items) (h : (Lore.stale g s settings today).blocks page r) :
    (Lore.stale g' (s.edited g g') settings today).blocks page r := by
  rcases h with h | ⟨hstale, h⟩
  · by_cases hblocks : g'.blocks page = g.blocks page
    · left
      rw [h]
      simp only [Graph.told, hblocks]
    · exact .inr ⟨.inr hblocks, items, hr⟩
  · exact .inr ⟨.inl hstale, h⟩

/-- What is kept of a page after another one has been forgotten. -/
theorem key_ne_of_mem_forgotten {α : Type} {store : Store α} {n page : String} {e : StoreEntry α}
    (he : e ∈ (store.erase (Cache.blocksKey n)).entries) (hkey : e.key = Cache.blocksKey page) :
    Text.lowered page ≠ Text.lowered n := by
  intro heq
  have hne := Store.key_ne_of_mem_erase he
  rw [hkey, Ne, Cache.blocksKey_eq_iff] at hne
  exact hne heq

namespace World.Follows

/-- An edit makes stale what it concerns. -/
theorem edit (h : w.Follows g s) (hg' : g'.Regular) {p : Provider} (hp : p.Serves g') :
    (w.withProvider p).Follows g' (s.edited g g') where
  regular := hg'
  caseless := h.caseless.edited h.regular hg'
  holds :=
    { provider := hp
      settings := rfl
      today := rfl
      pages := fun e he hkey ↦ Lore.pages_edited rfl (h.holds.pages e he hkey)
      templates := fun e he hkey ↦ by
        obtain ⟨items, hitems, hvalue⟩ := h.holds.templates e he hkey
        exact ⟨items, Lore.pages_edited rfl hitems, hvalue⟩
      blocks := fun e he page hkey ↦ Lore.blocks_edited rfl (h.holds.blocks e he page hkey)
      results := fun _ _ ↦ trivial }
  flights := h.flights

/-- What the cache forgets is not stale any more. -/
theorem forget (h : w.Follows g s) (change : Cache.Change) :
    (w.forget change).Follows g (s.without change) := by
  refine ⟨h.regular, h.caseless.without change, ?_, h.flights⟩
  have hforgotten := h.holds.forget change
  refine ⟨h.holds.provider, rfl, rfl, fun e he hkey ↦ ?_, fun e he hkey ↦ ?_,
    fun e he page hkey ↦ ?_, fun _ _ ↦ trivial⟩
  · have hsaid := hforgotten.pages e he hkey
    cases change with
    | page name =>
      exact absurd hkey (Store.key_ne_of_mem_erase (Store.mem_of_mem_erase he))
    | block page => cases page <;> exact hsaid
    | everything => cases he
  · have hsaid := hforgotten.templates e he hkey
    cases change with
    | page name => exact absurd hkey (Store.key_ne_of_mem_erase he)
    | block page => cases page <;> exact hsaid
    | everything => cases he
  · rcases hforgotten.blocks e he page hkey with hsaid | ⟨hstale, hsaid⟩
    · exact .inl hsaid
    · refine .inr ⟨?_, hsaid⟩
      cases change with
      | page name =>
        refine ⟨hstale, fun n hn ↦ ?_⟩
        subst hn
        exact key_ne_of_mem_forgotten he hkey
      | block name =>
        cases name with
        | none => cases he
        | some n => exact ⟨hstale, key_ne_of_mem_forgotten he hkey⟩
      | everything => cases he

theorem afterTold (h : w.Follows g s) (told : Outcome Cache.Change) :
    (w.afterTold told).Follows g (s.afterTold told) := by
  cases told with
  | ok change => exact h.forget change
  | error fault => exact h

theorem setClock (h : w.Follows g s) (clock : Binary64) : World.Follows { w with clock } g s :=
  ⟨h.regular, h.caseless, ⟨h.holds.provider, rfl, rfl, h.holds.pages, h.holds.templates,
    h.holds.blocks, h.holds.results⟩, h.flights⟩

/-- A search leaves a world that follows the graph as before. -/
theorem search (h : w.Follows g s) {arguments : Value} {w' : World}
    (hleave : MayLeave w (.search arguments) w') : w'.Follows g s := by
  have hL : (Lore.stale g s w.settings w.today).Fair := Lore.fair_stale h.regular h.caseless
  have hsound := Lore.safe_search hL (fun _ _ ↦ trivial) arguments w h.holds
  obtain ⟨hholds, hflights⟩ := MayLeave.holds h.holds h.flights hsound hleave
  refine ⟨h.regular, h.caseless, ?_, hflights⟩
  rw [hholds.settings, hholds.today]
  exact hholds

/-- Where nothing is stale the cache has kept what the graph holds. -/
theorem fresh (h : w.Follows g s) (hpages : ¬s.pages) (hblocks : ∀ page, ¬s.blocks page) :
    (w.lore g).Holds w where
  provider := .refl
  settings := rfl
  today := rfl
  pages e he hkey := (h.holds.pages e he hkey).resolve_right fun hstale ↦ hpages hstale.1
  templates e he hkey := by
    obtain ⟨items, hitems, hvalue⟩ := h.holds.templates e he hkey
    exact ⟨items, hitems.resolve_right fun hstale ↦ hpages hstale.1, hvalue⟩
  blocks e he page hkey :=
    (h.holds.blocks e he page hkey).resolve_right fun hstale ↦ hblocks page hstale.1
  results _ _ := trivial

end World.Follows

end

/-! ### Runs of edits -/

/-- What a run of searches, edits and calls to forget leads to, one after the other on a fresh corpus:
the graph, what is stale, and the world. -/
inductive Edited : Graph → Stale → World → Prop where
  | start {g : Graph} {w : World} (hg : g.Regular) (hp : w.provider.Serves g)
    (hcache : w.cache = {}) (hflights : w.flights = []) : Edited g .nothing w
  | search {g : Graph} {s : Stale} {w w' : World} (h : Edited g s w) (arguments : Value)
    (hleave : MayLeave w (.search arguments) w') : Edited g s w'
  | edit {g g' : Graph} {s : Stale} {w w' : World} {p : Provider} (h : Edited g s w)
    (change : Provider → Outcome Provider) (hchange : change w.provider = .ok p)
    (hg' : g'.Regular) (hp : p.Serves g') (hleave : MayLeave w (.edit change) w') :
    Edited g' (s.edited g g') w'
  | forget {g : Graph} {s : Stale} {w w' : World} (h : Edited g s w) (kind identifier : Value)
    (hleave : MayLeave w (.forget kind identifier) w') :
    Edited g (s.afterTold (Cache.Change.told kind identifier)) w'
  | advance {g : Graph} {s : Stale} {w w' : World} (h : Edited g s w) (seconds : Binary64)
    (hleave : MayLeave w (.advance seconds) w') : Edited g s w'

section

variable {g : Graph} {s : Stale} {w : World}

theorem asked_edit {change : Provider → Outcome Provider} {p : Provider}
    (h : change w.provider = .ok p) :
    asked w (.edit change) = answering (w.withProvider p) (.ok .nothing) := by
  have hedited : editGraph change w = (.ok .nothing, w.withProvider p) := by
    rw [editGraph, h]
  rw [asked, Operation.job, Job.touch, Loop.perform, Loop.perform]
  simp only [hedited]
  rfl

theorem asked_forget (w : World) (kind identifier : Value) :
    asked w (.forget kind identifier) =
      answering (w.afterTold (Cache.Change.told kind identifier))
        ((Cache.Change.told kind identifier).map fun _ ↦ .nothing) := by
  rw [asked, Operation.job, forgetJob]
  cases Cache.Change.told kind identifier <;> rfl

theorem asked_advance (w : World) (seconds : Binary64) :
    asked w (.advance seconds) =
      answering { w with clock := w.clock.add seconds } (.ok .nothing) := rfl

/-- What a run leads to follows the graph but for what is stale. -/
theorem Edited.follows (h : Edited g s w) : w.Follows g s := by
  induction h with
  | start hg hp hcache hflights =>
    refine ⟨hg, fun a b hab h ↦ h, ⟨hp, rfl, rfl, ?_, ?_, ?_, ?_⟩, hflights⟩
    all_goals
      rw [hcache]
      intro e he
      cases he
  | search _ arguments hleave ih => exact ih.search hleave
  | edit _ change hchange hg' hp hleave ih =>
    rw [hleave.eq_of_answering (asked_edit hchange)]
    exact ih.edit hg' hp
  | forget _ kind identifier hleave ih =>
    rw [hleave.eq_of_answering (asked_forget ..)]
    exact ih.afterTold _
  | advance _ seconds hleave ih =>
    rw [hleave.eq_of_answering (asked_advance ..)]
    exact ih.setClock _

/-- After a run in which the cache has been told of all edits: a search ends, and its answer is that of
a fresh corpus unless the cache keeps a page of results for it that is another one. -/
theorem answer_after_edits (h : Edited g s w) (hpages : ¬s.pages)
    (hblocks : ∀ page, ¬s.blocks page) (arguments : Value) :
    Returns w (.search arguments) ∧ Returns w.fresh (.search arguments) ∧
      ∀ r r₀, MayReturn w (.search arguments) r → MayReturn w.fresh (.search arguments) r₀ →
        (r.Agree r₀ ↔ ∀ page, w.keptPage? arguments = some page → r₀ = .ok (.result page)) := by
  have hfollows := h.follows
  exact agree_fresh_iff hfollows.regular hfollows.holds.provider (hfollows.fresh hpages hblocks)
    hfollows.flights arguments

end

/-! ### A page that is given another name -/

/-- A page before it is given another name. -/
def oldPage : Page := { id := "1", name := "a" }

/-- The page under its other name. -/
def newPage : Page := { id := "1", name := "b" }

/-- The world in which the page has been found under its old name. -/
def foundWorld (clock : Binary64) (today : Date) (key : String) : World :=
  ((World.around (MemoryGraph.ofPage oldPage).countPages clock today).keepPages
    [oldPage]).keepResults key [(Record.ofPage oldPage none).scored ""]

/-- The world in which the page has got its new name, and the cache has been told so. -/
def renamedWorld (clock : Binary64) (today : Date) (key : String) : World :=
  ((foundWorld clock today key).withProvider (.memory (.ofPage newPage))).forget (.page (some "b"))

/-- What is stale in that world: nothing. -/
def renamedStale : Stale :=
  (Stale.nothing.edited (.ofPage oldPage) (.ofPage newPage)).without (.page (some "b"))

section

variable (clock : Binary64) (today : Date) {key : String}

theorem asked_oldPage (hkey : SearchRequest.allPages.cacheKey = .ok key) :
    asked (.around (.ofPage oldPage) clock today) (.search SearchRequest.allPagesArguments) =
      answering (foundWorld clock today key)
        (.ok (.result (.ofRecords [(Record.ofPage oldPage none).scored ""] 0 20))) :=
  asked_allPages_serving hkey rfl rfl

theorem edited_renamedWorld (hkey : SearchRequest.allPages.cacheKey = .ok key) :
    Edited (.ofPage newPage) renamedStale (renamedWorld clock today key) := by
  have hstart : Edited (.ofPage oldPage) .nothing (.around (.ofPage oldPage) clock today) :=
    .start (Graph.regular_ofPage oldPage) (Provider.serves_ofPage oldPage) rfl rfl
  have hsearch := hstart.search SearchRequest.allPagesArguments
    (mayLeave_of_answering (asked_oldPage clock today hkey))
  have hedit := hsearch.edit (fun _ ↦ .ok (.memory (.ofPage newPage))) rfl
    (Graph.regular_ofPage newPage) (Provider.serves_ofPage newPage)
    (mayLeave_of_answering (asked_edit rfl))
  exact hedit.forget (.text "page") (.text "b") (mayLeave_of_answering (asked_forget ..))

/-- What was found before the edit is still kept. -/
theorem kept_renamedWorld (key : String)
    (h : clock.atMost (clock.add (Settings.resultsLifetime {}))) :
    ((renamedWorld clock today key).cachedResults key).1 =
      some [(Record.ofPage oldPage none).scored ""] := by
  have hkept : renamedWorld clock today key =
      World.keepResults { provider := .memory (.ofPage newPage), clock, today } key
        [(Record.ofPage oldPage none).scored ""] := rfl
  rw [hkept]
  exact World.cachedResults_keepResults _ _ _ h

theorem asked_newPage (hkey : SearchRequest.allPages.cacheKey = .ok key) :
    asked (renamedWorld clock today key).fresh (.search SearchRequest.allPagesArguments) =
      answering
        (((World.around (MemoryGraph.ofPage newPage).countPages clock today).keepPages
          [newPage]).keepResults key [(Record.ofPage newPage none).scored ""])
        (.ok (.result (.ofRecords [(Record.ofPage newPage none).scored ""] 0 20))) := by
  have hfresh : (renamedWorld clock today key).fresh = .around (.ofPage newPage) clock today := rfl
  rw [hfresh]
  exact asked_allPages_serving hkey rfl rfl

theorem not_pages_renamedStale : ¬renamedStale.pages := id

theorem not_blocks_renamedStale (page : String) : ¬renamedStale.blocks page := by
  rintro ⟨h | h, -⟩
  · exact h
  · exact h rfl

end

theorem renamed_after_edit :
    ∃ key, let w := renamedWorld (.ofInt 1000) ⟨2024, 3, 15, by decide, by decide, by decide⟩ key
    Returns w (.search SearchRequest.allPagesArguments) ∧
      Returns w.fresh (.search SearchRequest.allPagesArguments) ∧
      ∀ r r₀, MayReturn w (.search SearchRequest.allPagesArguments) r →
        MayReturn w.fresh (.search SearchRequest.allPagesArguments) r₀ →
        (r.Agree r₀ ↔ ∀ page, w.keptPage? SearchRequest.allPagesArguments = some page →
          r₀ = .ok (.result page)) := by
  obtain ⟨key, hkey⟩ := SearchRequest.cacheKey_allPages
  exact ⟨key, answer_after_edits (edited_renamedWorld _ _ hkey) not_pages_renamedStale
    not_blocks_renamedStale _⟩

/-- A search that is repeated after the cache has been told of all edits need not answer like on a
fresh corpus: it finds again what it found before them. -/
theorem not_agree_after_edits :
    ¬ ∀ (g : Graph) (s : Stale) (w : World) (arguments : Value), Edited g s w → ¬s.pages →
      (∀ page, ¬s.blocks page) → ∀ r r₀, MayReturn w (.search arguments) r →
        MayReturn w.fresh (.search arguments) r₀ → r.Agree r₀ := by
  intro h
  obtain ⟨key, hkey⟩ := SearchRequest.cacheKey_allPages
  let day : Date := ⟨2024, 3, 15, by decide, by decide, by decide⟩
  have hkept := kept_renamedWorld (.ofInt 1000) day key (by decide +kernel)
  have hnew := asked_newPage (.ofInt 1000) day hkey
  have hagree := h _ _ _ SearchRequest.allPagesArguments (edited_renamedWorld (.ofInt 1000) day hkey)
    not_pages_renamedStale not_blocks_renamedStale _ _
    (mayReturn_of_answering (asked_allPages_kept rfl hkey hkept)) (mayReturn_of_answering hnew)
  have hpage := Reply.result.inj hagree.eq_of_ok
  have hname : ["a"] = ["b"] :=
    congrArg (fun page : SearchResult ↦ page.results.map Record.name) hpage
  exact absurd hname (by decide)

end OutlineSearch
