import OutlineSearch.Proofs.Search.Answers

/-!
# Searches for all pages

A search for all pages is the plainest one: it reads the listing and nothing else. It answers with
the records of the listing, or with none when the listing cannot be had, and keeps them either way.
-/

namespace OutlineSearch

open OutlineSearch.Task OutlineSearch.Search OutlineSearch.Engine

theorem Value.text_equals_text (a b : String) : (Value.text a).equals (.text b) = (a == b) := by
  simp only [Value.equals]

/-- The world around a graph that is held in memory, with a fresh corpus. -/
def World.around (g : MemoryGraph) (clock : Binary64) (today : Date) : World :=
  { provider := .memory g, clock, today }

/-! ### Sorting without a query -/

theorem Binary64.less_self (x : Binary64) : x.less x = false := by
  cases x with
  | infinite negative => cases negative <;> rfl
  | finite a => simp
  | _ => rfl

namespace Record

theorem ranked_relevance (records : List Record) :
    ranked .relevance records = .ok (records.map fun r => (.number r.score, r)) := by
  induction records with
  | nil => rfl
  | cons r rest ih =>
    rw [ranked, ih]
    rfl

theorem score_scored_empty (r : Record) : (r.scored "").score = Binary64.ofInt (0 : Nat) := by
  have hpoints : Search.points r.rankingText "" = 0 := if_pos (by simp)
  rw [scored, Search.score, hpoints]

/-- Without a query all records score alike, so they stay in their order. -/
theorem sorted_relevance (order : SortOrder) (records : List Record) :
    sorted "" .relevance order records = .ok (records.map (scored "")) := by
  have hpairwise : ((records.map (scored "")).map fun r => (Rank.number r.score, r)).Pairwise
      fun a b => inOrder order a b = true := by
    rw [List.pairwise_map, List.pairwise_map]
    refine List.pairwise_of_forall fun r r' ↦ ?_
    rw [score_scored_empty, score_scored_empty]
    cases order <;> simp only [inOrder, Rank.less, Binary64.less_self, Bool.not_false]
  rw [sorted, ranked_relevance]
  change Except.ok ((List.mergeSort _ _).map _) = _
  rw [List.mergeSort_of_pairwise hpairwise, List.map_map]
  exact congrArg Except.ok (List.map_id' _)

end Record

/-! ### Requests -/

namespace SearchRequest

/-- The request for all pages with a limit. -/
def listing (limit : Int) : SearchRequest := { target := .pages, limit }

/-- The request for all pages. -/
def allPages : SearchRequest := { target := .pages }

/-- The arguments that ask for all pages. -/
def allPagesArguments : Value := .map [(.text "target", .text "pages")]

theorem ofArguments_allPages (s : Settings) (h : Limits.ofSettings s = { default := some 20 }) :
    ofArguments (.ofSettings s) allPagesArguments = .ok allPages := by
  rw [h]
  simp [ofArguments, read, allPagesArguments, Schema.record, settle, limitOf, cursorOf, Value.get,
    Value.lookup, Value.putText, Value.put, Value.text_equals_text, unwrapWithin, unwrap,
    Checked.map, Checked.bind, Value.isNull]
  rfl

theorem trimmedQuery_listing (limit : Int) : (listing limit).trimmedQuery = "" :=
  show Text.trimmed "" = "" by decide

theorem exists_cacheKey_listing (limit : Int) : ∃ key, (listing limit).cacheKey = .ok key :=
  ⟨_, rfl⟩

theorem cacheKey_allPages : ∃ key, allPages.cacheKey = .ok key := exists_cacheKey_listing 20

/-- A listing is arranged as it is. -/
theorem arranged_listing (limit : Int) (records : List Record) :
    (listing limit).arranged (.ok records) = .ok (records.map (Record.scored "")) := by
  rw [arranged, Except.bind, arrange, trimmedQuery_listing]
  change (((Filter.apply none records).bind (Record.sorted "" .relevance .descending)).mapError
    toldFault) = _
  rw [Filter.apply, Except.bind, Record.sorted_relevance]
  rfl

theorem arranged_allPages_singleton (r : Record) :
    allPages.arranged (.ok [r]) = .ok [r.scored ""] := arranged_listing 20 [r]

/-- What a listing holds for a request for all pages. -/
def listed : Outcome (List Page) → Outcome (List Record)
  | .ok items => .ok (items.map fun p => Record.ofPage p none)
  | .error fault => Evaluator.nothingFromProvider fault

/-- To collect pages is to read the listing and nothing else. -/
theorem collect_pages (e : Evaluator) :
    e.collect .pages none = .pages fun r => .done (listed r) := by
  simp only [Evaluator.collect, Evaluator.collectTarget, Evaluator.collectPages,
    Script.allPages, bind, Script.bind, Script.rescue, pure]
  congr 1
  funext r
  cases r <;> rfl

theorem isEmpty_trimmedQuery_listing (limit : Int) :
    (listing limit).trimmedQuery.isEmpty = true := by
  rw [trimmedQuery_listing]
  rfl

/-- A request for all pages reads the listing and nothing else. -/
theorem recordsJob_listing (limit : Int) (e : Evaluator)
    (next : Outcome (List Record) → EngineJob) :
    (listing limit).recordsJob e next =
      Corpus.pages fun r => next ((listing limit).arranged (listed r)) := by
  rw [recordsJob, if_pos (isEmpty_trimmedQuery_listing limit)]
  change (e.collect .pages none).job _ = _
  rw [collect_pages]
  rfl

/-- What a request for all pages finds is what a listing that may be told holds. -/
theorem Finds.listed {L : Lore} {limit : Int} {found : Outcome (List Record)}
    (h : (listing limit).Finds L found) :
    ∃ r, L.pages r ∧ found = SearchRequest.listed r := by
  rw [Finds, if_pos (isEmpty_trimmedQuery_listing limit)] at h
  change (L.evaluator.collect .pages none).Yields L found at h
  rw [collect_pages] at h
  cases h with
  | @pages _ r _ hr h =>
    cases h
    exact ⟨r, hr, rfl⟩

end SearchRequest

namespace Search

open SearchRequest

section

variable {g : MemoryGraph} {clock : Binary64} {today : Date} {key : String} {limit : Int}
  {offset : Nat} {arguments : Value} {pages : List Page} {fault : Fault}

/-- The world around a graph after its listing has been asked for. -/
def listedWorld (g : MemoryGraph) (clock : Binary64) (today : Date) : World :=
  let w := World.around g.countPages clock today
  match g.listPages with
  | .ok items => w.keepPages items
  | .error _ => w

/-- On a fresh corpus the listing of a graph whose calls take no turns comes at once. -/
theorem perform_pages (hturns : g.turns = 0) (next : Outcome (List Page) → EngineJob) :
    Loop.perform (.client Loop.runner) (Corpus.pages next) { state := .around g clock today } =
      Loop.perform (.client Loop.runner) (next (Corpus.told .pages g.listPages))
        { state := listedWorld g clock today } := by
  obtain ⟨pages, outlines, pagesFault, outlineFaults, turns, calls, outlineCalls⟩ := g
  obtain rfl : turns = 0 := hturns
  cases pagesFault <;> rfl

/-- On a fresh corpus a search for all pages keeps what is listed and hands out a page of it. -/
theorem asked_listing
    (h : prepared (SearchRequest.ofArguments (.ofSettings {}) arguments) =
      .ok (listing limit, offset, key)) (hturns : g.turns = 0) {records : List Record}
    (hrecords : listed (Corpus.told .pages g.listPages) = .ok records) :
    asked (.around g clock today) (.search arguments) =
      answering ((listedWorld g clock today).keepResults key (records.map (Record.scored "")))
        (.ok (.result (.ofRecords (records.map (Record.scored "")) offset limit))) := by
  rw [asked_search_of_none (w := .around g clock today) h rfl, recordsJob_listing]
  refine (perform_pages hturns _).trans ?_
  rw [hrecords, arranged_listing]
  rfl

/-- While the listing fails, a search for all pages finds none and keeps that there are none. -/
theorem asked_listing_failing
    (h : prepared (SearchRequest.ofArguments (.ofSettings {}) arguments) =
      .ok (listing limit, offset, key)) (hturns : g.turns = 0)
    (hfault : fault.isSearchFault = false) (hpages : g.listPages = .error fault) :
    asked (.around g clock today) (.search arguments) =
      answering ((World.around g.countPages clock today).keepResults key [])
        (.ok (.result (.ofRecords [] offset limit))) := by
  have htold : Corpus.told .pages g.listPages =
      .error (.provider s!"{Corpus.operation .pages} failed: {fault.text}") := by
    rw [hpages, Corpus.told, Except.mapError, Corpus.toldFault, if_neg (by simp [hfault])]
  have hnone : listed (Corpus.told .pages g.listPages) = .ok [] := by
    rw [htold]
    rfl
  refine (asked_listing h hturns hnone).trans ?_
  rw [listedWorld, hpages]
  rfl

/-- A search for all pages of a graph answers with the records of its pages. -/
theorem asked_listing_serving
    (h : prepared (SearchRequest.ofArguments (.ofSettings {}) arguments) =
      .ok (listing limit, offset, key)) (hturns : g.turns = 0) (hpages : g.listPages = .ok pages) :
    asked (.around g clock today) (.search arguments) =
      answering
        (((World.around g.countPages clock today).keepPages pages).keepResults key
          (pages.map fun p => (Record.ofPage p none).scored ""))
        (.ok (.result
          (.ofRecords (pages.map fun p => (Record.ofPage p none).scored "") offset limit))) := by
  have hlisted : listed (Corpus.told .pages g.listPages) =
      .ok (pages.map fun p => Record.ofPage p none) := by
    rw [hpages]
    rfl
  refine (asked_listing h hturns hlisted).trans ?_
  rw [listedWorld, hpages, List.map_map]
  rfl

theorem prepared_allPages {s : Settings} (hs : Limits.ofSettings s = { default := some 20 })
    (hkey : allPages.cacheKey = .ok key) :
    prepared (SearchRequest.ofArguments (.ofSettings s) allPagesArguments) =
      .ok (allPages, 0, key) := by
  rw [ofArguments_allPages s hs, prepared_of_offset (show allPages.offset = .ok 0 from rfl), hkey]
  rfl

/-- While the listing fails, a search for all pages finds none and keeps that there are none. -/
theorem asked_allPages_failing (hkey : allPages.cacheKey = .ok key)
    (hfault : fault.isSearchFault = false) (hpages : g.listPages = .error fault)
    (hturns : g.turns = 0) :
    asked (.around g clock today) (.search allPagesArguments) =
      answering ((World.around g.countPages clock today).keepResults key [])
        (.ok (.result (.ofRecords [] 0 20))) :=
  asked_listing_failing (prepared_allPages rfl hkey) hturns hfault hpages

/-- A search for all pages of a graph with one page answers with the record of that page. -/
theorem asked_allPages_serving (hkey : allPages.cacheKey = .ok key) {p : Page}
    (hpages : g.listPages = .ok [p]) (hturns : g.turns = 0) :
    asked (.around g clock today) (.search allPagesArguments) =
      answering
        (((World.around g.countPages clock today).keepPages [p]).keepResults key
          [(Record.ofPage p none).scored ""])
        (.ok (.result (.ofRecords [(Record.ofPage p none).scored ""] 0 20))) :=
  asked_listing_serving (prepared_allPages rfl hkey) hturns hpages

end

/-- A search for all pages that something is kept for answers with it. -/
theorem asked_allPages_kept {w : World} (hw : Limits.ofSettings w.settings = { default := some 20 })
    {key : String} (hkey : allPages.cacheKey = .ok key) {records : List Record}
    (hkept : (w.cachedResults key).1 = some records) :
    asked w (.search allPagesArguments) =
      answering (w.cachedResults key).2 (.ok (.result (.ofRecords records 0 20))) :=
  asked_search_of_kept (prepared_allPages hw hkey) hkept

end Search

/-- Results that have just been kept are found. -/
theorem World.cachedResults_keepResults (w : World) (key : String) (records : List Record)
    (h : w.clock.atMost (w.clock.add w.settings.resultsLifetime)) :
    ((w.keepResults key records).cachedResults key).1 = some records := by
  simp [World.keepResults, World.cachedResults, Store.put, Store.get, Store.find?,
    StoreEntry.isFresh, h]

/-! ### Graphs with one page -/

/-- A graph with one page and no blocks, held in memory. -/
def MemoryGraph.ofPage (p : Page) : MemoryGraph := { pages := [p] }

/-- What a graph with one page and no blocks holds. -/
def Graph.ofPage (p : Page) : Graph := ⟨.ok [p], fun _ ↦ .ok []⟩

theorem Graph.regular_ofPage (p : Page) : (ofPage p).Regular where
  caseless a b h := rfl
  pagesFault fault h := by cases h
  blocksFault page fault h := by cases h

theorem Provider.serves_ofPage (p : Page) : (memory (.ofPage p)).Serves (.ofPage p) :=
  memory_serves _

/-- The only page of a graph. -/
def lonePage : Page := { id := "1", name := "a" }

/-- A day in spring. -/
def someDay : Date := ⟨2024, 3, 15, by decide, by decide, by decide⟩

end OutlineSearch
