import OutlineSearch.Proofs.Search.Quoting
import OutlineSearch.Proofs.Search.Transparency
import OutlineSearch.Proofs.Search.Walk

/-!
# Searching for the blocks of a page

While the graph stands still, a client who searches for the blocks of a page and goes on with each
cursor is handed out one record for each block of its outline, whatever else is asked for meanwhile.
He must not be answered with what is kept for another request; so those who search under the same key
have to find the same. A name with a word for pages without text in it is no use: the query is taken
to ask for these pages.
-/

namespace OutlineSearch

open OutlineSearch.Text OutlineSearch.Task OutlineSearch.Search OutlineSearch.Outline
open OutlineSearch.Engine

namespace SearchRequest

/-- A request for the blocks of the page of a name, from the first one on, without a scope and without
a filter. -/
structure ForBlocksOf (r : SearchRequest) (name : String) : Prop where
  query : r.query = some (pageQuery name)
  scope : r.scope = none
  filter : r.filter = none
  cursor : r.cursor = none
  limit : 1 ≤ r.limit

theorem exists_cacheKey_of_plain {r : SearchRequest} (hscope : r.scope = none)
    (hfilter : r.filter = none) : ∃ key, r.cacheKey = .ok key := by
  obtain ⟨query, target, scope, filter, sort, order, limit, cursor, strict⟩ := r
  obtain rfl : scope = none := hscope
  obtain rfl : filter = none := hfilter
  exact ⟨_, rfl⟩

/-- Whoever searches under the key of a request finds what it finds. -/
def Unrivalled (s : Settings) (today : Date) (g : Graph) (asked : Value → Prop)
    (r : SearchRequest) : Prop :=
  ∀ arguments r' offset key, asked arguments →
    prepared (ofArguments (.ofSettings s) arguments) = .ok (r', offset, key) →
    r.cacheKey = .ok key → r'.runRecords ⟨s, today⟩ g.told = r.runRecords ⟨s, today⟩ g.told

/-- The pages on which a request hands out records. -/
def pagesOf (r : SearchRequest) (records : List Record) : List SearchResult :=
  SearchResult.pagesOf records r.limit.toNat

/-- Some arguments ask for one of the pages on which a request hands out records: for the first one
without a cursor, for any other one with the cursor that comes with the page before it. -/
inductive AsksFor (l : Limits) (r : SearchRequest) (records : List Record) :
    Value → SearchResult → Prop where
  | first {arguments : Value} {page : SearchResult} (hread : ofArguments l arguments = .ok r)
    (hpage : (r.pagesOf records)[0]? = some page) : AsksFor l r records arguments page
  | next {arguments : Value} {i : Nat} {before page : SearchResult} {cursor : String}
    (hbefore : (r.pagesOf records)[i]? = some before) (hcursor : before.nextCursor = some cursor)
    (hread : ofArguments l arguments = .ok (r.withCursor cursor))
    (hpage : (r.pagesOf records)[i + 1]? = some page) : AsksFor l r records arguments page

variable {r r' : SearchRequest} {l : Limits} {arguments : Value} {page : SearchResult}
  {s : Settings} {today : Date} {g : Graph} {offset : Nat} {key : String} {records : List Record}

theorem runRecords_withCursor (e : Evaluator) (g : Graph) (r : SearchRequest) (cursor : String) :
    (r.withCursor cursor).runRecords e g = r.runRecords e g := rfl

/-- The arguments for each page are read as the request, the cursor aside. -/
theorem AsksFor.exists_cursor (h : AsksFor l r records arguments page) :
    ∃ cursor, ofArguments l arguments = .ok { r with cursor } := by
  cases h with
  | first hread => exact ⟨r.cursor, hread⟩
  | next _ _ hread => exact ⟨_, hread⟩

/-- A request for a page has the key of the request, and finds what it finds. -/
theorem AsksFor.of_prepared (h : AsksFor l r records arguments page)
    (hprepared : prepared (ofArguments l arguments) = .ok (r', offset, key)) :
    r.cacheKey = .ok key ∧ ∀ e g, r'.runRecords e g = r.runRecords e g := by
  obtain ⟨cursor, hread⟩ := h.exists_cursor
  obtain ⟨hread', hkey⟩ := prepared_eq_ok hprepared
  obtain rfl := Except.ok.inj (hread.symm.trans hread')
  exact ⟨hkey, fun e g ↦ rfl⟩

/-- While all searches are for one request, the cursor aside, none has a rival. -/
theorem unrivalled_of_forall {asked : Value → Prop} (h : ∀ arguments, asked arguments →
    ∃ cursor, ofArguments (.ofSettings s) arguments = .ok { r with cursor }) :
    r.Unrivalled s today g asked := by
  intro arguments r' offset key hasked hprepared _
  obtain ⟨cursor, hread⟩ := h arguments hasked
  obtain rfl := Except.ok.inj (hread.symm.trans (prepared_eq_ok hprepared).1)
  rfl

/-- On the graph the arguments for a page are answered with that page. -/
theorem AsksFor.onGraph_eq (hcursor : r.cursor = none) (hkey : r.cacheKey = .ok key)
    (hlimit : 1 ≤ r.limit) (hrecords : r.runRecords ⟨s, today⟩ g = .ok records)
    (hlength : records.length < 10 ^ Number.digitLimit)
    (h : AsksFor (.ofSettings s) r records arguments page) :
    onGraph s today g arguments = .ok page := by
  have hlimit' : (r.limit.toNat : Int) = r.limit := Int.toNat_of_nonneg (by omega)
  have hpage {i : Nat} {page : SearchResult} (h : (r.pagesOf records)[i]? = some page) :
      (Except.ok records).map (fun records => SearchResult.ofRecords records
        ((i * r.limit.toNat : Nat) : Int) r.limit) = (.ok page : Outcome SearchResult) := by
    rw [SearchResult.eq_nth_of_getElem?_pagesOf h, SearchResult.nth, hlimit']
    rfl
  cases h with
  | first hread hfirst =>
    have hprepared : prepared (ofArguments (.ofSettings s) arguments) = .ok (r, 0, key) := by
      rw [hread, prepared_of_offset (r.offset_eq_zero hcursor), hkey]
      rfl
    rw [onGraph_of_prepared hprepared, hrecords, ← hpage hfirst, Nat.zero_mul]
  | next hbefore hnext hread hafter =>
    rw [SearchResult.eq_nth_of_getElem?_pagesOf hbefore] at hnext
    obtain ⟨hmore, rfl⟩ := SearchResult.nextCursor_nth_eq_some hnext
    have hoffset := r.offset_withCursor (Nat.lt_trans hmore hlength)
    have hprepared := prepared_of_offset hoffset
    rw [r.cacheKey_withCursor, hkey, ← hread] at hprepared
    rw [onGraph_of_prepared hprepared, r.runRecords_withCursor, hrecords, ← hpage hafter,
      r.limit_withCursor]

end SearchRequest

/-! ### Schedules -/

section

open SearchRequest

/-- What may be said of a graph that stands still while a request hands out records: only what it
holds, and for the request only these records. -/
def Lore.handing (g : Graph) (r : SearchRequest) (records : List Record) (p : Provider)
    (s : Settings) (today : Date) : Lore :=
  .still g (fun arguments ↦ ∃ page, AsksFor (.ofSettings s) r records arguments page) p s today

/-- What a client is answered who asks for a page on which a request hands out records. -/
def Handed (l : Limits) (r : SearchRequest) (records : List Record) (events : List Event)
    (client : Nat) (reply : Outcome Reply) : Prop :=
  ∀ arguments page, .ask client (.search arguments) ∈ events →
    AsksFor l r records arguments page → reply = .ok (.result page)

variable {g : Graph} {w : World} {events : List Event} {r : SearchRequest} {records : List Record}
  {key : String}

/-- A search keeps to what may be said while a request hands out its records, and is answered with a
page of them if it asks for one. -/
theorem safe_searchHanding (hg : g.Regular) (hp : w.provider.Serves g)
    (hclients : (events.filterMap Event.client?).Nodup) (hcursor : r.cursor = none)
    (hkey : r.cacheKey = .ok key) (hlimit : 1 ≤ r.limit)
    (hrecords : r.runRecords ⟨w.settings, w.today⟩ g.told = .ok records)
    (hlength : records.length < 10 ^ Number.digitLimit)
    (hunrivalled : r.Unrivalled w.settings w.today g (Asked events)) {client : Nat}
    {arguments : Value} (hmem : .ask client (.search arguments) ∈ events) :
    (Lore.handing g r records w.provider w.settings w.today).Safe
      (Handed (.ofSettings w.settings) r records events client)
      ((Operation.search arguments).job .finish) := by
  intro w' hw'
  have hL : (Lore.handing g r records w.provider w.settings w.today).Fair :=
    Lore.fair_exactly hg hp
  refine (sound_search hL (Lore.exact_exactly ..) arguments ?_ hw').mono ?_
  · rintro r' offset key' found hprepared hfound arguments' r'' offset' ⟨page, hasks⟩ hprepared'
    obtain ⟨hkey', hsame⟩ := hasks.of_prepared hprepared'
    rw [hsame, ← hunrivalled arguments r' offset key' ⟨client, hmem⟩ hprepared hkey']
    exact hfound
  · intro reply hanswers arguments' page hmem' hasks
    obtain rfl : arguments = arguments' := by simpa using operation_eq hclients hmem hmem'
    have hagree := Answers.agree_onGraph hw' ⟨page, hasks⟩ hanswers
    rw [hasks.onGraph_eq hcursor hkey hlimit hrecords hlength] at hagree
    exact hagree.symm.eq_ok

/-- While the graph stands still, whoever asks for a page of the records of a request is answered with
it. -/
theorem settles_pagesOf (hg : g.Regular) (hcache : w.cache = {}) (hflights : w.flights = [])
    (hp : w.provider.Serves g) (hevents : ∀ e ∈ events, e.Still)
    (hclients : (events.filterMap Event.client?).Nodup) (hcursor : r.cursor = none)
    (hkey : r.cacheKey = .ok key) (hlimit : 1 ≤ r.limit)
    (hrecords : r.runRecords ⟨w.settings, w.today⟩ g.told = .ok records)
    (hlength : records.length < 10 ^ Number.digitLimit)
    (hunrivalled : r.Unrivalled w.settings w.today g (Asked events)) :
    (w.after events).Settles failed fun l =>
      ∀ client arguments page, .ask client (.search arguments) ∈ events →
        AsksFor (.ofSettings w.settings) r records arguments page →
        l.answer? client = some (.ok (.result page)) := by
  have hworks : Loop.Works (Lore.handing g r records w.provider w.settings w.today).contract failed
      (Handed (.ofSettings w.settings) r records events) (Loop.askers (events.map Event.move))
      (w.after events) :=
    works_of_safe (Lore.fair_exactly hg hp) (Lore.holds_exactly hcache _) hflights hevents
      (fun _ _ hmem ↦ safe_searchHanding hg hp hclients hcursor hkey hlimit hrecords hlength
        hunrivalled hmem)
      fun _ _ _ hmem hother arguments _ hsearch ↦
        absurd (operation_eq hclients hmem hsearch) (hother arguments)
  refine hworks.settles.mono fun l hl client arguments page hmem hasks ↦ ?_
  obtain ⟨_, hanswered⟩ := hl.answered client (mem_askers hmem)
  obtain ⟨reply, hreply, hanswer⟩ := Loop.exists_answer? hanswered
  exact hreply.trans (congrArg some (hl.wanted _ hanswer arguments page hmem hasks))

end

theorem Graph.Names.told {g : Graph} {name : String} {p : Page} {blocks : List Block}
    (h : g.Names name p blocks) : g.told.Names name p blocks := by
  obtain ⟨⟨pages, hpages, hfind⟩, hblocks⟩ := h
  refine ⟨⟨pages, ?_, hfind⟩, ?_⟩
  · rw [Graph.told, hpages]
    rfl
  · simp only [Graph.told, hblocks]
    rfl

/-- While the graph stands still, whatever is asked for on a fresh corpus and whatever turns are
taken: a client who searches for the blocks of the first page that is called by a name, and goes on
with each cursor, is handed out exactly one record for each block of its outline that is not too deep,
and each page of results tells how many these are. The name must hold no word for pages without text,
and the blocks must have ranks, which they have unless they are sorted by a time that is too large an
integer. The places of the records must have few enough digits to be read again, as those of any list
that a memory can hold do. -/
theorem blocks_handed_out {g : Graph} {w : World} {events : List Event} (hg : g.Regular)
    (hcache : w.cache = {}) (hflights : w.flights = []) (hp : w.provider.Serves g)
    (hevents : ∀ e ∈ events, e.Still) (hclients : (events.filterMap Event.client?).Nodup)
    {name : String} (hname : Quotable name) (hmarks : SaysNoEmptyMark name) {p : Page}
    {blocks : List Block} (hnames : g.Names name p blocks)
    (hdepth : 0 ≤ w.settings.maxNestingLevel)
    (hlength : (downTo w.settings.maxNestingLevel blocks).length < 10 ^ Number.digitLimit)
    {r : SearchRequest} (hr : r.ForBlocksOf name)
    (hranks : ∀ b ∈ downTo w.settings.maxNestingLevel blocks,
      ∃ k, (Record.ofBlock b p.displayName).rank r.sort = .ok k)
    (hunrivalled : r.Unrivalled w.settings w.today g (Asked events)) :
    ∃ records, records.Perm ((downTo w.settings.maxNestingLevel blocks).map fun b =>
        (Record.ofBlock b p.displayName).scored (pageQuery name)) ∧
      SearchResult.HandOut records r.limit.toNat (r.pagesOf records) ∧
      (∀ page ∈ r.pagesOf records,
        page.totalFound = (downTo w.settings.maxNestingLevel blocks).length) ∧
      (w.after events).Settles failed fun l =>
        ∀ client arguments page, .ask client (.search arguments) ∈ events →
          SearchRequest.AsksFor (.ofSettings w.settings) r records arguments page →
          l.answer? client = some (.ok (.result page)) := by
  obtain ⟨key, hkey⟩ := SearchRequest.exists_cacheKey_of_plain hr.scope hr.filter
  obtain ⟨records, hrecords, hperm⟩ := SearchRequest.exists_runRecords_pageQuery
    (e := ⟨w.settings, w.today⟩) hname hmarks hnames.told hdepth hr.query hr.scope hr.filter hranks
  have hcount : records.length = (downTo w.settings.maxNestingLevel blocks).length := by
    rw [hperm.length_eq, List.length_map]
  have hhandOut : SearchResult.HandOut records r.limit.toNat (r.pagesOf records) :=
    SearchResult.handOut_pages (Int.lt_toNat.2 hr.limit) records
  refine ⟨records, hperm, hhandOut, fun page hpage ↦ (hhandOut.total page hpage).trans hcount, ?_⟩
  exact settles_pagesOf hg hcache hflights hp hevents hclients hr.cursor hkey hr.limit hrecords
    (by rwa [hcount]) hunrivalled

/-! ### Graphs with one outline -/

/-- A graph held in memory with one page and its outline. -/
def MemoryGraph.ofOutline (name : String) (blocks : List Block) : MemoryGraph :=
  { pages := [{ id := "1", name }], outlines := [(lowered name, blocks)] }

/-- What a graph with one page and its outline holds. -/
def Graph.ofOutline (name : String) (blocks : List Block) : Graph :=
  ⟨(MemoryGraph.ofOutline name blocks).listPages, (MemoryGraph.ofOutline name blocks).outline⟩

theorem Graph.regular_ofOutline (name : String) (blocks : List Block) :
    (ofOutline name blocks).Regular where
  caseless a b h := by
    simp only [ofOutline, MemoryGraph.outline, h]
    rfl
  pagesFault fault h := nomatch h
  blocksFault page fault h := nomatch h

theorem Graph.names_ofOutline (name : String) (blocks : List Block) :
    (ofOutline name blocks).Names name { id := "1", name } blocks where
  listed := ⟨_, rfl, by simp [Evaluator.isCalled, MemoryGraph.ofOutline]⟩
  outline := by simp [ofOutline, MemoryGraph.ofOutline, MemoryGraph.outline]

/-- The request for the blocks of the page of a name, one at a time. -/
def SearchRequest.forBlocks (name : String) : SearchRequest :=
  { query := some (pageQuery name), limit := 1 }

/-- The entries of the arguments for that request. -/
def blockEntries (name : String) : List (Value × Value) :=
  [(.text "query", .text (pageQuery name)), (.text "limit", .int 1)]

theorem SearchRequest.forBlocksOf_forBlocks (name : String) :
    (forBlocks name).ForBlocksOf name :=
  ⟨rfl, rfl, rfl, rfl, Int.le_refl 1⟩

theorem ofArguments_blockEntries (name : String) :
    SearchRequest.ofArguments (.ofSettings {}) (.map (blockEntries name)) =
      .ok (.forBlocks name) := by
  have hlimits : Limits.ofSettings {} = { default := some 20 } := rfl
  rw [hlimits]
  simp [SearchRequest.ofArguments, SearchRequest.read, blockEntries, Schema.record,
    SearchRequest.settle, SearchRequest.limitOf, SearchRequest.cursorOf, Value.get, Value.lookup,
    Value.putText, Value.put, Value.text_equals_text, SearchRequest.unwrapWithin,
    SearchRequest.unwrap, Checked.map, Checked.bind, Value.isNull]
  rfl

/-- A block with another one under it. -/
def smallTree : List Block :=
  [.mk "b1" "x" [] none none [.mk "b2" "y" [] none (some "b1") [] none none] none none]

/-- The arguments that go on with the second block of the page. -/
def secondBlock : Value := .map (Value.putText "cursor" (.text "1") (blockEntries "a"))

/-- A client asks for the blocks of a page one by one, while others read the page and tell of an edit
of it. -/
def oneByOne : List Event :=
  [.ask 0 (.search (.map (blockEntries "a"))), .ask 1 (.blocks "A"), .turn 0,
    .ask 2 (.forget (.text "page") (.text "a")), .ask 3 (.search secondBlock)]

theorem asked_oneByOne (arguments : Value) (h : Asked oneByOne arguments) :
    ∃ cursor, SearchRequest.ofArguments (.ofSettings {}) arguments =
      .ok { SearchRequest.forBlocks "a" with cursor } := by
  obtain ⟨client, hmem⟩ := h
  simp [oneByOne] at hmem
  rcases hmem with ⟨-, rfl⟩ | ⟨-, rfl⟩
  · exact ⟨none, ofArguments_blockEntries "a"⟩
  · exact ⟨some "1", SearchRequest.ofArguments_putText (ofArguments_blockEntries "a") "1"⟩

theorem still_oneByOne : ∀ e ∈ oneByOne, e.Still := by
  rw [oneByOne]
  simp only [List.forall_mem_cons]
  exact ⟨.search .., .blocks .., .turn _, .forget .., .search .., List.forall_mem_nil _⟩

/-- Both blocks are handed out, each on a page of its own. -/
theorem smallTree_handed_out : ∃ first second : SearchResult,
    first.totalFound = 2 ∧ second.totalFound = 2 ∧
    ((first.results ++ second.results).map Record.id).Perm ["b1", "b2"] ∧
    ((World.around (.ofOutline "a" smallTree) (.ofInt 1000) someDay).after oneByOne).Settles failed
      fun l => l.answer? 0 = some (.ok (.result first)) ∧
        l.answer? 3 = some (.ok (.result second)) := by
  have hname : Quotable "a" :=
    ⟨by decide +kernel, by decide, by decide, by decide, by decide⟩
  have hmarks : SaysNoEmptyMark "a" := by
    unfold SaysNoEmptyMark
    decide +kernel
  have hlength : (downTo 10 smallTree).length < 10 ^ Number.digitLimit :=
    Nat.lt_of_lt_of_le (by decide : 2 < 10) (Nat.le_self_pow (by decide) 10)
  obtain ⟨records, hperm, hhandOut, htotal, hsettles⟩ :=
    blocks_handed_out (w := .around (.ofOutline "a" smallTree) (.ofInt 1000) someDay)
      (Graph.regular_ofOutline "a" smallTree) rfl rfl (Provider.memory_serves _) still_oneByOne
      (by decide) hname hmarks (Graph.names_ofOutline "a" smallTree) (by decide) hlength
      (SearchRequest.forBlocksOf_forBlocks "a") (fun b _ ↦ ⟨_, rfl⟩)
      (SearchRequest.unrivalled_of_forall asked_oneByOne)
  have hcount : records.length = 2 := hperm.length_eq
  have hpages : (SearchRequest.forBlocks "a").pagesOf records =
      [.nth records 1 0, .nth records 1 1] := by
    rw [SearchRequest.pagesOf, SearchResult.pagesOf, hcount]
    rfl
  have hcursor : (SearchResult.nth records 1 0).nextCursor = some "1" := by
    rw [SearchResult.nextCursor_nth, hcount]
    rfl
  rw [hpages] at htotal
  refine ⟨.nth records 1 0, .nth records 1 1, htotal _ (by simp), htotal _ (by simp), ?_, ?_⟩
  · have hjoined := hhandOut.joined
    rw [hpages] at hjoined
    simp only [List.flatMap_cons, List.flatMap_nil, List.append_nil] at hjoined
    rw [hjoined]
    exact hperm.map Record.id
  · refine hsettles.mono fun l hl ↦ ⟨?_, ?_⟩
    · refine hl 0 (.map (blockEntries "a")) _ (by simp [oneByOne]) (.first ?_ ?_)
      · exact ofArguments_blockEntries "a"
      · rw [hpages]
        rfl
    · refine hl 3 secondBlock _ (by simp [oneByOne]) (.next (i := 0) ?_ hcursor ?_ ?_)
      · rw [hpages]
        rfl
      · exact SearchRequest.ofArguments_putText (ofArguments_blockEntries "a") "1"
      · rw [hpages]
        rfl

/-! ### Blocks that are not handed out -/

/-- A block by itself, made at some time. -/
def loneBlock (createdAt : Option Stamp) : Block := .mk "b1" "x" [] none none [] createdAt none

/-- A time that is so large an integer that no number comes near to it. -/
def farFuture : Stamp := .int (10 ^ 400)

/-- The number of records that a request finds in a graph with one page and its outline. -/
def foundCount (s : Settings) (name : String) (blocks : List Block) (r : SearchRequest) :
    Option Nat :=
  (r.runRecords ⟨s, someDay⟩ (Graph.ofOutline name blocks).told).toOption.map List.length

theorem onGraph_empty :
    (onGraph {} someDay (Graph.ofOutline "empty" [loneBlock none]).told
      (.map (blockEntries "empty"))) =
      .ok { results := [], totalFound := 0, hasMore := false } := by
  have hcount : foundCount {} "empty" [loneBlock none] (.forBlocks "empty") = some 0 := by
    decide +kernel
  obtain ⟨key, hkey⟩ := SearchRequest.exists_cacheKey_of_plain
    (r := .forBlocks "empty") rfl rfl
  have hprepared := prepared_of_offset (r := .forBlocks "empty") (SearchRequest.offset_eq_zero rfl)
  rw [hkey, ← ofArguments_blockEntries] at hprepared
  rw [onGraph_of_prepared hprepared]
  unfold foundCount at hcount
  cases hrecords : (SearchRequest.forBlocks "empty").runRecords ⟨{}, someDay⟩
      (Graph.ofOutline "empty" [loneBlock none]).told with
  | error fault =>
    rw [hrecords] at hcount
    cases hcount
  | ok records =>
    rw [hrecords] at hcount
    obtain rfl := List.length_eq_zero_iff.1 (Option.some.inj hcount)
    rfl

/-- The block of a page called "empty" is not found by the name of the page: the query is taken to
ask for pages without text. Where the greatest depth is negative, the block is found although it is
too deep. And a block whose time is too large an integer cannot be sorted by it. -/
theorem not_blocks_handed_out :
    (Quotable "empty" ∧
      (Graph.ofOutline "empty" [loneBlock none]).Names "empty" { id := "1", name := "empty" }
        [loneBlock none] ∧
      (downTo 10 [loneBlock none]).length = 1 ∧
      Returns (.around (.ofOutline "empty" [loneBlock none]) (.ofInt 1000) someDay)
        (.search (.map (blockEntries "empty"))) ∧
      ∀ reply, MayReturn (.around (.ofOutline "empty" [loneBlock none]) (.ofInt 1000) someDay)
          (.search (.map (blockEntries "empty"))) reply →
        reply = .ok (.result { results := [], totalFound := 0, hasMore := false })) ∧
    ((downTo (-1) [loneBlock none]).length = 0 ∧
      foundCount { maxNestingLevel := -1 } "a" [loneBlock none] (.forBlocks "a") = some 1) ∧
    ((downTo 10 [loneBlock farFuture]).length = 1 ∧
      foundCount {} "a" [loneBlock farFuture]
        { SearchRequest.forBlocks "a" with sort := .created } = none) := by
  obtain ⟨hreturns, hreply⟩ := agree_of_fresh (Graph.regular_ofOutline "empty" [loneBlock none])
    (w := .around (.ofOutline "empty" [loneBlock none]) (.ofInt 1000) someDay)
    (Provider.memory_serves _) (.ofInt 1000) (.map (blockEntries "empty"))
  refine ⟨⟨?_, Graph.names_ofOutline "empty" _, by decide, hreturns, fun reply h ↦ ?_⟩,
    ⟨by decide, by decide +kernel⟩, ⟨by decide, by decide +kernel⟩⟩
  · exact ⟨by decide +kernel, by decide, by decide, by decide, by decide⟩
  · have hagree := hreply reply h
    change reply.Agree ((onGraph {} someDay _ _).map .result) at hagree
    rw [onGraph_empty] at hagree
    exact hagree.symm.eq_ok

end OutlineSearch
