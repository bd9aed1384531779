import OutlineSearch.Proofs.Corpus.Tellable
import OutlineSearch.Proofs.Engine.Asking
import OutlineSearch.Proofs.Search.Containment
import OutlineSearch.Proofs.Search.Listing
import OutlineSearch.Proofs.Search.Origins

/-!
# Replies of the search tool on a graph of files

The search tool replies a text to whatever arguments it is called with, as long as what is found can
be written: every fault of the search itself is told. What cannot be written is from the frontmatter
of a page, since nothing else in a file gives a value that cannot be told.
-/

namespace OutlineSearch

open OutlineSearch.Task OutlineSearch.Search OutlineSearch.Engine OutlineSearch.Number

/-! ### Records of pages and blocks that can be told -/

namespace Record

theorem Tellable.scored {r : Record} (h : r.Tellable) (query : String) :
    (r.scored query).Tellable := by
  obtain ⟨hproperties, hcreated, hupdated, hdetail⟩ := h
  unfold Record.scored
  exact ⟨hproperties, hcreated, hupdated, hdetail⟩

variable {P : Page → Prop} {B : Block → Prop} {r : Record}

/-- A record can be told if all that it may be made of can be told. -/
theorem MadeOf.tellable (hP : ∀ p, P p → p.Tellable ∧ p.properties.areTellable = true)
    (hB : ∀ b, B b → b.Tellable) (h : r.MadeOf P B) : r.Tellable := by
  induction h with
  | @page p hp reason =>
    obtain ⟨htold, hproperties⟩ := hP p hp
    exact ⟨hproperties, htold.created, htold.updated, htold.journalDay⟩
  | @template p hp maxDepth blocks =>
    obtain ⟨htold, hproperties⟩ := hP p hp
    exact ⟨hproperties, htold.created, htold.updated, trivial⟩
  | @pageProperty p hp entry hentry =>
    obtain ⟨htold, hproperties⟩ := hP p hp
    have hvalue := Properties.areTellable_iff.1 hproperties entry hentry
    exact ⟨Properties.areTellable_singleton hvalue, htold.created, htold.updated, hvalue⟩
  | @block b hb page =>
    have htold := hB b hb
    exact ⟨htold.properties, htold.created, htold.updated, trivial⟩
  | @task b hb page r h =>
    have htold := hB b hb
    obtain ⟨⟨status, text⟩, -, rfl⟩ := Option.map_eq_some_iff.1 h
    exact ⟨htold.properties, htold.created, htold.updated, trivial⟩
  | @blockProperty b hb page entry hentry =>
    have htold := hB b hb
    have hvalue := Properties.areTellable_iff.1 htold.properties entry hentry
    exact ⟨Properties.areTellable_singleton hvalue, htold.created, htold.updated, hvalue⟩
  | scored _ query ih => exact ih.scored query

/-- A record that cannot be told is one of a page with properties that cannot be told. -/
theorem MadeOf.tellable_or (hP : ∀ p, P p → p.Tellable) (hB : ∀ b, B b → b.Tellable)
    (h : r.MadeOf P B) :
    r.Tellable ∨ ∃ p, P p ∧ r.ShowsPage p ∧ p.properties.areTellable = false := by
  rcases h.source with ⟨p, hp, hshows⟩ | ⟨b, hb, hshows⟩
  · cases hproperties : p.properties.areTellable with
    | true =>
      have hpage : ∀ q, q = p → q.Tellable ∧ q.properties.areTellable = true := by
        rintro q rfl
        exact ⟨hP q hp, hproperties⟩
      exact .inl (hshows.tellable hpage fun _ h ↦ h.elim)
    | false => exact .inr ⟨p, hp, hshows, hproperties⟩
  · have hblock : ∀ c, c = b → c.Tellable := by
      rintro c rfl
      exact hB c hb
    exact .inl (hshows.tellable (fun _ h ↦ h.elim) hblock)

end Record

/-! ### What may be said of a graph of files -/

/-- What may be said of a graph of files whose listing has some pages: that listing, outlines that
can be told, and records of these pages and outlines. -/
def Lore.filed (g : GraphFiles) (pages : List Page) (s : Settings) (today : Date) : Lore where
  pages r := r = .ok pages
  blocks _ r := ∃ tree, r = .ok tree ∧ ∀ e ∈ Block.listing tree, e.1.Tellable
  results _ records := ∀ x ∈ records, x.MadeOf (· ∈ pages) Block.Tellable
  provider p := ∃ known, p = .files { g with known } ∧ g.Knows known
  settings := s
  today := today

namespace Lore

variable {g : GraphFiles} {pages : List Page} {s : Settings} {today : Date}

theorem fair_filed (hpages : g.listPages.1 = .ok pages) : (filed g pages s today).Fair where
  start := by
    rintro _ _ ⟨known, rfl, hknown⟩
    exact ⟨known, rfl, hknown⟩
  answer := by
    rintro _ q ⟨known, rfl, hknown⟩
    cases q with
    | pages =>
      obtain ⟨known', hknown', hlist⟩ := GraphFiles.listPages_known hpages known
      refine ⟨known', ?_, hknown'⟩
      simp only [Provider.answer, Provider.listPages, hlist]
    | blocks page =>
      obtain ⟨tree, known', houtline, -, hknown'⟩ := GraphFiles.exists_outline hpages hknown page
      refine ⟨known', ?_, hknown'⟩
      simp only [Provider.answer, Provider.outline, houtline]
  pages := by
    rintro _ ⟨known, rfl, -⟩
    obtain ⟨known', -, hlist⟩ := GraphFiles.listPages_known hpages known
    change Corpus.told .pages (GraphFiles.listPages _).1 = _
    rw [hlist]
    rfl
  blocks := by
    rintro _ page ⟨known, rfl, hknown⟩
    obtain ⟨tree, known', houtline, htold, -⟩ := GraphFiles.exists_outline hpages hknown page
    refine ⟨tree, ?_, htold⟩
    change Corpus.told (.blocks page) (GraphFiles.outline _ page).1 = _
    rw [houtline]
    rfl
  caseless _ _ _ _ h := h
  pagesFault _ h := nomatch h
  blocksFault _ _ := fun ⟨_, h, _⟩ ↦ nomatch h

theorem tellsOf_filed : (filed g pages s today).TellsOf (· ∈ pages) Block.Tellable where
  pages items h := by
    obtain rfl := Except.ok.inj h
    exact fun _ hp ↦ hp
  blocks page tree := by
    rintro ⟨tree', heq, htold⟩
    obtain rfl := Except.ok.inj heq
    exact htold

end Lore

/-- A page of results fails to be told: it is made of the pages of a listing and of blocks that can
be told, but it has too many records to be counted or shows a page whose properties cannot be
told. -/
structure SearchResult.Untold (pages : List Page) (page : SearchResult) (fault : Fault) : Prop where
  fails : searchText (.ok page) = .error fault
  ofWriting : fault.OfWriting
  made : ∀ x ∈ page.results, x.MadeOf (· ∈ pages) Block.Tellable
  cause : 10 ^ digitLimit ≤ page.totalFound ∨
    ∃ x ∈ page.results, ∃ p ∈ pages, x.ShowsPage p ∧ p.properties.areTellable = false

namespace SearchResult

variable {pages : List Page} {page : SearchResult} {records : List Record}

theorem mem_of_mem_ofRecords {offset limit : Int} :
    ∀ x ∈ (ofRecords records offset limit).results, x ∈ records :=
  fun _ hx ↦ List.mem_of_mem_take (List.mem_of_mem_drop hx)

/-- A page made of pages and blocks is told, or else it is known why not. -/
theorem told_or_untold (hpages : ∀ p ∈ pages, p.Tellable)
    (hmade : ∀ x ∈ page.results, x.MadeOf (· ∈ pages) Block.Tellable) :
    (∃ text, searchText (.ok page) = .ok text) ∨ ∃ fault, page.Untold pages fault := by
  cases htext : searchText (.ok page) with
  | ok text => exact .inl ⟨text, rfl⟩
  | error fault =>
    refine .inr ⟨fault, htext, ofWriting_searchText htext, hmade, ?_⟩
    by_contra hcause
    rw [not_or, Nat.not_le] at hcause
    obtain ⟨htotal, hshown⟩ := hcause
    have htellable : ∀ x ∈ page.results, x.Tellable := by
      intro x hx
      refine ((hmade x hx).tellable_or hpages fun _ h ↦ h).resolve_right ?_
      exact fun ⟨p, hp, hshows, hproperties⟩ ↦ hshown ⟨x, hx, p, hp, hshows, hproperties⟩
    obtain ⟨text, hok⟩ := exists_searchText htellable (Json.isShort_int htotal)
    rw [htext] at hok
    cases hok

end SearchResult

namespace Engine

variable {g : GraphFiles} {pages : List Page} {w : World}

/-- What the search tool may reply on a graph of files with some pages. -/
def Replies (pages : List Page) (reply : Outcome Reply) : Prop :=
  (∃ text, reply = .ok (.text text)) ∨
    ∃ page fault, reply = .error fault ∧ SearchResult.Untold pages page fault

theorem replies_toldByTool {fault : Fault} (h : fault.isSearchFault = true) :
    Replies pages ((searchText (.error fault)).map .text) := by
  rw [searchText, toldByTool, if_pos h]
  exact .inl ⟨_, rfl⟩

theorem replies_ofRecords (hpages : ∀ p ∈ pages, p.Tellable) {records : List Record}
    (hmade : ∀ x ∈ records, x.MadeOf (· ∈ pages) Block.Tellable) (offset limit : Int) :
    Replies pages ((searchText (.ok (.ofRecords records offset limit))).map .text) := by
  have hpage : ∀ x ∈ (SearchResult.ofRecords records offset limit).results,
      x.MadeOf (· ∈ pages) Block.Tellable :=
    fun x hx ↦ hmade x (SearchResult.mem_of_mem_ofRecords x hx)
  rcases SearchResult.told_or_untold hpages hpage with ⟨text, htext⟩ | ⟨fault, huntold⟩
  · rw [htext]
    exact .inl ⟨text, rfl⟩
  · rw [huntold.fails]
    exact .inr ⟨_, fault, rfl, huntold⟩

/-- What a request ends with is made of the pages and blocks that may be told of, or is a search
fault. -/
theorem made_or_searchFault {L : Lore} {P : Page → Prop} {B : Block → Prop} (hL : L.Fair)
    (htells : L.TellsOf P B) {r : SearchRequest} {found : Outcome (List Record)}
    (h : r.Finds L found) :
    (∀ records, r.arranged found = .ok records → ∀ x ∈ records, x.MadeOf P B) ∧
      ∀ fault, r.arranged found = .error fault → fault.isSearchFault = true := by
  refine ⟨fun records ho ↦ SearchRequest.madeOf_arranged htells h ho, fun fault ho ↦ ?_⟩
  rcases SearchRequest.fault_of_arranged hL h ho with ⟨message, rfl⟩ | ⟨-, -, message, rfl⟩
  · rfl
  · rfl

/-- The search tool keeps to what may be said of a graph of files, and replies as it may. -/
theorem sound_searchTool {s : Settings} {today : Date} (hpages : g.listPages.1 = .ok pages)
    (hw : (Lore.filed g pages s today).Holds w) (arguments : Json) :
    Sound (Lore.filed g pages s today).contract failed (Replies pages) .none
      ((Operation.searchTool arguments.toValue).job .finish) w := by
  have hL : (Lore.filed g pages s today).Fair := Lore.fair_filed hpages
  have htold := GraphFiles.tellable_of_listPages hpages
  refine sound_execute hw ?_
  cases hread : SearchRequest.ofArguments
      (.ofSettings (Lore.filed g pages s today).settings) arguments.toValue with
  | error fault =>
    obtain ⟨message, rfl⟩ := SearchRequest.exists_of_ofArguments _ hread
    exact .finish hw (replies_toldByTool rfl)
  | ok r =>
    obtain ⟨offset, key, hprepared⟩ := SearchRequest.exists_prepared hread
    rw [hread] at hprepared
    rw [hprepared]
    refine sound_answer hL hw (fun records hkept ↦ ?_) ?_
    · obtain ⟨e, he, -, rfl⟩ := Store.mem_of_get hkept
      exact Lore.safe_finish (replies_ofRecords htold (hw.results e he) _ _)
    · intro _ found hfound
      have harranged := made_or_searchFault hL Lore.tellsOf_filed hfound
      cases ho : r.arranged found with
      | ok records =>
        have hmade := harranged.1 records ho
        exact ⟨hmade, Lore.safe_finish (replies_ofRecords htold hmade _ _)⟩
      | error fault => exact Lore.safe_finish (replies_toldByTool (harranged.2 fault ho))

/-- The world that the search tool leaves keeps to what may be said of the graph, so that it may be
called again. -/
theorem holds_of_searchTool {w' : World} (hpages : g.listPages.1 = .ok pages)
    (hw : (Lore.filed g pages w.settings w.today).Holds w) (hflights : w.flights = [])
    {arguments : Json} (hleave : MayLeave w (.searchTool arguments.toValue) w') :
    (Lore.filed g pages w.settings w.today).Holds w' ∧ w'.flights = [] :=
  hleave.holds hw hflights (sound_searchTool hpages hw arguments)

end Engine

/-! ### A page that cannot be told -/

namespace SearchResult

variable {page : SearchResult} {x : Record}

end SearchResult

namespace Engine

end Engine

end OutlineSearch
