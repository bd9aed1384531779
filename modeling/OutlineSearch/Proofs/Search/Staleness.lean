import OutlineSearch.Proofs.Corpus.Chronicle
import OutlineSearch.Proofs.Engine.Ordinary
import OutlineSearch.Proofs.Search.Transparency

/-!
# Bounded staleness

Somebody uses a corpus alone: one operation is asked for after the other has ended. Meanwhile the graph
is edited or fails, the cache is made to forget, and time passes. What is answered is then never older
than the lifetimes allow, counted in the numbers that the clock tells.
-/

namespace OutlineSearch

open OutlineSearch.Task OutlineSearch.Search OutlineSearch.Engine

namespace Engine

/-- The time after an operation that begins at a time. -/
def Operation.later (now : Binary64) : Operation → Binary64
  | .advance seconds => now.add seconds
  | _ => now

/-- Times go on to times. -/
theorem Operation.Ordinary.isTime_later {operation : Operation} (h : operation.Ordinary)
    {now : Binary64} (hnow : now.IsTime) : (operation.later now).IsTime := by
  cases h with
  | advance seconds hseconds => exact (hnow.add hseconds).1
  | _ => exact hnow

end Engine

namespace Chronicle

/-- A page of results that may be handed out at a time: one of records that were computed then or
before, and that last until then. -/
def HandsOut (c : Chronicle) (now : Binary64) (request : Outcome SearchRequest)
    (page : SearchResult) : Prop :=
  ∃ r offset key time records, prepared request = .ok (r, offset, key) ∧
    c.Computed time key records ∧ now.atMost (time.add c.settings.resultsLifetime) = true ∧
    page = .ofRecords records offset r.limit

/-- What an operation answers at a time is not older than the lifetimes allow. -/
def Bounds (c : Chronicle) (now : Binary64) : Operation → Outcome Reply → Prop
  | .pages, .ok (.pages items) => ∃ time : Binary64,
    Query.pages.AnsweredIn c.run time (.ok (.pages items)) ∧
    now.atMost (time.add c.settings.pagesLifetime) = true
  | .blocks page, .ok (.blocks items) => ∃ (page' : String) (time : Binary64),
    Text.lowered page' = Text.lowered page ∧
    (Query.blocks page').AnsweredIn c.run time (.ok (.blocks items)) ∧
    now.atMost (time.add c.settings.blocksLifetime) = true
  | .templates, .ok (.pages items) => ∃ (listing : List Page) (picked time : Binary64),
    Query.pages.AnsweredIn c.run time (.ok (.pages listing)) ∧
    picked.atMost (time.add c.settings.pagesLifetime) = true ∧
    now.atMost (picked.add c.settings.templatesLifetime) = true ∧
    items = listing.filter Page.isTemplate
  | .search arguments, .ok (.result page) =>
    c.HandsOut now (SearchRequest.ofArguments (.ofSettings c.settings) arguments) page
  | .searchRequest request, .ok (.result page) =>
    c.HandsOut now (request.again (.ofSettings c.settings)) page
  | _, _ => True

section

variable {c : Chronicle} {now : Binary64} {w : World}

theorem Timely.answeredIn_pages {items : List Page} (h : c.Timely .pages now (.ok (.pages items))) :
    ∃ time, Query.pages.AnsweredIn c.run time (.ok (.pages items)) ∧
      now.atMost (time.add c.settings.pagesLifetime) = true := by
  obtain ⟨time, answer, hanswered, htold, hlasts, -⟩ := h
  obtain rfl := toldReply_pages htold.symm
  exact ⟨time, hanswered, hlasts⟩

theorem bounds_pages {r : Outcome (List Page)} (h : (c.sources now).pages r) :
    c.Bounds now .pages (r.map .pages) := by
  cases r with
  | error fault => trivial
  | ok items => exact h.answeredIn_pages

theorem bounds_templates {r : Outcome (List Page)} (h : (c.sources now).templates r) :
    c.Bounds now .templates (r.map .pages) := by
  cases r with
  | error fault => trivial
  | ok items =>
    obtain ⟨picked, listing, hlisting, hlasts, rfl⟩ := h
    obtain ⟨time, hanswered, hlasts'⟩ := hlisting.answeredIn_pages
    exact ⟨listing, picked, time, hanswered, hlasts', hlasts, rfl⟩

theorem bounds_blocks {page : String} {r : Outcome (List Block)}
    (h : (c.sources now).blocks page r) : c.Bounds now (.blocks page) (r.map .blocks) := by
  cases r with
  | error fault => trivial
  | ok items =>
    obtain ⟨page', hpage, time, answer, hanswered, htold, hlasts, -⟩ := h
    obtain rfl := toldReply_blocks htold.symm
    exact ⟨page', time, hpage, hanswered, hlasts⟩

variable (hs : c.settings.Lasting) (hnow : now.IsTime)

include hs hnow

/-- A request is answered with a page of records that the cache has, or that are found and kept. -/
theorem onCourse_executeRead (hw : c.Holds now w) {request : Outcome SearchRequest}
    {post : Outcome Reply → Prop} (hfault : ∀ fault, post (.error fault))
    (hpost : ∀ page, c.HandsOut now request page → post (.ok (.result page))) :
    OnCourse (c.course now) failed post (executeRead (fun r => .finish (r.map .result)) request)
      w := by
  rw [executeRead_eq]
  cases hprepared : prepared request with
  | error fault => exact .finish hw (hfault fault)
  | ok p =>
    obtain ⟨r, offset, key⟩ := p
    have hpage {time : Binary64} {records : List Record} (hrecords : c.Computed time key records)
        (hlasts : now.atMost (time.add c.settings.resultsLifetime) = true) :
        post (.ok (.result (.ofRecords records offset r.limit))) :=
      hpost _ ⟨r, offset, key, time, records, hprepared, hrecords, hlasts, rfl⟩
    refine .look (.change fun _ ↦ ?_)
    have hcached := Holds.cachedResults hw key
    cases hfound : (w.cachedResults key).1 with
    | some records =>
      obtain ⟨e, he, rfl, rfl, hfresh⟩ := Store.exists_fresh_of_get hfound
      obtain ⟨hlifetime, hcomputed⟩ := hw.results e he
      rw [hw.clock, hlifetime] at hfresh
      exact .finish hcached (hpage hcomputed hfresh)
    | none =>
      have hevaluator : (w.cachedResults key).2.evaluator = ⟨c.settings, c.today⟩ := by
        rw [World.evaluator, hcached.settings, hcached.today]
      refine .look ?_
      rw [hevaluator]
      refine r.ready_recordsJob (serves hs hnow) (fun found hfound w' hw' ↦ ?_) _ hcached
      cases harranged : r.arranged found with
      | error fault => exact .finish hw' (hfault fault)
      | ok records =>
        refine .change fun hgoes ↦ ?_
        have hcomputed : c.Computed now key records :=
          ⟨⟨w', hgoes, Holds.clock hw'⟩, r, found, (prepared_eq_ok hprepared).2, hfound, harranged⟩
        exact .finish (Holds.keepResults hw' hcomputed) (hpage hcomputed (hnow.add hs.results).2)

/-- An operation keeps to the course, and what it answers is within the bounds. -/
theorem onCourse_operation (hw : c.Holds now w) {operation : Operation}
    (ho : operation.Ordinary) :
    OnCourse (c.course (operation.later now)) failed (c.Bounds now operation)
      (operation.job .finish) w := by
  have hserves := serves hs hnow
  cases ho with
  | pages => exact hserves.pages _ _ (fun r hr ↦ Course.ready_finish (bounds_pages hr)) w hw
  | templates =>
    exact hserves.templates _ _ (fun r hr ↦ Course.ready_finish (bounds_templates hr)) w hw
  | blocks page =>
    exact hserves.blocks _ page _ (fun r hr ↦ Course.ready_finish (bounds_blocks hr)) w hw
  | search arguments =>
    refine .look (onCourse_executeRead hs hnow hw (fun fault ↦ trivial) fun page hpage ↦ ?_)
    rwa [hw.settings] at hpage
  | searchRequest request =>
    refine .look (onCourse_executeRead hs hnow hw (fun fault ↦ trivial) fun page hpage ↦ ?_)
    rwa [hw.settings] at hpage
  | edit change =>
    refine .look (.change fun _ ↦ .finish ?_ trivial)
    unfold editGraph
    cases change w.provider with
    | ok p => exact Holds.withProvider hw p
    | error fault => exact hw
  | forget kind identifier =>
    rw [Operation.job, forgetJob]
    cases Cache.Change.told kind identifier with
    | error fault => exact .finish hw trivial
    | ok change => exact .change fun _ ↦ .finish (Holds.forget hw change) trivial
  | advance seconds hseconds =>
    refine .change fun _ ↦ .finish ?_ trivial
    exact ⟨congrArg (·.add seconds) hw.clock, hw.settings, hw.today, hw.pages, hw.templates,
      hw.blocks, hw.results⟩

/-- An operation that is played in a run keeps to its course. -/
theorem keeps_played (hw : c.Holds now w) {operation : Operation} (ho : operation.Ordinary)
    (places : List Nat) (hrun : w :: passage w operation places <:+: c.run) :
    (c.course (operation.later now)).Keeps failed (fun _ ↦ c.Bounds now operation)
      (played w operation places) := by
  refine Course.keeps_of_idle ⟨rfl, rfl, rfl, rfl⟩ Loop.runner (onCourse_operation hs hnow hw ho)
    places ?_
  exact (List.isChain_isInfix _).imp fun v v' h ↦ h.trans hrun

end

end Chronicle

/-! ### Whole runs -/

/-- The chronicle of a run from a world on. -/
def World.chronicle (start : World) (run : List World) : Chronicle :=
  ⟨run, start.settings, start.today⟩

/-- On a corpus that was fresh, the world keeps to the chronicle of any longer run. -/
theorem World.Lives.holds {start w : World} {run : List World} (hcache : start.cache = {})
    (hclock : start.clock.IsTime) (hs : start.settings.Lasting) (h : start.Lives run w)
    {whole : List World} (hrun : run <:+: whole) :
    w.clock.IsTime ∧ (start.chronicle whole).Holds w.clock w := by
  induction h with
  | start =>
    refine ⟨hclock, rfl, rfl, rfl, ?_, ?_, ?_, ?_⟩
    all_goals
      rw [hcache]
      exact List.forall_mem_nil _
  | @operation run w h operation ho places hrest ih =>
    obtain ⟨htime, hholds⟩ := ih ((List.prefix_append run _).isInfix.trans hrun)
    have hkeeps := Chronicle.keeps_played hs htime hholds ho places
      ((h.passage_isInfix operation places).trans hrun)
    have hlater : (start.chronicle whole).Holds (operation.later w.clock)
      (played w operation places).state := hkeeps.inv
    rw [hlater.clock]
    exact ⟨ho.isTime_later htime, hlater⟩

/-- In every run of one operation after the other on a corpus that was fresh, while no lifetime is
negative, each operation returns, and what is answered is not older than the lifetimes allow. -/
theorem answer_bounded {start w : World} {run : List World} (hcache : start.cache = {})
    (hflights : start.flights = []) (hclock : start.clock.IsTime) (hs : start.settings.Lasting)
    (hrun : start.Lives run w) {operation : Operation} (ho : operation.Ordinary) :
    Returns w operation ∧ ∀ places reply,
      (played w operation places).answer? Loop.runner = some reply →
        (start.chronicle (run ++ passage w operation places)).Bounds w.clock operation reply := by
  refine ⟨hrun.returns hflights ho, fun places reply hreply ↦ ?_⟩
  obtain ⟨htime, hholds⟩ := hrun.holds hcache hclock hs (List.prefix_append run _).isInfix
  exact (Chronicle.keeps_played hs htime hholds ho places
    (hrun.passage_isInfix operation places)).answer hreply

/-! ### A listing that is read again -/

/-- A listing that is kept and up to date is answered at once. -/
theorem played_pages_of_fresh {w : World} {e : StoreEntry (List Page)}
    (h : w.cache.pages.find? Cache.allPagesKey = some e) (hfresh : e.isFresh w.clock = true) :
    played w .pages [] = answering w (.ok (.pages e.value)) ∧ passage w .pages [] = [w] := by
  have hcached : Corpus.cached .pages w = (some (.pages e.value), w) := by
    rw [Corpus.cached, World.cachedPages, Corpus.keyOf, Store.get_of_fresh h hfresh]
    rfl
  have hplayed : played w .pages [] =
    Loop.perform (.client Loop.runner) (Operation.pages.job .finish) { state := w } := rfl
  have hpassage : passage w .pages [] = (Operation.pages.job .finish).states w := List.append_nil _
  rw [hplayed, hpassage, Operation.job, Corpus.pages, Corpus.read, Job.touch, Loop.perform,
    Loop.perform, Job.states, Job.states]
  simp only [hcached]
  exact ⟨rfl, rfl⟩

section

variable (clock lifetime : Binary64)

/-- The world around a page whose listing lasts for a lifetime. -/
def unreadWorld : World :=
  { provider := .memory (.ofPage oldPage), clock, settings := { pagesLifetime := lifetime },
    today := someDay }

/-- The world after the listing has been read. -/
def readWorld : World :=
  ({ unreadWorld clock lifetime with
    provider := .memory (MemoryGraph.ofPage oldPage).countPages }).keepPages [oldPage]

/-- The edit that gives the page its other name. -/
def renamePage : Operation := .edit fun _ => .ok (.memory (.ofPage newPage))

/-- The world after the page has got its other name. -/
def outdatedWorld : World := (readWorld clock lifetime).withProvider (.memory (.ofPage newPage))

/-- The world when the listing has lasted for its lifetime. -/
def expiringWorld : World := { outdatedWorld clock lifetime with clock := clock.add lifetime }

/-- The run from the first read to the time at which the listing has lasted. -/
def expiringRun : List World :=
  [unreadWorld clock lifetime] ++ passage (unreadWorld clock lifetime) .pages [] ++
    passage (readWorld clock lifetime) renamePage [] ++
    passage (outdatedWorld clock lifetime) (.advance lifetime) []

variable {clock lifetime}

theorem lives_expiringWorld (h : (Binary64.finite 0).atMost lifetime = true) :
    (unreadWorld clock lifetime).Lives (expiringRun clock lifetime)
      (expiringWorld clock lifetime) := by
  have hread : (unreadWorld clock lifetime).Lives _ (readWorld clock lifetime) :=
    .operation .start .pages [] rfl
  have hedited : (unreadWorld clock lifetime).Lives _ (outdatedWorld clock lifetime) :=
    .operation hread (.edit fun _ => .ok (.memory (.ofPage newPage))) [] rfl
  exact .operation hedited (.advance lifetime h) [] rfl

theorem isTime_unreadWorld (h : clock.IsTime) : (unreadWorld clock lifetime).clock.IsTime := h

theorem lasting_unreadWorld (h : (Binary64.finite 0).atMost lifetime = true) :
    (unreadWorld clock lifetime).settings.Lasting := by
  have hdefaults : ({} : Settings).Lasting :=
    ⟨by decide +kernel, by decide +kernel, by decide +kernel, by decide +kernel⟩
  exact ⟨h, hdefaults.blocks, hdefaults.templates, hdefaults.results⟩

/-- What has been listed before the edit is answered when it has lasted for its lifetime. -/
theorem played_expiringWorld (h : (clock.add lifetime).atMost (clock.add lifetime) = true) :
    played (expiringWorld clock lifetime) .pages [] =
        answering (expiringWorld clock lifetime) (.ok (.pages [oldPage])) ∧
      passage (expiringWorld clock lifetime) .pages [] = [expiringWorld clock lifetime] := by
  have hfind := Store.find?_put_self {} clock lifetime Cache.allPagesKey [oldPage]
  exact played_pages_of_fresh (w := expiringWorld clock lifetime) hfind h

theorem answer?_expiringWorld (h : (clock.add lifetime).atMost (clock.add lifetime) = true) :
    (played (expiringWorld clock lifetime) .pages []).answer? Loop.runner =
      some (.ok (.pages [oldPage])) := by
  rw [(played_expiringWorld h).1]
  rfl

/-- The old name has been listed at the first time only. -/
theorem answeredIn_expiringRun {time : Binary64}
    (h : Query.pages.AnsweredIn (expiringRun clock lifetime ++ [expiringWorld clock lifetime]) time
      (.ok (.pages [oldPage]))) : time = clock := by
  have hall : ∀ w ∈ expiringRun clock lifetime ++ [expiringWorld clock lifetime],
      w.clock = clock ∨ w.provider = .memory (.ofPage newPage) := by
    have hrun : expiringRun clock lifetime ++ [expiringWorld clock lifetime] =
      [_, _, _, _, _, _, _, _] := rfl
    rw [hrun]
    simp only [List.forall_mem_cons]
    exact ⟨.inl rfl, .inl rfl, .inl rfl, .inl rfl, .inl rfl, .inl rfl, .inr rfl, .inr rfl,
      List.forall_mem_nil _⟩
  obtain ⟨w, hreceived, rfl, hanswer⟩ := h
  rcases hall w (hreceived.subset List.mem_cons_self) with hclock | hrenamed
  · exact hclock
  · have hother : (w.answer .pages).1 = .ok (.pages [newPage]) := by
      rw [World.answer, hrenamed]
      rfl
    rw [hother] at hanswer
    simp [oldPage, newPage] at hanswer

end

/-- The lifetime of 24.4 seconds. -/
def briefLifetime : Binary64 := .ofRatio 244 10

/-- A listing that lasts for 24.4 seconds is kept until 24.4 seconds later, but that is more than 24.4
seconds later. -/
theorem briefLifetime_added : (Binary64.finite 0).atMost briefLifetime = true ∧
    ((Binary64.ofInt 1000).add briefLifetime).atMost
      ((Binary64.ofInt 1000).add briefLifetime) = true ∧
    (((Binary64.ofInt 1000).add briefLifetime).add briefLifetime.neg).atMost
      (.ofInt 1000) = false ∧
    ¬(((Binary64.ofInt 1000).add briefLifetime).steps?.getD 0 - briefLifetime.steps?.getD 0 ≤
      (Binary64.ofInt 1000).steps?.getD 0) := by
  decide +kernel

theorem expiringWorld_bounded :
    (unreadWorld (.ofInt 1000) briefLifetime).Lives (expiringRun (.ofInt 1000) briefLifetime)
        (expiringWorld (.ofInt 1000) briefLifetime) ∧
      Returns (expiringWorld (.ofInt 1000) briefLifetime) .pages ∧
      (played (expiringWorld (.ofInt 1000) briefLifetime) .pages []).answer? Loop.runner =
        some (.ok (.pages [oldPage])) ∧
      ((unreadWorld (.ofInt 1000) briefLifetime).chronicle
          (expiringRun (.ofInt 1000) briefLifetime ++
            passage (expiringWorld (.ofInt 1000) briefLifetime) .pages [])).Bounds
        (expiringWorld (.ofInt 1000) briefLifetime).clock .pages (.ok (.pages [oldPage])) := by
  have hclock : (Binary64.ofInt 1000).IsTime := Binary64.isTime_ofInt (by decide)
  obtain ⟨hnonneg, hlasts, -, -⟩ := briefLifetime_added
  have hlives : (unreadWorld (.ofInt 1000) briefLifetime).Lives _ _ := lives_expiringWorld hnonneg
  obtain ⟨hreturns, hbounds⟩ := answer_bounded rfl rfl (isTime_unreadWorld hclock)
    (lasting_unreadWorld hnonneg) hlives .pages
  have hanswer := answer?_expiringWorld hlasts
  exact ⟨hlives, hreturns, hanswer, hbounds [] _ hanswer⟩

/-- A time is at most a lifetime before another one, if their difference is rounded or else if it is
not. -/
def Binary64.Reaches (time lifetime now : Binary64) : Prop :=
  (now.add lifetime.neg).atMost time = true ∨
    ∃ a b c, now.steps? = some a ∧ lifetime.steps? = some b ∧ time.steps? = some c ∧ a - b ≤ c

theorem reaches_expiringWorld {clock lifetime : Binary64}
    (h : clock.Reaches (unreadWorld clock lifetime).settings.pagesLifetime
      (expiringWorld clock lifetime).clock) : clock.Reaches lifetime (clock.add lifetime) := h

/-- A time that is 24.4 seconds later is more than 24.4 seconds later. -/
theorem not_reaches_briefLifetime :
    ¬(Binary64.ofInt 1000).Reaches briefLifetime ((Binary64.ofInt 1000).add briefLifetime) := by
  obtain ⟨-, -, hrounded, hexact⟩ := briefLifetime_added
  rintro (h | ⟨a, b, c, ha, hb, hc, h⟩)
  · rw [hrounded] at h
    cases h
  · rw [ha, hb, hc] at hexact
    exact hexact h

/-- An answer may be older than its lifetime by less than the clock can tell: the time until which it
lasts is rounded. -/
theorem not_reaches_lifetime :
    ¬∀ (start w : World) (run : List World) (places : List Nat) (items : List Page),
      start.cache = {} → start.flights = [] → start.clock.IsTime → start.settings.Lasting →
      start.Lives run w → (played w .pages places).answer? Loop.runner = some (.ok (.pages items)) →
      ∃ time, Query.pages.AnsweredIn (run ++ passage w .pages places) time (.ok (.pages items)) ∧
        time.Reaches start.settings.pagesLifetime w.clock := by
  intro h
  have hclock : (Binary64.ofInt 1000).IsTime := Binary64.isTime_ofInt (by decide)
  obtain ⟨hnonneg, hlasts, -, -⟩ := briefLifetime_added
  obtain ⟨time, hanswered, hreaches⟩ := h _ _ _ _ _ rfl rfl (isTime_unreadWorld hclock)
    (lasting_unreadWorld hnonneg) (lives_expiringWorld hnonneg) (answer?_expiringWorld hlasts)
  rw [(played_expiringWorld hlasts).2] at hanswered
  rw [answeredIn_expiringRun hanswered] at hreaches
  exact not_reaches_briefLifetime (reaches_expiringWorld hreaches)

end OutlineSearch
