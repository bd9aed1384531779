import OutlineSearch.Proofs.Corpus.Passages
import OutlineSearch.Proofs.Number.Adding
import OutlineSearch.Proofs.Search.Gathering

/-!
# Chronicles

A chronicle tells a run of a corpus, so that it can be told where something comes from and how old it
is. What the cache keeps bears the time at which the provider has answered, or at which it was made of
what was then not too old. So ages add up: templates are made of a listing that may have been in the
cache, and the results of a search of anything.

A world keeps to the chronicle when all that its cache keeps comes from the run. A read by somebody who
runs in it is told what the run has brought.
-/

namespace OutlineSearch

open OutlineSearch.Task OutlineSearch.Search

namespace Store

variable {α : Type} {s : Store α} {now : Binary64} {key : String} {e : StoreEntry α}

/-- What is found under a key is kept under it and up to date. -/
theorem exists_fresh_of_get {a : α} (h : (s.get now key).1 = some a) :
    ∃ e ∈ s.entries, e.key = key ∧ e.value = a ∧ now.atMost (e.writtenAt.add e.lifetime) = true := by
  unfold get at h
  split at h
  · cases h
  · next e he =>
    split at h
    · next hfresh =>
      exact ⟨e, List.mem_of_find?_eq_some he, key_of_find? he, Option.some.inj h, hfresh⟩
    · cases h

theorem eq_or_mem_of_put {lifetime : Binary64} {a : α}
    (h : e ∈ (s.put now lifetime key a).entries) : e = ⟨key, a, now, lifetime⟩ ∨ e ∈ s.entries :=
  (List.mem_cons.1 h).imp_right mem_of_mem_erase

end Store

/-- No lifetime is negative. -/
structure Settings.Lasting (s : Settings) : Prop where
  pages : (Binary64.finite 0).atMost s.pagesLifetime = true
  blocks : (Binary64.finite 0).atMost s.blocksLifetime = true
  templates : (Binary64.finite 0).atMost s.templatesLifetime = true
  results : (Binary64.finite 0).atMost s.resultsLifetime = true

theorem Settings.Lasting.lifetime {s : Settings} (h : s.Lasting) (q : Query) :
    (Binary64.finite 0).atMost (q.lifetime s) = true := by
  cases q with
  | pages => exact h.pages
  | blocks page => exact h.blocks

/-- The provider has answered a call at some time of a run: the answer has been received then. -/
def Query.AnsweredIn (q : Query) (run : List World) (time : Binary64) (answer : Outcome Holding) :
    Prop :=
  ∃ w, [w, (Corpus.receive q w).2] <:+: run ∧ w.clock = time ∧ (w.answer q).1 = answer

/-- The answer to a call as a read is replied it. -/
def Corpus.toldReply (q : Query) (answer : Outcome Holding) : Outcome Reply :=
  told q (answer.map replyOf)

theorem Corpus.receive_fst (q : Query) (w : World) :
    (receive q w).1 = toldReply q (w.answer q).1 := by
  rw [receive]
  split
  · next h => rw [h]; rfl
  · next h => rw [h]; rfl

/-- A run: the states that the world goes through, and what stays as it is. -/
structure Chronicle where
  run : List World
  settings : Settings
  today : Date

namespace Chronicle

/-! ### Where things come from -/

/-- A read may be replied so at a time: the provider has answered so, and that lasts until then. A
failure is told at the time of the call only. -/
def Timely (c : Chronicle) (q : Query) (now : Binary64) (reply : Outcome Reply) : Prop :=
  ∃ time answer, q.AnsweredIn c.run time answer ∧ reply = Corpus.toldReply q answer ∧
    now.atMost (time.add (q.lifetime c.settings)) = true ∧ (failed reply = true → time = now)

/-- Templates that may be told at a time: those of a listing that was told when they were picked out,
and that lasts until then. -/
def TimelyTemplates (c : Chronicle) (now : Binary64) (items : List Page) : Prop :=
  ∃ time listing, c.Timely .pages time (.ok (.pages listing)) ∧
    now.atMost (time.add c.settings.templatesLifetime) = true ∧
    items = listing.filter Page.isTemplate

/-- What the reads of a corpus may be told at a time. -/
def sources (c : Chronicle) (now : Binary64) : Sources where
  pages r := c.Timely .pages now (r.map .pages)
  templates
    | .ok items => c.TimelyTemplates now items
    | .error fault => c.Timely .pages now (.error fault)
  blocks page r := ∃ page', Text.lowered page' = Text.lowered page ∧
    c.Timely (.blocks page') now (r.map .blocks)

/-- The records of a search have been found and kept at a time, by a request under their key that drew
on what its reads might then be told. -/
def Computed (c : Chronicle) (time : Binary64) (key : String) (records : List Record) : Prop :=
  (∃ w, [w, w.keepResults key records] <:+: c.run ∧ w.clock = time) ∧
    ∃ (r : SearchRequest) (found : Outcome (List Record)), r.cacheKey = .ok key ∧
      r.Gathers (c.sources time) ⟨c.settings, c.today⟩ found ∧ r.arranged found = .ok records

/-- All that a world keeps comes from the run. -/
structure Holds (c : Chronicle) (now : Binary64) (w : World) : Prop where
  clock : w.clock = now
  settings : w.settings = c.settings
  today : w.today = c.today
  pages : ∀ e ∈ w.cache.pages.entries, e.key = Cache.allPagesKey →
    e.lifetime = c.settings.pagesLifetime ∧
      Query.pages.AnsweredIn c.run e.writtenAt (.ok (.pages e.value))
  templates : ∀ e ∈ w.cache.pages.entries, e.key = Cache.templatesKey →
    e.lifetime = c.settings.templatesLifetime ∧ ∃ listing,
      c.Timely .pages e.writtenAt (.ok (.pages listing)) ∧ e.value = listing.filter Page.isTemplate
  blocks : ∀ e ∈ w.cache.blocks.entries, e.lifetime = c.settings.blocksLifetime ∧
    ∃ page, e.key = Cache.blocksKey page ∧
      (Query.blocks page).AnsweredIn c.run e.writtenAt (.ok (.blocks e.value))
  results : ∀ e ∈ w.cache.queries.entries, e.lifetime = c.settings.resultsLifetime ∧
    c.Computed e.writtenAt e.key e.value

/-- The course of a run at a time at which nobody moves the clock. -/
def course (c : Chronicle) (now : Binary64) : Course World String (Outcome Reply) where
  inv := c.Holds now
  told key reply := ∃ q, Corpus.keyOf q = key ∧ c.Timely q now reply
  goes w w' := [w, w'] <:+: c.run

variable {c : Chronicle} {now : Binary64} {w w' : World}

/-! ### Answers that are told -/

theorem toldReply_pages {answer : Outcome Holding} {items : List Page} {q : Query}
    (h : Corpus.toldReply q answer = .ok (.pages items)) : answer = .ok (.pages items) := by
  rcases answer with fault | items' | items'
  · cases h
  · cases h
    rfl
  · cases h

theorem toldReply_blocks {answer : Outcome Holding} {items : List Block} {q : Query}
    (h : Corpus.toldReply q answer = .ok (.blocks items)) : answer = .ok (.blocks items) := by
  rcases answer with fault | items' | items'
  · cases h
  · cases h
  · cases h
    rfl

/-- What is told of the listing is a listing, or the call has failed. -/
theorem Timely.exists_pages {reply : Outcome Reply} (h : c.Timely .pages now reply) :
    ∃ r : Outcome (List Page), reply = r.map .pages := by
  obtain ⟨time, answer, ⟨w, -, -, rfl⟩, rfl, -⟩ := h
  rcases hanswer : w.provider.listPages.1 with fault | items
  · exact ⟨.error (Corpus.toldFault .pages fault), by
      simp only [World.answer, Provider.answer, hanswer]; rfl⟩
  · exact ⟨.ok items, by simp only [World.answer, Provider.answer, hanswer]; rfl⟩

/-- What is told of an outline is an outline, or the call has failed. -/
theorem Timely.exists_blocks {page : String} {reply : Outcome Reply}
    (h : c.Timely (.blocks page) now reply) : ∃ r : Outcome (List Block), reply = r.map .blocks := by
  obtain ⟨time, answer, ⟨w, -, -, rfl⟩, rfl, -⟩ := h
  rcases hanswer : (w.provider.outline page).1 with fault | items
  · exact ⟨.error (Corpus.toldFault (.blocks page) fault), by
      simp only [World.answer, Provider.answer, hanswer]; rfl⟩
  · exact ⟨.ok items, by simp only [World.answer, Provider.answer, hanswer]; rfl⟩

namespace Holds

/-! ### What worlds do -/

/-- A world that keeps no more keeps to the chronicle. -/
theorem mono (h : c.Holds now w) (hclock : w'.clock = w.clock) (hsettings : w'.settings = w.settings)
    (htoday : w'.today = w.today)
    (hpages : ∀ e ∈ w'.cache.pages.entries, e ∈ w.cache.pages.entries)
    (hblocks : ∀ e ∈ w'.cache.blocks.entries, e ∈ w.cache.blocks.entries)
    (hqueries : ∀ e ∈ w'.cache.queries.entries, e ∈ w.cache.queries.entries) : c.Holds now w' where
  clock := hclock.trans h.clock
  settings := hsettings.trans h.settings
  today := htoday.trans h.today
  pages e he := h.pages e (hpages e he)
  templates e he := h.templates e (hpages e he)
  blocks e he := h.blocks e (hblocks e he)
  results e he := h.results e (hqueries e he)

theorem of_cache_eq (h : c.Holds now w) (hclock : w'.clock = w.clock)
    (hsettings : w'.settings = w.settings) (htoday : w'.today = w.today)
    (hcache : w'.cache = w.cache) : c.Holds now w' :=
  h.mono hclock hsettings htoday (fun _ he ↦ hcache ▸ he) (fun _ he ↦ hcache ▸ he)
    fun _ he ↦ hcache ▸ he

theorem cachedPages (h : c.Holds now w) (key : String) : c.Holds now (w.cachedPages key).2 :=
  h.mono rfl rfl rfl (fun _ ↦ Store.mem_of_mem_get) (fun _ he ↦ he) fun _ he ↦ he

theorem cachedBlocks (h : c.Holds now w) (key : String) : c.Holds now (w.cachedBlocks key).2 :=
  h.mono rfl rfl rfl (fun _ he ↦ he) (fun _ ↦ Store.mem_of_mem_get) fun _ he ↦ he

theorem cachedResults (h : c.Holds now w) (key : String) : c.Holds now (w.cachedResults key).2 :=
  h.mono rfl rfl rfl (fun _ he ↦ he) (fun _ he ↦ he) fun _ ↦ Store.mem_of_mem_get

theorem cached_world (h : c.Holds now w) (q : Query) : c.Holds now (Corpus.cached q w).2 := by
  cases q with
  | pages => exact h.cachedPages _
  | blocks page => exact h.cachedBlocks _

theorem start (h : c.Holds now w) (q : Query) : c.Holds now (w.start q) :=
  h.of_cache_eq rfl rfl rfl rfl

theorem takeOff (h : c.Holds now w) (key : String) : c.Holds now (w.takeOff key) :=
  h.of_cache_eq rfl rfl rfl rfl

theorem touchDown (h : c.Holds now w) (key : String) : c.Holds now (w.touchDown key) :=
  h.of_cache_eq rfl rfl rfl rfl

theorem withProvider (h : c.Holds now w) (p : Provider) : c.Holds now (w.withProvider p) :=
  h.of_cache_eq rfl rfl rfl rfl

/-- To forget is to keep less. -/
theorem forget (h : c.Holds now w) (change : Cache.Change) : c.Holds now (w.forget change) := by
  refine h.mono rfl rfl rfl (fun _ ↦ Cache.mem_of_mem_forget_pages)
    (fun _ ↦ Cache.mem_of_mem_forget_blocks) fun e he ↦ ?_
  match change with
  | .page name => exact he
  | .block (some page) => exact he
  | .block none => exact he
  | .everything => cases he

theorem keepPages (h : c.Holds now w) {items : List Page}
    (hitems : Query.pages.AnsweredIn c.run now (.ok (.pages items))) :
    c.Holds now (w.keepPages items) where
  clock := h.clock
  settings := h.settings
  today := h.today
  pages e he hkey := by
    rcases Store.eq_or_mem_of_put he with rfl | he
    · exact ⟨congrArg Settings.pagesLifetime h.settings, h.clock ▸ hitems⟩
    · exact h.pages e he hkey
  templates e he hkey := by
    rcases Store.eq_or_mem_of_put he with rfl | he
    · exact absurd hkey Cache.allPagesKey_ne_templatesKey
    · exact h.templates e he hkey
  blocks := h.blocks
  results := h.results

theorem keepTemplates (h : c.Holds now w) {listing : List Page}
    (hlisting : c.Timely .pages now (.ok (.pages listing))) :
    c.Holds now (w.keepTemplates (listing.filter Page.isTemplate)) where
  clock := h.clock
  settings := h.settings
  today := h.today
  pages e he hkey := by
    rcases Store.eq_or_mem_of_put he with rfl | he
    · exact absurd hkey.symm Cache.allPagesKey_ne_templatesKey
    · exact h.pages e he hkey
  templates e he hkey := by
    rcases Store.eq_or_mem_of_put he with rfl | he
    · exact ⟨congrArg Settings.templatesLifetime h.settings, listing, h.clock ▸ hlisting, rfl⟩
    · exact h.templates e he hkey
  blocks := h.blocks
  results := h.results

theorem keepBlocks (h : c.Holds now w) {page : String} {items : List Block}
    (hitems : (Query.blocks page).AnsweredIn c.run now (.ok (.blocks items))) :
    c.Holds now (w.keepBlocks (Cache.blocksKey page) items) where
  clock := h.clock
  settings := h.settings
  today := h.today
  pages := h.pages
  templates := h.templates
  blocks e he := by
    rcases Store.eq_or_mem_of_put he with rfl | he
    · exact ⟨congrArg Settings.blocksLifetime h.settings, page, rfl, h.clock ▸ hitems⟩
    · exact h.blocks e he
  results := h.results

theorem keepResults (h : c.Holds now w) {key : String} {records : List Record}
    (hrecords : c.Computed now key records) : c.Holds now (w.keepResults key records) where
  clock := h.clock
  settings := h.settings
  today := h.today
  pages := h.pages
  templates := h.templates
  blocks := h.blocks
  results e he := by
    rcases Store.eq_or_mem_of_put he with rfl | he
    · exact ⟨congrArg Settings.resultsLifetime h.settings, h.clock ▸ hrecords⟩
    · exact h.results e he

/-- What the cache has may be told. -/
theorem cached (h : c.Holds now w) {q : Query} {found : Holding}
    (hfound : (Corpus.cached q w).1 = some found) :
    ∃ q', Corpus.keyOf q' = Corpus.keyOf q ∧ c.Timely q' now (.ok (Corpus.replyOf found)) := by
  cases q with
  | pages =>
    obtain ⟨items, hitems, rfl⟩ := Option.map_eq_some_iff.1 hfound
    obtain ⟨e, he, hkey, rfl, hfresh⟩ := Store.exists_fresh_of_get hitems
    obtain ⟨hlifetime, hanswered⟩ := h.pages e he hkey
    rw [h.clock, hlifetime] at hfresh
    exact ⟨.pages, rfl, e.writtenAt, _, hanswered, rfl, hfresh, fun hfailed ↦ nomatch hfailed⟩
  | blocks page =>
    obtain ⟨items, hitems, rfl⟩ := Option.map_eq_some_iff.1 hfound
    obtain ⟨e, he, hkey, rfl, hfresh⟩ := Store.exists_fresh_of_get hitems
    obtain ⟨hlifetime, page', hkey', hanswered⟩ := h.blocks e he
    rw [h.clock, hlifetime] at hfresh
    exact ⟨.blocks page', hkey'.symm.trans hkey, e.writtenAt, _, hanswered, rfl, hfresh,
      fun hfailed ↦ nomatch hfailed⟩

/-- Templates that the cache has may be told. -/
theorem cachedTemplates (h : c.Holds now w) {items : List Page}
    (hfound : (w.cachedPages Cache.templatesKey).1 = some items) : c.TimelyTemplates now items := by
  obtain ⟨e, he, hkey, rfl, hfresh⟩ := Store.exists_fresh_of_get hfound
  obtain ⟨hlifetime, listing, hlisting, hvalue⟩ := h.templates e he hkey
  rw [h.clock, hlifetime] at hfresh
  exact ⟨e.writtenAt, listing, hlisting, hfresh, hvalue⟩

/-- What is received may be told, and the world that receives it keeps to the chronicle. -/
theorem receive (hs : c.settings.Lasting) (hnow : now.IsTime) (h : c.Holds now w) {q : Query}
    (hgoes : [w, (Corpus.receive q w).2] <:+: c.run) :
    c.Timely q now (Corpus.receive q w).1 ∧ c.Holds now (Corpus.receive q w).2 := by
  have hanswered : q.AnsweredIn c.run now (w.answer q).1 := ⟨w, hgoes, h.clock, rfl⟩
  constructor
  · exact ⟨now, _, hanswered, Corpus.receive_fst q w, (hnow.add (hs.lifetime q)).2, fun _ ↦ rfl⟩
  · have hworld := h.withProvider (w.provider.answer q).2
    cases q with
    | pages =>
      cases hr : w.provider.listPages.1 with
      | ok items =>
        simp only [Corpus.receive, World.answer, Provider.answer, hr] at hworld hanswered ⊢
        exact hworld.keepPages hanswered
      | error fault =>
        simp only [Corpus.receive, World.answer, Provider.answer, hr] at hworld ⊢
        exact hworld
    | blocks page =>
      cases hr : (w.provider.outline page).1 with
      | ok items =>
        simp only [Corpus.receive, World.answer, Provider.answer, hr] at hworld hanswered ⊢
        exact hworld.keepBlocks hanswered
      | error fault =>
        simp only [Corpus.receive, World.answer, Provider.answer, hr] at hworld ⊢
        exact hworld

end Holds

/-! ### Reads -/

section

variable {post : Outcome Reply → Prop} (hs : c.settings.Lasting) (hnow : now.IsTime)

include hs hnow

/-- A call brings what may be told, however many turns it takes. -/
theorem onCourse_land {q : Query} {next : Outcome Reply → EngineJob}
    (h : ∀ reply, c.Timely q now reply → (c.course now).Ready failed post (next reply)) (turns : Nat)
    (hw : c.Holds now w) :
    OnCourse (c.course now) failed post (.pauses (Corpus.land q next) turns) w := by
  induction turns generalizing w with
  | zero =>
    refine .look (.change fun hgoes ↦ ?_)
    obtain ⟨htimely, hreceived⟩ := hw.receive hs hnow hgoes
    exact .change fun _ ↦ .settle ⟨q, rfl, htimely⟩ (h _ htimely _ (hreceived.touchDown _))
  | succ turns ih => exact .pause hw fun w' hw' ↦ ih hw'

/-- A read goes on with what may be told, whoever has brought it. -/
theorem ready_read {q : Query} {next : Outcome Reply → EngineJob}
    (h : ∀ q' reply, Corpus.keyOf q' = Corpus.keyOf q → c.Timely q' now reply →
      (c.course now).Ready failed post (next reply)) :
    (c.course now).Ready failed post (Corpus.read q next) := by
  intro w hw
  refine .look (.change fun _ ↦ ?_)
  have hcached := Holds.cached_world hw q
  cases hfound : (Corpus.cached q w).1 with
  | some found =>
    obtain ⟨q', hkey, htimely⟩ := Holds.cached hw hfound
    exact h q' _ hkey htimely _ hcached
  | none =>
    refine .look ?_
    split
    · exact .await hcached fun reply ⟨q', hkey, htimely⟩ ↦ h q' reply hkey htimely
    · refine .change fun _ ↦ .look ?_
      exact onCourse_land hs hnow (fun reply ↦ h q reply rfl) _ ((hcached.takeOff _).start q)

/-- Whoever reads in a run is told what the run has brought. -/
theorem serves : (c.course now).Serves (c.sources now) := by
  have hpages (post : Outcome Reply → Prop) (next : Outcome (List Page) → EngineJob)
      (h : ∀ r, (c.sources now).pages r → (c.course now).Ready failed post (next r)) :
      (c.course now).Ready failed post (Corpus.pages next) := by
    refine ready_read hs hnow fun q' reply hkey htimely ↦ ?_
    obtain rfl := Query.eq_pages hkey
    obtain ⟨r, rfl⟩ := htimely.exists_pages
    have hr := h r htimely
    cases r <;> exact hr
  refine ⟨hpages, fun post next h ↦ ?_, fun post page next h ↦ ?_⟩
  · intro w hw
    refine .look (.change fun _ ↦ ?_)
    have hcached := Holds.cachedPages hw Cache.templatesKey
    cases hfound : (w.cachedPages Cache.templatesKey).1 with
    | some items => exact h (.ok items) (Holds.cachedTemplates hw hfound) _ hcached
    | none =>
      refine hpages _ _ (fun r hr ↦ ?_) _ hcached
      cases r with
      | error fault => exact h (.error fault) hr
      | ok listing =>
        refine fun w hw ↦ .change fun _ ↦ h (.ok _) ?_ _ (Holds.keepTemplates hw hr)
        exact ⟨now, listing, hr, (hnow.add hs.templates).2, rfl⟩
  · refine ready_read hs hnow fun q' reply hkey htimely ↦ ?_
    cases q' with
    | pages => exact absurd hkey.symm (Cache.blocksKey_ne_allPagesKey page)
    | blocks page' =>
      obtain ⟨r, rfl⟩ := htimely.exists_blocks
      have hr := h r ⟨page', (Cache.blocksKey_eq_iff ..).1 hkey, htimely⟩
      cases r <;> exact hr

end

end Chronicle

end OutlineSearch
