import OutlineSearch.Corpus.Script
import OutlineSearch.Proofs.Task.Contract

/-!
# Lore

Lore is what may be said about a graph: what a read of the listing or of an outline may be told, and
what may be kept for a search. A world keeps to the lore when its provider tells only such things and
its cache has kept only such things, however old they are.
-/

namespace OutlineSearch

open OutlineSearch.Task

namespace Store

variable {α : Type} {s : Store α} {now : Binary64} {key : String}

theorem mem_of_mem_erase {e : StoreEntry α} (h : e ∈ (s.erase key).entries) : e ∈ s.entries :=
  List.mem_of_mem_filter h

theorem key_ne_of_mem_erase {e : StoreEntry α} (h : e ∈ (s.erase key).entries) : e.key ≠ key := by
  simpa using (List.mem_filter.1 h).2

/-- What is found under a key has been kept under it. -/
theorem mem_of_get {a : α} (h : (s.get now key).1 = some a) :
    ∃ e ∈ s.entries, e.key = key ∧ e.value = a := by
  unfold get find? at h
  cases hfind : s.entries.find? fun e => e.key == key with
  | none => simp [hfind] at h
  | some e =>
    simp only [hfind] at h
    refine ⟨e, List.mem_of_find?_eq_some hfind, by simpa using List.find?_some hfind, ?_⟩
    split at h
    · exact Option.some.inj h
    · cases h

/-- Asking for a value loses at most what is out of date. -/
theorem mem_of_mem_get {e : StoreEntry α} (h : e ∈ (s.get now key).2.entries) : e ∈ s.entries := by
  unfold get at h
  split at h
  · exact h
  · split at h
    · exact h
    · exact mem_of_mem_erase h

/-- A store that has got a value has it and what it had before under other keys. -/
theorem eq_or_mem_of_mem_put {lifetime : Binary64} {a : α} {e : StoreEntry α}
    (h : e ∈ (s.put now lifetime key a).entries) :
    (e.key = key ∧ e.value = a) ∨ e ∈ s.entries := by
  rcases List.mem_cons.1 h with rfl | h
  · exact .inl ⟨rfl, rfl⟩
  · exact .inr (mem_of_mem_erase h)

end Store

namespace Cache

theorem allPagesKey_ne_templatesKey : allPagesKey ≠ templatesKey := by decide

/-- Outlines are kept under one key when the names of their pages differ in case only. -/
theorem blocksKey_eq_iff (a b : String) :
    blocksKey a = blocksKey b ↔ Text.lowered a = Text.lowered b := by
  simp only [blocksKey, String.ext_iff, toString, String.toList_append]
  simp

theorem blocksKey_ne_allPagesKey (page : String) : blocksKey page ≠ allPagesKey := by
  intro h
  have := congrArg String.toList h
  simp [blocksKey, allPagesKey, toString] at this

end Cache

/-! ### What is said of a graph -/

/-- What may be said about a graph. -/
structure Lore where
  /-- What a read of the listing may be told. -/
  pages : Outcome (List Page) → Prop
  /-- What a read of the outline of a page may be told. -/
  blocks : String → Outcome (List Block) → Prop
  /-- What may be kept for a search. -/
  results : String → List Record → Prop
  /-- What the provider may be. -/
  provider : Provider → Prop
  settings : Settings
  today : Date

/-- The outcome of a call as those who ask are told it. -/
def Corpus.told {α : Type} (q : Query) (r : Outcome α) : Outcome α := r.mapError (toldFault q)

/-- A read of an outline asks for a page of one of some names. -/
def Query.AsksFor (named : String → Prop) : Query → Prop
  | .pages => True
  | .blocks page => named page

namespace Lore

/-- What a read may be replied. -/
def replies (L : Lore) : Query → Outcome Reply → Prop
  | .pages, reply => ∃ r, L.pages r ∧ reply = r.map .pages
  | .blocks page, reply => ∃ r, L.blocks page r ∧ reply = r.map .blocks

/-- The provider tells only what may be said, about a page as about one whose name differs in case
only, and every fault is told as the provider's. -/
structure Fair (L : Lore) : Prop where
  start : ∀ p q, L.provider p → L.provider (p.start q)
  answer : ∀ p q, L.provider p → L.provider (p.answer q).2
  pages : ∀ p, L.provider p → L.pages (Corpus.told .pages p.listPages.1)
  blocks : ∀ p page, L.provider p →
    L.blocks page (Corpus.told (.blocks page) (p.outline page).1)
  caseless : ∀ a b, Text.lowered a = Text.lowered b → ∀ r, L.blocks a r → L.blocks b r
  pagesFault : ∀ fault, L.pages (.error fault) → ∃ message, fault = .provider message
  blocksFault : ∀ page fault, L.blocks page (.error fault) → ∃ message, fault = .provider message

/-- A world keeps to the lore. -/
structure Holds (L : Lore) (w : World) : Prop where
  provider : L.provider w.provider
  settings : w.settings = L.settings
  today : w.today = L.today
  pages : ∀ e ∈ w.cache.pages.entries, e.key = Cache.allPagesKey → L.pages (.ok e.value)
  templates : ∀ e ∈ w.cache.pages.entries, e.key = Cache.templatesKey →
    ∃ items, L.pages (.ok items) ∧ e.value = items.filter Page.isTemplate
  blocks : ∀ e ∈ w.cache.blocks.entries, ∀ page, e.key = Cache.blocksKey page →
    L.blocks page (.ok e.value)
  results : ∀ e ∈ w.cache.queries.entries, L.results e.key e.value

/-- The contract of jobs in a world that keeps to the lore. -/
def contract (L : Lore) : Contract World String (Outcome Reply) where
  inv := L.Holds
  told key reply := ∀ q, Corpus.keyOf q = key → L.replies q reply
  flights := World.flights

/-- The lore is fair to the pages of some names: what the provider tells of these may be said. -/
structure FairTo (L : Lore) (named : String → Prop) : Prop where
  start : ∀ p q, L.provider p → L.provider (p.start q)
  answer : ∀ p q, L.provider p → L.provider (p.answer q).2
  pages : ∀ p, L.provider p → L.pages (Corpus.told .pages p.listPages.1)
  blocks : ∀ p page, named page → L.provider p →
    L.blocks page (Corpus.told (.blocks page) (p.outline page).1)
  caseless : ∀ a b, Text.lowered a = Text.lowered b → ∀ r, L.blocks a r → L.blocks b r
  pagesFault : ∀ fault, L.pages (.error fault) → ∃ message, fault = .provider message
  blocksFault : ∀ page fault, L.blocks page (.error fault) → ∃ message, fault = .provider message

theorem Fair.to {L : Lore} (h : L.Fair) (named : String → Prop) : L.FairTo named where
  start := h.start
  answer := h.answer
  pages := h.pages
  blocks p page _ := h.blocks p page
  caseless := h.caseless
  pagesFault := h.pagesFault
  blocksFault := h.blocksFault

/-- What is replied for one read is a reply for every read under the same key. -/
theorem FairTo.replies_of_key {L : Lore} {named : String → Prop} (h : L.FairTo named) {q q' : Query}
    {reply : Outcome Reply} (hkey : Corpus.keyOf q' = Corpus.keyOf q) (hr : L.replies q reply) : L.replies q' reply := by
  cases q with
  | pages =>
    cases q' with
    | pages => exact hr
    | blocks page => exact absurd hkey (Cache.blocksKey_ne_allPagesKey page)
  | blocks page =>
    cases q' with
    | pages => exact absurd hkey.symm (Cache.blocksKey_ne_allPagesKey page)
    | blocks page' =>
      obtain ⟨r, hr, rfl⟩ := hr
      exact ⟨r, h.caseless page page' ((Cache.blocksKey_eq_iff ..).1 hkey).symm r hr, rfl⟩

/-! ### What worlds do -/

namespace Holds

variable {L : Lore} {w : World} {named : String → Prop}

theorem start (hL : L.FairTo named) (h : L.Holds w) (q : Query) : L.Holds (w.start q) :=
  ⟨hL.start _ q h.provider, h.settings, h.today, h.pages, h.templates, h.blocks, h.results⟩

theorem takeOff (h : L.Holds w) (key : String) : L.Holds (w.takeOff key) :=
  ⟨h.provider, h.settings, h.today, h.pages, h.templates, h.blocks, h.results⟩

theorem touchDown (h : L.Holds w) (key : String) : L.Holds (w.touchDown key) :=
  ⟨h.provider, h.settings, h.today, h.pages, h.templates, h.blocks, h.results⟩

theorem cachedPages (h : L.Holds w) (key : String) : L.Holds (w.cachedPages key).2 :=
  ⟨h.provider, h.settings, h.today, fun e he ↦ h.pages e (Store.mem_of_mem_get he),
    fun e he ↦ h.templates e (Store.mem_of_mem_get he), h.blocks, h.results⟩

theorem cachedBlocks (h : L.Holds w) (key : String) : L.Holds (w.cachedBlocks key).2 :=
  ⟨h.provider, h.settings, h.today, h.pages, h.templates,
    fun e he ↦ h.blocks e (Store.mem_of_mem_get he), h.results⟩

theorem cachedResults (h : L.Holds w) (key : String) : L.Holds (w.cachedResults key).2 :=
  ⟨h.provider, h.settings, h.today, h.pages, h.templates, h.blocks,
    fun e he ↦ h.results e (Store.mem_of_mem_get he)⟩

theorem keepPages (h : L.Holds w) {items : List Page} (hitems : L.pages (.ok items)) :
    L.Holds (w.keepPages items) := by
  refine ⟨h.provider, h.settings, h.today, fun e he hkey ↦ ?_, fun e he hkey ↦ ?_, h.blocks,
    h.results⟩
  · rcases Store.eq_or_mem_of_mem_put he with ⟨-, hvalue⟩ | he
    · rwa [hvalue]
    · exact h.pages e he hkey
  · rcases Store.eq_or_mem_of_mem_put he with ⟨hall, -⟩ | he
    · exact absurd (hall.symm.trans hkey) Cache.allPagesKey_ne_templatesKey
    · exact h.templates e he hkey

theorem keepTemplates (h : L.Holds w) {items : List Page} (hitems : L.pages (.ok items)) :
    L.Holds (w.keepTemplates (items.filter Page.isTemplate)) := by
  refine ⟨h.provider, h.settings, h.today, fun e he hkey ↦ ?_, fun e he hkey ↦ ?_, h.blocks,
    h.results⟩
  · rcases Store.eq_or_mem_of_mem_put he with ⟨htemplates, -⟩ | he
    · exact absurd (hkey.symm.trans htemplates) Cache.allPagesKey_ne_templatesKey
    · exact h.pages e he hkey
  · rcases Store.eq_or_mem_of_mem_put he with ⟨-, hvalue⟩ | he
    · exact ⟨items, hitems, hvalue⟩
    · exact h.templates e he hkey

theorem keepBlocks (hL : L.FairTo named) (h : L.Holds w) {page : String} {items : List Block}
    (hitems : L.blocks page (.ok items)) : L.Holds (w.keepBlocks (Cache.blocksKey page) items) := by
  refine ⟨h.provider, h.settings, h.today, h.pages, h.templates, fun e he page' hkey ↦ ?_,
    h.results⟩
  rcases Store.eq_or_mem_of_mem_put he with ⟨hpage, hvalue⟩ | he
  · rw [hvalue]
    exact hL.caseless page page' ((Cache.blocksKey_eq_iff ..).1 (hpage.symm.trans hkey)) _ hitems
  · exact h.blocks e he page' hkey

theorem keepResults (h : L.Holds w) {key : String} {items : List Record}
    (hitems : L.results key items) : L.Holds (w.keepResults key items) := by
  refine ⟨h.provider, h.settings, h.today, h.pages, h.templates, h.blocks, fun e he ↦ ?_⟩
  rcases Store.eq_or_mem_of_mem_put he with ⟨hkey, hvalue⟩ | he
  · rwa [hkey, hvalue]
  · exact h.results e he

/-- To forget is to keep less. -/
theorem forget (h : L.Holds w) (c : Cache.Change) : L.Holds (w.forget c) := by
  cases c with
  | page name =>
    refine ⟨h.provider, h.settings, h.today, fun e he ↦ ?_, fun e he ↦ ?_, fun e he ↦ ?_, h.results⟩
    · exact h.pages e (Store.mem_of_mem_erase (Store.mem_of_mem_erase he))
    · exact h.templates e (Store.mem_of_mem_erase (Store.mem_of_mem_erase he))
    · cases name with
      | none => exact h.blocks e he
      | some name => exact h.blocks e (Store.mem_of_mem_erase he)
  | block page =>
    refine ⟨h.provider, h.settings, h.today, ?_, ?_, fun e he ↦ ?_, ?_⟩
    · cases page <;> exact h.pages
    · cases page <;> exact h.templates
    · cases page with
      | none => cases he
      | some page => exact h.blocks e (Store.mem_of_mem_erase he)
    · cases page <;> exact h.results
  | everything =>
    refine ⟨h.provider, h.settings, h.today, fun e he ↦ ?_, fun e he ↦ ?_, fun e he ↦ ?_,
      fun e he ↦ ?_⟩ <;> cases he

theorem advance (h : L.Holds w) (seconds : Binary64) :
    L.Holds { w with clock := w.clock.add seconds } :=
  ⟨h.provider, h.settings, h.today, h.pages, h.templates, h.blocks, h.results⟩

/-- What the cache has may be said. -/
theorem cached (h : L.Holds w) {q : Query} {found : Holding}
    (hfound : (Corpus.cached q w).1 = some found) :
    L.replies q (.ok (Corpus.replyOf found)) := by
  cases q with
  | pages =>
    obtain ⟨items, hitems, rfl⟩ := Option.map_eq_some_iff.1 hfound
    obtain ⟨e, he, hkey, hvalue⟩ := Store.mem_of_get hitems
    exact ⟨.ok items, hvalue ▸ h.pages e he hkey, rfl⟩
  | blocks page =>
    obtain ⟨items, hitems, rfl⟩ := Option.map_eq_some_iff.1 hfound
    obtain ⟨e, he, hkey, hvalue⟩ := Store.mem_of_get hitems
    exact ⟨.ok items, hvalue ▸ h.blocks e he page hkey, rfl⟩

theorem cached_world (h : L.Holds w) (q : Query) : L.Holds (Corpus.cached q w).2 := by
  cases q with
  | pages => exact h.cachedPages _
  | blocks page => exact h.cachedBlocks _

/-- What is received may be said, and so may what the world then keeps. -/
theorem receive (hL : L.FairTo named) (h : L.Holds w) (q : Query) (hq : q.AsksFor named) :
    L.replies q (Corpus.receive q w).1 ∧ L.Holds (Corpus.receive q w).2 := by
  have hprovider := hL.answer _ q h.provider
  have hanswered : L.Holds (w.withProvider (w.provider.answer q).2) :=
    ⟨hprovider, h.settings, h.today, h.pages, h.templates, h.blocks, h.results⟩
  cases q with
  | pages =>
    have hpages := hL.pages _ h.provider
    cases hr : w.provider.listPages.1 with
    | ok items =>
      rw [hr] at hpages
      simp only [Corpus.receive, World.answer, Provider.answer, hr] at hanswered ⊢
      exact ⟨⟨.ok items, hpages, rfl⟩, hanswered.keepPages hpages⟩
    | error fault =>
      rw [hr] at hpages
      simp only [Corpus.receive, World.answer, Provider.answer, hr] at hanswered ⊢
      exact ⟨⟨_, hpages, rfl⟩, hanswered⟩
  | blocks page =>
    have hblocks := hL.blocks _ page hq h.provider
    cases hr : (w.provider.outline page).1 with
    | ok items =>
      rw [hr] at hblocks
      simp only [Corpus.receive, World.answer, Provider.answer, hr] at hanswered ⊢
      exact ⟨⟨.ok items, hblocks, rfl⟩, hanswered.keepBlocks hL hblocks⟩
    | error fault =>
      rw [hr] at hblocks
      simp only [Corpus.receive, World.answer, Provider.answer, hr] at hanswered ⊢
      exact ⟨⟨_, hblocks, rfl⟩, hanswered⟩

end Holds

end Lore

end OutlineSearch
