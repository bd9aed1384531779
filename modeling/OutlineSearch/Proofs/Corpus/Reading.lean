import OutlineSearch.Proofs.Corpus.Lore
import Mathlib.Data.List.Forall2

/-!
# Reading keeps to the lore

A job that reads a corpus goes on with something that may be said of the graph, whether the cache has
it, another job fetches it, or it fetches it itself. What a script of reads may end with follows from
what its reads may be told.
-/

namespace OutlineSearch

open OutlineSearch.Task

namespace Lore

variable {L : Lore} {post : Outcome Reply → Prop}

/-- A job without debts keeps to the lore from any world on that does. -/
def Safe (L : Lore) (post : Outcome Reply → Prop) (job : EngineJob) : Prop :=
  ∀ w, L.Holds w → Sound L.contract failed post .none job w

theorem safe_finish {r : Outcome Reply} (hr : post r) : L.Safe post (.finish r) :=
  fun _ hw ↦ .finish hw hr

theorem safe_look {next : World → EngineJob} (h : ∀ w, L.Holds w → L.Safe post (next w)) :
    L.Safe post (.look next) :=
  fun w hw ↦ .look (h w hw w hw)

theorem safe_change {f : World → World} {next : EngineJob}
    (hf : ∀ w, L.Holds w → L.Holds (f w) ∧ (f w).flights = w.flights) (h : L.Safe post next) :
    L.Safe post (.change f next) :=
  fun w hw ↦ .change (hf w hw).2 (h _ (hf w hw).1)

theorem safe_touch {α : Type} {f : World → α × World} {next : α → EngineJob}
    (hf : ∀ w, L.Holds w → L.Holds (f w).2 ∧ (f w).2.flights = w.flights)
    (h : ∀ w, L.Holds w → L.Safe post (next (f w).1)) : L.Safe post (.touch f next) :=
  fun w hw ↦ .look (.change (hf w hw).2 (h w hw _ (hf w hw).1))

/-! ### One read -/

theorem flights_receive (q : Query) (w : World) : (Corpus.receive q w).2.flights = w.flights := by
  unfold Corpus.receive
  cases hanswer : w.answer q with
  | mk r w' =>
    have hw' : w'.flights = w.flights := by
      rw [show w' = (w.answer q).2 by rw [hanswer]]
      rfl
    cases r with
    | ok h =>
      rw [← hw']
      cases h <;> rfl
    | error fault => exact hw'

theorem flights_cached (q : Query) (w : World) : (Corpus.cached q w).2.flights = w.flights := by
  cases q <;> rfl

/-- A flight that is over is the one flight less. -/
theorem perm_touchDown {w : World} {key : String} (hkey : key ∈ w.flights)
    (hnodup : w.flights.Nodup) : w.flights.Perm (key :: (w.touchDown key).flights) := by
  rw [World.touchDown, ← hnodup.erase_eq_filter]
  exact List.perm_cons_erase hkey

section

variable {named : String → Prop}

/-- A fetch that is due to land owes its landing, for as many turns as it takes. -/
theorem sound_land (hL : L.FairTo named) {q : Query} (hq : q.AsksFor named)
    {next : Outcome Reply → EngineJob} (h : ∀ r, L.replies q r → L.Safe post (next r)) (turns : Nat)
    {w : World} (hw : L.Holds w) (hkey : Corpus.keyOf q ∈ w.flights) :
    Sound L.contract failed post (.flying (Corpus.keyOf q)) (.pauses (Corpus.land q next) turns)
      w := by
  induction turns generalizing w with
  | zero =>
    obtain ⟨hreply, hreceived⟩ := hw.receive hL q hq
    refine .look (.change (flights_receive q w) (.touchDown ?_ (.settle ?_ ?_)))
    · exact perm_touchDown (by rwa [flights_receive])
    · exact fun q' hkey' ↦ hL.replies_of_key hkey' hreply
    · exact h _ hreply _ (hreceived.touchDown _)
  | succ turns ih => exact .pause hw (by simp) fun w' hw' hflying ↦ ih hw' (hflying _ rfl)

/-- A read goes on with something that may be said, whoever has brought it. -/
theorem safe_read (hL : L.FairTo named) {q : Query} (hq : q.AsksFor named)
    {next : Outcome Reply → EngineJob} (h : ∀ r, L.replies q r → L.Safe post (next r)) :
    L.Safe post (Corpus.read q next) := by
  refine safe_touch (fun w hw ↦ ⟨hw.cached_world q, flights_cached q w⟩) fun w hw ↦ ?_
  cases hfound : (Corpus.cached q w).1 with
  | some found => exact h _ (hw.cached hfound)
  | none =>
    refine fun w' hw' ↦ .look ?_
    by_cases hflight : Corpus.keyOf q ∈ w'.flights
    · rw [World.isInFlight, if_pos (List.contains_iff_mem.2 hflight)]
      exact .await hw' hflight fun r hr ↦ h r (hr q rfl)
    · rw [World.isInFlight, if_neg fun hmem ↦ hflight (List.contains_iff_mem.1 hmem)]
      exact .takeOff hflight rfl (.look (sound_land hL hq h _ ((hw'.takeOff _).start hL q)
        List.mem_cons_self))

theorem FairTo.safe_pages (hL : L.FairTo named) {next : Outcome (List Page) → EngineJob}
    (h : ∀ r, L.pages r → L.Safe post (next r)) : L.Safe post (Corpus.pages next) := by
  refine safe_read (q := .pages) hL trivial fun reply hreply ↦ ?_
  obtain ⟨r, hr, rfl⟩ := hreply
  cases r <;> exact h _ hr

theorem FairTo.safe_blocks (hL : L.FairTo named) {page : String} (hpage : named page)
    {next : Outcome (List Block) → EngineJob} (h : ∀ r, L.blocks page r → L.Safe post (next r)) :
    L.Safe post (Corpus.blocks page next) := by
  refine safe_read (q := .blocks page) hL hpage fun reply hreply ↦ ?_
  obtain ⟨r, hr, rfl⟩ := hreply
  cases r <;> exact h _ hr

end

theorem safe_pages (hL : L.Fair) {next : Outcome (List Page) → EngineJob}
    (h : ∀ r, L.pages r → L.Safe post (next r)) : L.Safe post (Corpus.pages next) :=
  (hL.to fun _ ↦ True).safe_pages h

theorem safe_blocks (hL : L.Fair) {page : String} {next : Outcome (List Block) → EngineJob}
    (h : ∀ r, L.blocks page r → L.Safe post (next r)) : L.Safe post (Corpus.blocks page next) :=
  (hL.to fun _ ↦ True).safe_blocks trivial h

/-- The templates of a listing. -/
def templatesOf (r : Outcome (List Page)) : Outcome (List Page) :=
  r.map fun items => items.filter Page.isTemplate

/-- A read of the templates goes on with those of a listing that may be told. -/
theorem FairTo.safe_templates {named : String → Prop} (hL : L.FairTo named)
    {next : Outcome (List Page) → EngineJob}
    (h : ∀ r, L.pages r → L.Safe post (next (templatesOf r))) :
    L.Safe post (Corpus.templates next) := by
  refine safe_touch (fun w hw ↦ ⟨hw.cachedPages _, rfl⟩) fun w hw ↦ ?_
  cases hfound : (w.cachedPages Cache.templatesKey).1 with
  | some found =>
    obtain ⟨e, he, hkey, hvalue⟩ := Store.mem_of_get hfound
    obtain ⟨items, hitems, htemplates⟩ := hw.templates e he hkey
    rw [← hvalue, htemplates]
    exact h (.ok items) hitems
  | none =>
    refine hL.safe_pages fun r hr ↦ ?_
    cases r with
    | error fault => exact h _ hr
    | ok items => exact safe_change (fun w hw ↦ ⟨hw.keepTemplates hr, rfl⟩) (h _ hr)

theorem safe_templates (hL : L.Fair) {next : Outcome (List Page) → EngineJob}
    (h : ∀ r, L.pages r → L.Safe post (next (templatesOf r))) :
    L.Safe post (Corpus.templates next) :=
  (hL.to fun _ ↦ True).safe_templates h

/-- What a search may make of the outline of a page: nothing when the provider fails on it. -/
def tree (L : Lore) (page : String) : Option (List Block) → Prop
  | some items => L.blocks page (.ok items)
  | none => ∃ fault, L.blocks page (.error fault)

/-- The member of a group that reads an outline as it reports. -/
def treeReply (tree : Option (List Block)) : Outcome Reply :=
  .ok (match tree with
    | some items => .blocks items
    | none => .nothing)

theorem outline_treeReply (tree : Option (List Block)) :
    Corpus.outline? (treeReply tree) = tree := by
  cases tree <;> rfl

/-- A read of outlines side by side goes on with one tree for every page. -/
theorem FairTo.safe_trees {named : String → Prop} (hL : L.FairTo named) {names : List String}
    (hnames : ∀ name ∈ names, named name)
    {next : Outcome (List (Option (List Block))) → EngineJob}
    (h : ∀ trees, List.Forall₂ L.tree names trees → L.Safe post (next (.ok trees))) :
    L.Safe post (Corpus.trees names next) := by
  intro w hw
  refine .fork hw (fun i reply ↦ ∃ name, names[i]? = some name ∧
    ∃ tree, L.tree name tree ∧ reply = treeReply tree) ?_ ?_ ?_
  · intro i m hm
    rw [List.getElem?_map, Option.map_eq_some_iff] at hm
    obtain ⟨name, hname, rfl⟩ := hm
    refine hL.safe_blocks (hnames name (List.mem_of_getElem? hname)) fun r hr ↦
      safe_finish ⟨name, hname, ?_⟩
    cases r with
    | ok items => exact ⟨some items, hr, rfl⟩
    | error fault =>
      obtain ⟨message, rfl⟩ := hL.blocksFault name fault hr
      exact ⟨none, ⟨_, hr⟩, rfl⟩
  · intro replies hlength hreplies
    refine h _ (List.forall₂_iff_get.2 ⟨by simpa using hlength.symm, fun i hi hi' ↦ ?_⟩)
    have hi'' : i < replies.length := by simpa using hi'
    obtain ⟨⟨name, hname, tree, htree, heq⟩, -⟩ :=
      hreplies i replies[i] (List.getElem?_eq_getElem hi'')
    rw [List.getElem?_eq_getElem hi, Option.some.injEq] at hname
    simp only [List.get_eq_getElem, List.getElem_map, heq, outline_treeReply, hname]
    exact htree
  · rintro i reply ⟨name, -, tree, -, rfl⟩ hfailed
    cases hfailed

theorem safe_trees (hL : L.Fair) {names : List String}
    {next : Outcome (List (Option (List Block))) → EngineJob}
    (h : ∀ trees, List.Forall₂ L.tree names trees → L.Safe post (next (.ok trees))) :
    L.Safe post (Corpus.trees names next) :=
  (hL.to fun _ ↦ True).safe_trees (fun _ _ ↦ trivial) h

/-! ### Scripts -/

end Lore

/-- What a script may end with. -/
inductive Script.Yields (L : Lore) {α : Type} : Script α → Outcome α → Prop where
  | done (r : Outcome α) : Yields L (.done r) r
  | pages {next : Outcome (List Page) → Script α} {r : Outcome (List Page)} {o : Outcome α}
    (hr : L.pages r) (h : Yields L (next r) o) : Yields L (.pages next) o
  | templates {next : Outcome (List Page) → Script α} {r : Outcome (List Page)} {o : Outcome α}
    (hr : L.pages r) (h : Yields L (next (Lore.templatesOf r)) o) : Yields L (.templates next) o
  | blocks {page : String} {next : Outcome (List Block) → Script α} {r : Outcome (List Block)}
    {o : Outcome α} (hr : L.blocks page r) (h : Yields L (next r) o) :
    Yields L (.blocks page next) o
  | trees {names : List String} {next : Outcome (List (Option (List Block))) → Script α}
    {found : List (Option (List Block))} {o : Outcome α} (hr : List.Forall₂ L.tree names found)
    (h : Yields L (next (.ok found)) o) : Yields L (.trees names next) o

namespace Lore

variable {L : Lore} {post : Outcome Reply → Prop}

/-- The job of a script goes on with something that the script may end with. -/
theorem safe_script (hL : L.Fair) {α : Type} {next : Outcome α → EngineJob} {s : Script α}
    (h : ∀ o, s.Yields L o → L.Safe post (next o)) : L.Safe post (s.job next) := by
  induction s with
  | done r => exact h r (.done r)
  | pages step ih => exact safe_pages hL fun r hr ↦ ih r fun o ho ↦ h o (.pages hr ho)
  | templates step ih => exact safe_templates hL fun r hr ↦ ih _ fun o ho ↦ h o (.templates hr ho)
  | blocks page step ih => exact safe_blocks hL fun r hr ↦ ih r fun o ho ↦ h o (.blocks hr ho)
  | trees names step ih => exact safe_trees hL fun found hr ↦ ih _ fun o ho ↦ h o (.trees hr ho)

end Lore

end OutlineSearch
