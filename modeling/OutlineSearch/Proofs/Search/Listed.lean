import OutlineSearch.Proofs.Search.Boolean
import Mathlib.Tactic.SplitIfs

/-!
# Searches ask for listed pages only

Whatever an atomic filter is, the outlines that it asks for are those of pages in the listing. So it
finds what it finds on the graph when only the listed pages of one lower-case name have one outline:
it does not matter what a provider would tell of other names.
-/

namespace OutlineSearch

open OutlineSearch.Task OutlineSearch.Search OutlineSearch.Text

namespace Script

variable {α β : Type} {g : Graph} {named : String → Prop}

/-- The names of the pages whose outlines a script asks for on a graph that stands still. -/
def asked (g : Graph) : Script α → List String
  | done _ => []
  | pages next => (next g.pages).asked g
  | templates next => (next g.templates).asked g
  | blocks page next => page :: (next (g.blocks page)).asked g
  | trees names next => names ++ (next (names.mapM g.tree)).asked g

/-- On a graph a script asks for the outlines of pages of some names only. -/
def AsksOnly (g : Graph) (named : String → Prop) (s : Script α) : Prop :=
  ∀ name ∈ s.asked g, named name

theorem run_bind (s : Script α) (f : α → Script β) :
    (s >>= f).run g = s.run g >>= fun a ↦ (f a).run g := by
  change (s.bind f).run g = _
  induction s with
  | done r => cases r <;> rfl
  | pages next ih => exact ih _
  | templates next ih => exact ih _
  | blocks page next ih => exact ih _
  | trees names next ih => exact ih _

theorem run_map (f : α → β) (s : Script α) : (f <$> s).run g = (s.run g).map f := by
  change (s >>= fun a ↦ pure (f a)).run g = _
  rw [run_bind]
  cases s.run g <;> rfl

theorem asksOnly_pure (a : α) : (pure a : Script α).AsksOnly g named := List.forall_mem_nil _

theorem asksOnly_fail (fault : Fault) : (fail fault : Script α).AsksOnly g named :=
  List.forall_mem_nil _

theorem asksOnly_allPages : allPages.AsksOnly g named := List.forall_mem_nil _

theorem asksOnly_allTemplates : allTemplates.AsksOnly g named := List.forall_mem_nil _

theorem asksOnly_outline {page : String} (h : named page) : (outline page).AsksOnly g named :=
  List.forall_mem_singleton.2 h

theorem asksOnly_outlines {items : List Page} (h : ∀ p ∈ items, named p.name) :
    (outlines items).AsksOnly g named := by
  intro name hname
  change name ∈ items.map Page.name ++ [] at hname
  rw [List.append_nil] at hname
  obtain ⟨p, hp, rfl⟩ := List.mem_map.1 hname
  exact h p hp

theorem asksOnly_bind {s : Script α} {f : α → Script β} (hs : s.AsksOnly g named)
    (hf : ∀ a, s.run g = .ok a → (f a).AsksOnly g named) : (s >>= f).AsksOnly g named := by
  change (s.bind f).AsksOnly g named
  induction s with
  | done r =>
    cases r with
    | ok a => exact hf a rfl
    | error fault => exact List.forall_mem_nil _
  | pages next ih => exact ih _ hs hf
  | templates next ih => exact ih _ hs hf
  | blocks page next ih =>
    obtain ⟨hpage, hnext⟩ := List.forall_mem_cons.1 hs
    exact List.forall_mem_cons.2 ⟨hpage, ih _ hnext hf⟩
  | trees names next ih =>
    obtain ⟨hnames, hnext⟩ := List.forall_mem_append.1 hs
    exact List.forall_mem_append.2 ⟨hnames, ih _ hnext hf⟩

theorem asksOnly_map {s : Script α} (hs : s.AsksOnly g named) (f : α → β) :
    (f <$> s).AsksOnly g named :=
  asksOnly_bind hs fun a _ ↦ asksOnly_pure (f a)

theorem asksOnly_rescue {s : Script α} (hs : s.AsksOnly g named) (handler : Fault → Outcome α) :
    (s.rescue handler).AsksOnly g named := by
  induction s with
  | done r => cases r <;> exact List.forall_mem_nil _
  | pages next ih => exact ih _ hs
  | templates next ih => exact ih _ hs
  | blocks page next ih =>
    obtain ⟨hpage, hnext⟩ := List.forall_mem_cons.1 hs
    exact List.forall_mem_cons.2 ⟨hpage, ih _ hnext⟩
  | trees names next ih =>
    obtain ⟨hnames, hnext⟩ := List.forall_mem_append.1 hs
    exact List.forall_mem_append.2 ⟨hnames, ih _ hnext⟩

end Script

/-- A job of a script whose pages the lore is fair to goes on with what the script ends with on the
graph. -/
theorem Lore.Exact.safe_script {L : Lore} {g : Graph} {named : String → Prop} (hL : L.FairTo named)
    (hg : L.Exact g) {post : Outcome Reply → Prop} {α : Type} {next : Outcome α → EngineJob}
    {s : Script α} (hs : s.AsksOnly g named) (h : L.Safe post (next (s.run g))) :
    L.Safe post (s.job next) := by
  induction s with
  | done r => exact h
  | pages step ih =>
    refine hL.safe_pages fun r hr ↦ ?_
    obtain rfl := (hg.pages r).1 hr
    exact ih _ hs h
  | templates step ih =>
    refine hL.safe_templates fun r hr ↦ ?_
    obtain rfl := (hg.pages r).1 hr
    exact ih _ hs h
  | blocks page step ih =>
    obtain ⟨hpage, hstep⟩ := List.forall_mem_cons.1 hs
    refine hL.safe_blocks hpage fun r hr ↦ ?_
    obtain rfl := (hg.blocks page r).1 hr
    exact ih _ hstep h
  | trees names step ih =>
    obtain ⟨hnames, hstep⟩ := List.forall_mem_append.1 hs
    refine hL.safe_trees hnames fun trees htrees ↦ ?_
    have heq := (hg.trees_iff hL names trees).1 htrees
    rw [Script.run, heq] at h
    rw [heq] at hstep
    exact ih _ hstep h

/-- The listing of a graph has a page of a name. -/
def Graph.Lists (g : Graph) (name : String) : Prop :=
  ∃ pages, g.pages = .ok pages ∧ ∃ p ∈ pages, p.name = name

namespace Evaluator

open Script

variable {e : Evaluator} {g : Graph} {target : Target} {scope : Option Scope}

/-- The pages of a listing whose outlines are looked into. -/
def reach (e : Evaluator) (scope : Option Scope) (pages : List Page) : List Page :=
  match (scope.bind (·.pageTitles)).getD [] with
  | [] => upTo e.settings.blockScanPageLimit pages
  | titles =>
    let wanted := titles.map lowered
    pages.filter fun p => wanted.contains (lowered p.displayName) || wanted.contains (lowered p.name)

theorem scanPages_eq (e : Evaluator) (scope : Option Scope) :
    e.scanPages scope = e.reach scope <$> allPages := by
  unfold scanPages reach
  cases (scope.bind (·.pageTitles)).getD [] <;> rfl

theorem mem_of_mem_reach {pages : List Page} {p : Page} (h : p ∈ e.reach scope pages) :
    p ∈ pages := by
  unfold reach at h
  split at h
  · exact List.mem_of_mem_take h
  · exact List.mem_of_mem_filter h

/-- What goes on with pages of the listing asks for pages of the listing. -/
theorem asksOnly_ofListing {α : Type} {f : List Page → Script α}
    (h : ∀ pages, g.pages = .ok pages → (f pages).AsksOnly g g.Lists) :
    (allPages >>= f).AsksOnly g g.Lists :=
  asksOnly_bind asksOnly_allPages h

theorem asksOnly_scan : (e.scan scope).AsksOnly g g.Lists := by
  unfold scan
  rw [scanPages_eq]
  refine asksOnly_bind (asksOnly_map asksOnly_allPages _) fun pages hpages ↦ ?_
  rw [run_map] at hpages
  cases hlisting : g.pages with
  | error fault =>
    rw [show allPages.run g = g.pages from rfl, hlisting] at hpages
    cases hpages
  | ok listing =>
    rw [show allPages.run g = g.pages from rfl, hlisting] at hpages
    obtain rfl := Except.ok.inj hpages
    exact asksOnly_outlines fun p hp ↦ ⟨listing, hlisting, p, mem_of_mem_reach hp, rfl⟩

theorem asksOnly_collectPages : collectPages.AsksOnly g g.Lists :=
  asksOnly_ofListing fun _ _ ↦ asksOnly_pure _

theorem asksOnly_collectBlocks : (e.collectBlocks scope).AsksOnly g g.Lists :=
  asksOnly_bind asksOnly_scan fun _ _ ↦ asksOnly_pure _

theorem asksOnly_collectTasks : (e.collectTasks scope).AsksOnly g g.Lists :=
  asksOnly_bind asksOnly_scan fun _ _ ↦ asksOnly_pure _

theorem asksOnly_collectTemplates : e.collectTemplates.AsksOnly g g.Lists :=
  asksOnly_bind asksOnly_allTemplates fun _ _ ↦ asksOnly_pure _

theorem asksOnly_collectProperties : (e.collectProperties scope).AsksOnly g g.Lists :=
  asksOnly_ofListing fun _ _ ↦ asksOnly_bind asksOnly_scan fun _ _ ↦ asksOnly_pure _

theorem asksOnly_collectTarget : (e.collectTarget target scope).AsksOnly g g.Lists := by
  cases target with
  | pages => exact asksOnly_collectPages
  | blocks => exact asksOnly_collectBlocks
  | both =>
    exact asksOnly_bind asksOnly_collectPages fun _ _ ↦
      asksOnly_bind asksOnly_collectBlocks fun _ _ ↦ asksOnly_pure _
  | templates => exact asksOnly_collectTemplates
  | tasks => exact asksOnly_collectTasks
  | properties => exact asksOnly_collectProperties

theorem asksOnly_collect : (e.collect target scope).AsksOnly g g.Lists :=
  asksOnly_rescue asksOnly_collectTarget _

theorem asksOnly_matchText (text : String) : (e.matchText text target scope).AsksOnly g g.Lists := by
  cases target with
  | pages => exact asksOnly_bind asksOnly_collectPages fun _ _ ↦ asksOnly_pure _
  | blocks => exact asksOnly_bind asksOnly_collectBlocks fun _ _ ↦ asksOnly_pure _
  | both =>
    exact asksOnly_bind asksOnly_collectPages fun _ _ ↦
      asksOnly_bind asksOnly_collectBlocks fun _ _ ↦ asksOnly_pure _
  | templates => exact asksOnly_bind asksOnly_collectTemplates fun _ _ ↦ asksOnly_pure _
  | tasks => exact asksOnly_bind asksOnly_collectTasks fun _ _ ↦ asksOnly_pure _
  | properties => exact asksOnly_bind asksOnly_collectProperties fun _ _ ↦ asksOnly_pure _

theorem asksOnly_emptyPages : e.emptyPages.AsksOnly g g.Lists :=
  asksOnly_ofListing fun pages hpages ↦ asksOnly_bind
    (asksOnly_outlines fun p hp ↦ ⟨pages, hpages, p, List.mem_of_mem_take hp, rfl⟩)
    fun _ _ ↦ asksOnly_pure _

theorem asksOnly_linkingPages (name : String) (mentions : Bool) :
    (e.linkingPages name mentions).AsksOnly g g.Lists :=
  asksOnly_ofListing fun pages hpages ↦ asksOnly_bind
    (asksOnly_outlines fun p hp ↦ ⟨pages, hpages, p, List.mem_of_mem_take hp, rfl⟩)
    fun _ _ ↦ asksOnly_pure _

theorem asksOnly_pageBlocks (name : String) : (e.pageBlocks name).AsksOnly g g.Lists := by
  refine asksOnly_ofListing fun pages hpages ↦ ?_
  split
  · exact asksOnly_pure _
  · next p hp =>
    exact asksOnly_bind (asksOnly_outline ⟨pages, hpages, p, List.mem_of_find?_eq_some hp, rfl⟩)
      fun _ _ ↦ asksOnly_pure _

theorem mem_of_templateNamed? {name : String} {pages : List Page} {p : Page}
    (h : templateNamed? name pages = some p) : p ∈ pages := by
  rcases Option.or_eq_some_iff.1 h with h | ⟨-, h⟩
  · exact List.mem_of_find?_eq_some h
  · exact List.mem_of_find?_eq_some h

theorem asksOnly_templateByName (name : String) : (e.templateByName name).AsksOnly g g.Lists := by
  refine asksOnly_ofListing fun pages hpages ↦ ?_
  split
  · exact asksOnly_pure _
  · next p hp =>
    have hlists : g.Lists p.name := ⟨pages, hpages, p, mem_of_templateNamed? hp, rfl⟩
    exact asksOnly_bind (asksOnly_rescue (asksOnly_map (asksOnly_outline hlists) _) _)
      fun _ _ ↦ asksOnly_pure _

theorem asksOnly_propertyHolds (argument : List Char) :
    (propertyHolds argument).AsksOnly g g.Lists := by
  unfold propertyHolds
  split
  · exact asksOnly_fail _
  · dsimp only
    split_ifs
    · exact asksOnly_fail _
    · exact asksOnly_ofListing fun _ _ ↦ asksOnly_pure _

theorem asksOnly_properties (argument : List Char) : (properties argument).AsksOnly g g.Lists := by
  unfold properties
  dsimp only
  split_ifs
  · exact asksOnly_ofListing fun _ _ ↦ asksOnly_pure _
  · exact asksOnly_fail _
  · exact asksOnly_ofListing fun _ _ ↦ asksOnly_pure _
  · exact asksOnly_fail _

theorem asksOnly_datePages (token : String) : (e.datePages token).AsksOnly g g.Lists := by
  unfold datePages
  split
  · exact asksOnly_fail _
  · exact asksOnly_fail _
  · exact asksOnly_ofListing fun _ _ ↦ asksOnly_pure _

theorem asksOnly_templateListing (argument : List Char) :
    (e.templateListing argument).AsksOnly g g.Lists := by
  unfold templateListing
  dsimp only
  split_ifs
  · exact asksOnly_collectTemplates
  · exact asksOnly_fail _

theorem asksOnly_withQuoted {start : String} {argument : List Char}
    {next : String → Script (List Record)} (h : ∀ name, (next name).AsksOnly g g.Lists) :
    (withQuoted start argument next).AsksOnly g g.Lists := by
  unfold withQuoted
  dsimp only
  split_ifs
  · exact asksOnly_fail _
  · exact h _

theorem asksOnly_starts {start : String} {records : List Char → Script (List Record)}
    (h : (start, records) ∈ e.starts) (argument : List Char) :
    (records argument).AsksOnly g g.Lists := by
  simp only [starts, List.mem_cons, Prod.mk.injEq, List.not_mem_nil, or_false] at h
  rcases h with ⟨-, rfl⟩ | ⟨-, rfl⟩ | ⟨-, rfl⟩ | ⟨-, rfl⟩ | ⟨-, rfl⟩ | ⟨-, rfl⟩ | ⟨-, rfl⟩ | ⟨-, rfl⟩
  · exact asksOnly_propertyHolds argument
  · exact asksOnly_properties argument
  · exact asksOnly_datePages _
  · exact asksOnly_templateListing argument
  · exact asksOnly_withQuoted asksOnly_templateByName
  · exact asksOnly_withQuoted fun name ↦ asksOnly_linkingPages name false
  · exact asksOnly_withQuoted fun name ↦ asksOnly_linkingPages name true
  · exact asksOnly_withQuoted asksOnly_pageBlocks

theorem asksOnly_dispatch (text : String) : (e.dispatch text target scope).AsksOnly g g.Lists := by
  unfold dispatch
  dsimp only
  split_ifs
  · exact asksOnly_collectPages
  · exact asksOnly_emptyPages
  · split
    · next h => exact asksOnly_starts (List.mem_of_find?_eq_some h) _
    · exact asksOnly_matchText text

/-- An atomic filter asks for the outlines of listed pages only. -/
theorem asksOnly_atom (strict : Bool) (text : String) :
    (e.atom target scope strict text).AsksOnly g g.Lists := by
  unfold atom
  split_ifs
  · exact asksOnly_pure _
  · exact asksOnly_rescue (asksOnly_dispatch _) _

end Evaluator

/-! ### Graphs that are read by lower-case names -/

namespace Graph

/-- Listed pages whose names differ in case only have one outline, and the faults of calls for the
listing and for listed pages are those of calls. -/
structure Coherent (g : Graph) : Prop where
  caseless : ∀ pages, g.pages = .ok pages → ∀ p ∈ pages, ∀ q ∈ pages,
    lowered p.name = lowered q.name → g.blocks p.name = g.blocks q.name
  pagesFault : ∀ fault, g.pages = .error fault → fault.OfCall
  blocksFault : ∀ name, g.Lists name → ∀ fault, g.blocks name = .error fault → fault.OfCall

theorem Regular.coherent {g : Graph} (h : g.Regular) : g.Coherent where
  caseless _ _ p _ q _ := h.caseless p.name q.name
  pagesFault := h.pagesFault
  blocksFault name _ := h.blocksFault name

/-- The first listed page whose name is a name but for case. -/
def page? (g : Graph) (name : String) : Option Page :=
  match g.pages with
  | .ok pages => pages.find? fun p => lowered p.name == lowered name
  | .error _ => none

/-- The graph as it is read under lower-case names: what is not listed has no blocks. -/
def canonical (g : Graph) : Graph where
  pages := g.pages
  blocks name :=
    match g.page? name with
    | some p => g.blocks p.name
    | none => .ok []

variable {g : Graph}

theorem canonical_blocks (hg : g.Coherent) {name : String} (h : g.Lists name) :
    g.canonical.blocks name = g.blocks name := by
  obtain ⟨pages, hpages, p, hp, rfl⟩ := h
  have hfound : ∃ q, pages.find? (fun q => lowered q.name == lowered p.name) = some q := by
    rw [← Option.isSome_iff_exists, List.find?_isSome]
    exact ⟨p, hp, beq_self_eq_true _⟩
  obtain ⟨q, hq⟩ := hfound
  have hsame : lowered q.name = lowered p.name := beq_iff_eq.1 (List.find?_some hq :)
  simp only [canonical, page?, hpages, hq]
  exact hg.caseless pages hpages q (List.mem_of_find?_eq_some hq) p hp hsame

/-- What is read under lower-case names depends on these only. -/
theorem Coherent.regular_canonical (hg : g.Coherent) : g.canonical.Regular where
  caseless a b h := by
    simp only [canonical, page?, h]
  pagesFault := hg.pagesFault
  blocksFault name fault h := by
    simp only [canonical] at h
    split at h
    · next p hp =>
      unfold page? at hp
      split at hp
      · next pages hpages =>
        exact hg.blocksFault p.name ⟨pages, hpages, p, List.mem_of_find?_eq_some hp, rfl⟩ fault h
      · cases hp
    · cases h

theorem told_pages_eq_ok {pages : List Page} :
    g.canonical.told.pages = .ok pages ↔ g.pages = .ok pages := by
  change Corpus.told .pages g.pages = _ ↔ _
  cases g.pages with
  | ok listing => exact Iff.rfl
  | error fault => exact ⟨nofun, nofun⟩

theorem lists_of_told {name : String} (h : g.canonical.told.Lists name) : g.Lists name := by
  obtain ⟨pages, hpages, hname⟩ := h
  exact ⟨pages, told_pages_eq_ok.1 hpages, hname⟩

end Graph

/-- What may be said of a graph that is read by listed names only is fair to these. -/
theorem Lore.fairTo_canonical {g : Graph} (hg : g.Coherent) {p : Provider} (hp : p.Serves g)
    (results : String → List Record → Prop) (s : Settings) (today : Date) :
    (Lore.exactly g.canonical results p s today).FairTo g.Lists where
  start _ q h := h.start q
  answer _ q h := h.answer q
  pages p' h := by
    change Corpus.told .pages p'.listPages.1 = Corpus.told .pages g.pages
    rw [(hp p' h).1]
  blocks p' page hpage h := by
    change Corpus.told (.blocks page) (p'.outline page).1 =
      Corpus.told (.blocks page) (g.canonical.blocks page)
    rw [(hp p' h).2, Graph.canonical_blocks hg hpage]
  caseless a b h r hr := hr.trans (hg.regular_canonical.told_blocks h)
  pagesFault fault h := hg.regular_canonical.told_pagesFault (Eq.symm h)
  blocksFault page fault h := hg.regular_canonical.told_blocksFault (Eq.symm h)

namespace Engine

variable {g : Graph} {w : World} {operation : Operation}

/-- An operation that ends with the records of a script: to collect those of a target, or to evaluate
an atomic filter. -/
def Operation.Runs (operation : Operation) (script : Evaluator → Script (List Record)) : Prop :=
  operation.job .finish =
    .look fun w => (script w.evaluator).job fun r => .finish (r.map .records)

theorem runs_collect (target : Target) (scope : Option Scope) :
    (Operation.collect target scope).Runs fun e => e.collect target scope := rfl

theorem runs_atom (text : String) (target : Target) (strict : Bool) (scope : Option Scope) :
    (Operation.atom text target strict scope).Runs fun e => e.atom target scope strict text := rfl

/-- A script that asks for listed pages only ends as on the graph, whatever turn comes next. -/
theorem returns_script (hg : g.Coherent) (hp : w.provider.Serves g)
    (hw : (w.lore g.canonical).Holds w) (hflights : w.flights = [])
    {script : Evaluator → Script (List Record)} (hruns : operation.Runs script)
    (hasks : (script w.evaluator).AsksOnly g.canonical.told g.canonical.told.Lists) :
    Returns w operation ∧ ∀ reply, MayReturn w operation reply →
      reply = ((script w.evaluator).run g.canonical.told).map .records := by
  have hL : (w.lore g.canonical).FairTo g.Lists := Lore.fairTo_canonical hg hp ..
  have hexact : (w.lore g.canonical).Exact g.canonical.told := Lore.exact_exactly ..
  have hsound : Sound (w.lore g.canonical).contract failed
      (· = ((script w.evaluator).run g.canonical.told).map .records) .none
      (operation.job .finish) w := by
    rw [hruns]
    refine .look (hexact.safe_script hL
      (fun name hname ↦ Graph.lists_of_told (hasks name hname)) ?_ w hw)
    exact Lore.safe_finish rfl
  exact returns_asked hw hflights hsound

end Engine

end OutlineSearch
