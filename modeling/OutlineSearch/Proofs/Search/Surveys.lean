import OutlineSearch.Proofs.Search.Listed

/-!
# What surveys find

A survey is a search that goes through the outlines of many pages: the collections of blocks, of
tasks, of properties and of both, and the filters for empty pages and for links. What it finds is
what the listing alone gives, and behind that what each page in its reach gives by its outline. A
page whose outline cannot be had gives nothing, and takes nothing from the others.
-/

namespace OutlineSearch

open OutlineSearch.Search OutlineSearch.Text OutlineSearch.Outline

namespace Graph

variable {g : Graph}

/-- The outline of a page, if it can be had. -/
def held (g : Graph) (name : String) : Option (List Block) := (g.blocks name).toOption

/-- The calls for outlines fail with faults of the provider only. -/
def Forgivable (g : Graph) : Prop :=
  ∀ name fault, g.blocks name = .error fault → ∃ message, fault = .provider message

/-- The records that some pages give by their outlines. -/
def owed (g : Graph) (pages : List Page) (ofTree : Page → List Block → List Record) :
    List Record :=
  pages.flatMap fun p => ((g.held p.name).map (ofTree p)).getD []

theorem tree_eq (hg : g.Forgivable) (name : String) : g.tree name = .ok (g.held name) := by
  unfold tree held
  cases h : g.blocks name with
  | ok items => rfl
  | error fault =>
    obtain ⟨message, rfl⟩ := hg name fault h
    rfl

theorem mapM_tree (hg : g.Forgivable) (names : List String) :
    names.mapM g.tree = .ok (names.map g.held) := by
  induction names with
  | nil => rfl
  | cons name rest ih =>
    rw [List.mapM_cons, tree_eq hg, ih]
    rfl

theorem owed_cons (p : Page) (rest : List Page) (ofTree : Page → List Block → List Record) :
    g.owed (p :: rest) ofTree =
      ((g.held p.name).map (ofTree p)).getD [] ++ g.owed rest ofTree :=
  List.flatMap_cons

/-- What pages give depends on their outlines only. -/
theorem owed_congr {g' : Graph} {pages : List Page}
    (h : ∀ p ∈ pages, g.held p.name = g'.held p.name) (ofTree : Page → List Block → List Record) :
    g.owed pages ofTree = g'.owed pages ofTree :=
  List.flatMap_congr fun p hp ↦ by rw [h p hp]

/-- Pages whose outlines cannot be had give nothing; the others give what they give on a graph on
which theirs are the same. -/
theorem owed_eq_filter {g' : Graph} {keep : Page → Bool} {pages : List Page}
    (hnone : ∀ p ∈ pages, keep p = false → g'.held p.name = none)
    (hsame : ∀ p ∈ pages, keep p = true → g'.held p.name = g.held p.name)
    (ofTree : Page → List Block → List Record) :
    g'.owed pages ofTree = g.owed (pages.filter keep) ofTree := by
  induction pages with
  | nil => rfl
  | cons p rest ih =>
    obtain ⟨hp, hrest⟩ := List.forall_mem_cons.1 hnone
    obtain ⟨hp', hrest'⟩ := List.forall_mem_cons.1 hsame
    rw [owed_cons, ih hrest hrest']
    cases hkeep : keep p with
    | true =>
      rw [List.filter_cons_of_pos hkeep, hp' hkeep]
      rfl
    | false =>
      rw [List.filter_cons_of_neg (by simp [hkeep]), hp hkeep]
      rfl

/-- The outlines that can be had of listed pages are those that are told. -/
theorem held_told_canonical (hg : g.Coherent) {name : String} (h : g.Lists name) :
    g.canonical.told.held name = g.held name := by
  change (Corpus.told (.blocks name) (g.canonical.blocks name)).toOption = (g.blocks name).toOption
  rw [canonical_blocks hg h]
  cases g.blocks name <;> rfl

theorem Coherent.forgivable (hg : g.Coherent) : g.canonical.told.Forgivable :=
  fun _ _ h ↦ hg.regular_canonical.told_blocksFault h

end Graph

namespace Script

variable {g : Graph}

/-- Outlines that are read side by side stay with their pages, and those that cannot be had are left
out. -/
theorem run_outlines (hg : g.Forgivable) (items : List Page) : (outlines items).run g =
    .ok (items.filterMap fun p => (g.held p.name).map fun tree => (p, tree)) := by
  change ((items.map Page.name).mapM g.tree).map _ = _
  rw [Graph.mapM_tree hg, List.map_map]
  refine congrArg Except.ok ?_
  dsimp only
  induction items with
  | nil => rfl
  | cons p rest ih =>
    rw [List.map_cons, List.zip_cons_cons, List.filterMap_cons, List.filterMap_cons, ih]
    rfl

theorem flatMap_outlines (items : List Page) (ofTree : Page → List Block → List Record) :
    (items.filterMap fun p => (g.held p.name).map fun tree => (p, tree)).flatMap
      (fun (p, tree) => ofTree p tree) = g.owed items ofTree := by
  unfold Graph.owed
  induction items with
  | nil => rfl
  | cons p rest ih =>
    rw [List.filterMap_cons, List.flatMap_cons, ← ih]
    cases g.held p.name <;> rfl

end Script

namespace Evaluator

open Script

variable {e : Evaluator} {g : Graph} {scope : Option Scope}

/-- The records of the blocks of a page that say something. -/
def blockRecords (e : Evaluator) (p : Page) (blocks : List Block) : List Record :=
  ((e.visible blocks).filter fun b => !isBlankString b.content).map fun b =>
    Record.ofBlock b p.displayName

/-- The records of the tasks of a page. -/
def taskRecords (e : Evaluator) (p : Page) (blocks : List Block) : List Record :=
  (e.visible blocks).filterMap fun b => Record.ofTask? b p.displayName

/-- The records of the properties of the blocks of a page. -/
def propertyRecords (e : Evaluator) (p : Page) (blocks : List Block) : List Record :=
  (e.visible blocks).flatMap fun b => Record.ofProperties (.ofBlock b p.displayName) b.properties

/-- The record of a page whose outline is blank. -/
def emptyRecord (e : Evaluator) (p : Page) (blocks : List Block) : List Record :=
  if isBlankTree e.settings.maxNestingLevel blocks then [Record.ofPage p (some "empty page")] else []

/-- The record of a page other than one of some name that links to it. -/
def linkRecord (e : Evaluator) (name : String) (mentions : Bool) (p : Page) (blocks : List Block) :
    List Record :=
  let target := lower name.toList
  if lower p.displayName.toList != target &&
      (e.visible blocks).any fun b => linksTo target mentions b.content then
    [Record.ofPage p (some (if mentions then "reference" else "backlink"))]
  else []

theorem run_scan (hg : g.Forgivable) : (e.scan scope).run g = g.pages.map fun pages =>
    (e.reach scope pages).filterMap fun p => (g.held p.name).map fun tree => (p, tree) := by
  rw [scan, scanPages_eq, run_bind, run_map]
  change ((g.pages.map _) >>= _ : Outcome _) = _
  cases g.pages with
  | error fault => rfl
  | ok pages => exact run_outlines hg _

/-- What comes of the outlines that are looked into comes of each of them. -/
theorem run_scan_bind (hg : g.Forgivable) {α : Type} (ofTree : Page → List Block → List Record)
    (next : List Record → α) :
    (e.scan scope >>= fun found ↦
      pure (next (found.flatMap fun (p, tree) => ofTree p tree))).run g =
        g.pages.map fun pages => next (g.owed (e.reach scope pages) ofTree) := by
  rw [run_bind, run_scan hg]
  cases g.pages with
  | error fault => rfl
  | ok pages => exact congrArg (fun records ↦ Except.ok (next records)) (flatMap_outlines ..)

theorem run_collectBlocks (hg : g.Forgivable) : (e.collectBlocks scope).run g =
    g.pages.map fun pages => g.owed (e.reach scope pages) e.blockRecords :=
  run_scan_bind hg e.blockRecords id

theorem run_collectTasks (hg : g.Forgivable) : (e.collectTasks scope).run g =
    g.pages.map fun pages => g.owed (e.reach scope pages) e.taskRecords :=
  run_scan_bind hg e.taskRecords id

theorem run_collectProperties (hg : g.Forgivable) : (e.collectProperties scope).run g =
    g.pages.map fun pages =>
      pages.flatMap pageProperties ++ g.owed (e.reach scope pages) e.propertyRecords := by
  unfold collectProperties
  rw [run_bind]
  change (g.pages >>= fun pages ↦ _ : Outcome _) = _
  cases hpages : g.pages with
  | error fault => rfl
  | ok pages =>
    refine (run_scan_bind hg e.propertyRecords (pages.flatMap pageProperties ++ ·)).trans ?_
    rw [hpages]
    rfl

theorem run_collectPages (g : Graph) :
    collectPages.run g = g.pages.map fun pages => pages.map fun p => Record.ofPage p none :=
  run_map _ allPages

theorem run_collectBoth (hg : g.Forgivable) : (e.collectTarget .both scope).run g =
    g.pages.map fun pages =>
      pages.map (fun p => Record.ofPage p none) ++ g.owed (e.reach scope pages) e.blockRecords := by
  change (collectPages >>= fun pages ↦ (pages ++ ·) <$> e.collectBlocks scope).run g = _
  rw [run_bind, run_collectPages]
  cases hpages : g.pages with
  | error fault => rfl
  | ok pages =>
    change ((_ ++ ·) <$> e.collectBlocks scope).run g = _
    rw [run_map, run_collectBlocks hg, hpages]
    rfl

/-- What comes of the outlines of the first pages of the listing. -/
theorem run_upTo (hg : g.Forgivable) (limit : Int) (ofTree : Page → List Block → List Record) :
    (Script.allPages >>= fun pages ↦ Script.outlines (upTo limit pages) >>= fun found ↦
      pure (found.flatMap fun (p, tree) => ofTree p tree)).run g =
        g.pages.map fun pages => g.owed (upTo limit pages) ofTree := by
  rw [run_bind]
  change (g.pages >>= fun pages ↦ _ : Outcome _) = _
  cases g.pages with
  | error fault => rfl
  | ok pages =>
    change (Script.outlines (upTo limit pages) >>= fun found ↦ pure _).run g = _
    rw [run_bind, run_outlines hg]
    exact congrArg Except.ok (flatMap_outlines ..)

theorem map_filter_eq_flatMap {α β : Type} (keep : α → Bool) (f : α → β) (items : List α) :
    (items.filter keep).map f = items.flatMap fun a => if keep a then [f a] else [] := by
  induction items with
  | nil => rfl
  | cons a rest ih =>
    rw [List.flatMap_cons, ← ih, List.filter_cons]
    split <;> rfl

theorem run_emptyPages (hg : g.Forgivable) : e.emptyPages.run g =
    g.pages.map fun pages => g.owed (upTo e.settings.emptyPageScanLimit pages) e.emptyRecord := by
  rw [← run_upTo hg]
  unfold emptyPages
  simp only [map_filter_eq_flatMap]
  rfl

theorem run_linkingPages (hg : g.Forgivable) (name : String) (mentions : Bool) :
    (e.linkingPages name mentions).run g = g.pages.map fun pages =>
      g.owed (upTo e.settings.linkScanLimit pages) (e.linkRecord name mentions) := by
  rw [← run_upTo hg]
  unfold linkingPages
  simp only [map_filter_eq_flatMap]
  rfl

end Evaluator

/-- A search that goes through the outlines of many pages. -/
inductive Survey where
  | blocks (scope : Option Scope)
  | tasks (scope : Option Scope)
  | properties (scope : Option Scope)
  | both (scope : Option Scope)
  | empty
  | links (name : String) (mentions : Bool)

namespace Survey

open Evaluator

variable {g : Graph} {e : Evaluator}

/-- The script of a survey. -/
def script (e : Evaluator) : Survey → Script (List Record)
  | blocks scope => e.collect .blocks scope
  | tasks scope => e.collect .tasks scope
  | properties scope => e.collect .properties scope
  | both scope => e.collect .both scope
  | empty => e.emptyPages
  | links name mentions => e.linkingPages name mentions

/-- The records that the listing alone gives. -/
def listed (pages : List Page) : Survey → List Record
  | properties _ => pages.flatMap pageProperties
  | both _ => pages.map fun p => Record.ofPage p none
  | _ => []

/-- The pages of a listing that a survey goes through. -/
def reach (e : Evaluator) (pages : List Page) : Survey → List Page
  | blocks scope | tasks scope | properties scope | both scope => e.reach scope pages
  | empty => upTo e.settings.emptyPageScanLimit pages
  | links _ _ => upTo e.settings.linkScanLimit pages

/-- The records that a page gives by its outline. -/
def ofTree (e : Evaluator) : Survey → Page → List Block → List Record
  | blocks _ | both _ => e.blockRecords
  | tasks _ => e.taskRecords
  | properties _ => e.propertyRecords
  | empty => e.emptyRecord
  | links name mentions => e.linkRecord name mentions

/-- A survey finds what the listing gives, and behind it what each page in its reach gives by its
outline. -/
theorem run_script (hg : g.Forgivable) {pages : List Page} (hpages : g.pages = .ok pages)
    (survey : Survey) : (survey.script e).run g =
      .ok (survey.listed pages ++ g.owed (survey.reach e pages) (survey.ofTree e)) := by
  have hcollect {target : Target} {scope : Option Scope} {records : List Record}
      (h : (e.collectTarget target scope).run g = .ok records) :
      (e.collect target scope).run g = .ok records := by
    rw [collect, Script.run_rescue, h]
  cases survey with
  | blocks scope => exact hcollect ((run_collectBlocks hg).trans (by rw [hpages]; rfl))
  | tasks scope => exact hcollect ((run_collectTasks hg).trans (by rw [hpages]; rfl))
  | properties scope => exact hcollect ((run_collectProperties hg).trans (by rw [hpages]; rfl))
  | both scope => exact hcollect ((run_collectBoth hg).trans (by rw [hpages]; rfl))
  | empty => exact (run_emptyPages hg).trans (by rw [hpages]; rfl)
  | links name mentions => exact (run_linkingPages hg name mentions).trans (by rw [hpages]; rfl)

theorem mem_of_mem_reach {pages : List Page} {survey : Survey} {p : Page}
    (h : p ∈ survey.reach e pages) : p ∈ pages := by
  cases survey with
  | blocks | tasks | properties | both => exact Evaluator.mem_of_mem_reach h
  | empty | links => exact List.mem_of_mem_take h

end Survey

end OutlineSearch
