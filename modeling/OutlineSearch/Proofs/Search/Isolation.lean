import OutlineSearch.Proofs.Search.Surveys
import OutlineSearch.Proofs.Text.Finding

/-!
# Pages that fail

When the calls for the outlines of some pages fail, a survey finds what it finds when they do not,
but for the records that it owes to the outlines of these pages. All the others stay, in their order,
and so does what the listing alone gives.
-/

namespace OutlineSearch

open OutlineSearch.Search OutlineSearch.Text OutlineSearch.Engine

namespace Survey

variable {e : Evaluator} {survey : Survey} {operation : Operation}

/-- An operation asks for a survey: it collects the records of a target, or evaluates an atomic
filter whose text is one for empty pages or for links. -/
inductive AskedBy (e : Evaluator) : Survey → Operation → Prop where
  | blocks (scope : Option Scope) : AskedBy e (.blocks scope) (.collect .blocks scope)
  | tasks (scope : Option Scope) : AskedBy e (.tasks scope) (.collect .tasks scope)
  | properties (scope : Option Scope) : AskedBy e (.properties scope) (.collect .properties scope)
  | both (scope : Option Scope) : AskedBy e (.both scope) (.collect .both scope)
  | empty {text : String} {target : Target} {scope : Option Scope} (strict : Bool)
    (hblank : isBlankString text = false)
    (h : e.dispatch (trimmed text) target scope = e.emptyPages) :
    AskedBy e .empty (.atom text target strict scope)
  | links {text name : String} {mentions : Bool} {target : Target} {scope : Option Scope}
    (strict : Bool) (hblank : isBlankString text = false)
    (h : e.dispatch (trimmed text) target scope = e.linkingPages name mentions) :
    AskedBy e (.links name mentions) (.atom text target strict scope)

/-- An operation that asks for a survey ends with its records. -/
theorem AskedBy.exists_script (h : survey.AskedBy e operation) :
    ∃ script : Evaluator → Script (List Record), operation.Runs script ∧
      (∀ g : Graph, (script e).AsksOnly g g.Lists) ∧
      ∀ (g : Graph) records, (survey.script e).run g = .ok records →
        (script e).run g = .ok records := by
  have hcollect (target : Target) (scope : Option Scope) :
      ∃ script : Evaluator → Script (List Record),
        (Operation.collect target scope).Runs script ∧ (∀ g : Graph, (script e).AsksOnly g g.Lists) ∧
        ∀ (g : Graph) records, (e.collect target scope).run g = .ok records →
          (script e).run g = .ok records :=
    ⟨_, runs_collect target scope, fun _ ↦ Evaluator.asksOnly_collect, fun _ _ h ↦ h⟩
  have hatom {text : String} {target : Target} {scope : Option Scope} {filter : Script (List Record)}
      (strict : Bool) (hblank : isBlankString text = false)
      (h : e.dispatch (trimmed text) target scope = filter) :
      ∃ script : Evaluator → Script (List Record),
        (Operation.atom text target strict scope).Runs script ∧
        (∀ g : Graph, (script e).AsksOnly g g.Lists) ∧
        ∀ (g : Graph) records, filter.run g = .ok records → (script e).run g = .ok records := by
    refine ⟨_, runs_atom text target strict scope, fun _ ↦ Evaluator.asksOnly_atom strict text,
      fun g records hrecords ↦ ?_⟩
    rw [Evaluator.atom, if_neg (by simp [hblank]), h, Script.run_rescue, hrecords]
  cases h with
  | blocks scope => exact hcollect .blocks scope
  | tasks scope => exact hcollect .tasks scope
  | properties scope => exact hcollect .properties scope
  | both scope => exact hcollect .both scope
  | empty strict hblank h => exact hatom strict hblank h
  | links strict hblank h => exact hatom strict hblank h

/-- On a coherent graph an operation that asks for a survey is answered with what the listing gives
and what the outlines of listed pages give. -/
theorem AskedBy.returns {w : World} (h : survey.AskedBy w.evaluator operation) {g : Graph}
    (hg : g.Coherent) (hp : w.provider.Serves g) (hw : (w.lore g.canonical).Holds w)
    (hflights : w.flights = []) {pages : List Page} (hpages : g.pages = .ok pages) :
    Returns w operation ∧ ∀ reply, MayReturn w operation reply → reply = .ok (.records
      (survey.listed pages ++
        g.owed (survey.reach w.evaluator pages) (survey.ofTree w.evaluator))) := by
  obtain ⟨script, hruns, hasks, hrun⟩ := h.exists_script
  obtain ⟨hreturns, hreply⟩ := returns_script hg hp hw hflights hruns (hasks _)
  refine ⟨hreturns, fun reply hmay ↦ ?_⟩
  have howed : g.canonical.told.owed (survey.reach w.evaluator pages) (survey.ofTree w.evaluator) =
      g.owed (survey.reach w.evaluator pages) (survey.ofTree w.evaluator) :=
    Graph.owed_congr (fun p hmem ↦ Graph.held_told_canonical hg
      ⟨pages, hpages, p, mem_of_mem_reach hmem, rfl⟩) _
  rw [hreply reply hmay,
    hrun _ _ (run_script hg.forgivable (Graph.told_pages_eq_ok.2 hpages) survey), howed]
  rfl

/-- Pages whose names differ in more than case are told apart, whatever their calls fail with. -/
theorem coherent_of_nodup {g : Graph} {pages : List Page} (hpages : g.pages = .ok pages)
    (hnames : (pages.map fun p => lowered p.name).Nodup)
    (hfault : ∀ p ∈ pages, ∀ fault, g.blocks p.name = .error fault → fault.OfCall) : g.Coherent where
  caseless listing hlisting p hp q hq h := by
    obtain rfl := Except.ok.inj (hpages.symm.trans hlisting)
    rw [List.inj_on_of_nodup_map hnames hp hq h]
  pagesFault fault h := nomatch hpages.symm.trans h
  blocksFault name h fault := by
    obtain ⟨listing, hlisting, p, hp, rfl⟩ := h
    obtain rfl := Except.ok.inj (hpages.symm.trans hlisting)
    exact hfault p hp fault

/-- When the calls for the outlines of some pages fail, a survey finds what it finds on the graph on
which no call fails, without the records that it owes to the outlines of these pages. -/
theorem returns_failing {g g' : Graph} {w w' : World} {pages : List Page} {fails : Page → Bool}
    (hpages : g.pages = .ok pages) (hpages' : g'.pages = .ok pages)
    (hnames : (pages.map fun p => lowered p.name).Nodup)
    (hhealthy : ∀ p ∈ pages, ∃ tree, g.blocks p.name = .ok tree)
    (hfails : ∀ p ∈ pages, fails p = true →
      ∃ fault : Fault, fault.OfCall ∧ g'.blocks p.name = .error fault)
    (hothers : ∀ p ∈ pages, fails p = false → g'.blocks p.name = g.blocks p.name)
    (hp : w.provider.Serves g) (hp' : w'.provider.Serves g')
    (hw : (w.lore g.canonical).Holds w) (hw' : (w'.lore g'.canonical).Holds w')
    (hflights : w.flights = []) (hflights' : w'.flights = [])
    (he : w'.evaluator = w.evaluator) (h : survey.AskedBy w.evaluator operation) :
    Returns w operation ∧ Returns w' operation ∧
      (∀ reply, MayReturn w operation reply → reply = .ok (.records (survey.listed pages ++
        g.owed (survey.reach w.evaluator pages) (survey.ofTree w.evaluator)))) ∧
      ∀ reply, MayReturn w' operation reply → reply = .ok (.records (survey.listed pages ++
        g.owed ((survey.reach w.evaluator pages).filter fun p => !fails p)
          (survey.ofTree w.evaluator))) := by
  have hg : g.Coherent := coherent_of_nodup hpages hnames fun p hmem fault hfault ↦ by
    obtain ⟨tree, htree⟩ := hhealthy p hmem
    cases htree.symm.trans hfault
  have hg' : g'.Coherent := coherent_of_nodup hpages' hnames fun p hmem fault hfault ↦ by
    cases hp : fails p with
    | true =>
      obtain ⟨fault', hcall, hfault'⟩ := hfails p hmem hp
      obtain rfl := Except.error.inj (hfault.symm.trans hfault')
      exact hcall
    | false =>
      obtain ⟨tree, htree⟩ := hhealthy p hmem
      cases (htree.symm.trans (hothers p hmem hp).symm).trans hfault
  obtain ⟨hreturns, hreply⟩ := h.returns hg hp hw hflights hpages
  obtain ⟨hreturns', hreply'⟩ := (he ▸ h).returns hg' hp' hw' hflights' hpages'
  refine ⟨hreturns, hreturns', hreply, fun reply hmay ↦ ?_⟩
  have hnone : ∀ p ∈ survey.reach w.evaluator pages, (!fails p) = false →
      g'.held p.name = none := by
    intro p hmem hp
    obtain ⟨fault, -, hfault⟩ := hfails p (mem_of_mem_reach hmem) (by simpa using hp)
    rw [Graph.held, hfault]
    rfl
  have hsame : ∀ p ∈ survey.reach w.evaluator pages, (!fails p) = true →
      g'.held p.name = g.held p.name := by
    intro p hmem hp
    rw [Graph.held, Graph.held, hothers p (mem_of_mem_reach hmem) (by simpa using hp)]
  rw [hreply' reply hmay, he, Graph.owed_eq_filter hnone hsame]

/-- A text with a mark for empty pages asks for these. -/
theorem askedBy_empty {text : String} {target : Target} {scope : Option Scope} (strict : Bool)
    (hblank : isBlankString text = false)
    (hword : Evaluator.wildcards.contains (lowered (trimmed text)) = false)
    (hmark : Evaluator.emptyMarks.any (Text.contains (lowered (trimmed text))) = true) :
    AskedBy e .empty (.atom text target strict scope) := by
  refine .empty strict hblank ?_
  rw [Evaluator.dispatch]
  simp only [hword, hmark, Bool.false_eq_true, if_false, if_true]

/-- The start of a filter for links, or for mentions beside links. -/
def linkStart (mentions : Bool) : String := if mentions then "references:" else "backlinks:"

/-- The page that the text of a filter for links names behind its start. -/
def linkTarget (text start : String) : List Char :=
  ((phrase (trim (text.toList.drop start.length))).map (·.1)).getD []

/-- A text with the start of a filter for links and a quoted name asks for the links to it. -/
theorem askedBy_links {text : String} {target : Target} {scope : Option Scope}
    (mentions strict : Bool) (hblank : isBlankString text = false)
    (hword : Evaluator.wildcards.contains (lowered (trimmed text)) = false)
    (hmark : Evaluator.emptyMarks.any (Text.contains (lowered (trimmed text))) = false)
    (hstart : startsWith (lowered (trimmed text)).toList (linkStart mentions).toList = true)
    (hname : isAllBlank (linkTarget (trimmed text) (linkStart mentions)) = false) :
    AskedBy e (.links (String.ofList (trim (linkTarget (trimmed text) (linkStart mentions)))) mentions)
      (.atom text target strict scope) := by
  refine .links strict hblank ?_
  obtain ⟨rest, hrest⟩ := Option.isSome_iff_exists.1 hstart
  have hfind : e.starts.find? (fun rule => startsWith (lowered (trimmed text)).toList rule.1.toList) =
      some (linkStart mentions, fun s => Evaluator.withQuoted (linkStart mentions) s fun name =>
        e.linkingPages name mentions) := by
    rw [dropPrefix?_eq_some_iff.1 hrest]
    cases mentions <;> simp [Evaluator.starts, linkStart, startsWith, dropPrefix?]
  unfold Evaluator.dispatch
  simp only [hword, hmark, hfind, Bool.false_eq_true, if_false]
  rw [Evaluator.withQuoted]
  exact if_neg (by rw [← linkTarget, hname]; simp)

/-! ### Two pages -/

/-- A block with a text. -/
def plainBlock (uuid content : String) : Block := .mk uuid content [] none none [] none none

/-- Two pages with a block each. -/
def twoPages : MemoryGraph where
  pages := [{ id := "1", name := "a" }, { id := "2", name := "b" }]
  outlines := [("a", [plainBlock "x" "first"]), ("b", [plainBlock "y" "second"])]

/-- The two pages when the connection is lost for one of them. -/
def twoPagesLost : MemoryGraph :=
  { twoPages with outlineFaults := [("a", .connection "lost")] }

/-- The world around a graph held in memory. -/
def worldOf (g : MemoryGraph) : World := .around g (.ofInt 1000) someDay

/-- What a graph held in memory holds. -/
def graphOf (g : MemoryGraph) : Graph := ⟨g.listPages, g.outline⟩

theorem nodup_twoPages : (twoPages.pages.map fun p => lowered p.name).Nodup := by
  have hnames : twoPages.pages.map (fun p => lowered p.name) = ["a", "b"] := by decide +kernel
  rw [hnames]
  decide

theorem forall_twoPages {P : Page → Prop} (a : P { id := "1", name := "a" })
    (b : P { id := "2", name := "b" }) : ∀ p ∈ twoPages.pages, P p := by
  simpa [twoPages] using ⟨a, b⟩

theorem serves_worldOf (g : MemoryGraph) : (worldOf g).provider.Serves (graphOf g) :=
  Provider.memory_serves g

/-- Only the block of the page that is lost is missing. -/
theorem twoPages_lost : ∃ found left,
    found.map Record.id = ["1", "2", "x", "y"] ∧ left.map Record.id = ["1", "2", "y"] ∧
      (∀ reply, MayReturn (worldOf twoPages) (.collect .both none) reply →
        reply = .ok (.records found)) ∧
      ∀ reply, MayReturn (worldOf twoPagesLost) (.collect .both none) reply →
        reply = .ok (.records left) := by
  have hhealthy : ∀ p ∈ twoPages.pages, ∃ tree, (graphOf twoPages).blocks p.name = .ok tree :=
    forall_twoPages ⟨_, rfl⟩ ⟨_, rfl⟩
  have hfails : ∀ p ∈ twoPages.pages, (p.name == "a") = true →
      ∃ fault : Fault, fault.OfCall ∧ (graphOf twoPagesLost).blocks p.name = .error fault :=
    forall_twoPages (fun _ ↦ ⟨.connection "lost", .inr rfl, rfl⟩) fun h ↦ by cases h
  have hothers : ∀ p ∈ twoPages.pages, (p.name == "a") = false →
      (graphOf twoPagesLost).blocks p.name = (graphOf twoPages).blocks p.name :=
    forall_twoPages (fun h ↦ by cases h) fun _ ↦ rfl
  obtain ⟨-, -, hfound, hleft⟩ := returns_failing rfl rfl nodup_twoPages hhealthy hfails
    hothers (serves_worldOf twoPages) (serves_worldOf twoPagesLost) (holds_around ..)
    (holds_around ..) rfl rfl rfl (.both none)
  exact ⟨_, _, by decide +kernel, by decide +kernel, hfound, hleft⟩

end Survey

end OutlineSearch
