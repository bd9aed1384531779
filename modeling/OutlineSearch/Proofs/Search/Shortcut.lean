import OutlineSearch.Proofs.Search.Isolation

/-!
# Scans of the pages of a scope

When a scope names pages, only their outlines are looked into. Nobody sees that: the scope keeps the
same records as of a scan of all pages, for a record from an outline bears the name under which the
page is shown, and the scope looks at that name. A page that was selected by its other name only is
read in vain.
-/

namespace OutlineSearch

open OutlineSearch.Search OutlineSearch.Text OutlineSearch.Engine

namespace Evaluator

/-- The evaluator that looks into some number of pages when no scope names any. -/
def scanning (e : Evaluator) (limit : Int) : Evaluator :=
  { e with settings := { e.settings with blockScanPageLimit := limit } }

variable {e : Evaluator} {p : Page} {tree : List Block} {r : Record}

theorem datePages_scanning (e : Evaluator) (limit : Int) :
    (e.scanning limit).datePages = e.datePages := by
  funext token
  have htoday : (e.scanning limit).today = e.today := rfl
  have hlimit : (e.scanning limit).settings.dateScanLimit = e.settings.dateScanLimit := rfl
  rw [datePages, htoday, hlimit, ← datePages]

/-- Only what is scanned depends on the number of pages that a scan looks into. -/
theorem starts_scanning (e : Evaluator) (limit : Int) : (e.scanning limit).starts = e.starts := by
  rw [starts, datePages_scanning]
  rfl

theorem scopeName_of_mem_blockRecords (h : r ∈ e.blockRecords p tree) :
    r.scopeName = p.displayName := by
  obtain ⟨b, -, rfl⟩ := List.mem_map.1 h
  rfl

theorem scopeName_of_mem_taskRecords (h : r ∈ e.taskRecords p tree) :
    r.scopeName = p.displayName := by
  obtain ⟨b, -, hb⟩ := List.mem_filterMap.1 h
  obtain ⟨found, -, rfl⟩ := Option.map_eq_some_iff.1 hb
  rfl

theorem scopeName_of_mem_propertyRecords (h : r ∈ e.propertyRecords p tree) :
    r.scopeName = p.displayName := by
  obtain ⟨b, -, hb⟩ := List.mem_flatMap.1 h
  obtain ⟨entry, -, rfl⟩ := List.mem_map.1 hb
  rfl

/-- A scan without a scope goes through all pages when it may look into as many. -/
theorem reach_scanning {limit : Int} {pages : List Page} (h : (pages.length : Int) ≤ limit) :
    (e.scanning limit).reach none pages = pages := by
  change upTo limit pages = pages
  rw [upTo, itemsBefore, if_pos (by omega), List.take_of_length_le]
  omega

end Evaluator

namespace Scope

variable {s : Scope}

/-- A scope keeps the same of two lists of records. -/
def Same (s : Scope) (records every : List Record) : Prop :=
  apply (some s) records = apply (some s) every

theorem same_iff {records every : List Record} :
    s.Same records every ↔ records.filter s.keeps = every.filter s.keeps := Iff.rfl

theorem Same.refl (records : List Record) : s.Same records records := rfl

theorem Same.append {a a' b b' : List Record} (h : s.Same a a') (h' : s.Same b b') :
    s.Same (a ++ b) (a' ++ b') := by
  rw [same_iff] at *
  rw [List.filter_append, List.filter_append, h, h']

theorem Same.filter {a a' : List Record} (h : s.Same a a') (keep : Record → Bool) :
    s.Same (a.filter keep) (a'.filter keep) := by
  rw [same_iff] at *
  rw [List.filter_comm, h, List.filter_comm]

/-- A scope that names pages keeps nothing of what a page gives that is shown under another name. -/
theorem filter_keeps_eq_nil {titles : List String} (hs : s.pageTitles = some titles) {p : Page}
    (hp : (titles.map lowered).contains (lowered p.displayName) = false) {records : List Record}
    (h : ∀ r ∈ records, r.scopeName = p.displayName) : records.filter s.keeps = [] := by
  refine List.filter_eq_nil_iff.2 fun r hr ↦ ?_
  rw [keeps, keepsPage, hs, Option.all_some, h r hr, hp]
  simp

/-- Of what the outlines of all pages give, a scope that names pages keeps what it keeps of those in
its reach. -/
theorem same_owed {e : Evaluator} {g : Graph} {titles : List String}
    (hs : s.pageTitles = some titles) (hne : titles ≠ [])
    {ofTree : Page → List Block → List Record}
    (hname : ∀ p tree, ∀ r ∈ ofTree p tree, r.scopeName = p.displayName) (pages : List Page) :
    s.Same (g.owed (e.reach (some s) pages) ofTree) (g.owed pages ofTree) := by
  rw [same_iff]
  have hreach : e.reach (some s) pages = pages.filter fun p =>
      (titles.map lowered).contains (lowered p.displayName) ||
        (titles.map lowered).contains (lowered p.name) := by
    unfold Evaluator.reach
    rw [Option.bind_some, hs, Option.getD_some]
    cases titles with
    | nil => exact absurd rfl hne
    | cons title rest => rfl
  rw [hreach]
  clear hreach
  induction pages with
  | nil => rfl
  | cons p rest ih =>
    rw [Graph.owed_cons, List.filter_append, ← ih, List.filter_cons]
    split
    · rw [Graph.owed_cons, List.filter_append]
    · next hout =>
      rw [Bool.or_eq_true, not_or, Bool.not_eq_true] at hout
      have hnone : (((g.held p.name).map (ofTree p)).getD []).filter s.keeps = [] := by
        refine filter_keeps_eq_nil hs hout.1 fun r hr ↦ ?_
        cases htree : g.held p.name with
        | none =>
          rw [htree] at hr
          cases hr
        | some tree =>
          rw [htree] at hr
          exact hname p tree r hr
      rw [hnone, List.nil_append]

/-- Two outcomes are records of which a scope keeps the same, or one fault. -/
inductive SameOutcome (s : Scope) : Outcome (List Record) → Outcome (List Record) → Prop where
  | ok {records every : List Record} (h : s.Same records every) :
    SameOutcome s (.ok records) (.ok every)
  | error (fault : Fault) : SameOutcome s (.error fault) (.error fault)

theorem SameOutcome.refl (o : Outcome (List Record)) : s.SameOutcome o o := by
  cases o with
  | ok records => exact .ok (.refl records)
  | error fault => exact .error fault

theorem SameOutcome.filter {o o' : Outcome (List Record)} (h : s.SameOutcome o o')
    (keep : Record → Bool) : s.SameOutcome (o.map (List.filter keep)) (o'.map (List.filter keep)) := by
  cases h with
  | ok h => exact .ok (h.filter keep)
  | error fault => exact .error fault

theorem SameOutcome.rescue {g : Graph} {a b : Script (List Record)}
    (h : s.SameOutcome (a.run g) (b.run g)) (handler : Fault → Outcome (List Record)) :
    s.SameOutcome ((a.rescue handler).run g) ((b.rescue handler).run g) := by
  rw [Script.run_rescue, Script.run_rescue]
  generalize a.run g = o at *
  generalize b.run g = o' at *
  cases h with
  | ok h => exact .ok h
  | error fault => exact .refl _

end Scope

namespace Evaluator

variable {e : Evaluator} {g : Graph} {s : Scope} {titles : List String} {limit : Int}

/-- The targets whose records come of the outlines of pages. -/
def scanned : List Target := [.blocks, .tasks, .properties, .both]

section

variable (hs : s.pageTitles = some titles) (hne : titles ≠ [])
  (hlimit : ∀ pages, g.pages = .ok pages → (pages.length : Int) ≤ limit)

include hs hne hlimit

theorem sameOutcome_owed {ofTree : Page → List Block → List Record}
    (hname : ∀ p tree, ∀ r ∈ ofTree p tree, r.scopeName = p.displayName)
    (ofListing : List Page → List Record) :
    s.SameOutcome (g.pages.map fun pages => ofListing pages ++ g.owed (e.reach (some s) pages) ofTree)
      (g.pages.map fun pages =>
        ofListing pages ++ g.owed ((e.scanning limit).reach none pages) ofTree) := by
  cases hpages : g.pages with
  | error fault => exact .error fault
  | ok pages =>
    change s.SameOutcome (.ok (_ ++ _)) (.ok (_ ++ _))
    rw [reach_scanning (hlimit pages hpages)]
    exact .ok (.append (.refl _) (Scope.same_owed hs hne hname pages))

variable (hg : g.Forgivable)

include hg

theorem sameOutcome_collectBlocks : s.SameOutcome ((e.collectBlocks (some s)).run g)
    (((e.scanning limit).collectBlocks none).run g) := by
  rw [run_collectBlocks hg, run_collectBlocks hg]
  exact sameOutcome_owed hs hne hlimit (fun _ _ _ ↦ scopeName_of_mem_blockRecords) fun _ ↦ []

theorem sameOutcome_collectTasks : s.SameOutcome ((e.collectTasks (some s)).run g)
    (((e.scanning limit).collectTasks none).run g) := by
  rw [run_collectTasks hg, run_collectTasks hg]
  exact sameOutcome_owed hs hne hlimit (fun _ _ _ ↦ scopeName_of_mem_taskRecords) fun _ ↦ []

theorem sameOutcome_collectProperties : s.SameOutcome ((e.collectProperties (some s)).run g)
    (((e.scanning limit).collectProperties none).run g) := by
  rw [run_collectProperties hg, run_collectProperties hg]
  exact sameOutcome_owed hs hne hlimit (fun _ _ _ ↦ scopeName_of_mem_propertyRecords) _

theorem sameOutcome_collectTarget {target : Target} (htarget : target ∈ scanned) :
    s.SameOutcome ((e.collectTarget target (some s)).run g)
      (((e.scanning limit).collectTarget target none).run g) := by
  simp only [scanned, List.mem_cons, List.not_mem_nil, or_false] at htarget
  rcases htarget with rfl | rfl | rfl | rfl
  · exact sameOutcome_collectBlocks hs hne hlimit hg
  · exact sameOutcome_collectTasks hs hne hlimit hg
  · exact sameOutcome_collectProperties hs hne hlimit hg
  · rw [run_collectBoth hg, run_collectBoth hg]
    exact sameOutcome_owed hs hne hlimit (fun _ _ _ ↦ scopeName_of_mem_blockRecords) _

omit hs hne hlimit in
theorem run_matchBoth (text : String) (scope : Option Scope) :
    (e.matchText text .both scope).run g = g.pages.map fun pages =>
      (pages.map fun p => Record.ofPage p none).filter (fun r => matchesQuery r.name text) ++
        (g.owed (e.reach scope pages) e.blockRecords).filter fun r => matchesQuery r.content text := by
  unfold matchText
  rw [Script.run_bind, run_collectPages]
  cases hpages : g.pages with
  | error fault => rfl
  | ok pages =>
    change (e.collectBlocks scope >>= fun found ↦ pure _).run g = _
    rw [Script.run_bind, run_collectBlocks hg, hpages]
    rfl

theorem sameOutcome_matchText (text : String) {target : Target} (htarget : target ∈ scanned) :
    s.SameOutcome ((e.matchText text target (some s)).run g)
      (((e.scanning limit).matchText text target none).run g) := by
  have hmap (keep : Record → Bool) {a b : Script (List Record)}
      (h : s.SameOutcome (a.run g) (b.run g)) :
      s.SameOutcome ((List.filter keep <$> a).run g) ((List.filter keep <$> b).run g) := by
    rw [Script.run_map, Script.run_map]
    exact h.filter keep
  simp only [scanned, List.mem_cons, List.not_mem_nil, or_false] at htarget
  rcases htarget with rfl | rfl | rfl | rfl
  · exact hmap _ (sameOutcome_collectBlocks hs hne hlimit hg)
  · exact hmap _ (sameOutcome_collectTasks hs hne hlimit hg)
  · exact hmap _ (sameOutcome_collectProperties hs hne hlimit hg)
  · rw [run_matchBoth hg, run_matchBoth hg]
    cases hpages : g.pages with
    | error fault => exact .error fault
    | ok pages =>
      change s.SameOutcome (.ok (_ ++ _)) (.ok (_ ++ _))
      rw [reach_scanning (hlimit pages hpages)]
      exact .ok (.append (.refl _) (.filter
        (Scope.same_owed hs hne (fun _ _ _ ↦ scopeName_of_mem_blockRecords) pages) _))

theorem sameOutcome_collect {target : Target} (htarget : target ∈ scanned) :
    s.SameOutcome ((e.collect target (some s)).run g)
      (((e.scanning limit).collect target none).run g) :=
  (sameOutcome_collectTarget hs hne hlimit hg htarget).rescue _

/-- Only a text that is searched for looks at the scope. -/
theorem sameOutcome_dispatch (text : String) {target : Target} (htarget : target ∈ scanned) :
    s.SameOutcome ((e.dispatch text target (some s)).run g)
      (((e.scanning limit).dispatch text target none).run g) := by
  have hempty : (e.scanning limit).emptyPages = e.emptyPages := rfl
  unfold dispatch
  simp only [starts_scanning, hempty]
  split
  · exact .refl _
  split
  · exact .refl _
  split
  · exact .refl _
  · exact sameOutcome_matchText hs hne hlimit hg text htarget

theorem sameOutcome_atom (strict : Bool) (text : String) {target : Target}
    (htarget : target ∈ scanned) :
    s.SameOutcome ((e.atom target (some s) strict text).run g)
      (((e.scanning limit).atom target none strict text).run g) := by
  unfold atom
  split
  · exact .refl _
  · exact (sameOutcome_dispatch hs hne hlimit hg _ htarget).rescue _

end

end Evaluator

/-! ### Scoped operations -/

namespace Scope

variable {g : Graph} {w w' : World} {s : Scope} {titles : List String} {limit : Int}

/-- Two replies are records of which a scope keeps the same, or one fault. -/
def SameReply (s : Scope) (reply reply' : Outcome Reply) : Prop :=
  ∃ o o', s.SameOutcome o o' ∧ reply = o.map .records ∧ reply' = o'.map .records

/-- On a coherent graph a collection of what is scanned does not fail. -/
theorem collect_told_eq_ok (hg : g.Coherent) (e : Evaluator) {target : Target}
    (htarget : target ∈ Evaluator.scanned) (scope : Option Scope) :
    ∃ records, (e.collect target scope).run g.canonical.told = .ok records := by
  have hlisting : ∃ ofListing : List Page → List Record,
      (e.collectTarget target scope).run g.canonical.told = g.canonical.told.pages.map ofListing := by
    simp only [Evaluator.scanned, List.mem_cons, List.not_mem_nil, or_false] at htarget
    rcases htarget with rfl | rfl | rfl | rfl
    · exact ⟨_, Evaluator.run_collectBlocks hg.forgivable⟩
    · exact ⟨_, Evaluator.run_collectTasks hg.forgivable⟩
    · exact ⟨_, Evaluator.run_collectProperties hg.forgivable⟩
    · exact ⟨_, Evaluator.run_collectBoth hg.forgivable⟩
  obtain ⟨ofListing, hrun⟩ := hlisting
  rw [Evaluator.collect, Script.run_rescue, hrun]
  cases hpages : g.canonical.told.pages with
  | ok pages => exact ⟨ofListing pages, rfl⟩
  | error fault =>
    obtain ⟨message, rfl⟩ := hg.regular_canonical.told_pagesFault hpages
    exact ⟨[], rfl⟩

/-- Whether only the pages of a scope are scanned, or all pages without a scope and without a limit:
the scope keeps the same records, of a collection and of a filter alike. -/
theorem keeps_same (hg : g.Coherent) (hp : w.provider.Serves g) (hp' : w'.provider.Serves g)
    (hw : (w.lore g.canonical).Holds w) (hw' : (w'.lore g.canonical).Holds w')
    (hflights : w.flights = []) (hflights' : w'.flights = [])
    (he : w'.evaluator = w.evaluator.scanning limit)
    (hlimit : ∀ pages, g.pages = .ok pages → (pages.length : Int) ≤ limit)
    (hs : s.pageTitles = some titles) (hne : titles ≠ []) {target : Target}
    (htarget : target ∈ Evaluator.scanned) :
    (Returns w (.collect target (some s)) ∧ Returns w' (.collect target none) ∧
      ∃ records every, s.Same records every ∧
        (∀ reply, MayReturn w (.collect target (some s)) reply → reply = .ok (.records records)) ∧
        ∀ reply, MayReturn w' (.collect target none) reply → reply = .ok (.records every)) ∧
      ∀ text strict,
        Returns w (.atom text target strict (some s)) ∧ Returns w' (.atom text target strict none) ∧
          ∀ reply reply', MayReturn w (.atom text target strict (some s)) reply →
            MayReturn w' (.atom text target strict none) reply' → s.SameReply reply reply' := by
  have htold : ∀ pages, g.canonical.told.pages = .ok pages → (pages.length : Int) ≤ limit :=
    fun pages hpages ↦ hlimit pages (Graph.told_pages_eq_ok.1 hpages)
  refine ⟨?_, fun text strict ↦ ?_⟩
  · obtain ⟨hreturns, hreply⟩ := returns_script hg hp hw hflights (runs_collect target (some s))
      Evaluator.asksOnly_collect
    obtain ⟨hreturns', hreply'⟩ := returns_script hg hp' hw' hflights' (runs_collect target none)
      Evaluator.asksOnly_collect
    have hsame := Evaluator.sameOutcome_collect hs hne htold hg.forgivable (e := w.evaluator) htarget
    obtain ⟨records, hrecords⟩ := collect_told_eq_ok hg w.evaluator htarget (some s)
    obtain ⟨every, hevery⟩ := collect_told_eq_ok hg (w.evaluator.scanning limit) htarget none
    rw [hrecords] at hreply
    rw [he, hevery] at hreply'
    rw [hrecords, hevery] at hsame
    cases hsame with
    | ok h => exact ⟨hreturns, hreturns', records, every, h, hreply, hreply'⟩
  · obtain ⟨hreturns, hreply⟩ := returns_script hg hp hw hflights (runs_atom text target strict _)
      (Evaluator.asksOnly_atom strict text)
    obtain ⟨hreturns', hreply'⟩ := returns_script hg hp' hw' hflights'
      (runs_atom text target strict _) (Evaluator.asksOnly_atom strict text)
    refine ⟨hreturns, hreturns', fun reply reply' h h' ↦ ⟨_, _, ?_, hreply _ h, hreply' _ h'⟩⟩
    rw [he]
    exact Evaluator.sameOutcome_atom hs hne htold hg.forgivable strict text htarget

/-- A scope that names a page by its name in another case. -/
def secondPage : Scope := { pageTitles := some ["B"] }

/-- A fresh world in which some number of pages is looked into when no scope names any. -/
def scanningWorld (w : World) (limit : Int) : World :=
  { w.fresh with settings := { w.settings with blockScanPageLimit := limit } }

theorem holds_scanningWorld (w : World) (limit : Int) (g : Graph) :
    ((scanningWorld w limit).lore g).Holds (scanningWorld w limit) :=
  (scanningWorld w limit).holds_fresh g

theorem serves_scanningWorld {w : World} {g : Graph} (h : w.provider.Serves g) (limit : Int) :
    (scanningWorld w limit).provider.Serves g := h

theorem flights_scanningWorld (w : World) (limit : Int) : (scanningWorld w limit).flights = [] := rfl

theorem evaluator_scanningWorld (w : World) (limit : Int) :
    (scanningWorld w limit).evaluator = w.evaluator.scanning limit := rfl

/-- The second of two pages is looked into alone, or together with the first one. -/
theorem secondPage_keeps_same : ∃ records every, secondPage.Same records every ∧
    (∀ reply, MayReturn (Survey.worldOf Survey.twoPages) (.collect .blocks (some secondPage)) reply →
      reply = .ok (.records records)) ∧
    ∀ reply, MayReturn (scanningWorld (Survey.worldOf Survey.twoPages) 2) (.collect .blocks none)
      reply → reply = .ok (.records every) := by
  have hg : (Survey.graphOf Survey.twoPages).Coherent :=
    Survey.coherent_of_nodup rfl Survey.nodup_twoPages (Survey.forall_twoPages nofun nofun)
  have hp := Survey.serves_worldOf Survey.twoPages
  have hlimit : ∀ pages, (Survey.graphOf Survey.twoPages).pages = .ok pages →
      (pages.length : Int) ≤ 2 := fun pages h ↦ by
    cases h
    decide
  exact (keeps_same hg hp (serves_scanningWorld hp 2) (holds_around ..) (holds_scanningWorld ..) rfl
    (flights_scanningWorld ..) (evaluator_scanningWorld ..) hlimit rfl (by decide) (by decide)).1.2.2

end Scope

end OutlineSearch
