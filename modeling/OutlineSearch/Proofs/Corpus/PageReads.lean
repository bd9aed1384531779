import OutlineSearch.Proofs.Corpus.PageFiles
import OutlineSearch.Proofs.Text.Lowering

/-!
# What the outline of a listed page is read from

The listing of a graph of files shows a page for every page file, and keeps for every name the file
that it found last. The outline of a page is then the one that this file holds, whichever file the
page was listed for. Of two files whose pages have one name, the outline of the first is not reached.
-/

namespace OutlineSearch.GraphFiles

open OutlineSearch.Text OutlineSearch.Outline

variable {g : GraphFiles} {path : String} {page : Page}

/-- A file is loaded as a page. -/
def LoadsAs (g : GraphFiles) (path : String) (page : Page) : Prop :=
  g.loadPage path = .ok (some page)

/-- A file holds an outline, read under the name that a page is shown by. -/
def Holds (g : GraphFiles) (path : String) (page : Page) (blocks : List Block) : Prop :=
  ∃ text modified properties, g.readText path = .ok (text, modified) ∧
    Outline.read g.maxDepth page.displayName text = .ok (properties, blocks)

/-- A file is loaded as a page, and no file behind it is loaded as one of the same name. -/
def LastOfName (g : GraphFiles) (path : String) (page : Page) : Prop :=
  ∃ front back, g.pagePaths = front ++ path :: back ∧ g.LoadsAs path page ∧
    ∀ other ∈ back, ∀ shown, g.LoadsAs other shown → shown.name ≠ page.name

/-! ### The page of a file -/

/-- A file that is loaded as a page is a text that can be read and gives the page. -/
theorem LoadsAs.loaded (h : g.LoadsAs path page) : ∃ text modified properties items,
    g.readText path = .ok (text, modified) ∧
      Outline.items g.maxDepth text = .ok (properties, items) ∧
      pageOf g.maxDepth path text modified = .ok page := by
  rw [LoadsAs, loadPage] at h
  cases htext : g.readText path with
  | error fault => simp [htext] at h
  | ok read =>
    obtain ⟨text, modified⟩ := read
    rw [htext] at h
    cases hpage : pageOf g.maxDepth path text modified with
    | error fault => simp [hpage, Except.map] at h
    | ok loaded =>
      simp only [hpage, Except.map, Except.ok.injEq, Option.some.injEq] at h
      subst h
      cases hitems : Outline.items g.maxDepth text with
      | error fault => simp [pageOf, hitems, bind, Except.bind] at hpage
      | ok parts => exact ⟨text, modified, parts.1, parts.2, rfl, hitems, hpage⟩

/-- The page of a file is named by the lower-case form of the name that it is shown by. -/
theorem LoadsAs.inv (h : g.LoadsAs path page) : ∃ text modified properties items,
    g.readText path = .ok (text, modified) ∧
      Outline.items g.maxDepth text = .ok (properties, items) ∧
      page.name = lowered page.displayName ∧
      page.id = Digest.stableId ["page", page.name] := by
  obtain ⟨text, modified, properties, items, htext, hitems, hpage⟩ := h.loaded
  simp only [pageOf, hitems] at hpage
  obtain rfl := Except.ok.inj hpage
  refine ⟨text, modified, properties, items, htext, hitems, ?_, rfl⟩
  dsimp only [Page.displayName]
  split
  · exact (lowered_lowered _).symm
  · rfl

theorem exists_loadsAs_iff :
    (∃ page, g.LoadsAs path page) ↔ (g.loadPage path).toOption.join.isSome = true := by
  simp only [LoadsAs]
  cases g.loadPage path with
  | error fault => simp [Except.toOption]
  | ok loaded => cases loaded <;> simp [Except.toOption]

/-- A file that is loaded as a page holds an outline. -/
theorem LoadsAs.holds (h : g.LoadsAs path page) (shown : Page) :
    ∃ blocks, g.Holds path shown blocks := by
  obtain ⟨text, modified, properties, items, htext, hitems, -⟩ := h.inv
  refine ⟨blocksUnder shown.displayName none "" 0 items, text, modified, properties, htext, ?_⟩
  rw [Outline.read, hitems]
  rfl

theorem Holds.readOutline {blocks : List Block} (h : g.Holds path page blocks) :
    g.readOutline (some (path, page.displayName)) = .ok blocks := by
  obtain ⟨text, modified, properties, htext, hread⟩ := h
  simp only [GraphFiles.readOutline, htext, hread, bind, Except.bind, pure, Except.pure]

/-! ### What a listing keeps -/

theorem find?_know_self (known : List (String × String × String)) (path : String) (page : Page) :
    (know known (path, page)).find? (·.1 == page.name) =
      some (page.name, path, page.displayName) := by
  simp [know]

theorem find?_know_of_ne (known : List (String × String × String)) {entry : String × Page}
    {name : String} (h : entry.2.name ≠ name) :
    (know known entry).find? (·.1 == name) = known.find? (·.1 == name) := by
  rw [know, List.find?_cons_of_neg (by simpa using h), List.find?_filter]
  congr 1
  funext e
  by_cases he : e.1 = name
  · simp [he, Ne.symm h]
  · simp [he]

theorem find?_foldl_know_of_ne (known : List (String × String × String))
    {found : List (String × Page)} {name : String} (h : ∀ entry ∈ found, entry.2.name ≠ name) :
    (found.foldl know known).find? (·.1 == name) = known.find? (·.1 == name) := by
  induction found generalizing known with
  | nil => rfl
  | cons entry found ih =>
    obtain ⟨hentry, hfound⟩ := List.forall_mem_cons.1 h
    rw [List.foldl_cons, ih _ hfound, find?_know_of_ne _ hentry]

/-- Of the pages of one name the last one found is kept. -/
theorem find?_foldl_know_last (front : List (String × Page)) (path : String) (page : Page)
    {back : List (String × Page)} (h : ∀ entry ∈ back, entry.2.name ≠ page.name) :
    ((front ++ (path, page) :: back).foldl know []).find? (·.1 == page.name) =
      some (page.name, path, page.displayName) := by
  rw [List.foldl_append, List.foldl_cons, find?_foldl_know_of_ne _ h, find?_know_self]

/-- Files that are all loaded as pages are found with their pages. -/
theorem exists_loadPages {paths : List String} (h : ∀ path ∈ paths, ∃ page, g.LoadsAs path page) :
    ∃ pages, List.Forall₂ g.LoadsAs paths pages ∧ g.loadPages paths = .ok (paths.zip pages) := by
  induction paths with
  | nil => exact ⟨[], .nil, rfl⟩
  | cons path paths ih =>
    obtain ⟨⟨page, hpage⟩, hpaths⟩ := List.forall_mem_cons.1 h
    obtain ⟨pages, hpages, hload⟩ := ih hpaths
    refine ⟨page :: pages, .cons hpage hpages, ?_⟩
    rw [LoadsAs] at hpage
    rw [loadPages, hpage, hload]
    rfl

/-- What a listing shows and keeps when every page file is loaded as a page. -/
theorem listPages_of_loads (h : ∀ path ∈ g.pagePaths, ∃ page, g.LoadsAs path page) :
    ∃ pages, List.Forall₂ g.LoadsAs g.pagePaths pages ∧
      g.listPages = (.ok pages, { g with known := (g.pagePaths.zip pages).foldl know [] }) := by
  obtain ⟨pages, hpages, hload⟩ := exists_loadPages h
  refine ⟨pages, hpages, ?_⟩
  simp only [listPages, hload, List.map_snd_zip hpages.length_eq.ge]

/-- A listing keeps the file that it found last for a name. -/
theorem LastOfName.find?_known (h : ∀ path ∈ g.pagePaths, ∃ page, g.LoadsAs path page)
    (hlast : g.LastOfName path page) :
    g.listPages.2.known.find? (·.1 == page.name) =
      some (page.name, path, page.displayName) := by
  obtain ⟨front, back, hpaths, hpage, hback⟩ := hlast
  rw [hpaths, List.forall_mem_append, List.forall_mem_cons] at h
  obtain ⟨before, -, hbefore⟩ := exists_loadPages h.1
  obtain ⟨behind, hbehind, hload⟩ := exists_loadPages h.2.2
  have hfound : g.loadPages g.pagePaths =
      .ok (front.zip before ++ (path, page) :: back.zip behind) := by
    rw [LoadsAs] at hpage
    rw [hpaths, loadPages_append, loadPages, hbefore, hpage, hload]
    rfl
  have hnames : ∀ other ∈ back.zip behind, other.2.name ≠ page.name := by
    intro other hother
    have hloaded := (List.forall₂_iff_zip.1 hbehind).2 hother
    exact hback other.1 (List.of_mem_zip hother).1 other.2 hloaded
  simp only [listPages, hfound]
  exact find?_foldl_know_last (front.zip before) path page hnames

/-- Among files with some property there is a last one. -/
theorem exists_last {α : Type} {P : α → Prop} {l : List α} (h : ∃ a ∈ l, P a) :
    ∃ front a back, l = front ++ a :: back ∧ P a ∧ ∀ b ∈ back, ¬P b := by
  induction l with
  | nil => obtain ⟨a, ha, -⟩ := h; cases ha
  | cons b l ih =>
    by_cases hl : ∃ a ∈ l, P a
    · obtain ⟨front, a, back, rfl, ha, hback⟩ := ih hl
      exact ⟨b :: front, a, back, rfl, ha, hback⟩
    · obtain ⟨a, ha, hP⟩ := h
      rcases List.mem_cons.1 ha with rfl | ha
      · exact ⟨[], a, l, rfl, hP, fun b hb hPb ↦ hl ⟨b, hb, hPb⟩⟩
      · exact absurd ⟨a, ha, hP⟩ hl

/-- A page whose name a listing found has a last file of its name. -/
theorem exists_lastOfName (hmem : path ∈ g.pagePaths) (h : g.LoadsAs path page) :
    ∃ last shown, g.LastOfName last shown ∧ shown.name = page.name := by
  let OfName (other : String) : Prop := ∃ shown, g.LoadsAs other shown ∧ shown.name = page.name
  have hname : ∃ other ∈ g.pagePaths, OfName other := ⟨path, hmem, page, h, rfl⟩
  obtain ⟨front, last, back, hpaths, ⟨shown, hshown, heq⟩, hback⟩ := exists_last hname
  refine ⟨last, shown, ⟨front, back, hpaths, hshown, fun other hother p hp hne ↦ ?_⟩, heq⟩
  exact hback other hother ⟨p, hp, hne.trans heq⟩

/-- A name has one last file. -/
theorem LastOfName.unique (h : ∀ path ∈ g.pagePaths, ∃ page, g.LoadsAs path page)
    (hpath : g.LastOfName path page) {last : String} {shown : Page}
    (hlast : g.LastOfName last shown) (hname : shown.name = page.name) :
    last = path ∧ shown = page := by
  have hfind := hlast.find?_known h
  rw [hname, hpath.find?_known h] at hfind
  obtain rfl : path = last := (Prod.mk.inj (Prod.mk.inj (Option.some.inj hfind)).2).1
  obtain ⟨-, -, -, hload, -⟩ := hpath
  obtain ⟨-, -, -, hload', -⟩ := hlast
  exact ⟨rfl, Option.some.inj (Except.ok.inj (hload'.symm.trans hload))⟩

/-! ### The outline of a listed page -/

/-- After a listing the outline of a name is read from the last file of the name. -/
theorem LastOfName.outline (h : ∀ path ∈ g.pagePaths, ∃ page, g.LoadsAs path page)
    (hlast : g.LastOfName path page) {blocks : List Block} (hblocks : g.Holds path page blocks) :
    g.listPages.2.outline page.name = (.ok blocks, g.listPages.2) ∧
      (g.known = [] → g.outline page.name = (.ok blocks, g.listPages.2)) := by
  have hname : lowered page.name = page.name := by
    obtain ⟨-, -, -, hload, -⟩ := hlast
    obtain ⟨-, -, -, -, -, -, hname, -⟩ := hload.inv
    rw [hname, lowered_lowered]
  have hentry : entry? g.listPages.2 page.name = some (path, page.displayName) := by
    unfold entry?
    rw [hname, hlast.find?_known h]
    rfl
  obtain ⟨pages, -, hlist⟩ := listPages_of_loads h
  have hread : g.listPages.2.readOutline (some (path, page.displayName)) = .ok blocks := by
    rw [hlist]
    exact hblocks.readOutline
  refine ⟨?_, fun hfresh ↦ ?_⟩
  · rw [GraphFiles.outline, hentry]
    simp only [hread]
  · rw [GraphFiles.outline, entry?, hfresh]
    rw [hlist] at hentry hread ⊢
    simp only [List.find?_nil, Option.map_none, hentry, hread]

/-- A graph whose page files are all loaded as pages is listed with a page for every file. The outline
of a listed page, whether it is read behind the listing or in a graph that nothing is known of, is the
one that the last file of its name holds. -/
theorem outline_of_listed (h : ∀ path ∈ g.pagePaths, ∃ page, g.LoadsAs path page) :
    (∃ pages, g.listPages.1 = .ok pages ∧ List.Forall₂ g.LoadsAs g.pagePaths pages) ∧
      ∀ path ∈ g.pagePaths, ∀ page, g.LoadsAs path page →
        ∃ last shown blocks, g.LastOfName last shown ∧ shown.name = page.name ∧
          (g.LastOfName path page → last = path ∧ shown = page) ∧
          g.Holds last shown blocks ∧
          g.listPages.2.outline page.name = (.ok blocks, g.listPages.2) ∧
          (g.known = [] → g.outline page.name = (.ok blocks, g.listPages.2)) := by
  refine ⟨?_, fun path hmem page hpage ↦ ?_⟩
  · obtain ⟨pages, hpages, hlist⟩ := listPages_of_loads h
    exact ⟨pages, by rw [hlist], hpages⟩
  · obtain ⟨last, shown, hlast, hname⟩ := exists_lastOfName hmem hpage
    obtain ⟨-, -, -, hload, -⟩ := id hlast
    obtain ⟨blocks, hblocks⟩ := hload.holds shown
    have houtline := hlast.outline h hblocks
    rw [hname] at houtline
    exact ⟨last, shown, blocks, hlast, hname, fun hpath ↦ hpath.unique h hlast hname, hblocks,
      houtline⟩

/-! ### Two files of one name -/

/-- A page file that is named by a date as the journal file of that date is. -/
def twoDays : GraphFiles :=
  { nodes := [("pages/2024-01-15.md", .file "- one".toUTF8.toList (.ofInt 0)),
      ("journals/2024_01_15.md", .file "- two".toUTF8.toList (.ofInt 0))] }

/-- The texts of the blocks of an outline. -/
def texts (outcome : Outcome (List Block)) : Option (List String) :=
  outcome.toOption.map (·.map Block.content)

/-- Both files are loaded as pages, with one name. The first file holds another outline than the one
that is read for the name. -/
theorem twoDays_read : "pages/2024-01-15.md" ∈ twoDays.pagePaths ∧
    (∀ path ∈ twoDays.pagePaths, (twoDays.loadPage path).toOption.join.isSome = true) ∧
    (twoDays.loadPage "pages/2024-01-15.md").toOption.join.map
      (fun page => (page.name, page.displayName)) = some ("2024-01-15", "2024-01-15") ∧
    texts (twoDays.readOutline (some ("pages/2024-01-15.md", "2024-01-15"))) = some ["one"] ∧
    texts (twoDays.listPages.2.outline "2024-01-15").1 = some ["two"] := by
  decide +kernel

theorem twoDays_loads (path : String) (hpath : path ∈ twoDays.pagePaths) :
    ∃ page, twoDays.LoadsAs path page :=
  exists_loadsAs_iff.2 (twoDays_read.2.1 path hpath)

/-- The page of the first file has the name of the second one. -/
theorem twoDays_page : ∃ page, twoDays.LoadsAs "pages/2024-01-15.md" page ∧
    page.name = "2024-01-15" ∧ page.displayName = "2024-01-15" := by
  obtain ⟨hmem, -, hnames, -⟩ := twoDays_read
  obtain ⟨page, hpage⟩ := twoDays_loads "pages/2024-01-15.md" hmem
  rw [show twoDays.loadPage _ = .ok (some page) from hpage] at hnames
  exact ⟨page, hpage, Prod.mk.inj (Option.some.inj hnames)⟩

/-- The page of the first file is shown with an outline that its last file holds. -/
theorem twoDays_outline_of_listed : (∀ path ∈ twoDays.pagePaths, ∃ page, twoDays.LoadsAs path page) ∧
    ∃ page last shown blocks, twoDays.LoadsAs "pages/2024-01-15.md" page ∧
      twoDays.LastOfName last shown ∧ shown.name = page.name ∧ twoDays.Holds last shown blocks ∧
      (twoDays.outline page.name).1 = .ok blocks := by
  obtain ⟨page, hpage, -, -⟩ := twoDays_page
  obtain ⟨last, shown, blocks, hlast, hname, -, hblocks, -, houtline⟩ :=
    (outline_of_listed twoDays_loads).2 "pages/2024-01-15.md" twoDays_read.1 page hpage
  refine ⟨twoDays_loads, page, last, shown, blocks, hpage, hlast, hname, hblocks, ?_⟩
  rw [houtline rfl]

/-- The outline that the first of two files of one name holds is not the outline of its page. -/
theorem not_outline_of_listed_twoDays :
    ¬∀ (g : GraphFiles), (∀ path ∈ g.pagePaths, ∃ page, g.LoadsAs path page) →
      ∀ path ∈ g.pagePaths, ∀ page, g.LoadsAs path page →
        ∃ blocks, g.Holds path page blocks ∧ (g.listPages.2.outline page.name).1 = .ok blocks := by
  intro hclaim
  obtain ⟨page, hpage, hname, hshown⟩ := twoDays_page
  obtain ⟨hmem, -, -, hone, htwo⟩ := twoDays_read
  obtain ⟨blocks, hblocks, houtline⟩ :=
    hclaim twoDays twoDays_loads "pages/2024-01-15.md" hmem page hpage
  rw [← hname, houtline] at htwo
  rw [← hshown, hblocks.readOutline, htwo] at hone
  exact absurd hone (by decide)

end OutlineSearch.GraphFiles
