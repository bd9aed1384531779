import OutlineSearch.Proofs.Corpus.PageReads
import OutlineSearch.Proofs.Outline.Places
import OutlineSearch.Proofs.Search.Algebra
import OutlineSearch.Proofs.Search.Shape
import OutlineSearch.Record.Build

/-!
# What identities tell apart

Pages and blocks that have no identity of their own get one that is made from a name: the name of a
page behind `page/`, or the place of a block behind the name of its page and a slash. These names are
distinct except for one case: a block of a page that is called `page`, or lies in the namespace of
that name, is named like the page that its place spells. Where no page is named like a block, and
the digest tells the names in use apart, identities tell pages and blocks apart, and so do the sets
of records that are made by them.
-/

namespace OutlineSearch

open OutlineSearch.Text OutlineSearch.Outline OutlineSearch.Search

/-- The identity that is made from a name. -/
def Digest.identityOf (name : String) : String := groupedHex (identityBytes name)

/-- A page or a block, by what leads to it. -/
inductive Thing where
  | page (name : String)
  | block (page position : String)
deriving DecidableEq

namespace Thing

/-- The name that the identity of a page or a block is made from. -/
def spelling : Thing → String
  | page name => "page" ++ "/" ++ name
  | block name position => name ++ "/" ++ position

/-- The identity of a page or a block that has none of its own. -/
def id (t : Thing) : String := Digest.identityOf t.spelling

theorem toList_spelling_page (name : String) :
    (page name).spelling.toList = "page".toList ++ '/' :: name.toList := by
  simp [spelling]

theorem toList_spelling_block (name position : String) :
    (block name position).spelling.toList = name.toList ++ '/' :: position.toList := by
  simp [spelling]

/-- The identities of a page and of a block are made from one name when the block is of a page that is
called `page` or lies in the namespace of that name. -/
theorem spelling_page_eq_block_iff (name page position : String) :
    (Thing.page name).spelling = (Thing.block page position).spelling ↔
      (page = "page" ∧ name = position) ∨
        ∃ rest, page = "page/" ++ rest ∧ name = rest ++ "/" ++ position := by
  constructor
  · intro h
    have hchars := congrArg String.toList h
    rw [toList_spelling_page, toList_spelling_block] at hchars
    rcases List.append_eq_append_iff.1 hchars with ⟨more, hpage, hrest⟩ | ⟨more, hpage, hrest⟩
    · cases more with
      | nil =>
        rw [List.append_nil] at hpage
        exact .inl ⟨String.toList_inj.1 hpage, String.toList_inj.1 (List.cons.inj hrest).2⟩
      | cons c rest =>
        obtain ⟨rfl, hname⟩ := List.cons.inj hrest
        refine .inr ⟨String.ofList rest, String.toList_inj.1 ?_, String.toList_inj.1 ?_⟩
        · simp [hpage]
        · simp [hname]
    · cases more with
      | nil =>
        rw [List.append_nil] at hpage
        refine .inl ⟨String.toList_inj.1 hpage.symm, String.toList_inj.1 ?_⟩
        exact (List.cons.inj hrest).2.symm
      | cons c rest =>
        -- No slash stands in the word itself.
        obtain ⟨rfl, -⟩ := List.cons.inj hrest
        have hslash : '/' ∈ "page".toList := by
          rw [hpage]
          exact List.mem_append_right _ (.head _)
        exact absurd hslash (by decide)
  · rintro (⟨rfl, rfl⟩ | ⟨rest, rfl, rfl⟩)
    · rfl
    · simp [spelling, String.append_assoc]

end Thing

/-! ### Pages with their outlines -/

/-- Pages with their outlines. -/
abbrev Shown := List (Page × List Block)

namespace Shown

/-- The pages and the blocks of some pages with their outlines. -/
def things (shown : Shown) : List Thing :=
  (shown.map fun p => .page p.1.name) ++
    shown.flatMap fun p => (Block.placed p.2).map fun e => .block p.1.name e.1

/-- The identities of the pages and of all their blocks. -/
def ids (shown : Shown) : List String :=
  (shown.map fun p => p.1.id) ++ shown.flatMap fun p => (Block.placed p.2).map fun e => e.2.uuid

/-- A page is named like a block: the block is of a page that is called `page`, and its place is the
name of the other page, or it is of a page in the namespace of that name. -/
def Clash (shown : Shown) : Prop :=
  ∃ p ∈ shown, ∃ q ∈ shown, ∃ e ∈ Block.placed q.2,
    (q.1.name = "page" ∧ p.1.name = e.1) ∨
      ∃ rest, q.1.name = "page/" ++ rest ∧ p.1.name = rest ++ "/" ++ e.1

/-- The digest gives different names in use different identities. -/
def Discerned (shown : Shown) : Prop :=
  ∀ t ∈ shown.things, ∀ u ∈ shown.things, t.id = u.id → t.spelling = u.spelling

/-- Pages and blocks have the identities that are made from what leads to them. -/
structure Named (shown : Shown) : Prop where
  page : ∀ p ∈ shown, p.1.id = (Thing.page p.1.name).id
  block : ∀ p ∈ shown, ∀ e ∈ Block.placed p.2, e.2.uuid = (Thing.block p.1.name e.1).id

variable {shown : Shown}

theorem page_mem_things {p : Page × List Block} (hp : p ∈ shown) :
    Thing.page p.1.name ∈ shown.things :=
  List.mem_append_left _ (List.mem_map_of_mem hp)

theorem block_mem_things {p : Page × List Block} (hp : p ∈ shown) {e : String × Block}
    (he : e ∈ Block.placed p.2) : Thing.block p.1.name e.1 ∈ shown.things :=
  List.mem_append_right _ (List.mem_flatMap.2 ⟨p, hp, List.mem_map_of_mem he⟩)

theorem mem_things {t : Thing} (h : t ∈ shown.things) :
    (∃ p ∈ shown, t = .page p.1.name) ∨
      ∃ p ∈ shown, ∃ e ∈ Block.placed p.2, t = .block p.1.name e.1 := by
  rcases List.mem_append.1 h with h | h
  · obtain ⟨p, hp, rfl⟩ := List.mem_map.1 h
    exact .inl ⟨p, hp, rfl⟩
  · obtain ⟨p, hp, h⟩ := List.mem_flatMap.1 h
    obtain ⟨e, he, rfl⟩ := List.mem_map.1 h
    exact .inr ⟨p, hp, e, he, rfl⟩

theorem Named.ids_eq (h : Named shown) : shown.ids = shown.things.map Thing.id := by
  have hpages : (shown.map fun p => p.1.id) = shown.map fun p => (Thing.page p.1.name).id :=
    List.map_congr_left h.page
  have hblocks : (shown.flatMap fun p => (Block.placed p.2).map fun e => e.2.uuid) =
      shown.flatMap fun p => (Block.placed p.2).map fun e => (Thing.block p.1.name e.1).id :=
    List.flatMap_congr fun p hp ↦ List.map_congr_left (h.block p hp)
  rw [ids, things, List.map_append, List.map_map, List.map_flatMap, hpages, hblocks]
  simp only [List.map_map, Function.comp_def]

/-- Pages of different names and their blocks are different things. -/
theorem nodup_things (h : (shown.map fun p => p.1.name).Nodup) : shown.things.Nodup := by
  rw [things, List.nodup_append]
  refine ⟨?_, ?_, ?_⟩
  · have hpages := h.map (f := Thing.page) fun _ _ ↦ Thing.page.inj
    rwa [List.map_map] at hpages
  · refine List.nodup_flatMap.2 ⟨fun p _ ↦ ?_, ?_⟩
    · have hplaces := (nodup_placedUnder "" 0 p.2).map (f := Thing.block p.1.name)
        fun _ _ h ↦ (Thing.block.inj h).2
      rwa [List.map_map] at hplaces
    · refine (List.pairwise_map.1 h).imp fun hne t ht ht' ↦ ?_
      obtain ⟨e, -, rfl⟩ := List.mem_map.1 ht
      obtain ⟨e', -, heq⟩ := List.mem_map.1 ht'
      exact hne (Thing.block.inj heq).1.symm
  · intro t ht u hu
    obtain ⟨p, -, rfl⟩ := List.mem_map.1 ht
    obtain ⟨q, -, hu⟩ := List.mem_flatMap.1 hu
    obtain ⟨e, -, rfl⟩ := List.mem_map.1 hu
    exact Thing.noConfusion

/-- Where no block is named like a page, things of one name are the same. -/
theorem eq_of_spelling_eq (hclash : ¬Clash shown) {t u : Thing} (ht : t ∈ shown.things)
    (hu : u ∈ shown.things) (h : t.spelling = u.spelling) : t = u := by
  have hchars := congrArg String.toList h
  rcases mem_things ht with ⟨p, hp, rfl⟩ | ⟨p, hp, e, he, rfl⟩
  · rcases mem_things hu with ⟨q, -, rfl⟩ | ⟨q, hq, e', he', rfl⟩
    · rw [Thing.toList_spelling_page, Thing.toList_spelling_page] at hchars
      have hname := (List.cons.inj (List.append_cancel_left hchars)).2
      rw [String.toList_inj.1 hname]
    · exact absurd ⟨p, hp, q, hq, e', he', (Thing.spelling_page_eq_block_iff ..).1 h⟩ hclash
  · rcases mem_things hu with ⟨q, hq, rfl⟩ | ⟨q, -, e', he', rfl⟩
    · exact absurd ⟨q, hq, p, hp, e, he, (Thing.spelling_page_eq_block_iff ..).1 h.symm⟩ hclash
    · rw [Thing.toList_spelling_block, Thing.toList_spelling_block] at hchars
      obtain ⟨hname, hplace⟩ := cut_last_inj
        (slash_not_mem_placedUnder "" 0 List.not_mem_nil p.2 e he)
        (slash_not_mem_placedUnder "" 0 List.not_mem_nil q.2 e' he') hchars
      rw [String.toList_inj.1 hname, String.toList_inj.1 hplace]

/-- A page that is named like a block is another thing with the same name. -/
theorem Clash.exists_spelling_eq (h : Clash shown) :
    ∃ t ∈ shown.things, ∃ u ∈ shown.things, t ≠ u ∧ t.spelling = u.spelling := by
  obtain ⟨p, hp, q, hq, e, he, hclash⟩ := h
  exact ⟨.page p.1.name, page_mem_things hp, .block q.1.name e.1, block_mem_things hq he,
    Thing.noConfusion, (Thing.spelling_page_eq_block_iff ..).2 hclash⟩

/-- Identities are distinct where no block is named like a page, and only there. -/
theorem nodup_ids_iff (hnamed : Named shown) (hnames : (shown.map fun p => p.1.name).Nodup)
    (hdiscerned : Discerned shown) : shown.ids.Nodup ↔ ¬Clash shown := by
  rw [hnamed.ids_eq]
  constructor
  · intro hnodup hclash
    obtain ⟨t, ht, u, hu, hne, hspelling⟩ := hclash.exists_spelling_eq
    have hid : t.id = u.id := congrArg Digest.identityOf hspelling
    exact hne (List.inj_on_of_nodup_map hnodup ht hu hid)
  · intro hclash
    refine (nodup_things hnames).map_on fun t ht u hu hid ↦ ?_
    exact eq_of_spelling_eq hclash ht hu (hdiscerned t ht u hu hid)

/-! ### Records of pages and blocks -/

/-- A record is made of a page or a block, as one of the kinds of records that it can become. -/
inductive RecordOf (shown : Shown) : Record → Thing → Prop where
  | page {p : Page × List Block} (hp : p ∈ shown) (reason : Option String) :
      RecordOf shown (Record.ofPage p.1 reason) (.page p.1.name)
  | template {p : Page × List Block} (hp : p ∈ shown) (maxDepth : Int) (blocks : List Block) :
      RecordOf shown (Record.ofTemplate maxDepth p.1 blocks) (.page p.1.name)
  | block {p : Page × List Block} (hp : p ∈ shown) {e : String × Block}
      (he : e ∈ Block.placed p.2) (page : String) :
      RecordOf shown (Record.ofBlock e.2 page) (.block p.1.name e.1)
  | task {p : Page × List Block} (hp : p ∈ shown) {e : String × Block}
      (he : e ∈ Block.placed p.2) {page : String} {r : Record}
      (hr : Record.ofTask? e.2 page = some r) : RecordOf shown r (.block p.1.name e.1)

/-- Some records have one that is made of a page or a block. -/
def Has (shown : Shown) (records : List Record) (t : Thing) : Prop :=
  ∃ r ∈ records, RecordOf shown r t

theorem RecordOf.mem_things {r : Record} {t : Thing} (h : RecordOf shown r t) :
    t ∈ shown.things := by
  cases h with
  | page hp | template hp => exact page_mem_things hp
  | block hp he | task hp he => exact block_mem_things hp he

/-- A record has the identity of what it is made of. -/
theorem RecordOf.id_eq (hnamed : Named shown) {r : Record} {t : Thing} (h : RecordOf shown r t) :
    r.id = t.id := by
  cases h with
  | page hp | template hp => exact hnamed.page _ hp
  | block hp he => exact hnamed.block _ hp _ he
  | task hp he hr =>
    obtain ⟨-, -, rfl⟩ := Option.map_eq_some_iff.1 hr
    exact hnamed.block _ hp _ he

/-- Where identities are distinct, sets of records have a record of a thing when they have its
identity. -/
theorem has_iff (hnamed : Named shown) (hnodup : shown.ids.Nodup) {records : List Record}
    (hrecords : ∀ r ∈ records, ∃ t, RecordOf shown r t) {t : Thing} (ht : t ∈ shown.things) :
    Has shown records t ↔ t.id ∈ records.map Record.id := by
  rw [hnamed.ids_eq] at hnodup
  constructor
  · rintro ⟨r, hr, hof⟩
    rw [← hof.id_eq hnamed]
    exact List.mem_map_of_mem hr
  · intro h
    obtain ⟨r, hr, hid⟩ := List.mem_map.1 h
    obtain ⟨u, hu⟩ := hrecords r hr
    obtain rfl : u = t :=
      List.inj_on_of_nodup_map hnodup hu.mem_things ht ((hu.id_eq hnamed).symm.trans hid)
    exact ⟨r, hr, hu⟩

/-- What is in a union is in one of its sets. -/
theorem mem_of_mem_union {sets : List (List Record)} {r : Record} (h : r ∈ union sets) :
    r ∈ sets.flatten :=
  List.mem_of_find?_eq_some ((firstSeen_union sets).first r h)

/-- What is in an intersection is in one of its sets. -/
theorem mem_of_mem_intersect {sets : List (List Record)} {r : Record} (h : r ∈ intersect sets) :
    ∃ records ∈ sets, r ∈ records := by
  cases sets with
  | nil => cases h
  | cons first others => exact ⟨first, .head _, (List.mem_filter.1 h).1⟩

/-- A union has a record of what one of its sets has one of, and an intersection a record of what all
of its sets have one of. -/
def Separates (shown : Shown) : Prop :=
  ∀ sets : List (List Record), (∀ records ∈ sets, ∀ r ∈ records, ∃ t, RecordOf shown r t) →
    ∀ t, (Has shown (union sets) t ↔ ∃ records ∈ sets, Has shown records t) ∧
      (Has shown (intersect sets) t ↔ sets ≠ [] ∧ ∀ records ∈ sets, Has shown records t)

/-- Where identities are distinct, unions and intersections keep pages and blocks apart. -/
theorem separates (hnamed : Named shown) (hnodup : shown.ids.Nodup) : Separates shown := by
  intro sets hsets t
  by_cases ht : t ∈ shown.things
  · have hunion : ∀ r ∈ union sets, ∃ t, RecordOf shown r t := by
      intro r hr
      obtain ⟨records, hrecords, hmem⟩ := List.mem_flatten.1 (mem_of_mem_union hr)
      exact hsets records hrecords r hmem
    have hintersect : ∀ r ∈ intersect sets, ∃ t, RecordOf shown r t := by
      intro r hr
      obtain ⟨records, hrecords, hmem⟩ := mem_of_mem_intersect hr
      exact hsets records hrecords r hmem
    have hset : ∀ records ∈ sets, Has shown records t ↔ t.id ∈ records.map Record.id :=
      fun records hrecords ↦ has_iff hnamed hnodup (hsets records hrecords) ht
    rw [has_iff hnamed hnodup hunion ht, has_iff hnamed hnodup hintersect ht, mem_ids_union,
      mem_ids_intersect]
    refine ⟨?_, and_congr_right' (forall₂_congr fun records hrecords ↦ (hset records hrecords).symm)⟩
    exact exists_congr fun records ↦ and_congr_right fun hrecords ↦ (hset records hrecords).symm
  · have hnone (records : List Record) : ¬Has shown records t := fun ⟨_, _, hof⟩ ↦ ht hof.mem_things
    simp only [hnone, and_false, exists_false, false_iff, true_and]
    rintro ⟨hsome, hall⟩
    obtain ⟨records, hrecords⟩ := List.exists_mem_of_ne_nil sets hsome
    exact hall records hrecords

end Shown

/-! ### What a graph of files shows -/

namespace GraphFiles

variable {g : GraphFiles}

/-- What is had from a graph: its pages, each with the outline that is read for its name. -/
structure Shows (g : GraphFiles) (shown : Shown) : Prop where
  listed : g.listPages.1 = .ok (shown.map (·.1))
  read : ∀ p ∈ shown, g.listPages.2.outline p.1.name = (.ok p.2, g.listPages.2)

/-- The nodes that a file holds; one that cannot be read holds none. -/
def itemsAt (g : GraphFiles) (path : String) : List Item :=
  match g.readText path with
  | .error _ => []
  | .ok (text, _) =>
    match Outline.items g.maxDepth text with
    | .error _ => []
    | .ok (_, items) => items

/-- No node of a file of the graph has an identity of its own. -/
def WithoutIds (g : GraphFiles) : Prop :=
  ∀ path ∈ g.pagePaths, ∀ x ∈ g.itemsAt path, x.properties.get? "id" = none

instance (g : GraphFiles) : Decidable g.WithoutIds := inferInstanceAs (Decidable (∀ _ ∈ _, _))

theorem exists_loadsAs_of_mem {paths : List String} {pages : List Page}
    (h : List.Forall₂ g.LoadsAs paths pages) {path : String} (hpath : path ∈ paths) :
    ∃ page ∈ pages, g.LoadsAs path page := by
  induction h with
  | nil => cases hpath
  | @cons other page paths pages hpage _ ih =>
    rcases List.mem_cons.1 hpath with rfl | hpath
    · exact ⟨page, .head _, hpage⟩
    · obtain ⟨found, hfound, hloads⟩ := ih hpath
      exact ⟨found, .tail _ hfound, hloads⟩

theorem LoadsAs.eq {path : String} {page other : Page} (h : g.LoadsAs path page)
    (hother : g.LoadsAs path other) : page = other :=
  Option.some.inj (Except.ok.inj (h.symm.trans hother))

/-- Where some pages have different names, no file behind the one of a page has its name. -/
theorem exists_last_of_nodup {paths : List String} {pages : List Page}
    (h : List.Forall₂ g.LoadsAs paths pages) (hnames : (pages.map Page.name).Nodup) {page : Page}
    (hpage : page ∈ pages) : ∃ front path back, paths = front ++ path :: back ∧
      g.LoadsAs path page ∧ ∀ other ∈ back, ∀ found, g.LoadsAs other found →
        found.name ≠ page.name := by
  induction h with
  | nil => cases hpage
  | @cons path first paths pages hfirst hrest ih =>
    rw [List.map_cons, List.nodup_cons] at hnames
    rcases List.mem_cons.1 hpage with rfl | hpage
    · refine ⟨[], path, paths, rfl, hfirst, fun other hother found hfound heq ↦ ?_⟩
      obtain ⟨listed, hlisted, hloads⟩ := exists_loadsAs_of_mem hrest hother
      rw [← heq, hfound.eq hloads] at hnames
      exact hnames.1 (List.mem_map_of_mem hlisted)
    · obtain ⟨front, last, back, rfl, hlast⟩ := ih hnames.2 hpage
      exact ⟨path :: front, last, back, rfl, hlast⟩

/-- The identities of a page without identities of its own, and of the blocks of its outline. -/
theorem LastOfName.named (hids : g.WithoutIds) {path : String} {page : Page}
    (h : g.LastOfName path page) {blocks : List Block} (hblocks : g.Holds path page blocks) :
    page.id = (Thing.page page.name).id ∧
      ∀ e ∈ Block.placed blocks, e.2.uuid = (Thing.block page.name e.1).id := by
  obtain ⟨front, back, hpaths, hload, -⟩ := h
  obtain ⟨text, modified, properties, items, htext, hitems, hname, hid⟩ := hload.inv
  refine ⟨hid, ?_⟩
  obtain ⟨text', modified', properties', htext', hread⟩ := hblocks
  obtain ⟨rfl, rfl⟩ := Prod.mk.inj (Except.ok.inj (htext.symm.trans htext'))
  have hmem : path ∈ g.pagePaths := by
    rw [hpaths]
    exact List.mem_append_right _ (.head _)
  have hown := hids path hmem
  simp only [itemsAt, htext, hitems] at hown
  rw [Outline.read, hitems] at hread
  obtain ⟨-, rfl⟩ := Prod.mk.inj (Except.ok.inj hread)
  rw [hname]
  exact uuid_of_mem_placedUnder page.displayName none "" 0 items hown

theorem exists_shown {P : Page → List Block → Prop} {pages : List Page}
    (h : ∀ page ∈ pages, ∃ blocks, P page blocks) :
    ∃ shown : Shown, shown.map (·.1) = pages ∧ ∀ p ∈ shown, P p.1 p.2 := by
  induction pages with
  | nil => exact ⟨[], rfl, List.forall_mem_nil _⟩
  | cons page pages ih =>
    obtain ⟨⟨blocks, hblocks⟩, hpages⟩ := List.forall_mem_cons.1 h
    obtain ⟨shown, rfl, hshown⟩ := ih hpages
    exact ⟨(page, blocks) :: shown, rfl, List.forall_mem_cons.2 ⟨hblocks, hshown⟩⟩

/-- A graph whose page files are all loaded as pages of different names, none with identities of its
own, shows every page with an outline, and all under the identities made from what leads to them. -/
theorem exists_shows (hloads : ∀ path ∈ g.pagePaths, ∃ page, g.LoadsAs path page)
    (hids : g.WithoutIds)
    (hnames : ∀ pages, g.listPages.1 = .ok pages → (pages.map Page.name).Nodup) :
    ∃ shown, g.Shows shown ∧ shown.Named ∧ (shown.map fun p => p.1.name).Nodup := by
  obtain ⟨pages, hpages, hlist⟩ := listPages_of_loads hloads
  have hlisted : g.listPages.1 = .ok pages := by rw [hlist]
  have hnodup := hnames pages hlisted
  let Read (page : Page) (blocks : List Block) : Prop :=
    g.listPages.2.outline page.name = (.ok blocks, g.listPages.2) ∧
      page.id = (Thing.page page.name).id ∧
      ∀ e ∈ Block.placed blocks, e.2.uuid = (Thing.block page.name e.1).id
  have hread : ∀ page ∈ pages, ∃ blocks, Read page blocks := by
    intro page hpage
    obtain ⟨front, path, back, hpaths, hload, hback⟩ := exists_last_of_nodup hpages hnodup hpage
    obtain ⟨blocks, hblocks⟩ := hload.holds page
    have hlast : g.LastOfName path page := ⟨front, back, hpaths, hload, hback⟩
    exact ⟨blocks, (hlast.outline hloads hblocks).1, hlast.named hids hblocks⟩
  obtain ⟨shown, rfl, hshown⟩ := exists_shown hread
  refine ⟨shown, ⟨hlisted, fun p hp ↦ (hshown p hp).1⟩,
    ⟨fun p hp ↦ (hshown p hp).2.1, fun p hp ↦ (hshown p hp).2.2⟩, ?_⟩
  rwa [List.map_map] at hnodup

/-- The pages and blocks of a graph whose page files are all loaded as pages of different names, none
with identities of its own, have different identities exactly when no block is named like a page, as
long as the digest tells the names in use apart. Unions and intersections of sets of their records
then keep them apart. -/
theorem nodup_ids_of_shows (hloads : ∀ path ∈ g.pagePaths, ∃ page, g.LoadsAs path page)
    (hids : g.WithoutIds)
    (hnames : ∀ pages, g.listPages.1 = .ok pages → (pages.map Page.name).Nodup)
    (hdigest : ∀ shown, g.Shows shown → shown.Discerned) :
    ∃ shown, g.Shows shown ∧ (shown.ids.Nodup ↔ ¬shown.Clash) ∧
      (¬shown.Clash → shown.Separates) := by
  obtain ⟨shown, hshows, hnamed, hnodup⟩ := exists_shows hloads hids hnames
  have hiff := Shown.nodup_ids_iff hnamed hnodup (hdigest shown hshows)
  exact ⟨shown, hshows, hiff, fun hclash ↦ Shown.separates hnamed (hiff.2 hclash)⟩

/-! ### Two pages with a block -/

/-- A graph shows its pages in one way. -/
theorem Shows.unique {shown other : Shown} (h : g.Shows shown) (hother : g.Shows other) :
    shown = other := by
  let outlineOf (page : Page) : List Block :=
    (g.listPages.2.outline page.name).1.toOption.getD []
  have heq {shown : Shown} (h : g.Shows shown) :
      shown = (shown.map (·.1)).map fun page => (page, outlineOf page) := by
    have hself : ∀ p ∈ shown, (p.1, outlineOf p.1) = id p := fun p hp ↦ by
      simp only [outlineOf, h.read p hp, Except.toOption, Option.getD_some, id]
    rw [List.map_map]
    exact ((List.map_congr_left hself).trans (List.map_id shown)).symm
  rw [heq h, heq hother, Except.ok.inj (h.listed.symm.trans hother.listed)]

/-- The pages of a graph, and the blocks of their outlines. -/
def things (g : GraphFiles) : List Thing :=
  match g.listPages.1 with
  | .error _ => []
  | .ok pages =>
    (pages.map fun page => .page page.name) ++ pages.flatMap fun page =>
      match (g.listPages.2.outline page.name).1 with
      | .error _ => []
      | .ok blocks => (Block.placed blocks).map fun e => .block page.name e.1

theorem Shows.things_eq {shown : Shown} (h : g.Shows shown) : shown.things = g.things := by
  rw [things, h.listed]
  dsimp only
  rw [List.map_map, List.flatMap_map, Shown.things]
  congr 1
  refine List.flatMap_congr fun p hp ↦ ?_
  rw [h.read p hp]

/-- The digest tells the names in use apart if it gives the distinct ones distinct identities. -/
theorem Shows.discerned {shown : Shown} (h : g.Shows shown)
    (hdigest : ((g.things.map Thing.spelling).eraseDups.map Digest.identityOf).Nodup) :
    shown.Discerned := by
  intro t ht u hu hid
  rw [h.things_eq] at ht hu
  have hmem {t : Thing} (ht : t ∈ g.things) :
      t.spelling ∈ (g.things.map Thing.spelling).eraseDups :=
    List.mem_eraseDups.2 (List.mem_map_of_mem ht)
  exact List.inj_on_of_nodup_map hdigest (hmem ht) (hmem hu) hid

theorem loads_of_isSome (h : ∀ path ∈ g.pagePaths, (g.loadPage path).toOption.join.isSome = true) :
    ∀ path ∈ g.pagePaths, ∃ page, g.LoadsAs path page :=
  fun path hpath ↦ exists_loadsAs_iff.2 (h path hpath)

theorem nodup_names_of_toOption
    (h : ∃ names, g.listPages.1.toOption.map (·.map Page.name) = some names ∧ names.Nodup)
    (pages : List Page) (hpages : g.listPages.1 = .ok pages) : (pages.map Page.name).Nodup := by
  obtain ⟨names, hnames, hnodup⟩ := h
  rw [hpages] at hnames
  rwa [show pages.map Page.name = names from Option.some.inj hnames]

/-- A page with a block and a page without. -/
def twoPages (first second : String) : GraphFiles :=
  { nodes := [(first, .file "- zebra".toUTF8.toList (.ofInt 0)), (second, .file [] (.ofInt 0))] }

/-- Two pages and a block have three identities. -/
theorem twoPages_nodup_ids : ∃ shown, (twoPages "pages/a.md" "journals/b.md").Shows shown ∧
    shown.ids.Nodup ∧ shown.Separates := by
  obtain ⟨shown, hshows, hiff, hseparates⟩ :=
    nodup_ids_of_shows (g := twoPages "pages/a.md" "journals/b.md")
      (loads_of_isSome (by decide +kernel)) (by decide +kernel)
      (nodup_names_of_toOption ⟨["a", "b"], by decide +kernel, by decide⟩)
      (fun _ hshows ↦ hshows.discerned (by decide +kernel))
  have hclash : ¬shown.Clash := by
    intro hclash
    obtain ⟨t, ht, u, hu, hne, hspelling⟩ := hclash.exists_spelling_eq
    have hthings : (twoPages "pages/a.md" "journals/b.md").things =
        [.page "a", .page "b", .block "a" "0"] := by decide +kernel
    rw [hshows.things_eq, hthings] at ht hu
    exact hne ((by decide : ∀ t ∈ [Thing.page "a", .page "b", .block "a" "0"],
      ∀ u ∈ [Thing.page "a", .page "b", .block "a" "0"], t.spelling = u.spelling → t = u)
      t ht u hu hspelling)
  exact ⟨shown, hshows, hiff.2 hclash, hseparates hclash⟩

/-- A page called `0` has the identity of the first block of a page called `page`. -/
theorem not_nodup_ids_of_shows : ¬∀ g : GraphFiles,
    (∀ path ∈ g.pagePaths, ∃ page, g.LoadsAs path page) → g.WithoutIds →
    (∀ pages, g.listPages.1 = .ok pages → (pages.map Page.name).Nodup) →
    (∀ shown, g.Shows shown → shown.Discerned) →
    ∃ shown, g.Shows shown ∧ shown.ids.Nodup := by
  intro hclaim
  let g := twoPages "pages/page.md" "journals/0.md"
  have hloads : ∀ path ∈ g.pagePaths, ∃ page, g.LoadsAs path page :=
    loads_of_isSome (by decide +kernel)
  have hids : g.WithoutIds := by decide +kernel
  have hnames : ∀ pages, g.listPages.1 = .ok pages → (pages.map Page.name).Nodup :=
    nodup_names_of_toOption ⟨["page", "0"], by decide +kernel, by decide⟩
  obtain ⟨shown, hshows, hnodup⟩ := hclaim g hloads hids hnames fun _ hshows ↦
    hshows.discerned (by decide +kernel)
  obtain ⟨other, hother, hnamed, -⟩ := exists_shows hloads hids hnames
  obtain rfl := hshows.unique hother
  have hthings : g.things = [.page "page", .page "0", .block "page" "0"] := by decide +kernel
  rw [hnamed.ids_eq, hshows.things_eq, hthings] at hnodup
  have hspelling : (Thing.page "0").id = (Thing.block "page" "0").id := rfl
  simp [hspelling] at hnodup

end GraphFiles

end OutlineSearch
