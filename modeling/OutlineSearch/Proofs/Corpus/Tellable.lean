import OutlineSearch.Proofs.Corpus.PageReads
import OutlineSearch.Proofs.Number.Shortest
import OutlineSearch.Proofs.Outline.Reading
import OutlineSearch.Proofs.Search.Telling

/-!
# What files give can be told

A property line gives a value that can be told, since its integers are read from a bounded number of
digits. So the blocks of every file that can be read can be told, and of a page all but its
properties, since its frontmatter may hold any value.
-/

namespace OutlineSearch

open OutlineSearch.Text OutlineSearch.Number OutlineSearch.Outline

/-! ### Integers of a bounded number of digits -/

theorem Json.isShort_int {n : Int} (h : n.natAbs < 10 ^ digitLimit) :
    (Json.int n).isShort = true := by
  rw [Json.isShort, decide_eq_true_iff]
  rcases Nat.eq_zero_or_pos n.natAbs with hzero | hpos
  · rw [hzero]
    decide
  · exact (Nat.length_toDigits_le_iff (by decide) (by decide)).2 h

namespace Number

/-- Few decimal digits spell an integer that is short. -/
theorem isShort_decimals {s : List Char} (h : s.length ≤ digitLimit) {n : Int}
    (hn : n.natAbs = ofDigits (decimals s)) : (Json.int n).isShort = true := by
  refine Json.isShort_int ?_
  calc n.natAbs = ofDigits (decimals s) := hn
    _ < 10 ^ (decimals s).length := ofDigits_lt lt_of_mem_decimals
    _ ≤ 10 ^ digitLimit := Nat.pow_le_pow_right (by decide) (by rwa [length_decimals])

end Number

/-! ### Property lines -/

namespace Outline

theorem areTellable_texts {α : Type} (write : α → String) (items : List α) :
    Value.areTellable (items.map fun a => .text (write a)) = true := by
  induction items with
  | nil => rfl
  | cons a items ih => exact ih

/-- The value of a property line can be told. -/
theorem isTellable_propertyValue {raw : List Char} {v : Value} (h : propertyValue raw = .ok v) :
    v.isTellable = true := by
  unfold propertyValue at h
  dsimp only at h
  generalize trim raw = s at h
  split at h
  · cases h
    rfl
  split at h
  · cases h
    rfl
  split at h
  · next hshape =>
    obtain ⟨negative, digits, rfl, hne, hdigits⟩ := (isIntegerShape_iff s).1 hshape
    rw [readInteger_decimals negative hne hdigits] at h
    split at h
    · next n heq =>
      cases h
      split at heq
      · cases heq
      · next hlength =>
        obtain rfl := Except.ok.inj heq
        refine isShort_decimals (Nat.not_lt.1 hlength) ?_
        cases negative <;> simp [signedDecimals]
    · cases h
  split at h
  · cases h
    exact areTellable_texts String.ofList _
  · cases h
    rfl

theorem isTellable_propertyLine {line : List Char} {entry : String × Value}
    (h : propertyLine line = .ok (some entry)) : entry.2.isTellable = true := by
  unfold propertyLine at h
  split at h
  · cases h
  · next key raw _ =>
    cases hvalue : propertyValue raw with
    | error fault =>
      rw [hvalue] at h
      cases h
    | ok v =>
      rw [hvalue] at h
      cases h
      exact isTellable_propertyValue hvalue

end Outline

theorem Properties.areTellable_iff {p : Properties} :
    p.areTellable = true ↔ ∀ entry ∈ p, entry.2.isTellable = true := List.all_eq_true

theorem Properties.areTellable_singleton {entry : String × Value}
    (h : entry.2.isTellable = true) : areTellable [entry] = true :=
  areTellable_iff.2 (List.forall_mem_singleton.2 h)

theorem Properties.areTellable_put {p : Properties} (h : p.areTellable = true) (key : String)
    {v : Value} (hv : v.isTellable = true) : (p.put key v).areTellable = true := by
  rw [areTellable_iff] at h ⊢
  induction p with
  | nil => exact List.forall_mem_singleton.2 hv
  | cons entry p ih =>
    rw [List.forall_mem_cons] at h
    rw [put]
    split
    · exact List.forall_mem_cons.2 ⟨hv, h.2⟩
    · exact List.forall_mem_cons.2 ⟨h.1, ih h.2⟩

/-! ### Nodes and blocks -/

namespace Outline.Reading

variable {r : Reading} {maxDepth : Int} {line : List Char} {p : Option (String × Value)}

/-- The properties of all nodes read so far can be told. -/
def Tellable (r : Reading) : Prop := ∀ x ∈ r.items, x.properties.areTellable = true

/-- A further line keeps it so, if the property on it can be told. -/
theorem Tellable.next (h : r.Tellable) (hp : ∀ entry, p = some entry → entry.2.isTellable = true) :
    (r.next maxDepth line p).Tellable := by
  unfold Reading.next
  split
  · refine List.forall_mem_cons.2 ⟨?_, h⟩
    cases p with
    | none => rfl
    | some entry => exact Properties.areTellable_singleton (hp entry rfl)
  · obtain ⟨pageProperties, preamble, items, path⟩ := r
    cases items with
    | nil =>
      cases p with
      | some entry => exact h
      | none =>
        dsimp only [withLine]
        split <;> exact h
    | cons x rest =>
      obtain ⟨hx, hrest⟩ := List.forall_mem_cons.1 h
      cases p with
      | some entry =>
        exact List.forall_mem_cons.2 ⟨Properties.areTellable_put hx _ (hp entry rfl), hrest⟩
      | none => exact List.forall_mem_cons.2 ⟨hx, hrest⟩

theorem tellable_of_foldlM {r' : Reading} {lines : List (List Char)}
    (hread : lines.foldlM (add maxDepth) r = .ok r') (h : r.Tellable) : r'.Tellable := by
  refine foldlM_read_induction hread h fun r line p _ hline h ↦ h.next fun entry hentry ↦ ?_
  subst hentry
  exact isTellable_propertyLine hline

theorem Tellable.settled (h : r.Tellable) :
    ∀ x ∈ settled r.allItems, x.properties.areTellable = true :=
  forall_settled rfl h

end Outline.Reading

/-- A time stamp can be told, if there is one. -/
def Stamp.Tellable (s : Option Stamp) : Prop :=
  ∀ stamp, s = some stamp → stamp.document.isShort = true

theorem Stamp.tellable_none : Stamp.Tellable none := by
  intro stamp hstamp
  cases hstamp

/-- A block can be told. -/
structure Block.Tellable (b : Block) : Prop where
  properties : b.properties.areTellable = true
  created : Stamp.Tellable b.createdAt
  updated : Stamp.Tellable b.updatedAt

/-- What a page has beside its properties can be told. -/
structure Page.Tellable (p : Page) : Prop where
  journalDay : ∀ day, p.journalDay = some day → (Json.int day).isShort = true
  created : Stamp.Tellable p.createdAt
  updated : Stamp.Tellable p.updatedAt

namespace Outline

/-- The blocks made from nodes whose properties can be told can be told. -/
theorem tellable_blocksUnder (page : String) (parent : Option String) (above : String) (index : Nat)
    {items : List Item} (h : ∀ x ∈ items, x.properties.areTellable = true) (trace : List Nat)
    (number : Nat) :
    ∀ e ∈ Block.traced trace number (blocksUnder page parent above index items), e.1.Tellable := by
  fun_induction blocksUnder page parent above index items generalizing trace number with
  | case1 => exact List.forall_mem_nil _
  | case2 parent above index x rest position uuid ihUnder ihRest =>
    obtain ⟨hx, hrest⟩ := List.forall_mem_cons.1 h
    rw [Properties.areTellable_iff] at hx
    have hblock : Properties.areTellable (x.properties.filter (·.1 != "id")) = true :=
      Properties.areTellable_iff.2 fun entry hentry ↦ hx entry (List.mem_of_mem_filter hentry)
    rw [Block.traced, Block.tracedAt, List.forall_mem_append, List.forall_mem_cons]
    refine ⟨⟨⟨hblock, Stamp.tellable_none, Stamp.tellable_none⟩, ?_⟩, ?_⟩
    · exact ihUnder (fun y hy ↦ hrest y ((List.takeWhile_sublist _).subset hy)) _ _
    · exact ihRest (fun y hy ↦ hrest y ((List.dropWhile_sublist _).subset hy)) _ _

/-- The blocks of a text that can be read can be told. -/
theorem tellable_of_read {maxDepth : Int} {page text : String} {properties : Properties}
    {blocks : List Block} (h : read maxDepth page text = .ok (properties, blocks)) :
    ∀ e ∈ Block.listing blocks, e.1.Tellable := by
  have hreadable : Readable text := by
    rw [← isOk_items_iff maxDepth]
    cases hitems : items maxDepth text with
    | ok parts => rfl
    | error fault =>
      rw [read, hitems] at h
      cases h
  obtain ⟨entries, body, hbody, hlines⟩ := hreadable
  obtain ⟨r, hr, hread⟩ := exists_reading maxDepth page hbody hlines
  obtain ⟨-, rfl⟩ := Prod.mk.inj (Except.ok.inj (h.symm.trans hread))
  have hnodes : r.Tellable := Reading.tellable_of_foldlM hr (List.forall_mem_nil _)
  exact tellable_blocksUnder page none "" 0 hnodes.settled [] 0

/-! ### Pages -/

theorem length_digitRun? {count : Nat} {s digits rest : List Char}
    (h : digitRun? count s = some (digits, rest)) : digits.length = count := by
  unfold digitRun? at h
  dsimp only at h
  split at h
  · next hdigits =>
    obtain ⟨rfl, -⟩ := Prod.mk.inj (Option.some.inj h)
    rw [Bool.and_eq_true, decide_eq_true_iff] at hdigits
    exact hdigits.1
  · cases h

theorem length_journalParts? {s year month day : List Char}
    (h : journalParts? s = some (year, month, day)) : (year ++ month ++ day).length = 8 := by
  simp only [journalParts?, Option.bind_eq_bind, Option.bind_eq_some_iff] at h
  obtain ⟨⟨year', rest⟩, hyear, behind, -, ⟨month', rest'⟩, hmonth, behind', -, ⟨day', rest''⟩,
    hday, h⟩ := h
  split at h
  · obtain ⟨rfl, hparts⟩ := Prod.mk.inj (Option.some.inj h)
    obtain ⟨rfl, rfl⟩ := Prod.mk.inj hparts
    rw [List.length_append, List.length_append, length_digitRun? hyear, length_digitRun? hmonth,
      length_digitRun? hday]
  · cases h

/-- The number of a journal page can be told. -/
theorem isShort_pageName {path : String} {day : Int} (h : (pageName path).2 = some day) :
    (Json.int day).isShort = true := by
  unfold pageName at h
  dsimp only at h
  split at h
  · next year month last hparts =>
    split at hparts
    · have hlength := length_journalParts? hparts
      obtain rfl := Option.some.inj h
      refine isShort_decimals (s := year ++ month ++ last) ?_ rfl
      rw [hlength]
      decide
    · cases hparts
  · cases h

end Outline

namespace Binary64

theorem natAbs_steps_ofSteps {negative : Bool} {n : Nat} {s : Int}
    (h : (ofSteps negative n).steps? = some s) : s.natAbs < stepLimit := by
  unfold ofSteps at h
  split at h
  · cases h
  · next hlimit =>
    have hn : n < stepLimit := Nat.not_le.1 hlimit
    split at h
    · split at h
      · obtain rfl := Option.some.inj h
        exact Nat.zero_lt_of_lt hn
      · obtain rfl := Option.some.inj h
        rwa [Int.natAbs_neg]
    · obtain rfl := Option.some.inj h
      exact hn

/-- A product of finite numbers is below the limit, if it is finite. -/
theorem natAbs_steps_mul {x y : Binary64} {s : Int} (h : (x.mul y).steps? = some s) :
    s.natAbs < stepLimit := by
  unfold mul at h
  dsimp only at h
  split at h
  · cases h
  · cases h
  · split at h <;> cases h
  · split at h <;> cases h
  · exact natAbs_steps_ofSteps h

/-- The integer part of a product is short. -/
theorem isShort_truncate_mul (x y : Binary64) :
    (Json.int ((x.mul y).truncate?.getD 0)).isShort = true := by
  rw [truncate?]
  cases hsteps : (x.mul y).steps? with
  | none => rfl
  | some s =>
    obtain ⟨k, hk, hlimit⟩ := stepLimit_eq
    refine Json.isShort_int ?_
    change (s.tdiv stepsPerOne).natAbs < _
    rw [Int.natAbs_tdiv]
    calc s.natAbs.div _ ≤ s.natAbs := Nat.div_le_self ..
      _ < stepLimit := natAbs_steps_mul hsteps
      _ = 2 ^ k := hlimit
      _ ≤ 10 ^ digitLimit := two_pow_le_ten_pow (by rw [hk, digitLimit]; decide)

end Binary64

/-! ### Listings and outlines -/

namespace GraphFiles

variable {g : GraphFiles}

/-- The page of a file can be told, but for its properties. -/
theorem LoadsAs.tellable {path : String} {page : Page} (h : g.LoadsAs path page) :
    page.Tellable := by
  obtain ⟨text, modified, properties, items, -, hitems, hpage⟩ := h.loaded
  simp only [pageOf, hitems] at hpage
  obtain rfl := Except.ok.inj hpage
  refine ⟨fun day hday ↦ isShort_pageName hday, Stamp.tellable_none, fun stamp hstamp ↦ ?_⟩
  obtain rfl := Option.some.inj hstamp
  exact Binary64.isShort_truncate_mul _ _

theorem loadsAs_of_loadPages {paths : List String} {found : List (String × Page)}
    (h : g.loadPages paths = .ok found) : ∀ entry ∈ found, g.LoadsAs entry.1 entry.2 := by
  induction paths generalizing found with
  | nil =>
    cases h
    exact List.forall_mem_nil _
  | cons path paths ih =>
    rw [loadPages] at h
    cases hpage : g.loadPage path with
    | error fault =>
      rw [hpage] at h
      cases h
    | ok page =>
      cases hmore : g.loadPages paths with
      | error fault =>
        rw [hpage, hmore] at h
        cases h
      | ok more =>
        rw [hpage, hmore] at h
        obtain rfl := Except.ok.inj h
        rw [List.forall_mem_append]
        refine ⟨fun entry hentry ↦ ?_, ih hmore⟩
        cases page with
        | none => cases hentry
        | some p =>
          obtain rfl := List.mem_singleton.1 hentry
          exact hpage

/-- The pages of a listing can be told, but for their properties. -/
theorem tellable_of_listPages {pages : List Page} (h : g.listPages.1 = .ok pages) :
    ∀ p ∈ pages, p.Tellable := by
  rw [listPages_fst] at h
  cases hfound : g.loadPages g.pagePaths with
  | error fault =>
    rw [hfound] at h
    cases h
  | ok found =>
    rw [hfound] at h
    obtain rfl := Except.ok.inj h
    exact List.forall_mem_map.2 fun entry hentry ↦
      (loadsAs_of_loadPages hfound entry hentry).tellable

/-- What is known of page names leads to files that are loaded as pages. -/
def Knows (g : GraphFiles) (known : List (String × String × String)) : Prop :=
  ∀ entry ∈ known, ∃ page, g.LoadsAs entry.2.1 page

theorem knows_foldl {known : List (String × String × String)} (hknown : g.Knows known)
    {found : List (String × Page)} (h : ∀ entry ∈ found, g.LoadsAs entry.1 entry.2) :
    g.Knows (found.foldl know known) := by
  induction found generalizing known with
  | nil => exact hknown
  | cons entry found ih =>
    rw [List.forall_mem_cons] at h
    refine ih (List.forall_mem_cons.2 ⟨⟨entry.2, h.1⟩, fun other hother ↦ ?_⟩) h.2
    exact hknown other (List.mem_of_mem_filter hother)

/-- What is known does not matter for the listing, and a listing that succeeds makes more known. -/
theorem listPages_known {pages : List Page} (h : g.listPages.1 = .ok pages)
    (known : List (String × String × String)) :
    ∃ known', g.Knows known' ∧ ({ g with known } : GraphFiles).listPages =
      (.ok pages, { g with known := known' }) := by
  have hload : ({ g with known } : GraphFiles).loadPages g.pagePaths = g.loadPages g.pagePaths :=
    loadPages_congr fun _ _ ↦ rfl
  rw [listPages_fst] at h
  cases hfound : g.loadPages g.pagePaths with
  | error fault =>
    rw [hfound] at h
    cases h
  | ok found =>
    rw [hfound] at h
    obtain rfl := Except.ok.inj h
    have hknown : g.Knows (found.foldl know []) :=
      knows_foldl (List.forall_mem_nil _) (loadsAs_of_loadPages hfound)
    refine ⟨found.foldl know [], hknown, ?_⟩
    rw [listPages, show ({ g with known } : GraphFiles).pagePaths = g.pagePaths from rfl, hload,
      hfound]

/-- The outline of a name that is known can be had and told; one that is not known has no blocks. -/
theorem exists_readOutline {known : List (String × String × String)} (h : g.Knows known)
    (name : String) :
    ∃ tree, (readOutline { g with known } <| entry? { g with known } name) = .ok tree ∧
      ∀ e ∈ Block.listing tree, e.1.Tellable := by
  cases hentry : entry? { g with known } name with
  | none => exact ⟨[], rfl, List.forall_mem_nil _⟩
  | some entry =>
    obtain ⟨found, hfound, rfl⟩ := Option.map_eq_some_iff.1 hentry
    obtain ⟨page, hpage⟩ := h found (List.mem_of_find?_eq_some hfound)
    obtain ⟨text, modified, properties, items, htext, hitems, -⟩ := hpage.loaded
    have hread : Outline.read g.maxDepth found.2.2 text =
        .ok (properties, Outline.blocksUnder found.2.2 none "" 0 items) := by
      rw [Outline.read, hitems]
      rfl
    have htext' : readText { g with known } found.2.1 = .ok (text, modified) := htext
    refine ⟨_, ?_, Outline.tellable_of_read hread⟩
    simp only [readOutline, htext', hread, bind, Except.bind, pure, Except.pure]

/-- Where the listing succeeds, an outline can be had and told. -/
theorem exists_outline {pages : List Page} (hpages : g.listPages.1 = .ok pages)
    {known : List (String × String × String)} (h : g.Knows known) (name : String) :
    ∃ tree known', ({ g with known } : GraphFiles).outline name =
        (.ok tree, { g with known := known' }) ∧
      (∀ e ∈ Block.listing tree, e.1.Tellable) ∧ g.Knows known' := by
  cases hentry : entry? { g with known } name with
  | some entry =>
    obtain ⟨tree, htree, htold⟩ := exists_readOutline h name
    refine ⟨tree, known, ?_, htold, h⟩
    rw [outline, hentry]
    rw [hentry] at htree
    simp only [htree]
  | none =>
    obtain ⟨known', hknown', hlist⟩ := listPages_known hpages known
    obtain ⟨tree, htree, htold⟩ := exists_readOutline hknown' name
    refine ⟨tree, known', ?_, htold, hknown'⟩
    rw [outline, hentry, hlist]
    simp only [htree]

end GraphFiles

end OutlineSearch
