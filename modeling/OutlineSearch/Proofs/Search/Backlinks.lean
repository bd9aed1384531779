import OutlineSearch.Proofs.Outline.Hashtags
import OutlineSearch.Proofs.Outline.Preorder
import OutlineSearch.Proofs.Search.Isolation
import OutlineSearch.Proofs.Search.Quoting
import OutlineSearch.Proofs.Text.Splitting

/-!
# Links to a page

The query for the links to a page looks for the name in the lower-case texts of the blocks, between
brackets and behind a hash. So it finds the pages that refer to the name, and those with a hashtag
that begins with it: a hashtag that is the name, but a longer one too. Pages that are called so
themselves are left out, and so are those whose outlines cannot be had.
-/

namespace OutlineSearch

open OutlineSearch.Text OutlineSearch.Search OutlineSearch.Outline

/-- The query for the links to the page of a name. -/
def backlinksQuery (name : String) : String := "backlinks:\"" ++ name ++ "\""

/-- A name of word characters that is not taken for a query for pages without text. -/
structure Linkable (name : String) : Prop where
  ne_empty : name ≠ ""
  words : ∀ c ∈ name.toList, isWord c = true
  empty : Text.contains (lowered name) "empty" = false
  blank : Text.contains (lowered name) "blank" = false

/-- A name whose lower-case form does not depend on what is around it, and has word characters
only. -/
structure SteadyCase (name : String) : Prop where
  dotted : 'İ' ∉ name.toList
  sigma : 'σ' ∉ lower name.toList
  finalSigma : 'ς' ∉ lower name.toList

namespace Linkable

variable {name : String} (hname : Linkable name)

include hname

theorem exists_cons : ∃ c rest, name.toList = c :: rest ∧ isWord c = true := by
  cases hs : name.toList with
  | nil => exact absurd (String.toList_eq_nil_iff.1 hs) hname.ne_empty
  | cons c rest => exact ⟨c, rest, rfl, hname.words c (by simp [hs])⟩

theorem notMem {c : Char} (hc : isWord c = false) : c ∉ name.toList := by
  intro hmem
  rw [hname.words c hmem] at hc
  cases hc

theorem notMem_lower {c : Char} (hc : isWord c = false) (hdot : c ≠ '\u0307') :
    c ∉ lower name.toList := by
  intro hmem
  rcases isWord_of_mem_lowerFrom hname.words hmem with hword | ⟨rfl, -⟩
  · rw [hword] at hc
    cases hc
  · exact hdot rfl

theorem isWord_of_mem_lower (hsteady : SteadyCase name) :
    ∀ d ∈ lower name.toList, isWord d = true := by
  intro d hd
  rcases isWord_of_mem_lowerFrom hname.words hd with hword | ⟨-, hdotted⟩
  · exact hword
  · exact absurd hdotted hsteady.dotted

theorem quotable : Quotable name where
  trimmed := by
    have hbare : Bare name.toList := Bare.of_forall fun c hc ↦ by
      refine Bool.eq_false_iff.2 fun hblank ↦ ?_
      exact hname.notMem (isWord_of_isBlank hblank) hc
    rw [trimmed, hbare.trim_eq, String.ofList_toList]
  isEmpty := by
    rw [Bool.eq_false_iff, Ne, String.isEmpty_iff]
    exact hname.ne_empty
  quote := hname.notMem (by decide)
  conjunction := occursIn_of_notMem (c := ' ') (by decide) (hname.notMem (by decide))
  disjunction := occursIn_of_notMem (c := ' ') (by decide) (hname.notMem (by decide))

theorem saysNoEmptyMark : SaysNoEmptyMark name := by
  have hspace : Text.contains (lowered name) "no content" = false := by
    refine occursIn_of_notMem (c := ' ') (by decide) ?_
    rw [lowered, String.toList_ofList]
    exact hname.notMem_lower (by decide) (by decide)
  unfold SaysNoEmptyMark Evaluator.emptyMarks
  simp only [List.any_cons, List.any_nil, hname.empty, hspace, hname.blank, Bool.or_false]

end Linkable

namespace Evaluator

/-- A text links to a name without slashes when it has the name between brackets or behind a hash,
in lower-case. -/
theorem linksTo_iff {target : List Char} (hslash : '/' ∉ target) (content : String) :
    linksTo target false content = true ↔
      "[[".toList ++ (target ++ "]]".toList) <:+: lower content.toList ∨
        '#' :: target <:+: lower content.toList := by
  have hparts : linkSpellings target =
      ["[[".toList ++ target ++ "]]".toList, '#' :: ("[[".toList ++ target ++ "]]".toList),
        '#' :: target] := by
    rw [linkSpellings, split_of_notMem hslash]
    rfl
  rw [linksTo, hparts]
  simp only [List.any_cons, List.any_nil, Bool.or_false, Bool.false_and, Bool.or_eq_true,
    occursIn_iff, List.append_assoc]
  constructor
  · rintro (h | h | h)
    · exact .inl h
    · exact .inl ((List.suffix_cons '#' _).isInfix.trans h)
    · exact .inr h
  · rintro (h | h)
    · exact .inl h
    · exact .inr (.inr h)

variable {e : Evaluator} {g : Graph} {name : String}

/-- A page that is not called so, whose outline can be had, and that has a block which is not too
deep and has a text such as is wanted. -/
def HasBlock (e : Evaluator) (g : Graph) (name : String) (test : String → Prop)
    (p : Page) : Prop :=
  lowered p.displayName ≠ lowered name ∧ ∃ tree, g.blocks p.name = .ok tree ∧
    ∃ b ∈ downTo (max e.settings.maxNestingLevel 0) tree, test b.content

theorem HasBlock.mono {test test' : String → Prop} {p : Page}
    (h : e.HasBlock g name test p) (himp : ∀ content, test content → test' content) :
    e.HasBlock g name test' p := by
  obtain ⟨hother, tree, htree, b, hb, htest⟩ := h
  exact ⟨hother, tree, htree, b, hb, himp _ htest⟩

/-- Whether a page is found for its links to a name. -/
def isLinking (e : Evaluator) (g : Graph) (name : String) (p : Page) : Bool :=
  (g.held p.name).any fun blocks =>
    lower p.displayName.toList != lower name.toList &&
      (e.visible blocks).any fun b => linksTo (lower name.toList) false b.content

theorem run_linkingPages_eq (hg : g.Forgivable) {pages : List Page} (hpages : g.pages = .ok pages) :
    (e.linkingPages name false).run g =
      .ok (((upTo e.settings.linkScanLimit pages).filter (e.isLinking g name)).map fun p =>
        Record.ofPage p (some "backlink")) := by
  rw [run_linkingPages hg, hpages]
  refine congrArg Except.ok ?_
  dsimp only
  induction upTo e.settings.linkScanLimit pages with
  | nil => rfl
  | cons p rest ih =>
    rw [Graph.owed_cons, ih, List.filter_cons, isLinking]
    cases g.held p.name with
    | none => rfl
    | some blocks =>
      rw [Option.map_some, Option.getD_some, Option.any_some, linkRecord]
      split
      · rfl
      · rfl

theorem isLinking_iff (hname : Linkable name) (p : Page) : e.isLinking g name p = true ↔
    e.HasBlock g name (fun content ↦ Refers name content ∨ OpensHere name content) p := by
  obtain ⟨c, rest, hcons, hc⟩ := hname.exists_cons
  have hslash : '/' ∉ lower name.toList := hname.notMem_lower (by decide) (by decide)
  have hheld (tree : List Block) : g.held p.name = some tree ↔ g.blocks p.name = .ok tree := by
    unfold Graph.held
    cases g.blocks p.name with
    | error fault => simp [Except.toOption]
    | ok found => simp [Except.toOption]
  have hcalled : lower p.displayName.toList ≠ lower name.toList ↔
      lowered p.displayName ≠ lowered name := by
    rw [lowered, lowered, Ne, Ne, String.ofList_inj]
  unfold isLinking HasBlock
  simp only [Option.any_eq_true, hheld, Bool.and_eq_true, bne_iff_ne, hcalled, List.any_eq_true,
    linksTo_iff hslash, visible, nodes_eq_downTo_max, ← refers_iff, ← opensHere_iff hcons hc]
  constructor
  · rintro ⟨tree, htree, hother, hb⟩
    exact ⟨hother, tree, htree, hb⟩
  · rintro ⟨hother, tree, htree, hb⟩
    exact ⟨tree, htree, hother, hb⟩

/-- The query finds the pages that are found for their links. -/
theorem run_backlinksQuery {pages : List Page} (hg : g.Forgivable) (hpages : g.pages = .ok pages)
    (hname : Linkable name) (target : Target) (scope : Option Scope) (strict : Bool) :
    e.run g target scope strict (Expr.parse (backlinksQuery name)) =
      .ok (((upTo e.settings.linkScanLimit pages).filter (e.isLinking g name)).map fun p =>
        Record.ofPage p (some "backlink")) := by
  have hstart : "backlinks:" ∈ quotingStarts := by decide
  have hrule (rest : List Char) :
      e.starts.find? (fun rule => startsWith ("backlinks:".toList ++ rest) rule.1.toList) =
        some ("backlinks:", fun s => withQuoted "backlinks:" s fun name =>
          e.linkingPages name false) := by
    simp [starts, startsWith, dropPrefix?]
  exact run_quotedQuery hname.quotable hstart hname.saysNoEmptyMark hrule
    (run_linkingPages_eq hg hpages) strict

end Evaluator

open Evaluator

/-- The query for the links to a name finds those of the first pages that are not called so and have
a block that refers to the name, or has a hashtag that begins with it. If the case of the name does
not depend on what is around it, hashtags are read by themselves: so all pages are found that refer
to the name or are tagged with it, and no others but for hashtags that go on behind the name. -/
theorem backlinks_found {e : Evaluator} {g : Graph} {pages : List Page} {name : String}
    (hg : g.Forgivable) (hpages : g.pages = .ok pages) (hname : Linkable name) (target : Target)
    (scope : Option Scope) (strict : Bool) :
    ∃ links : Page → Bool,
      e.run g target scope strict (Expr.parse (backlinksQuery name)) =
        .ok (((upTo e.settings.linkScanLimit pages).filter links).map fun p =>
          Record.ofPage p (some "backlink")) ∧
      (∀ p, links p = true ↔
        e.HasBlock g name (fun content ↦ Refers name content ∨ OpensHere name content) p) ∧
      (SteadyCase name → ∀ p,
        (links p = true ↔
          e.HasBlock g name (fun content ↦ Refers name content ∨ Opens name content) p) ∧
        (e.HasBlock g name (fun content ↦ Refers name content ∨ Tagged name content) p →
          links p = true) ∧
        (links p = true →
          (∀ tree, g.blocks p.name = .ok tree →
            ∀ b ∈ downTo (max e.settings.maxNestingLevel 0) tree,
              ∀ tag ∈ findAll hashtag b.content.toList,
                lower name.toList <+: lower tag → lower tag = lower name.toList) →
          e.HasBlock g name (fun content ↦ Refers name content ∨ Tagged name content) p)) := by
  refine ⟨e.isLinking g name, run_backlinksQuery hg hpages hname target scope strict,
    fun p ↦ isLinking_iff hname p, fun hsteady p ↦ ?_⟩
  have hopens (content : String) : OpensHere name content ↔ Opens name content :=
    opensHere_iff_opens (hname.isWord_of_mem_lower hsteady) hsteady.sigma hsteady.finalSigma
  have hlinking : e.isLinking g name p = true ↔
      e.HasBlock g name (fun content ↦ Refers name content ∨ Opens name content) p := by
    rw [isLinking_iff hname]
    simp only [hopens]
  refine ⟨hlinking, fun h ↦ hlinking.2 (h.mono ?_), fun h hends ↦ ?_⟩
  · rintro content (hrefers | ⟨tag, htag, heq⟩)
    · exact .inl hrefers
    · exact .inr ⟨tag, htag, heq ▸ List.prefix_rfl⟩
  · obtain ⟨hother, tree, htree, b, hb, htest⟩ := hlinking.1 h
    refine ⟨hother, tree, htree, b, hb, ?_⟩
    rcases htest with hrefers | ⟨tag, htag, hstart⟩
    · exact .inl hrefers
    · exact .inr ⟨tag, htag, hends tree htree b hb tag htag hstart⟩

/-! ### Tagged pages -/

/-- What a search is evaluated with by default. -/
def plainEvaluator : Evaluator where
  today := someDay

/-- Pages that link to a plan: one by a hashtag and one by a reference, and one that does not. -/
def planPages : List Page :=
  [{ id := "1", name := "a" }, { id := "2", name := "b" }, { id := "3", name := "c" }]

/-- The graph of these pages. -/
def planGraph : Graph where
  pages := .ok planPages
  blocks name :=
    if name = "a" then .ok [Survey.plainBlock "x" "see #PLAN"]
    else if name = "b" then .ok [Survey.plainBlock "y" "to the [[plan]]"]
    else .ok [Survey.plainBlock "z" "#pla"]

theorem forgivable_planGraph : planGraph.Forgivable := by
  intro name fault h
  unfold planGraph at h
  dsimp only at h
  split at h
  · cases h
  · split at h
    · cases h
    · cases h

theorem linkable_plan : Linkable "Plan" where
  ne_empty := by decide
  words := List.all_eq_true.1 (by decide +kernel)
  empty := by decide +kernel
  blank := by decide +kernel

theorem steadyCase_plan : SteadyCase "Plan" where
  dotted := by decide
  sigma := by decide +kernel
  finalSigma := by decide +kernel

/-- The two pages that link to the plan are found, in whatever case they do. -/
theorem planGraph_found : ∃ records,
    plainEvaluator.run planGraph .both none false (Expr.parse (backlinksQuery "Plan")) =
      .ok records ∧ records.map Record.id = ["1", "2"] := by
  obtain ⟨links, hrun, -, hsteady⟩ := backlinks_found (e := plainEvaluator) forgivable_planGraph rfl
    linkable_plan .both none false
  have hfirst : links { id := "1", name := "a" } = true := by
    refine (hsteady steadyCase_plan _).2.1 ⟨by decide +kernel, _, rfl, _, .head _, .inr ?_⟩
    exact ⟨"PLAN".toList, by decide +kernel, by decide +kernel⟩
  have hsecond : links { id := "2", name := "b" } = true := by
    refine (hsteady steadyCase_plan _).2.1 ⟨by decide +kernel, _, rfl, _, .head _, .inl ?_⟩
    exact ⟨"to the ".toList, "plan".toList, [], by decide, by decide +kernel⟩
  have hthird : links { id := "3", name := "c" } = false := by
    rw [Bool.eq_false_iff, Ne, (hsteady steadyCase_plan _).1]
    rintro ⟨-, tree, htree, b, hb, hlinks⟩
    obtain rfl := Except.ok.inj htree
    have hlone : downTo (max plainEvaluator.settings.maxNestingLevel 0)
        [Survey.plainBlock "z" "#pla"] = [Survey.plainBlock "z" "#pla"] := rfl
    obtain rfl := List.mem_singleton.1 (hlone ▸ hb)
    rcases hlinks with hrefers | ⟨tag, htag, hstart⟩
    · rw [refers_iff, ← occursIn_iff] at hrefers
      revert hrefers
      decide +kernel
    · revert tag
      decide +kernel
  refine ⟨_, hrun, ?_⟩
  change ((planPages.filter links).map fun p => Record.ofPage p (some "backlink")).map Record.id = _
  simp [planPages, hfirst, hsecond, hthird, Record.ofPage]

/-- A graph of a page with a hashtag that goes on behind a name. -/
def projectGraph : Graph where
  pages := .ok [{ id := "1", name := "a" }]
  blocks _ := .ok [Survey.plainBlock "x" "see #project"]

/-- The page is found, though its only block has no reference to the name and no hashtag that is the
name. -/
theorem not_backlinks_found_proj :
    plainEvaluator.run projectGraph .both none false (Expr.parse (backlinksQuery "proj")) =
      .ok [Record.ofPage { id := "1", name := "a" } (some "backlink")] ∧
    ¬Refers "proj" "see #project" ∧ ¬Tagged "proj" "see #project" := by
  have hname : Linkable "proj" := {
    ne_empty := by decide
    words := List.all_eq_true.1 (by decide +kernel)
    empty := by decide +kernel
    blank := by decide +kernel }
  have hgraph : projectGraph.Forgivable := fun _ _ h ↦ nomatch h
  have hlinking :
      plainEvaluator.isLinking projectGraph "proj" { id := "1", name := "a" } = true := by
    decide +kernel
  refine ⟨?_, ?_, ?_⟩
  · rw [run_backlinksQuery hgraph rfl hname]
    change Except.ok ((List.filter _ [_]).map _) = _
    rw [List.filter_cons_of_pos hlinking]
    rfl
  · rw [refers_iff, ← occursIn_iff]
    decide +kernel
  · rintro ⟨tag, htag, heq⟩
    revert tag
    decide +kernel

end OutlineSearch
