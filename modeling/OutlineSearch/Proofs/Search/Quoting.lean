import OutlineSearch.Proofs.Outline.Preorder
import OutlineSearch.Proofs.Search.Alike
import OutlineSearch.Proofs.Search.Boolean
import OutlineSearch.Proofs.Text.Finding

/-!
# Quoted names

The queries for the blocks of a page, for a template and for the links to a page quote the name of
the page. The operators are looked for in the whole query, and so are the words for pages without
text; since no text without a double quote reaches beyond the quotes, they are in the query only if
they are in the name. Otherwise the query is one atomic filter, and finds what the rule for its
start finds for the name: the blocks of the page, for one.
-/

namespace OutlineSearch

open OutlineSearch.Text OutlineSearch.Search OutlineSearch.Outline

/-- The query for the blocks of the page of a name. -/
def pageQuery (name : String) : String := "page:\"" ++ name ++ "\""

/-- A name that can be quoted in a query: nothing of it is trimmed away, it has no double quote, and
no operator of a query is in it. -/
structure Quotable (name : String) : Prop where
  trimmed : trimmed name = name
  isEmpty : name.isEmpty = false
  quote : '"' ∉ name.toList
  conjunction : Text.contains name " AND " = false
  disjunction : Text.contains name " OR " = false

/-- No word for pages without text is in the lower-case form of a name. -/
def SaysNoEmptyMark (name : String) : Prop :=
  Evaluator.emptyMarks.any (Text.contains (lowered name)) = false

/-- The first page of a graph that is called by a name, and its outline. -/
structure Graph.Names (g : Graph) (name : String) (p : Page) (blocks : List Block) : Prop where
  listed : ∃ pages, g.pages = .ok pages ∧ pages.find? (Evaluator.isCalled name) = some p
  outline : g.blocks p.name = .ok blocks

/-! ### The text of the query -/

/-- The starts of the filters that quote the name of a page. -/
def quotingStarts : List String := ["template:", "backlinks:", "references:", "page:"]

/-- The query that quotes a name behind the start of a filter. -/
def quotedQuery (start name : String) : String := start ++ "\"" ++ name ++ "\""

theorem pageQuery_eq (name : String) : pageQuery name = quotedQuery "page:" name := rfl

theorem toList_quotedQuery (start name : String) :
    (quotedQuery start name).toList = start.toList ++ '"' :: (name.toList ++ ['"']) := by
  rw [quotedQuery, String.toList_append, String.toList_append, String.toList_append,
    List.append_assoc, List.append_assoc]
  rfl

/-- The start of a filter starts with no blank and with none of the words for every page, it is
lower-case, and it holds no operator and no word for pages without text. -/
theorem quotingStarts_plain : ∀ start ∈ quotingStarts,
    (∃ c rest, start.toList = c :: rest ∧ isBlank c = false ∧
      ∀ word ∈ Evaluator.wildcards, word.toList.head? ≠ some c) ∧
    lower start.toList = start.toList ∧
    occursIn " OR ".toList start.toList = false ∧ occursIn " AND ".toList start.toList = false ∧
    ∀ mark ∈ Evaluator.emptyMarks, occursIn mark.toList start.toList = false := by
  intro start hstart
  simp only [quotingStarts, List.mem_cons, List.not_mem_nil, or_false] at hstart
  rcases hstart with rfl | rfl | rfl | rfl
  · exact ⟨⟨'t', "emplate:".toList, by decide, by decide, by decide⟩, by decide +kernel, by decide,
      by decide, by decide⟩
  · exact ⟨⟨'b', "acklinks:".toList, by decide, by decide, by decide⟩, by decide +kernel, by decide,
      by decide, by decide⟩
  · exact ⟨⟨'r', "eferences:".toList, by decide, by decide, by decide⟩, by decide +kernel,
      by decide, by decide, by decide⟩
  · exact ⟨⟨'p', "age:".toList, by decide, by decide, by decide⟩, by decide +kernel, by decide,
      by decide, by decide⟩

/-- A text without a double quote is in the query if it is in the start or in the name. -/
theorem occursIn_quoted {needle : List Char} (hquote : '"' ∉ needle) (hne : needle ≠ [])
    (front name : List Char) :
    occursIn needle (front ++ '"' :: (name ++ ['"'])) =
      (occursIn needle front || occursIn needle name) := by
  have hend : occursIn needle [] = false := by simp [occursIn, hne]
  rw [occursIn_append_cons hquote, occursIn_append_cons hquote, hend, Bool.or_false]

section

variable {start : String} (hstart : start ∈ quotingStarts)

include hstart

theorem trimmed_quotedQuery (name : String) :
    trimmed (quotedQuery start name) = quotedQuery start name := by
  obtain ⟨⟨c, rest, hcons, hblank, -⟩, -⟩ := quotingStarts_plain start hstart
  have htrim : trim (quotedQuery start name).toList = (quotedQuery start name).toList := by
    rw [toList_quotedQuery, hcons]
    have hends := trim_of_ends (c := c) (d := '"') hblank (by decide) (rest ++ '"' :: name.toList)
    simpa using hends
  rw [trimmed, htrim, String.ofList_toList]

theorem lower_quoted (name : List Char) :
    lower (start.toList ++ '"' :: (name ++ ['"'])) =
      start.toList ++ '"' :: (lower name ++ ['"']) := by
  obtain ⟨-, hlower, -⟩ := quotingStarts_plain start hstart
  have hquote : lowerChar '"' = '"' := by decide
  rw [partsCase_quote.lower_append_cons, partsCase_quote.lower_append_cons, hlower, hquote]
  rfl

theorem isBlankString_quotedQuery (name : String) :
    isBlankString (quotedQuery start name) = false := by
  obtain ⟨⟨c, rest, hcons, hblank, -⟩, -⟩ := quotingStarts_plain start hstart
  rw [isBlankString, toList_quotedQuery, hcons, isAllBlank, List.cons_append, List.all_cons,
    hblank, Bool.false_and]

/-! ### The expression of the query -/

theorem Quotable.parse_quotedQuery {name : String} (hname : Quotable name) :
    Expr.parse (quotedQuery start name) = .atom (quotedQuery start name) := by
  obtain ⟨-, -, hstartOr, hstartAnd, -⟩ := quotingStarts_plain start hstart
  have hor : occursIn Expr.orMark (quotedQuery start name).toList = false := by
    rw [toList_quotedQuery, occursIn_quoted (by decide) (by decide)]
    exact Bool.or_eq_false_iff.2 ⟨hstartOr, hname.disjunction⟩
  have hand : occursIn Expr.andMark (trim (quotedQuery start name).toList) = false := by
    rw [trim_toList_of_trimmed (trimmed_quotedQuery hstart name), toList_quotedQuery,
      occursIn_quoted (by decide) (by decide)]
    exact Bool.or_eq_false_iff.2 ⟨hstartAnd, hname.conjunction⟩
  have htrim : String.ofList (trim (trim (quotedQuery start name).toList)) =
      quotedQuery start name := by
    rw [trim_trim]
    exact trimmed_quotedQuery hstart name
  rw [Expr.parse, if_neg (by simp [hor]), Expr.conjunction, if_neg (by simp [hand]), Expr.ofText,
    htrim]

end

/-! ### What the query finds -/

section

variable {name : String} (hname : Quotable name)

include hname

namespace Evaluator

variable {e : Evaluator} {target : Target} {scope : Option Scope}

/-- The quotes are taken away from the name again. -/
theorem withQuoted_quoted (start : String) (next : String → Script (List Record)) :
    withQuoted start ('"' :: (name.toList ++ ['"'])) next = next name := by
  have hne : name.toList ≠ [] := by
    intro h
    exact absurd hname.isEmpty (by simp [← String.toList_eq_nil_iff, h])
  have htrim : trim name.toList = name.toList := trim_toList_of_trimmed hname.trimmed
  have hblank : isAllBlank name.toList = false := by
    rw [Bool.eq_false_iff]
    intro h
    exact hne (htrim.symm.trans (trim_of_isAllBlank h))
  rw [withQuoted, trim_of_ends (by decide) (by decide), phrase_cons hne hname.quote []]
  simp only [Option.map_some, Option.getD_some, hblank, htrim, String.ofList_toList]
  rfl

/-- No rule in front of those for starts applies to the query, unless a word for pages without text
is in the name; then the rule for its start does. -/
theorem dispatch_quotedQuery {start : String} (hstart : start ∈ quotingStarts)
    (hmarks : SaysNoEmptyMark name) {next : String → Script (List Record)}
    (hrule : ∀ rest, e.starts.find? (fun rule => startsWith (start.toList ++ rest) rule.1.toList) =
      some (start, fun s => withQuoted start s next)) :
    e.dispatch (quotedQuery start name) target scope = next name := by
  obtain ⟨⟨c, rest, hcons, -, hheads⟩, -, -, -, hfront⟩ := quotingStarts_plain start hstart
  have hword : (lowered (quotedQuery start name)).toList =
      start.toList ++ '"' :: (lower name.toList ++ ['"']) := by
    rw [lowered, String.toList_ofList, toList_quotedQuery, lower_quoted hstart]
  have hwildcard : wildcards.contains (lowered (quotedQuery start name)) = false := by
    rw [Bool.eq_false_iff, ne_eq, List.contains_iff_mem]
    intro h
    exact hheads _ h (by rw [hword, hcons]; rfl)
  have hempty : emptyMarks.any (Text.contains (lowered (quotedQuery start name))) = false := by
    have hmarks' : ∀ mark ∈ emptyMarks, '"' ∉ mark.toList ∧ mark.toList ≠ [] := by decide
    rw [List.any_eq_false]
    intro mark hmark
    obtain ⟨hquote, hne⟩ := hmarks' mark hmark
    have hname := List.any_eq_false.1 hmarks mark hmark
    rw [Text.contains, lowered, String.toList_ofList] at hname
    rwa [Text.contains, hword, occursIn_quoted hquote hne, hfront mark hmark, Bool.false_or]
  have hbehind : (quotedQuery start name).toList.drop start.length =
      '"' :: (name.toList ++ ['"']) := by
    rw [toList_quotedQuery, ← String.length_toList, List.drop_left]
  unfold dispatch
  simp only [hwildcard, hempty, hword, hrule, hbehind, Bool.false_eq_true, if_false]
  exact withQuoted_quoted hname start next

/-- The query finds what the rule for its start finds for the name. -/
theorem run_quotedQuery {g : Graph} {start : String} (hstart : start ∈ quotingStarts)
    (hmarks : SaysNoEmptyMark name) {next : String → Script (List Record)}
    (hrule : ∀ rest, e.starts.find? (fun rule => startsWith (start.toList ++ rest) rule.1.toList) =
      some (start, fun s => withQuoted start s next)) {records : List Record}
    (h : (next name).run g = .ok records) (strict : Bool) :
    run e g target scope strict (Expr.parse (quotedQuery start name)) = .ok records := by
  have hleaf : e.leafOutcome g target scope (quotedQuery start name) = .ok records := by
    rw [leafOutcome, if_neg (by simp [isBlankString_quotedQuery hstart]),
      trimmed_quotedQuery hstart, dispatch_quotedQuery hname hstart hmarks hrule, h]
  have hpasses : ∀ fault, e.leafOutcome g target scope (quotedQuery start name) = .error fault →
      fault.PassedOver := by
    intro fault hfault
    cases hleaf.symm.trans hfault
  rw [hname.parse_quotedQuery hstart, run_atom strict hpasses, answered, hleaf, leafRecords, hleaf]

/-- The query for the blocks of a page finds those that are looked at of the page that is called
so. -/
theorem run_pageQuery {g : Graph} (hmarks : SaysNoEmptyMark name) {p : Page} {blocks : List Block}
    (h : g.Names name p blocks) (strict : Bool) :
    run e g target scope strict (Expr.parse (pageQuery name)) =
      .ok ((e.visible blocks).map fun b => Record.ofBlock b p.displayName) := by
  obtain ⟨⟨pages, hpages, hfind⟩, hblocks⟩ := h
  have hrule (rest : List Char) :
      e.starts.find? (fun rule => startsWith ("page:".toList ++ rest) rule.1.toList) =
        some ("page:", fun s => withQuoted "page:" s e.pageBlocks) := by
    simp [starts, startsWith, dropPrefix?]
  rw [pageQuery_eq]
  refine run_quotedQuery hname (by decide) hmarks hrule ?_ strict
  simp only [pageBlocks, Script.allPages, Script.outline, bind, Script.bind, Script.run, hpages,
    hfind, hblocks, pure]

end Evaluator

end

/-! ### What a request finds -/

namespace Record

variable {key : SortKey} {records : List Record}

/-- Records that all have ranks are ranked in their order. -/
theorem exists_ranked (h : ∀ r ∈ records, ∃ k, r.rank key = .ok k) :
    ∃ pairs, ranked key records = .ok pairs ∧ pairs.map (·.2) = records := by
  induction records with
  | nil => exact ⟨[], rfl, rfl⟩
  | cons r rest ih =>
    obtain ⟨⟨k, hk⟩, hrest⟩ := List.forall_mem_cons.1 h
    obtain ⟨pairs, hpairs, heq⟩ := ih hrest
    refine ⟨(k, r) :: pairs, ?_, by rw [List.map_cons, heq]⟩
    rw [ranked, hk, hpairs]
    rfl

theorem detail_scored (query : String) (r : Record) : (r.scored query).detail = r.detail := by
  rw [scored]

theorem created_scored (query : String) (r : Record) : (r.scored query).created = r.created := by
  rw [scored]

theorem updated_scored (query : String) (r : Record) : (r.scored query).updated = r.updated := by
  rw [scored]

/-- A record that has a rank has one when it is scored. -/
theorem exists_rank_scored {r : Record} (query : String) (h : ∃ k, r.rank key = .ok k) :
    ∃ k, (r.scored query).rank key = .ok k := by
  cases key with
  | relevance | title | pageTitle | length =>
    rw [rank]
    exact ⟨_, rfl⟩
  | created =>
    rw [rank] at h ⊢
    rwa [created_scored]
  | updated =>
    rw [rank] at h ⊢
    rwa [updated_scored]
  | deadline =>
    rw [rank, deadlineValue] at h ⊢
    rwa [detail_scored]
  | scheduled =>
    rw [rank, scheduledValue] at h ⊢
    rwa [detail_scored]

/-- Records that all have ranks are scored and sorted, none of them being lost. -/
theorem exists_sorted (query : String) (order : SortOrder)
    (h : ∀ r ∈ records, ∃ k, r.rank key = .ok k) :
    ∃ arranged, sorted query key order records = .ok arranged ∧
      arranged.Perm (records.map (scored query)) := by
  have hscored : ∀ r ∈ records.map (scored query), ∃ k, r.rank key = .ok k := by
    rw [List.forall_mem_map]
    exact fun r hr ↦ exists_rank_scored query (h r hr)
  obtain ⟨pairs, hpairs, heq⟩ := exists_ranked hscored
  refine ⟨(pairs.mergeSort (inOrder order)).map (·.2), ?_, ?_⟩
  · rw [sorted, hpairs]
    rfl
  · rw [← heq]
    exact (List.mergeSort_perm pairs _).map _

end Record

namespace SearchRequest

variable {name : String} {r : SearchRequest} {e : Evaluator} {g : Graph} {p : Page}
  {blocks : List Block}

/-- A request for the blocks of a page finds a record for each block of its outline that is not too
deep, if each has a rank. -/
theorem exists_runRecords_pageQuery (hname : Quotable name) (hmarks : SaysNoEmptyMark name)
    (hnames : g.Names name p blocks) (hdepth : 0 ≤ e.settings.maxNestingLevel)
    (hquery : r.query = some (pageQuery name)) (hscope : r.scope = none) (hfilter : r.filter = none)
    (hranks : ∀ b ∈ downTo e.settings.maxNestingLevel blocks,
      ∃ k, (Record.ofBlock b p.displayName).rank r.sort = .ok k) :
    ∃ records, r.runRecords e g = .ok records ∧
      records.Perm ((downTo e.settings.maxNestingLevel blocks).map fun b =>
        (Record.ofBlock b p.displayName).scored (pageQuery name)) := by
  have htrimmed : r.trimmedQuery = pageQuery name := by
    rw [trimmedQuery, hquery, Option.getD_some, pageQuery_eq, trimmed_quotedQuery (by decide)]
  have hne : (pageQuery name).isEmpty = false := by
    simp [← String.toList_eq_nil_iff, pageQuery_eq, toList_quotedQuery]
  have hfound : r.found e g = .ok ((downTo e.settings.maxNestingLevel blocks).map fun b =>
      Record.ofBlock b p.displayName) := by
    rw [found, htrimmed, if_neg (by simp [hne]), Evaluator.run_pageQuery hname hmarks hnames,
      Evaluator.visible, nodes_eq_downTo hdepth]
  obtain ⟨records, hsorted, hperm⟩ := Record.exists_sorted (pageQuery name) r.order
    (List.forall_mem_map.2 hranks)
  refine ⟨records, ?_, by rwa [List.map_map] at hperm⟩
  have harrange : r.arrange ((downTo e.settings.maxNestingLevel blocks).map fun b =>
      Record.ofBlock b p.displayName) = .ok records := by
    rw [arrange, hscope, hfilter, htrimmed]
    exact hsorted
  rw [runRecords_eq, arranged, hfound, Except.bind, harrange]
  rfl

end SearchRequest

end OutlineSearch
