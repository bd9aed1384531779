import OutlineSearch.Proofs.Calendar.Days
import OutlineSearch.Proofs.Calendar.JournalDays
import OutlineSearch.Proofs.Search.Boolean
import Mathlib.Data.Bool.AllAny

/-!
# Journal pages of a day

A filter for a date finds the pages that are about a day of its period, among the first ones of the
listing. So a page with no other date than its journal day is found exactly when the number of its
journal day is read as such a day.
-/

namespace OutlineSearch

open OutlineSearch.Text OutlineSearch.Search

/-! ### The query for a day -/

/-- The query for the pages of a day. -/
def dateQuery (d : Date) : String := String.ofList ("date:".toList ++ d.hyphened)

theorem toList_dateQuery (d : Date) : (dateQuery d).toList = "date:".toList ++ d.hyphened :=
  String.toList_ofList

/-- The characters of the query besides digits. -/
def dateMarks : List Char := ['d', 'a', 't', 'e', ':', '-']

theorem of_mem_dateQuery {d : Date} {c : Char} (h : c ∈ (dateQuery d).toList) :
    c.isDigit = true ∨ c ∈ dateMarks := by
  rw [toList_dateQuery, List.mem_append] at h
  rcases h with h | h
  · exact .inr (List.mem_append_left ['-'] h)
  · rcases Date.of_mem_hyphened h with hdigit | rfl
    · exact .inl hdigit
    · exact .inr (by decide)

theorem lowered_dateQuery (d : Date) : lowered (dateQuery d) = dateQuery d := by
  have hmarks : ∀ c ∈ dateMarks, IsLower c := List.all_iff_forall_prop.1 (by decide +kernel)
  have hlower : ∀ c ∈ (dateQuery d).toList, IsLower c := fun c hc ↦ by
    rcases of_mem_dateQuery hc with hdigit | hmark
    · exact Number.isLower_of_isDigit hdigit
    · exact hmarks c hmark
  rw [lowered, lower, lowerFrom_of_isLower hlower, String.ofList_toList]

theorem bare_dateQuery (d : Date) : Bare (dateQuery d).toList := by
  have hmarks : ∀ c ∈ dateMarks, isBlank c = false := List.all_iff_forall_prop.1 (by decide)
  refine .of_forall fun c hc ↦ ?_
  rcases of_mem_dateQuery hc with hdigit | hmark
  · exact Number.isBlank_of_isDecimal (Number.isDecimal_of_isDigit hdigit)
  · exact hmarks c hmark

/-- A text that is in the query has characters of the query only. -/
theorem not_contains_dateQuery {d : Date} (mark : String)
    (hmark : mark.toList.any (fun c => !(c.isDigit || dateMarks.contains c)) = true) :
    Text.contains (dateQuery d) mark = false := by
  obtain ⟨c, hc, hother⟩ := List.any_eq_true.1 hmark
  rw [Bool.not_eq_true', Bool.or_eq_false_iff, Bool.eq_false_iff, Bool.eq_false_iff, ne_eq, ne_eq,
    List.contains_iff_mem] at hother
  rw [Bool.eq_false_iff, Text.contains, ne_eq, occursIn_iff]
  exact fun h ↦ (of_mem_dateQuery (h.subset hc)).elim hother.1 hother.2

theorem parse_dateQuery (d : Date) : Expr.parse (dateQuery d) = .atom (dateQuery d) := by
  have htrim := (bare_dateQuery d).trim_eq
  have hor : occursIn Expr.orMark (dateQuery d).toList = false :=
    not_contains_dateQuery " OR " rfl
  have hand : occursIn Expr.andMark (trim (dateQuery d).toList) = false := by
    rw [htrim]
    exact not_contains_dateQuery " AND " rfl
  rw [Expr.parse, if_neg (by simp [hor]), Expr.conjunction, if_neg (by simp [hand]), Expr.ofText,
    htrim, htrim, String.ofList_toList]

/-- No word for a period is the text of a day. -/
theorem ofList_hyphened_ne {d : Date} {word : String} {c : Char} (hc : c ∈ word.toList)
    (hdigit : c.isDigit = false) (hhyphen : c ≠ '-') :
    (String.ofList d.hyphened == word) = false := by
  rw [beq_eq_false_iff_ne]
  rintro rfl
  rw [String.toList_ofList] at hc
  rcases Date.of_mem_hyphened hc with hdigit' | rfl
  · cases hdigit.symm.trans hdigit'
  · exact hhyphen rfl

/-- The text of a day names the period of this day. -/
theorem Period.ofToken_hyphened (d today : Date) :
    ofToken (String.ofList d.hyphened) today = .ok (some (single d)) := by
  have hlower : ∀ c ∈ d.hyphened, IsLower c := fun c hc ↦ by
    rcases Date.of_mem_hyphened hc with hdigit | rfl
    · exact Number.isLower_of_isDigit hdigit
    · decide +kernel
  have hword : lower (trim d.hyphened) = d.hyphened := by
    rw [d.bare_hyphened.trim_eq, lower, lowerFrom_of_isLower hlower]
  have htoday : (String.ofList d.hyphened == "today") = false :=
    ofList_hyphened_ne (c := 't') (by decide) rfl (by decide)
  have hyesterday : (String.ofList d.hyphened == "yesterday") = false :=
    ofList_hyphened_ne (c := 'y') (by decide) rfl (by decide)
  have hlast (word : String) (h : 'l' ∈ word.toList) :
      (String.ofList d.hyphened == word) = false := ofList_hyphened_ne h rfl (by decide)
  rw [ofToken, String.toList_ofList, hword]
  simp only [htoday, hyesterday, hlast "last-week" (by decide), hlast "last week" (by decide),
    hlast "last-month" (by decide), hlast "last month" (by decide), Bool.or_self,
    Bool.false_eq_true, if_false, Pattern.read?_hyphened]
  rfl

namespace Evaluator

variable {e : Evaluator} {target : Target} {scope : Option Scope}

/-- No rule in front of the one for dates applies to the query. -/
theorem dispatch_dateQuery (d : Date) :
    e.dispatch (dateQuery d) target scope = e.datePages (String.ofList d.hyphened) := by
  have hwildcard : wildcards.contains (dateQuery d) = false := by
    have hheads : ∀ word ∈ wildcards, word.toList.head? ≠ some 'd' := by decide
    rw [Bool.eq_false_iff, ne_eq, List.contains_iff_mem]
    intro h
    exact hheads _ h (by rw [toList_dateQuery]; rfl)
  have hempty : emptyMarks.any (Text.contains (dateQuery d)) = false := by
    have hmarks : ∀ mark ∈ emptyMarks,
        mark.toList.any (fun c => !(c.isDigit || dateMarks.contains c)) = true := by decide
    refine List.any_eq_false.2 fun mark hmark ↦ Bool.eq_false_iff.1 ?_
    exact not_contains_dateQuery mark (hmarks mark hmark)
  have hrule : e.starts.find? (fun rule =>
      startsWith ("date:".toList ++ d.hyphened) rule.1.toList) =
      some ("date:", fun s => e.datePages (String.ofList s)) := by
    simp [starts, startsWith, dropPrefix?]
  unfold dispatch
  simp only [lowered_dateQuery, hwildcard, hempty, toList_dateQuery, hrule, Bool.false_eq_true,
    if_false]
  rfl

/-! ### What a filter for a date finds -/

variable {g : Graph} {pages : List Page}

theorem run_datePages (hg : g.pages = .ok pages) {token : String} {period : Period}
    (htoken : Period.ofToken token e.today = .ok (some period)) : (e.datePages token).run g =
      .ok (((upTo e.settings.dateScanLimit pages).filter fun p =>
        (daysOf p).any period.contains).map fun p => Record.ofPage p (some "date")) := by
  simp only [datePages, htoken]
  simp only [Script.allPages, bind, Script.bind, Script.run, hg, pure]

theorem run_dateQuery (hg : g.pages = .ok pages) (strict : Bool) (d : Date) :
    run e g target scope strict (Expr.parse (dateQuery d)) =
      .ok (((upTo e.settings.dateScanLimit pages).filter fun p =>
        (daysOf p).any (Period.single d).contains).map fun p => Record.ofPage p (some "date")) := by
  have hblank : ¬isBlankString (dateQuery d) = true := by
    rw [isBlankString, toList_dateQuery]
    exact Bool.false_ne_true
  have htrimmed : trimmed (dateQuery d) = dateQuery d := by
    rw [trimmed, (bare_dateQuery d).trim_eq, String.ofList_toList]
  rw [parse_dateQuery, run, atom, if_neg hblank, htrimmed, dispatch_dateQuery, Script.run_rescue,
    run_datePages hg (Period.ofToken_hyphened d e.today)]

end Evaluator

/-! ### Journal pages -/

/-- A journal page with the number of its day. -/
structure Page.HasJournalDay (p : Page) (n : Int) : Prop where
  journal : p.journal = true
  number : p.journalDay = some n

/-- The days of the properties of a page. -/
def Page.propertyDays (p : Page) : List Date := Evaluator.daysOf { p with journal := false }

/-- A journal page is about its journal day, if its number is read as one, and about the days of its
properties. -/
theorem Page.HasJournalDay.daysOf_eq {p : Page} {n : Int} (h : p.HasJournalDay n) :
    Evaluator.daysOf p = (Spelling.journalDay n).toList ++ p.propertyDays := by
  unfold propertyDays Evaluator.daysOf
  dsimp only
  rw [if_pos h.journal, h.number, if_neg Bool.false_ne_true, List.nil_append]
  rfl

/-- The record of a page says which days the page is about. -/
theorem daysOf_eq_of_ofPage_eq {p q : Page} {reason : Option String}
    (h : Record.ofPage p reason = Record.ofPage q reason) :
    Evaluator.daysOf p = Evaluator.daysOf q := by
  have hproperties : p.properties = q.properties := congrArg Record.properties h
  have hdetail := congrArg Record.detail h
  simp only [Record.ofPage, Detail.page.injEq, and_true] at hdetail
  rw [Evaluator.daysOf, Evaluator.daysOf, hproperties, hdetail.1, hdetail.2]

/-- Whether a page is among those with a day of the period, told by its record. -/
theorem mem_found_iff {pages : List Page} {p : Page} (hp : p ∈ pages) (period : Period)
    (reason : Option String) :
    Record.ofPage p reason ∈ (pages.filter fun p => (Evaluator.daysOf p).any period.contains).map
      (fun p => Record.ofPage p reason) ↔ ∃ d ∈ Evaluator.daysOf p, period.contains d = true := by
  rw [List.mem_map, ← List.any_eq_true]
  constructor
  · rintro ⟨q, hq, heq⟩
    rw [← daysOf_eq_of_ofPage_eq heq]
    exact (List.mem_filter.1 hq).2
  · exact fun h ↦ ⟨p, List.mem_filter.2 ⟨hp, h⟩, rfl⟩

/-- A number is read as a day exactly when it is a number of this day, which is its number of eight
digits unless it has six or seven digits. The query for a day finds a page without another date
exactly when the number of its journal day is read as this day, and every filter for a date finds a
page by its journal day exactly when this number is read as a day of the period. -/
theorem journal_pages_found (e : Evaluator) {g : Graph} {pages : List Page}
    (hg : g.pages = .ok pages) :
    (∀ n d, Spelling.journalDay n = some d ↔ 1000 ≤ d.year ∧ NumberOfDay n d) ∧
    (∀ n d, n < 100000 ∨ 10000000 ≤ n →
      (Spelling.journalDay n = some d ↔ 1000 ≤ d.year ∧ n = d.eightDigits)) ∧
    (∀ target scope strict d, ∃ found,
      e.run g target scope strict (Expr.parse (dateQuery d)) = .ok found ∧
      ∀ p ∈ upTo e.settings.dateScanLimit pages, ∀ n, p.HasJournalDay n → p.propertyDays = [] →
        (Record.ofPage p (some "date") ∈ found ↔ 1000 ≤ d.year ∧ NumberOfDay n d)) ∧
    ∀ token period, Period.ofToken token e.today = .ok (some period) → ∃ found,
      (e.datePages token).run g = .ok found ∧
      ∀ p ∈ upTo e.settings.dateScanLimit pages, ∀ n, p.HasJournalDay n →
        (Record.ofPage p (some "date") ∈ found ↔
          (∃ d, (1000 ≤ d.year ∧ NumberOfDay n d) ∧ period.contains d = true) ∨
            ∃ d ∈ p.propertyDays, period.contains d = true) := by
  have hdays {p : Page} {n : Int} (h : p.HasJournalDay n) (d : Date) :
      d ∈ Evaluator.daysOf p ↔ (1000 ≤ d.year ∧ NumberOfDay n d) ∨ d ∈ p.propertyDays := by
    rw [h.daysOf_eq, List.mem_append, Option.mem_toList, Spelling.journalDay_eq_some_iff]
  refine ⟨fun n d ↦ Spelling.journalDay_eq_some_iff,
    fun n d ↦ Spelling.journalDay_eq_some_iff_eightDigits,
    fun target scope strict d ↦ ⟨_, Evaluator.run_dateQuery hg strict d, fun p hp n h hnone ↦ ?_⟩,
    fun token period htoken ↦ ⟨_, Evaluator.run_datePages hg htoken, fun p hp n h ↦ ?_⟩⟩
  · rw [mem_found_iff hp]
    simp only [Period.contains_single, exists_eq_right, hdays h, hnone, List.not_mem_nil, or_false]
  · rw [mem_found_iff hp]
    simp only [hdays h, or_and_right, exists_or]

/-- A journal page with the number of its day. -/
def journalPage (n : Int) : Page :=
  { id := "1", name := "journal", journal := true, journalDay := some n }

/-- A graph with one journal page. -/
def journalGraph (n : Int) : Graph where
  pages := .ok [journalPage n]
  blocks _ := .ok []

/-- The journal page of a day is found on this day. -/
theorem journalGraph_found : ∃ found,
    Evaluator.run { today := default } (journalGraph 20240315) .pages none true
      (Expr.parse (dateQuery someDay)) = .ok found ∧
    Record.ofPage (journalPage 20240315) (some "date") ∈ found := by
  obtain ⟨-, -, hday, -⟩ :=
    journal_pages_found { today := default } (g := journalGraph 20240315) rfl
  obtain ⟨found, hrun, hfound⟩ := hday .pages none true someDay
  exact ⟨found, hrun, (hfound _ List.mem_cons_self _ ⟨rfl, rfl⟩ rfl).2 ⟨by decide, .full rfl⟩⟩

/-- A number of seven digits is read as a day, the 5th of November 2024, whose number of eight
digits it is not. -/
theorem not_journalDay_eightDigits : ∃ d : Date, Spelling.journalDay 2024115 = some d ∧
    d.year = 2024 ∧ d.month = 11 ∧ d.day = 5 ∧ (2024115 : Int) ≠ d.eightDigits :=
  ⟨⟨2024, 11, 5, by decide, by decide, by decide⟩, by decide +kernel, rfl, rfl, rfl, by decide⟩

end OutlineSearch
