import OutlineSearch.Proofs.Search.Containment
import OutlineSearch.Proofs.Search.Origins
import OutlineSearch.Proofs.Search.Relevance

/-!
# What is found is ranked

A text that is searched for is looked for in one text of a record, and the record is ranked by
another one. What matches in the first matches in the second, so that all records found have the
points of a match.
-/

namespace OutlineSearch

open OutlineSearch.Search OutlineSearch.Text OutlineSearch.Engine

/-! ### The text that is ranked -/

namespace Record

variable {r : Record} {query : String}

/-- The record is ranked by its name together with its text. -/
def RankedByBoth (r : Record) : Prop := r.rankingText = trimmed s!"{r.name} {r.content}"

theorem RankedByBoth.matches (hr : r.RankedByBoth) (htrimmed : ∀ p ∈ phrases query, trimmed p = p)
    (h : matchesQuery r.name query = true ∨ matchesQuery r.content query = true) :
    matchesQuery r.rankingText query = true := by
  rw [hr]
  exact matchesQuery_beside htrimmed h

/-- Whatever a record shows, a match in its text is one in the text that is ranked. -/
theorem matches_of_content (htrimmed : ∀ p ∈ phrases query, trimmed p = p)
    (h : matchesQuery r.content query = true) : matchesQuery r.rankingText query = true := by
  have hprimary : matchesQuery r.primaryText query = true := by
    rw [primaryText]
    split
    · next hempty =>
      rw [String.isEmpty_iff.1 hempty] at h
      exact matchesQuery_of_empty h r.name
    · exact h
  rw [rankingText]
  split
  · exact matchesQuery_beside htrimmed (.inr h)
  · exact matchesQuery_beside htrimmed (.inr h)
  · exact hprimary

end Record

/-! ### Texts that are searched for -/

namespace Evaluator

open Script

variable {L : Lore} {e : Evaluator} {query : String} {target : Target} {scope : Option Scope}

/-- A text that is searched for: it is no word for every page, no mark for empty pages stands in it,
and it starts like no filter. -/
structure Searches (e : Evaluator) (text : String) : Prop where
  word : lowered (trimmed text) ∉ wildcards
  marks : ∀ mark ∈ emptyMarks, Text.contains (lowered (trimmed text)) mark = false
  starts : ∀ start ∈ e.starts.map Prod.fst,
    startsWith (lowered (trimmed text)).toList start.toList = false

theorem Searches.dispatch (h : e.Searches query) (target : Target) (scope : Option Scope) :
    e.dispatch (trimmed query) target scope = e.matchText (trimmed query) target scope := by
  have hmarks : emptyMarks.any (Text.contains (lowered (trimmed query))) = false :=
    List.any_eq_false.2 fun mark hmark ↦ by simp [h.marks mark hmark]
  have hstarts : e.starts.find? (fun rule =>
      startsWith (lowered (trimmed query)).toList rule.1.toList) = none :=
    List.find?_eq_none.2 fun rule hrule ↦ by simp [h.starts rule.1 (List.mem_map_of_mem hrule)]
  unfold Evaluator.dispatch
  simp only [List.contains_eq_mem, h.word, hmarks, decide_false, Bool.false_eq_true, if_false]
  split
  · next hfind => cases hstarts.symm.trans hfind
  · rfl

/-- All records that a script gives match a query by the text that is ranked. -/
abbrev Matches (query : String) (L : Lore) (s : Script (List Record)) : Prop :=
  s.Gives (fun records ↦ ∀ r ∈ records, matchesQuery r.rankingText query = true) L

theorem gives_anything {α : Type} (s : Script α) : s.Gives (fun _ ↦ True) L := fun _ _ ↦ trivial

theorem gives_rankedByBoth {α : Type} {s : Script (List α)} {ofItem : α → Record}
    (h : ∀ a, (ofItem a).RankedByBoth) :
    (do return (← s).map ofItem : Script (List Record)).Gives
      (fun records ↦ ∀ r ∈ records, r.RankedByBoth) L :=
  gives_bind (gives_anything s) fun _ _ ↦ gives_pure (List.forall_mem_map.2 fun a _ ↦ h a)

theorem gives_collectPages :
    collectPages.Gives (fun records ↦ ∀ r ∈ records, r.RankedByBoth) L :=
  gives_rankedByBoth fun _ ↦ rfl

theorem gives_collectTemplates (e : Evaluator) :
    e.collectTemplates.Gives (fun records ↦ ∀ r ∈ records, r.RankedByBoth) L :=
  gives_rankedByBoth fun _ ↦ rfl

/-- Every record that a search for a text finds among pages, blocks, templates or tasks matches by
the text that is ranked. -/
theorem matches_matchText (htarget : target ≠ .properties)
    (htrimmed : ∀ p ∈ phrases query, trimmed p = p) :
    Matches query L (e.matchText query target scope) := by
  have hname {records : List Record} (h : ∀ r ∈ records, r.RankedByBoth) :
      ∀ r ∈ records.filter fun r => matchesQuery r.name query,
        matchesQuery r.rankingText query = true := fun r hr ↦
    (h r (List.mem_filter.1 hr).1).matches htrimmed (.inl (List.mem_filter.1 hr).2)
  have hcontent (records : List Record) :
      ∀ r ∈ records.filter fun r => matchesQuery r.content query,
        matchesQuery r.rankingText query = true := fun r hr ↦
    Record.matches_of_content htrimmed (List.mem_filter.1 hr).2
  cases target with
  | pages => exact gives_bind gives_collectPages fun _ h ↦ gives_pure (hname h)
  | blocks => exact gives_bind (gives_anything _) fun records _ ↦ gives_pure (hcontent records)
  | both =>
    refine gives_bind gives_collectPages fun pages hpages ↦
      gives_bind (gives_anything _) fun blocks _ ↦ gives_pure ?_
    rw [List.forall_mem_append]
    exact ⟨hname hpages, hcontent blocks⟩
  | templates =>
    refine gives_bind (gives_collectTemplates e) fun records h ↦ gives_pure fun r hr ↦ ?_
    obtain ⟨hr, hmatch⟩ := List.mem_filter.1 hr
    rw [Bool.or_eq_true] at hmatch
    exact (h r hr).matches htrimmed hmatch
  | tasks => exact gives_bind (gives_anything _) fun records _ ↦ gives_pure (hcontent records)
  | properties => exact absurd rfl htarget

/-- The records of a filter whose text is searched for match it by the text that is ranked. -/
theorem matches_atom (hsearches : e.Searches query) (htarget : target ≠ .properties)
    (htrimmed : ∀ p ∈ phrases query, trimmed p = p) (strict : Bool) :
    Matches query L (e.atom target scope strict query) := by
  unfold atom
  split
  · exact gives_pure (List.forall_mem_nil _)
  · refine gives_rescue ?_ fun fault records h ↦ ?_
    · rw [hsearches.dispatch]
      rw [← phrases_trimmed] at htrimmed
      intro records hrecords r hr
      rw [← matchesQuery_trimmed]
      exact matches_matchText htarget htrimmed records hrecords r hr
    · cases fault with
      | provider message =>
        cases h
        exact List.forall_mem_nil _
      | badQuery message =>
        rw [nothingFromAtom] at h
        split at h
        · cases h
        · cases h
          exact List.forall_mem_nil _
      | _ => cases h

/-- A filter whose text is searched for does not fail. -/
theorem not_yields_atom (hL : L.Fair) (hsearches : e.Searches query) (strict : Bool)
    (fault : Fault) : ¬(e.atom target scope strict query).Yields L (.error fault) := by
  unfold atom
  split
  · intro h
    cases h
  · rw [hsearches.dispatch]
    intro h
    rcases Yields.of_rescue h with ⟨_, -, ho⟩ | ⟨fault', hfault, ho⟩
    · cases ho
    · obtain ⟨message, rfl⟩ := failsOnly_matchText
        (P := fun fault ↦ ∃ message, fault = .provider message) hL (fun message ↦ ⟨message, rfl⟩)
        e _ target scope fault' hfault
      cases ho

end Evaluator

/-- Every record that is found for a text among pages, blocks, templates or tasks has the score of a
match by the text that it is ranked by: a hundred for each phrase, and fifty at least for a text
without phrases that says anything. -/
theorem found_scores {w : World} (hw : w.Ready) {query : String}
    (hsearches : w.evaluator.Searches query) (htrimmed : ∀ p ∈ phrases query, trimmed p = p)
    {target : Target} (htarget : target ≠ .properties) (scope : Option Scope) (strict : Bool) :
    Returns w (.atom query target strict scope) ∧
      ∀ reply, MayReturn w (.atom query target strict scope) reply →
        ∃ records, reply = .ok (.records records) ∧ ∀ r ∈ records,
          (phrases query ≠ [] →
            score r.rankingText query = .ofInt (100 * (phrases query).length)) ∧
          (phrases query = [] → normalizeText query ≠ "" →
            (Binary64.ofInt 50).atMost (score r.rankingText query) = true) := by
  have hL := Lore.fair_calling w.settings w.today
  refine returns_asked hw.holds hw.flights ?_
  rw [runs_atom]
  refine .look (Lore.safe_script hL (fun found hfound ↦ Lore.safe_finish ?_) w hw.holds)
  cases found with
  | error fault => exact absurd hfound (Evaluator.not_yields_atom hL hsearches strict fault)
  | ok records =>
    refine ⟨records, rfl, fun r hr ↦ score_of_matchesQuery ?_⟩
    exact Evaluator.matches_atom hsearches htarget htrimmed strict records hfound r hr

/-! ### A page with accents -/

/-- A page with accents in its name. -/
def accentedPage : Page := { id := "1", name := "Été à Paris" }

/-- The world around that page. -/
def accentedWorld : World := .around (.ofPage accentedPage) (.ofInt 1000) someDay

theorem ready_accentedWorld : accentedWorld.Ready :=
  ⟨(Provider.serves_ofPage accentedPage).falters.callable (Graph.regular_ofPage accentedPage), rfl,
    fun _ he ↦ nomatch he⟩

/-- What a text finds among the pages of that world. -/
def foundAccented (query : String) : Outcome (List Record) :=
  (accentedWorld.evaluator.atom .pages none false query).run
    (Graph.ofPage accentedPage).canonical.told

theorem eq_foundAccented {query : String} {reply : Outcome Reply}
    (h : MayReturn accentedWorld (.atom query .pages false none) reply) :
    reply = (foundAccented query).map .records :=
  (returns_script (w := accentedWorld) (Graph.regular_ofPage accentedPage).coherent
    (Provider.serves_ofPage accentedPage) (holds_around ..) rfl (runs_atom query .pages false none)
    (Evaluator.asksOnly_atom false query)).2 reply h

theorem normalizeText_accented : normalizeText " éTÉ" ≠ "" := by
  intro hempty
  -- its middle letter decomposes to itself
  have hletter : lower (trim ['t']) <:+: lower " éTÉ".toList := occursIn_iff.1 (by decide +kernel)
  have hinfix := normalForm_isInfix hletter
  rw [String.ofList_eq_empty_iff.1 hempty, List.infix_nil] at hinfix
  exact absurd hinfix (by decide +kernel)

/-- The page is found for a word of its name in another case, and for two phrases. -/
theorem accentedPage_scores :
    (∃ found, found.map Record.id = ["1"] ∧
      MayReturn accentedWorld (.atom " éTÉ" .pages false none) (.ok (.records found)) ∧
      ∀ r ∈ found, (Binary64.ofInt 50).atMost (score r.rankingText " éTÉ") = true) ∧
    ∃ found, found.map Record.id = ["1"] ∧
      MayReturn accentedWorld (.atom "\"PARIS\" \"à p\"" .pages false none)
        (.ok (.records found)) ∧
      ∀ r ∈ found, score r.rankingText "\"PARIS\" \"à p\"" = .ofInt 200 := by
  have hfind (query : String) (hsearches : accentedWorld.evaluator.Searches query)
      (htrimmed : ∀ p ∈ phrases query, trimmed p = p)
      (hids : ((foundAccented query).toOption.getD []).map Record.id = ["1"]) :
      ∃ found, found.map Record.id = ["1"] ∧
        MayReturn accentedWorld (.atom query .pages false none) (.ok (.records found)) ∧
        ∀ r ∈ found,
          (phrases query ≠ [] →
            score r.rankingText query = .ofInt (100 * (phrases query).length)) ∧
          (phrases query = [] → normalizeText query ≠ "" →
            (Binary64.ofInt 50).atMost (score r.rankingText query) = true) := by
    have hpages : Target.pages ≠ .properties := by decide
    obtain ⟨hreturns, hscores⟩ :=
      found_scores ready_accentedWorld hsearches htrimmed hpages none false
    obtain ⟨reply, hreply⟩ := hreturns.exists
    obtain ⟨found, rfl, hrecords⟩ := hscores reply hreply
    have heq := eq_foundAccented hreply
    generalize foundAccented query = outcome at hids heq
    cases outcome with
    | error fault => cases heq
    | ok records =>
      cases heq
      exact ⟨found, hids, hreply, hrecords⟩
  constructor
  · obtain ⟨found, hids, hreply, hrecords⟩ := hfind " éTÉ"
      ⟨by decide +kernel, by decide +kernel, by decide +kernel⟩ (by decide +kernel)
      (by decide +kernel)
    exact ⟨found, hids, hreply, fun r hr ↦
      (hrecords r hr).2 (by decide +kernel) normalizeText_accented⟩
  · obtain ⟨found, hids, hreply, hrecords⟩ := hfind "\"PARIS\" \"à p\""
      ⟨by decide +kernel, by decide +kernel, by decide +kernel⟩ (by decide +kernel)
      (by decide +kernel)
    exact ⟨found, hids, hreply, fun r hr ↦ (hrecords r hr).1 (by decide +kernel)⟩

end OutlineSearch
