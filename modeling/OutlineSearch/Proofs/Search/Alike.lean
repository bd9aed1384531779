import OutlineSearch.Proofs.Search.Clauses
import OutlineSearch.Proofs.Search.Finding
import OutlineSearch.Proofs.Search.Shape
import Mathlib.Data.List.Forall2

/-!
# Alike requests find the same

A filter that asks for the same in another order answers the same, unless one of its comparisons
fails: which of them are made depends on the order. So alike requests find the same records where
none of their comparisons fails.
-/

namespace OutlineSearch

/-! ### Answers in another order -/

namespace Outcome

/-- Two outcomes are consistent when they are the same unless one of them is a fault. -/
def Consistent {α : Type} (x y : Outcome α) : Prop := ∀ a b, x = .ok a → y = .ok b → a = b

theorem Consistent.refl {α : Type} (x : Outcome α) : Consistent x x := by
  intro a b ha hb
  exact Except.ok.inj (ha.symm.trans hb)

/-- Whether all answers are yes does not depend on their order. -/
theorem all_perm {xs ys : List (Outcome Bool)} (h : xs.Perm ys) : Consistent (all xs) (all ys) := by
  intro a b ha hb
  cases a with
  | true =>
    cases b with
    | true => rfl
    | false => cases eq_true_of_all ha _ (h.mem_iff.2 (false_mem_of_all hb))
  | false =>
    cases b with
    | true => cases eq_true_of_all hb _ (h.mem_iff.1 (false_mem_of_all ha))
    | false => rfl

/-- Whether one of the answers is yes does not depend on their order. -/
theorem any_perm {xs ys : List (Outcome Bool)} (h : xs.Perm ys) : Consistent (any xs) (any ys) := by
  intro a b ha hb
  cases a with
  | true =>
    cases b with
    | true => rfl
    | false => cases eq_false_of_any hb _ (h.mem_iff.1 (true_mem_of_any ha))
  | false =>
    cases b with
    | true => cases eq_false_of_any ha _ (h.mem_iff.2 (true_mem_of_any hb))
    | false => rfl

/-- Answers that are consistent one by one are so together. -/
theorem all_consistent {xs ys : List (Outcome Bool)} (h : List.Forall₂ Consistent xs ys) :
    Consistent (all xs) (all ys) := by
  induction h with
  | nil => exact .refl _
  | @cons x y xs ys hxy h ih =>
    cases x with
    | error fault =>
      intro a b ha
      cases ha
    | ok b =>
      cases y with
      | error fault =>
        intro a b ha hb
        cases hb
      | ok c =>
        obtain rfl := hxy b c rfl rfl
        cases b with
        | true => exact ih
        | false => exact .refl _

/-- Tests that are consistent keep the same members of a list. -/
theorem filter_consistent {α : Type} {test test' : α → Outcome Bool} {items : List α}
    (h : ∀ a ∈ items, Consistent (test a) (test' a)) :
    Consistent (filter test items) (filter test' items) := by
  induction items with
  | nil => exact .refl _
  | cons a items ih =>
    rw [List.forall_mem_cons] at h
    intro kept kept' hkept hkept'
    unfold filter at hkept hkept'
    cases hfirst : test a with
    | error fault =>
      rw [hfirst] at hkept
      cases hkept
    | ok b =>
      cases hfirst' : test' a with
      | error fault =>
        rw [hfirst'] at hkept'
        cases hkept'
      | ok b' =>
        obtain rfl := h.1 b b' hfirst hfirst'
        cases hmore : filter test items with
        | error fault =>
          rw [hfirst, hmore] at hkept
          cases hkept
        | ok more =>
          cases hmore' : filter test' items with
          | error fault =>
            rw [hfirst', hmore'] at hkept'
            cases hkept'
          | ok more' =>
            obtain rfl := ih h.2 more more' hmore hmore'
            rw [hfirst, hmore] at hkept
            rw [hfirst', hmore'] at hkept'
            exact Except.ok.inj (hkept.symm.trans hkept')

end Outcome

/-- The members of alike objects are the same but for their order. -/
theorem Json.Alike.perm {members members' : List (String × Json)}
    (h : Alike (.object members) (.object members')) :
    (members.map fun m => (m.1, m.2.sortNames)).Perm
      (members'.map fun m => (m.1, m.2.sortNames)) := by
  obtain ⟨sorted, hsorted, hperm⟩ := sortNames_object members
  obtain ⟨sorted', hsorted', hperm'⟩ := sortNames_object members'
  obtain rfl : sorted = sorted' := Json.object.inj (hsorted.symm.trans (h.trans hsorted'))
  exact hperm.symm.trans hperm'

namespace Filter

/-- Whether a record has each of some wanted properties. -/
def wishes (r : Record) (wanted : Option Properties) : List (Outcome Bool) :=
  (wanted.getD []).map fun (key, v) => hasProperty r key v

/-- The wishes for alike properties are the same but for their order. -/
theorem wishes_perm {wanted wanted' : Option Properties} (h : Properties.Alike wanted wanted')
    (r : Record) : (wishes r wanted).Perm (wishes r wanted') := by
  have hsorted (members : List (String × Json)) :
      wishes r (some (members.map fun m => (m.1, m.2.toValue))) =
        (members.map fun m => (m.1, m.2.sortNames)).map fun m =>
          hasProperty r m.1 m.2.toValue := by
    unfold wishes
    rw [Option.getD_some, List.map_map, List.map_map]
    refine List.map_congr_left fun m _ ↦ ?_
    exact (Value.matchesWanted_sortNames _ m.2).symm
  cases h with
  | absent => exact .refl _
  | present h =>
    rw [hsorted, hsorted]
    exact h.perm.map _

theorem keepsAnyProperty_eq (wanted : Option Properties) (r : Record) :
    keepsAnyProperty wanted r =
      if (wishes r wanted).isEmpty then .ok true else .any (wishes r wanted) := by
  unfold keepsAnyProperty wishes
  cases wanted.getD [] with
  | nil => rfl
  | cons p ps => rfl

/-- Alike filters do not disagree about a record. -/
theorem Alike.keeps {f f' : Filter} (h : f.Alike f') (r : Record) :
    Outcome.Consistent (f.keeps r) (f'.keeps r) := by
  obtain ⟨hrest, hany, hall⟩ := h
  have hallProperties : Outcome.Consistent (keepsAllProperties f.propertiesAll r)
      (keepsAllProperties f'.propertiesAll r) :=
    Outcome.all_perm (wishes_perm hall r)
  have hanyProperty : Outcome.Consistent (keepsAnyProperty f.propertiesAny r)
      (keepsAnyProperty f'.propertiesAny r) := by
    have hperm := wishes_perm hany r
    rw [keepsAnyProperty_eq, keepsAnyProperty_eq, hperm.isEmpty_eq]
    split
    · exact .refl _
    · exact Outcome.any_perm hperm
  generalize f'.propertiesAny = any at *
  generalize f'.propertiesAll = all at *
  subst hrest
  refine Outcome.all_consistent ?_
  exact .cons (.refl _) <| .cons (.refl _) <| .cons hallProperties <| .cons hanyProperty <|
    List.forall₂_same.2 fun _ _ ↦ .refl _

/-- Alike filters keep the same records. -/
theorem AlikeOption.apply {f f' : Option Filter} (h : AlikeOption f f') (records : List Record) :
    Outcome.Consistent (Filter.apply f records) (Filter.apply f' records) := by
  cases h with
  | absent => exact .refl _
  | present h => exact Outcome.filter_consistent fun r _ ↦ h.keeps r

end Filter

namespace SearchRequest

/-- What a request finds on a graph that stands still, before it is arranged. -/
def found (e : Evaluator) (g : Graph) (r : SearchRequest) : Outcome (List Record) :=
  if r.trimmedQuery.isEmpty then (e.collect r.target r.scope).run g
  else e.run g r.target r.scope r.strict (Expr.parse r.trimmedQuery)

theorem runRecords_eq (e : Evaluator) (g : Graph) (r : SearchRequest) :
    r.runRecords e g = r.arranged (r.found e g) := rfl

/-- What a request finds on a graph can be arranged: no comparison that this takes fails. -/
def Comparable (e : Evaluator) (g : Graph) (r : SearchRequest) : Prop :=
  ∀ records, r.found e g = .ok records → ∃ arranged, r.arrange records = .ok arranged

variable {r r' : SearchRequest}

theorem Alike.found_eq (h : r.Alike r') (e : Evaluator) (g : Graph) :
    r.found e g = r'.found e g := by
  rw [found, found, h.query, h.target, h.scope, h.strict]

theorem arrange_eq_ok {records arranged : List Record} (h : r.arrange records = .ok arranged) :
    ∃ kept, Filter.apply r.filter (Scope.apply r.scope records) = .ok kept ∧
      Record.sorted r.trimmedQuery r.sort r.order kept = .ok arranged := by
  unfold arrange at h
  cases hkept : Filter.apply r.filter (Scope.apply r.scope records) with
  | error fault =>
    rw [hkept] at h
    cases h
  | ok kept =>
    rw [hkept] at h
    exact ⟨kept, rfl, h⟩

/-- Alike requests arrange records alike. -/
theorem Alike.arrange (h : r.Alike r') (records : List Record) :
    Outcome.Consistent (r.arrange records) (r'.arrange records) := by
  intro arranged arranged' harranged harranged'
  obtain ⟨kept, hkept, hsorted⟩ := arrange_eq_ok harranged
  obtain ⟨kept', hkept', hsorted'⟩ := arrange_eq_ok harranged'
  rw [← h.scope] at hkept'
  obtain rfl := h.filter.apply _ kept kept' hkept hkept'
  rw [← h.query, ← h.sort, ← h.order] at hsorted'
  exact Except.ok.inj (hsorted.symm.trans hsorted')

/-- Alike requests find the same records where no comparison fails. -/
theorem Alike.runRecords_eq (h : r.Alike r') {e : Evaluator} {g : Graph}
    (hr : r.Comparable e g) (hr' : r'.Comparable e g) : r.runRecords e g = r'.runRecords e g := by
  rw [SearchRequest.runRecords_eq, SearchRequest.runRecords_eq, ← h.found_eq]
  cases hfound : r.found e g with
  | error fault => rfl
  | ok records =>
    obtain ⟨arranged, harranged⟩ := hr records hfound
    obtain ⟨arranged', harranged'⟩ := hr' records (by rw [← h.found_eq, hfound])
    have heq := h.arrange records arranged arranged' harranged harranged'
    change (r.arrange records).mapError toldFault = (r'.arrange records).mapError toldFault
    rw [harranged, harranged', heq]

end SearchRequest

end OutlineSearch
