import OutlineSearch.Proofs.Value.Wanted
import OutlineSearch.Search.Execute

/-!
# Faults of arranging

To filter and to sort records can fail, since a number can be too large to be compared with another.
Such a fault is never a search fault, so a search tells it as its own.
-/

namespace OutlineSearch

namespace Outcome

variable {α β : Type}

/-- The fault of an outcome, if it is one, is no search fault. -/
def NoSearchFault (o : Outcome α) : Prop := ∀ fault, o = .error fault → fault.isSearchFault = false

theorem noSearchFault_ok (a : α) : NoSearchFault (.ok a) := fun _ h ↦ nomatch h

theorem noSearchFault_error {fault : Fault} (h : fault.isSearchFault = false) :
    NoSearchFault (.error fault : Outcome α) := by
  intro fault' hfault
  cases hfault
  exact h

theorem NoSearchFault.bind {o : Outcome α} {f : α → Outcome β} (ho : o.NoSearchFault)
    (hf : ∀ a, (f a).NoSearchFault) : NoSearchFault (o >>= f) := by
  cases o with
  | ok a => exact hf a
  | error fault => exact noSearchFault_error (ho fault rfl)

theorem NoSearchFault.map {o : Outcome α} (f : α → β) (ho : o.NoSearchFault) :
    NoSearchFault (o.map f) := by
  cases o with
  | ok a => exact noSearchFault_ok (f a)
  | error fault => exact noSearchFault_error (ho fault rfl)

theorem noSearchFault_all {answers : List (Outcome Bool)} (h : ∀ o ∈ answers, o.NoSearchFault) :
    (all answers).NoSearchFault := by
  induction answers with
  | nil => exact noSearchFault_ok true
  | cons o rest ih =>
    rw [List.forall_mem_cons] at h
    cases o with
    | error fault => exact h.1
    | ok b =>
      cases b with
      | false => exact h.1
      | true => exact ih h.2

theorem noSearchFault_any {answers : List (Outcome Bool)} (h : ∀ o ∈ answers, o.NoSearchFault) :
    (any answers).NoSearchFault := by
  induction answers with
  | nil => exact noSearchFault_ok false
  | cons o rest ih =>
    rw [List.forall_mem_cons] at h
    cases o with
    | error fault => exact h.1
    | ok b =>
      cases b with
      | false => exact ih h.2
      | true => exact h.1

theorem noSearchFault_filter {test : α → Outcome Bool} (h : ∀ a, (test a).NoSearchFault)
    (items : List α) : (filter test items).NoSearchFault := by
  induction items with
  | nil => exact noSearchFault_ok []
  | cons a rest ih => exact (h a).bind fun _ ↦ ih.bind fun _ ↦ noSearchFault_ok _

end Outcome

open Outcome

/-! ### Values -/

namespace Value

theorem noSearchFault_toFloat? (v : Value) : v.toFloat?.NoSearchFault := by
  -- The conversion becomes a variable, since it does not end on an integer that is one.
  obtain ⟨nearest?, hnearest⟩ : ∃ f, f = Binary64.ofInt? := ⟨_, rfl⟩
  rw [toFloat?.eq_def, ← hnearest]
  split
  · split
    · exact noSearchFault_ok _
    · exact noSearchFault_error rfl
  all_goals exact noSearchFault_ok _

theorem noSearchFault_sameAsNumber (item wanted : Value) :
    (sameAsNumber item wanted).NoSearchFault := by
  refine (noSearchFault_toFloat? item).bind fun x ↦ ?_
  cases x with
  | none => exact noSearchFault_ok false
  | some x =>
    refine (noSearchFault_toFloat? wanted).bind fun y ↦ ?_
    cases y with
    | none => exact noSearchFault_ok false
    | some y => exact noSearchFault_ok _

theorem noSearchFault_matchesScalar (item wanted : Value) :
    (matchesScalar item wanted).NoSearchFault := by
  unfold matchesScalar
  split
  · exact noSearchFault_ok _
  · exact noSearchFault_sameAsNumber _ _
  · exact noSearchFault_sameAsNumber _ _
  · exact noSearchFault_ok _
  · exact noSearchFault_ok _
  · exact noSearchFault_ok _

/-- To ask for a property value fails with no search fault. -/
theorem noSearchFault_matchesWanted (item wanted : Value) :
    (item.matchesWanted wanted).NoSearchFault := by
  induction item, wanted using matchesWanted.induct with
  | case1 item wanted htrue =>
    rw [matchesWanted_eq, if_pos htrue]
    exact noSearchFault_ok _
  | case2 item wanted htrue hnull =>
    rw [matchesWanted_eq, if_neg htrue, if_pos hnull]
    exact noSearchFault_ok _
  | case3 item wanted htrue hnull items wishes hitems hwishes ih =>
    rw [matchesWanted_eq, if_neg htrue, if_neg hnull]
    simp only [hitems, hwishes]
    refine noSearchFault_any fun o ho ↦ ?_
    obtain ⟨i, hi, ho⟩ := List.mem_flatMap.1 ho
    obtain ⟨w, hw, rfl⟩ := List.mem_map.1 ho
    exact ih i hi w hw
  | case4 item wanted htrue hnull items hitems hwishes ih =>
    rw [matchesWanted_eq, if_neg htrue, if_neg hnull]
    simp only [hitems, hwishes]
    refine noSearchFault_any fun o ho ↦ ?_
    obtain ⟨i, hi, rfl⟩ := List.mem_map.1 ho
    exact ih i hi
  | case5 item wanted htrue hnull wishes hitems hwishes ih =>
    rw [matchesWanted_eq, if_neg htrue, if_neg hnull]
    simp only [hitems, hwishes]
    refine noSearchFault_any fun o ho ↦ ?_
    obtain ⟨w, hw, rfl⟩ := List.mem_map.1 ho
    exact ih w hw
  | case6 item wanted htrue hnull hitems hwishes =>
    rw [matchesWanted_eq, if_neg htrue, if_neg hnull]
    simp only [hitems, hwishes]
    exact noSearchFault_matchesScalar item wanted

end Value

theorem Spelling.noSearchFault_millis (v : Value) : (millis v).NoSearchFault := by
  obtain ⟨nearest?, hnearest⟩ : ∃ f, f = Binary64.ofInt? := ⟨_, rfl⟩
  rw [millis.eq_def, ← hnearest]
  split
  · split
    · exact noSearchFault_ok _
    · exact noSearchFault_error rfl
  · exact noSearchFault_ok _
  · exact noSearchFault_ok _
  · exact noSearchFault_ok _
  · dsimp only
    split
    · exact noSearchFault_ok _
    · split <;> exact noSearchFault_ok _
  · exact noSearchFault_ok _

/-! ### Filters and ranks -/

namespace Filter

theorem noSearchFault_hasProperty (r : Record) (key : String) (wanted : Value) :
    (hasProperty r key wanted).NoSearchFault :=
  Value.noSearchFault_matchesWanted _ _

theorem noSearchFault_keepsAllProperties (wanted : Option Properties) (r : Record) :
    (keepsAllProperties wanted r).NoSearchFault := by
  refine noSearchFault_all fun o ho ↦ ?_
  obtain ⟨wish, -, rfl⟩ := List.mem_map.1 ho
  exact noSearchFault_hasProperty _ _ _

theorem noSearchFault_keepsAnyProperty (wanted : Option Properties) (r : Record) :
    (keepsAnyProperty wanted r).NoSearchFault := by
  unfold keepsAnyProperty
  split
  · exact noSearchFault_ok true
  · refine noSearchFault_any fun o ho ↦ ?_
    obtain ⟨wish, -, rfl⟩ := List.mem_map.1 ho
    exact noSearchFault_hasProperty _ _ _

theorem noSearchFault_compareTimes (test : Binary64 → Binary64 → Bool)
    (value bound : Option Stamp) : (compareTimes test value bound).NoSearchFault := by
  cases bound with
  | none => exact noSearchFault_ok true
  | some b =>
    refine (Spelling.noSearchFault_millis _).bind fun x ↦
      (Spelling.noSearchFault_millis _).bind fun y ↦ ?_
    split <;> exact noSearchFault_ok _

theorem noSearchFault_keeps (f : Filter) (r : Record) : (f.keeps r).NoSearchFault := by
  refine noSearchFault_all ?_
  simp only [clauses, List.forall_mem_cons]
  exact ⟨noSearchFault_ok _, noSearchFault_ok _, noSearchFault_keepsAllProperties _ r,
    noSearchFault_keepsAnyProperty _ r, noSearchFault_ok _, noSearchFault_ok _,
    noSearchFault_compareTimes _ _ _, noSearchFault_compareTimes _ _ _,
    noSearchFault_compareTimes _ _ _, noSearchFault_compareTimes _ _ _, noSearchFault_ok _,
    noSearchFault_ok _, noSearchFault_ok _, List.forall_mem_nil _⟩

theorem noSearchFault_apply (filter : Option Filter) (records : List Record) :
    (apply filter records).NoSearchFault := by
  cases filter with
  | none => exact noSearchFault_ok records
  | some f => exact noSearchFault_filter (noSearchFault_keeps f) records

end Filter

namespace Record

theorem noSearchFault_rank (key : SortKey) (r : Record) : (r.rank key).NoSearchFault := by
  have htime (v : Value) : (timeRank v).NoSearchFault := (Spelling.noSearchFault_millis v).map _
  cases key with
  | created | updated | deadline | scheduled => exact htime _
  | relevance | title | pageTitle | length => exact noSearchFault_ok _

theorem noSearchFault_ranked (key : SortKey) (records : List Record) :
    (ranked key records).NoSearchFault := by
  induction records with
  | nil => exact noSearchFault_ok []
  | cons r rest ih => exact (noSearchFault_rank key r).bind fun _ ↦ ih.bind fun _ ↦ noSearchFault_ok _

theorem noSearchFault_sorted (query : String) (key : SortKey) (order : SortOrder)
    (records : List Record) : (sorted query key order records).NoSearchFault :=
  (noSearchFault_ranked key _).bind fun _ ↦ noSearchFault_ok _

end Record

/-- To arrange the records of a request fails with no search fault. -/
theorem SearchRequest.noSearchFault_arrange (r : SearchRequest) (records : List Record) :
    (r.arrange records).NoSearchFault :=
  (Filter.noSearchFault_apply r.filter _).bind fun _ ↦ Record.noSearchFault_sorted _ _ _ _

end OutlineSearch
