import OutlineSearch.Proofs.Search.Relevance
import OutlineSearch.Proofs.Text.Settled

/-!
# Points of normal forms

A normal form has no other normal form: all that stands in it is in lower-case, is neither a mark
nor punctuation, decomposes to itself, and has one space for each run of blanks. So a query without
phrases has the same points for a text as its normal form has for the normal form of the text, and
for all texts of one normal form the same.
-/

namespace OutlineSearch.Text

theorem mem_of_mem_collapseBlanks {c : Char} {s : List Char} (h : c ∈ collapseBlanks s) :
    c = ' ' ∨ c ∈ s := by
  induction s with
  | nil => cases h
  | cons d s ih =>
    by_cases hd : isBlank d = true
    · have hrest : c = ' ' ∨ c ∈ collapseBlanks s := by
        rw [collapseBlanks, if_pos hd] at h
        split at h
        · next heq => exact .inr (heq ▸ h)
        · exact List.mem_cons.1 h
      exact hrest.elim .inl fun hc ↦ (ih hc).imp_right (List.mem_cons_of_mem d)
    · rw [collapseBlanks, if_neg hd] at h
      rcases List.mem_cons.1 h with rfl | h
      · exact .inr (.head _)
      · exact (ih h).imp_right (List.mem_cons_of_mem d)

/-- Where each run of blanks is one space nothing is collapsed. -/
theorem collapseBlanks_collapseBlanks (s : List Char) :
    collapseBlanks (collapseBlanks s) = collapseBlanks s := by
  have hblank : isBlank ' ' = true := rfl
  induction s with
  | nil => rfl
  | cons c s ih =>
    by_cases hc : isBlank c = true
    · rw [collapseBlanks, if_pos hc]
      split
      · next more heq => rw [← heq, ih]
      · next hspace =>
        rw [collapseBlanks, if_pos hblank, ih]
        split
        · next more heq => exact absurd heq (hspace more)
        · rfl
    · rw [Bool.not_eq_true] at hc
      rw [collapseBlanks_cons hc, collapseBlanks_cons hc, ih]

theorem phrases_of_not_mem {s : String} (h : '"' ∉ s.toList) : phrases s = [] := by
  have hfind (s : List Char) (h : '"' ∉ s) : findAllFrom phrase 0 s = [] := by
    induction s with
    | nil => rfl
    | cons c s ih =>
      rw [List.mem_cons, not_or] at h
      rw [findAllFrom, if_neg (Nat.lt_irrefl 0), phrase_of_ne (Ne.symm h.1)]
      exact ih h.2
  rw [phrases, findAll, hfind _ h]
  rfl

end OutlineSearch.Text

namespace OutlineSearch.Search

open OutlineSearch.Text

/-! ### Normal forms of normal forms -/

/-- A character stays as it is in a normal form. -/
def Stays (c : Char) : Prop := IsLower c ∧ plain [c] = [c]

theorem stays_space : Stays ' ' := by
  refine ⟨by decide, ?_⟩
  decide +kernel

theorem plain_of_stays {s : List Char} (h : ∀ c ∈ s, Stays c) : plain s = s := by
  induction s with
  | nil => rfl
  | cons c s ih =>
    obtain ⟨hc, hs⟩ := List.forall_mem_cons.1 h
    rw [← List.singleton_append, plain_append, hc.2, ih hs]

/-- What stays of characters in lower-case stays as it is. -/
theorem stays_of_mem_plain {s : List Char} (hs : ∀ c ∈ s, IsLower c) {d : Char} (hd : d ∈ plain s) :
    Stays d := by
  obtain ⟨e, he, rfl⟩ := List.mem_map.1 hd
  obtain ⟨hmem, hclass⟩ := List.mem_filter.1 he
  obtain ⟨c, hc, hce⟩ := List.mem_flatMap.1 hmem
  obtain ⟨hlower, hself⟩ := settled_of_mem_decomposeChar (hs c hc) hce
  split
  · exact stays_space
  · next hpunctuation =>
    refine ⟨hlower, ?_⟩
    have hfilter : [e].filter (fun c => combiningClass c == 0) = [e] :=
      List.filter_cons_of_pos hclass
    rw [plain, List.flatMap_singleton, hself, hfilter, List.map_singleton, if_neg hpunctuation]

theorem stays_of_mem_normalForm {s : List Char} {c : Char} (hc : c ∈ normalForm s) : Stays c := by
  rw [normalForm_eq] at hc
  rcases mem_of_mem_collapseBlanks ((trim_isInfix _).subset hc) with rfl | hc
  · exact stays_space
  · exact stays_of_mem_plain (fun _ ↦ isLower_of_mem_lowerFrom) hc

theorem normalForm_normalForm (s : List Char) : normalForm (normalForm s) = normalForm s := by
  have hstays : ∀ c ∈ normalForm s, Stays c := fun _ ↦ stays_of_mem_normalForm
  have hlower : lower (normalForm s) = normalForm s :=
    lowerFrom_of_isLower (fun c hc ↦ (hstays c hc).1) []
  rw [normalForm_eq (normalForm s), hlower, plain_of_stays hstays, normalForm_eq,
    trim_collapseBlanks_trim, collapseBlanks_collapseBlanks]

theorem quote_not_mem_normalForm (s : List Char) : '"' ∉ normalForm s := by
  intro h
  have hplain : plain ['"'] = [' '] := by decide +kernel
  have := hplain.symm.trans (stays_of_mem_normalForm h).2
  cases this

theorem toList_normalizeText (s : String) : (normalizeText s).toList = normalForm s.toList := by
  rw [normalizeText, String.toList_ofList]

theorem normalizeText_normalizeText (s : String) :
    normalizeText (normalizeText s) = normalizeText s := by
  rw [normalizeText, toList_normalizeText, normalForm_normalForm]
  rfl

/-! ### Points -/

/-- A text without a normal form has no points. -/
theorem normalPoints_nil (query : List Char) : normalPoints [] query = 0 := by
  have htokens : total ((words query).map fun q => total ((words []).map (tokenPoints q))) = 0 :=
    (total_map_of_forall fun _ _ ↦ rfl).trans (Nat.zero_mul _)
  cases query with
  | nil => rfl
  | cons c query =>
    rw [normalPoints, htokens]
    rfl

/-- The points of a query without phrases are those of the normal forms. -/
theorem points_of_no_phrase {text query : String} (h : phrases query = []) :
    points text query = normalPoints (normalForm text.toList) (normalForm query.toList) := by
  rw [points, h]
  split
  · next hempty =>
    rcases Bool.or_eq_true_iff.1 hempty with hquery | htext
    · rw [String.isEmpty_iff.1 hquery]
      rfl
    · rw [String.isEmpty_iff.1 htext]
      exact (normalPoints_nil _).symm
  · rfl

/-- What a text is worth to a query without phrases depends on the normal forms alone: a normal form
has no other, the score is that of the normal forms, and all texts of one normal form have the
same. -/
theorem score_normalizeText (text query : String) (h : phrases query = []) :
    normalizeText (normalizeText text) = normalizeText text ∧
      normalizeText (normalizeText query) = normalizeText query ∧
      score text query = score (normalizeText text) (normalizeText query) ∧
      ∀ other, normalizeText other = normalizeText text → score other query = score text query := by
  have hphrases : phrases (normalizeText query) = [] := by
    refine phrases_of_not_mem ?_
    rw [toList_normalizeText]
    exact quote_not_mem_normalForm _
  refine ⟨normalizeText_normalizeText text, normalizeText_normalizeText query, ?_, ?_⟩
  · rw [score, score, points_of_no_phrase h, points_of_no_phrase hphrases, toList_normalizeText,
      toList_normalizeText, normalForm_normalForm, normalForm_normalForm]
  · intro other hother
    rw [score, score, points_of_no_phrase h, points_of_no_phrase h, ← toList_normalizeText other,
      hother, toList_normalizeText]

/-- Marks, capitals, a final sigma, syllables and punctuation make no difference. -/
theorem score_greek_coffee :
    phrases "Café ΟΔΌΣ" = [] ∧
      normalizeText (normalizeText "İstanbul — CAFÉ, 한국 (οδός)!") =
        normalizeText "İstanbul — CAFÉ, 한국 (οδός)!" ∧
      normalizeText (normalizeText "Café ΟΔΌΣ") = normalizeText "Café ΟΔΌΣ" ∧
      score "İstanbul — CAFÉ, 한국 (οδός)!" "Café ΟΔΌΣ" =
        score (normalizeText "İstanbul — CAFÉ, 한국 (οδός)!") (normalizeText "Café ΟΔΌΣ") ∧
      ∀ other, normalizeText other = normalizeText "İstanbul — CAFÉ, 한국 (οδός)!" →
        score other "Café ΟΔΌΣ" = score "İstanbul — CAFÉ, 한국 (οδός)!" "Café ΟΔΌΣ" :=
  have h : phrases "Café ΟΔΌΣ" = [] := by decide +kernel
  ⟨h, score_normalizeText "İstanbul — CAFÉ, 한국 (οδός)!" "Café ΟΔΌΣ" h⟩

end OutlineSearch.Search
