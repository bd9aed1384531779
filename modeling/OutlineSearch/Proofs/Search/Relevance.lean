import OutlineSearch.Proofs.Number.Adding
import OutlineSearch.Proofs.Text.Decomposing
import OutlineSearch.Search.Relevance

/-!
# Matches and points

What occurs in a text in lower-case occurs in its normal form, since all that makes a normal form of
it works on one character after the other, the blanks at the ends and between words apart. So a text
that matches a query has points for it.
-/

namespace OutlineSearch.Search

open OutlineSearch.Text

/-! ### Normal forms -/

/-- What stays of a text in lower-case: its characters without marks, spaces for punctuation. -/
def plain (s : List Char) : List Char :=
  ((s.flatMap decomposeChar).filter fun c => combiningClass c == 0).map fun c =>
    if isPunctuation c then ' ' else c

theorem plain_append (s s' : List Char) : plain (s ++ s') = plain s ++ plain s' := by
  rw [plain, List.flatMap_append, List.filter_append, List.map_append]
  rfl

theorem plain_isInfix {s text : List Char} (h : s <:+: text) : plain s <:+: plain text := by
  obtain ⟨before, behind, rfl⟩ := h
  exact ⟨plain before, plain behind, by rw [plain_append, plain_append]⟩

/-- A blank stays one. -/
theorem exists_plain_of_isBlank {c : Char} (hc : isBlank c = true) :
    ∃ d, isBlank d = true ∧ plain [c] = [d] := by
  obtain ⟨d, hd, hchar⟩ := exists_decomposeChar_of_isBlank hc
  have hclass := combiningClass_of_isBlank hd
  refine ⟨d, hd, ?_⟩
  rw [plain, List.flatMap_singleton, hchar, List.filter_cons_of_pos (by simp [hclass])]
  simp [isPunctuation, hd]

theorem normalForm_eq (s : List Char) : normalForm s = trim (collapseBlanks (plain (lower s))) := by
  rw [normalForm, decompose, filter_orderMarksFrom (List.forall_mem_nil _)]
  rfl

/-- The blanks around a text are not in its normal form. -/
theorem normalForm_trim (s : List Char) : normalForm (trim s) = normalForm s := by
  refine trim_invariant (f := normalForm) ?_ ?_ s
  · intro c s hc
    obtain ⟨d, hd, hplain⟩ := exists_plain_of_isBlank hc
    rw [normalForm_eq, normalForm_eq, lower_cons_of_isBlank hc, ← List.singleton_append,
      plain_append, hplain, List.singleton_append, trim_collapseBlanks_cons hd]
  · intro c s hc
    obtain ⟨d, hd, hplain⟩ := exists_plain_of_isBlank hc
    rw [normalForm_eq, normalForm_eq, lower_concat_of_isBlank hc, plain_append, hplain,
      trim_collapseBlanks_concat hd]

/-- What occurs in a text in lower-case occurs in it in normal form. -/
theorem normalForm_isInfix {s text : List Char} (h : lower (trim s) <:+: lower text) :
    normalForm s <:+: normalForm text := by
  rw [← normalForm_trim s, normalForm_eq, normalForm_eq]
  exact infix_trim_collapseBlanks (plain_isInfix h)

/-! ### Matches -/

/-- What a query asks a text for: its phrases, or itself when it has none. -/
def needles (query : String) : List (List Char) :=
  match phrases query with
  | [] => [trim query.toList]
  | ps => ps.map String.toList

theorem needles_of_no_phrase {query : String} (h : phrases query = []) :
    needles query = [trim query.toList] := by
  rw [needles, h]

theorem needles_of_phrases {query : String} (h : phrases query ≠ []) :
    needles query = (phrases query).map String.toList := by
  obtain ⟨p, ps, hps⟩ := List.exists_cons_of_ne_nil h
  rw [needles, hps]

/-- A text matches a query when it holds, in lower-case, all that the query asks for. -/
theorem matchesQuery_iff {text query : String} : matchesQuery text query = true ↔
    ∀ needle ∈ needles query, lower needle <:+: lower text.toList := by
  by_cases hps : phrases query = []
  · rw [needles_of_no_phrase hps, List.forall_mem_singleton, matchesQuery, hps]
    exact occursIn_iff
  · obtain ⟨p, ps, hcons⟩ := List.exists_cons_of_ne_nil hps
    rw [needles_of_phrases hps, List.forall_mem_map, matchesQuery, hcons]
    dsimp only
    rw [List.all_eq_true]
    exact forall₂_congr fun _ _ ↦ occursIn_iff

/-- The blanks around a query ask for nothing. -/
theorem needles_trimmed (query : String) : needles (trimmed query) = needles query := by
  rw [needles, needles, phrases_trimmed, trimmed, String.toList_ofList, trim_trim]

theorem matchesQuery_trimmed (text query : String) :
    matchesQuery text (trimmed query) = matchesQuery text query := by
  rw [Bool.eq_iff_iff, matchesQuery_iff, matchesQuery_iff, needles_trimmed]

/-- What a query asks for has no blanks at its ends if its phrases have none. -/
theorem bare_of_mem_needles {query : String} (h : ∀ p ∈ phrases query, trimmed p = p)
    {needle : List Char} (hneedle : needle ∈ needles query) : Bare needle := by
  by_cases hps : phrases query = []
  · rw [needles_of_no_phrase hps, List.mem_singleton] at hneedle
    exact hneedle ▸ Bare.trim _
  · rw [needles_of_phrases hps] at hneedle
    obtain ⟨p, hp, rfl⟩ := List.mem_map.1 hneedle
    exact Bare.of_trim (trim_toList_of_trimmed (h p hp))

/-- Text that matches a query does so beside other text, a space apart. -/
theorem matchesQuery_beside {name content query : String}
    (htrimmed : ∀ p ∈ phrases query, trimmed p = p)
    (h : matchesQuery name query = true ∨ matchesQuery content query = true) :
    matchesQuery (trimmed s!"{name} {content}") query = true := by
  have hspace : PartsCase ' ' := partsCase_of_isBlank rfl
  have hjoined : s!"{name} {content}".toList = name.toList ++ ' ' :: content.toList := by
    simp [toString, String.toList_append]
  rw [matchesQuery_iff]
  intro needle hneedle
  rw [trimmed, String.toList_ofList, (bare_of_mem_needles htrimmed hneedle).lower.infix_lower_trim,
    hjoined, hspace.lower_append_cons]
  rcases h with h | h
  · exact (matchesQuery_iff.1 h needle hneedle).trans (List.prefix_append _ _).isInfix
  · have hbehind : lower content.toList <:+
        lower name.toList ++ lowerChar ' ' :: lower content.toList :=
      (List.suffix_cons _ _).trans (List.suffix_append _ _)
    exact (matchesQuery_iff.1 h needle hneedle).trans hbehind.isInfix

/-- A query that no text at all matches matches every text. -/
theorem matchesQuery_of_empty {query : String} (h : matchesQuery "" query = true) (text : String) :
    matchesQuery text query = true := by
  rw [matchesQuery_iff] at h ⊢
  intro needle hneedle
  have hnil : lower needle = [] := List.infix_nil.1 (h needle hneedle)
  rw [hnil]
  exact List.nil_infix

/-! ### Points -/

theorem total_map_of_forall {α : Type} {items : List α} {f : α → Nat} {n : Nat}
    (h : ∀ a ∈ items, f a = n) : total (items.map f) = n * items.length := by
  induction items with
  | nil => rfl
  | cons a items ih =>
    rw [List.forall_mem_cons] at h
    rw [List.map_cons, total, h.1, ih h.2, List.length_cons, Nat.mul_succ, Nat.add_comm]

/-- For a text that matches a query with phrases there are a hundred points for each. -/
theorem points_of_phrases {text query : String} (h : matchesQuery text query = true)
    (hps : phrases query ≠ []) : points text query = 100 * (phrases query).length := by
  rw [matchesQuery_iff, needles_of_phrases hps, List.forall_mem_map] at h
  have hquery : query.isEmpty = false := by
    refine Bool.eq_false_iff.2 fun hempty ↦ hps ?_
    rw [String.isEmpty_iff.1 hempty]
    rfl
  obtain ⟨p, ps, hcons⟩ := List.exists_cons_of_ne_nil hps
  have htext : text.isEmpty = false := by
    have hp : p ∈ phrases query := hcons ▸ List.mem_cons_self
    refine Bool.eq_false_iff.2 fun hempty ↦ lower_ne_nil (ne_empty_of_mem_phrases hp) ?_
    have hinfix := h p hp
    rw [String.isEmpty_iff.1 hempty] at hinfix
    exact List.infix_nil.1 hinfix
  rw [points, hquery, htext, Bool.false_or, if_neg Bool.false_ne_true, hcons]
  refine total_map_of_forall fun q hq ↦ if_pos ?_
  exact occursIn_iff.2 (h q (hcons ▸ hq))

/-- For a text that matches a query without phrases there are fifty points at least. -/
theorem fifty_le_points {text query : String} (h : matchesQuery text query = true)
    (hps : phrases query = []) (hnormal : normalizeText query ≠ "") : 50 ≤ points text query := by
  rw [matchesQuery_iff, needles_of_no_phrase hps, List.forall_mem_singleton] at h
  have hinfix := normalForm_isInfix h
  have hne : normalForm query.toList ≠ [] := fun hnil ↦ hnormal (by rw [normalizeText, hnil])
  have hquery : query.isEmpty = false := by
    refine Bool.eq_false_iff.2 fun hempty ↦ hne ?_
    rw [String.isEmpty_iff.1 hempty]
    rfl
  have htext : text.isEmpty = false := by
    refine Bool.eq_false_iff.2 fun hempty ↦ hne ?_
    rw [String.isEmpty_iff.1 hempty] at hinfix
    exact List.infix_nil.1 hinfix
  rw [points, hquery, htext, Bool.false_or, if_neg Bool.false_ne_true, hps]
  dsimp only
  rw [normalPoints, if_neg (by simpa using hne), if_pos (occursIn_iff.2 hinfix)]
  omega

/-- The score of a query for a text that matches it: a hundred for each phrase, and fifty at least
when it has no phrase and says anything. -/
theorem score_of_matchesQuery {text query : String} (h : matchesQuery text query = true) :
    (phrases query ≠ [] → score text query = .ofInt (100 * (phrases query).length)) ∧
      (phrases query = [] → normalizeText query ≠ "" →
        (Binary64.ofInt 50).atMost (score text query) = true) := by
  refine ⟨fun hps ↦ ?_, fun hps hnormal ↦ ?_⟩
  · rw [score, points_of_phrases h hps]
    rfl
  · exact Binary64.atMost_ofInt (by decide) (fifty_le_points h hps hnormal)

end OutlineSearch.Search
