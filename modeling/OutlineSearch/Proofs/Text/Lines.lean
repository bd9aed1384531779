import OutlineSearch.Text.Blank
import OutlineSearch.Text.Split
import Mathlib.Data.List.Induction

/-!
# The words of lines

What lines say, blank lines and the blanks around them apart, is their wording. A text made of lines
has the wording of the lines, and the blanks around a text add nothing to it. No line of a text holds a
line feed, and the rest of a text has no more lines than the text.
-/

namespace OutlineSearch.Text

/-! ### Trimming -/

theorem isAllBlank_iff {s : List Char} : isAllBlank s = true ↔ ∀ c ∈ s, isBlank c = true :=
  List.all_eq_true

theorem trimStart_cons {c : Char} (hc : isBlank c = true) (s : List Char) :
    trimStart (c :: s) = trimStart s := List.dropWhile_cons_of_pos hc

theorem dropEndWhile_concat {p : Char → Bool} {c : Char} (hc : p c = true) (s : List Char) :
    dropEndWhile p (s ++ [c]) = dropEndWhile p s := by
  rw [dropEndWhile, List.reverse_append, List.reverse_singleton, List.singleton_append,
    List.dropWhile_cons_of_pos hc]
  rfl

theorem trim_cons {c : Char} (hc : isBlank c = true) (s : List Char) : trim (c :: s) = trim s := by
  rw [trim, trimStart_cons hc]
  rfl

theorem trim_concat {c : Char} (hc : isBlank c = true) (s : List Char) :
    trim (s ++ [c]) = trim s := by
  induction s with
  | nil => rw [List.nil_append, trim_cons hc]
  | cons d s ih =>
    by_cases hd : isBlank d = true
    · rw [List.cons_append, trim_cons hd, trim_cons hd, ih]
    · have hstart : ∀ s, trimStart (d :: s) = d :: s := fun s ↦ List.dropWhile_cons_of_neg hd
      rw [List.cons_append, trim, trim, hstart, hstart, ← List.cons_append]
      exact dropEndWhile_concat hc _

theorem trim_of_isAllBlank {s : List Char} (h : isAllBlank s = true) : trim s = [] := by
  induction s with
  | nil => rfl
  | cons c s ih =>
    rw [isAllBlank_iff, List.forall_mem_cons] at h
    rw [trim_cons h.1, ih (isAllBlank_iff.2 h.2)]

/-- A text is blanks, what stays when it is trimmed, and blanks. -/
theorem exists_eq_trim (s : List Char) : ∃ before after,
    isAllBlank before = true ∧ isAllBlank after = true ∧ s = before ++ trim s ++ after := by
  refine ⟨s.takeWhile isBlank, ((trimStart s).reverse.takeWhile isBlank).reverse,
    List.all_takeWhile, ?_, ?_⟩
  · rw [isAllBlank, List.all_reverse]
    exact List.all_takeWhile
  · have hend : trim s ++ ((trimStart s).reverse.takeWhile isBlank).reverse = trimStart s := by
      rw [trim, trimEnd, dropEndWhile, ← List.reverse_append, List.takeWhile_append_dropWhile,
        List.reverse_reverse]
    rw [List.append_assoc, hend]
    exact List.takeWhile_append_dropWhile.symm

theorem trim_sublist (s : List Char) : (trim s).Sublist s := by
  obtain ⟨before, after, -, -, hs⟩ := exists_eq_trim s
  conv => rhs; rw [hs]
  exact (List.sublist_append_right before _).trans (List.sublist_append_left _ after)

/-- What does not change with a blank at either end of a text does not change when it is trimmed. -/
theorem trim_invariant {α : Type} {f : List Char → α}
    (hcons : ∀ c s, isBlank c = true → f (c :: s) = f s)
    (hconcat : ∀ c s, isBlank c = true → f (s ++ [c]) = f s) (s : List Char) :
    f (trim s) = f s := by
  obtain ⟨before, after, hbefore, hafter, hs⟩ := exists_eq_trim s
  rw [isAllBlank_iff] at hbefore hafter
  conv => rhs; rw [hs]
  generalize trim s = inner
  clear hs
  have hend : f (before ++ inner ++ after) = f (before ++ inner) := by
    induction after using List.reverseRecOn with
    | nil => rw [List.append_nil]
    | append_singleton after c ih =>
      rw [← List.append_assoc, hconcat c _ (hafter c (by simp)),
        ih fun d hd ↦ hafter d (List.mem_append_left _ hd)]
  rw [hend]
  clear hend
  induction before with
  | nil => rfl
  | cons c before ih =>
    rw [List.cons_append, hcons c _ (hbefore c (.head _)),
      ih fun d hd ↦ hbefore d (.tail _ hd)]

theorem trim_trim (s : List Char) : trim (trim s) = trim s :=
  trim_invariant (fun _ s hc ↦ trim_cons hc s) (fun _ s hc ↦ trim_concat hc s) s

/-! ### Wording -/

/-- What lines say: the lines without the blanks around them, those left out that are blank. -/
def wording (lines : List (List Char)) : List (List Char) :=
  (lines.map trim).filter (!·.isEmpty)

theorem wording_append (lines lines' : List (List Char)) :
    wording (lines ++ lines') = wording lines ++ wording lines' := by
  rw [wording, List.map_append, List.filter_append]
  rfl

theorem wording_congr {line line' : List Char} (h : trim line = trim line')
    (lines : List (List Char)) : wording (line :: lines) = wording (line' :: lines) := by
  rw [wording, wording, List.map_cons, List.map_cons, h]

theorem wording_cons_of_isAllBlank {line : List Char} (h : isAllBlank line = true)
    (lines : List (List Char)) : wording (line :: lines) = wording lines := by
  rw [wording, List.map_cons, trim_of_isAllBlank h]
  rfl

theorem wording_trim (line : List Char) : wording [trim line] = wording [line] :=
  wording_congr (trim_trim line) []

theorem wording_of_isAllBlank {lines : List (List Char)}
    (h : ∀ line ∈ lines, isAllBlank line = true) : wording lines = [] := by
  induction lines with
  | nil => rfl
  | cons line lines ih =>
    rw [List.forall_mem_cons] at h
    rw [wording_cons_of_isAllBlank h.1, ih h.2]

/-- What a text says between its line feeds. -/
def passages (s : List Char) : List (List Char) := wording (split ['\n'] s)

/-! ### Texts made of lines -/

/-- A line holds no line feed. -/
def OneLine (line : List Char) : Prop := '\n' ∉ line

theorem OneLine.sublist {line line' : List Char} (h : OneLine line) (hsub : line'.Sublist line) :
    OneLine line' := fun hmem ↦ h (hsub.subset hmem)

theorem OneLine.trim {line : List Char} (h : OneLine line) : OneLine (trim line) :=
  h.sublist (trim_sublist line)

theorem splitFrom_cons (current s : List Char) (c : Char) :
    splitFrom ['\n'] 0 current (c :: s) =
      if c = '\n' then current.reverse :: splitFrom ['\n'] 0 [] s
      else splitFrom ['\n'] 0 (c :: current) s := by
  rw [splitFrom, if_neg (Nat.lt_irrefl 0)]
  by_cases hc : c = '\n'
  · subst hc
    rfl
  · have hstarts : startsWith (c :: s) ['\n'] = false := by
      simp [startsWith, dropPrefix?, Ne.symm hc]
    rw [hstarts, if_neg hc]
    rfl

theorem splitFrom_append {line : List Char} (h : OneLine line) (current s : List Char) :
    splitFrom ['\n'] 0 current (line ++ s) = splitFrom ['\n'] 0 (line.reverse ++ current) s := by
  induction line generalizing current with
  | nil => rfl
  | cons c line ih =>
    rw [OneLine, List.mem_cons, not_or] at h
    rw [List.cons_append, splitFrom_cons, if_neg (Ne.symm h.1), ih h.2, List.reverse_cons,
      List.append_assoc]
    rfl

theorem split_intercalate {line : List Char} {lines : List (List Char)} (h : OneLine line)
    (hlines : ∀ line ∈ lines, OneLine line) :
    split ['\n'] (List.intercalate ['\n'] (line :: lines)) = line :: lines := by
  induction lines generalizing line with
  | nil =>
    have hsplit := splitFrom_append h [] []
    rw [List.append_nil, List.append_nil, splitFrom, List.reverse_reverse] at hsplit
    rwa [List.intercalate_singleton]
  | cons line' lines ih =>
    rw [List.forall_mem_cons] at hlines
    rw [List.intercalate_cons_cons, split, List.append_assoc, splitFrom_append h,
      List.singleton_append, splitFrom_cons, if_pos rfl, List.append_nil, List.reverse_reverse]
    exact congrArg _ (ih hlines.1 hlines.2)

theorem passages_intercalate {lines : List (List Char)} (h : ∀ line ∈ lines, OneLine line) :
    passages (List.intercalate ['\n'] lines) = wording lines := by
  cases lines with
  | nil => rfl
  | cons line lines =>
    rw [List.forall_mem_cons] at h
    rw [passages, split_intercalate h.1 h.2]

theorem wording_splitFrom_blank {c : Char} (hc : isBlank c = true) (current s : List Char) :
    wording (splitFrom ['\n'] 0 (current ++ [c]) s) = wording (splitFrom ['\n'] 0 current s) := by
  have htrim (current : List Char) : trim (current ++ [c]).reverse = trim current.reverse := by
    rw [List.reverse_append, List.reverse_singleton, List.singleton_append, trim_cons hc]
  induction s generalizing current with
  | nil => exact wording_congr (htrim current) []
  | cons d s ih =>
    rw [splitFrom_cons, splitFrom_cons]
    split
    · exact wording_congr (htrim current) _
    · exact ih (d :: current)

theorem passages_cons {c : Char} (hc : isBlank c = true) (s : List Char) :
    passages (c :: s) = passages s := by
  rw [passages, split, splitFrom_cons]
  split
  · exact wording_cons_of_isAllBlank rfl _
  · exact wording_splitFrom_blank hc [] s

theorem wording_splitFrom_concat {c : Char} (hc : isBlank c = true) (current s : List Char) :
    wording (splitFrom ['\n'] 0 current (s ++ [c])) = wording (splitFrom ['\n'] 0 current s) := by
  induction s generalizing current with
  | nil =>
    rw [List.nil_append, splitFrom_cons]
    split
    · change wording ([current.reverse] ++ [[]]) = _
      rw [wording_append]
      exact List.append_nil _
    · refine wording_congr ?_ []
      rw [List.reverse_cons, trim_concat hc]
  | cons d s ih =>
    rw [List.cons_append, splitFrom_cons, splitFrom_cons]
    split
    · change wording ([current.reverse] ++ _) = wording ([current.reverse] ++ _)
      rw [wording_append, wording_append, ih]
    · exact ih _

/-- The blanks around a text add nothing to what it says. -/
theorem passages_trim (s : List Char) : passages (trim s) = passages s :=
  trim_invariant (fun _ s hc ↦ passages_cons hc s) (fun _ s hc ↦ wording_splitFrom_concat hc [] s) s

/-! ### Lines of a text -/

theorem oneLine_of_mem_linesFrom {current s : List Char} (hcurrent : OneLine current) :
    ∀ line ∈ linesFrom current s, OneLine line := by
  have hreverse {current : List Char} (h : OneLine current) : OneLine current.reverse := fun hmem ↦
    h (List.mem_reverse.1 hmem)
  fun_induction linesFrom current s with
  | case1 current => simp
  | case2 current => simpa using hreverse hcurrent
  | case3 current rest ih =>
    rw [List.forall_mem_cons]
    exact ⟨hreverse hcurrent, ih List.not_mem_nil⟩
  | case4 current c rest hcrlf hend ih =>
    rw [List.forall_mem_cons]
    exact ⟨hreverse hcurrent, ih List.not_mem_nil⟩
  | case5 current c rest hcrlf hend ih =>
    refine ih fun hmem ↦ ?_
    rcases List.mem_cons.1 hmem with rfl | hmem
    · exact hend rfl
    · exact hcurrent hmem

theorem oneLine_of_mem_lines (s : List Char) : ∀ line ∈ lines s, OneLine line :=
  oneLine_of_mem_linesFrom List.not_mem_nil

theorem length_linesFrom_le {current current' : List Char} (s : List Char)
    (h : current' = [] → current = []) :
    (linesFrom current s).length ≤ (linesFrom current' s).length := by
  fun_induction linesFrom current s generalizing current' with
  | case1 current hempty => exact Nat.zero_le _
  | case2 current hne =>
    rw [linesFrom, if_neg]
    · exact Nat.le_refl _
    · exact fun hempty ↦ hne (List.isEmpty_iff.2 (h (List.isEmpty_iff.1 hempty)))
  | case3 current rest => exact Nat.le_refl _
  | case4 current c rest hcrlf hend =>
    rw [linesFrom, if_pos hend]
    · exact Nat.le_refl _
    · exact hcrlf
  | case5 current c rest hcrlf hend ih =>
    rw [linesFrom, if_neg hend]
    · exact ih (fun heq ↦ absurd heq (List.cons_ne_nil _ _))
    · exact hcrlf

theorem length_lines_le_linesFrom_cons (current : List Char) (c : Char) (s : List Char) :
    (lines s).length ≤ (linesFrom current (c :: s)).length := by
  rw [lines]
  generalize hs : c :: s = text
  fun_cases linesFrom current text with
  | case1 => cases hs
  | case2 => cases hs
  | case3 rest =>
    obtain ⟨rfl, rfl⟩ := List.cons.inj hs
    exact Nat.le_refl _
  | case4 c rest hcrlf hend =>
    obtain ⟨rfl, rfl⟩ := List.cons.inj hs
    exact Nat.le_succ _
  | case5 c rest hcrlf hend =>
    obtain ⟨rfl, rfl⟩ := List.cons.inj hs
    exact length_linesFrom_le _ (fun heq ↦ absurd heq (List.cons_ne_nil _ _))

/-- The end of a text has no more lines than the text. -/
theorem length_lines_le_of_suffix {s text : List Char} (h : s <:+ text) :
    (lines s).length ≤ (lines text).length := by
  obtain ⟨before, rfl⟩ := h
  induction before with
  | nil => exact Nat.le_refl _
  | cons c before ih => exact Nat.le_trans ih (length_lines_le_linesFrom_cons [] c _)

end OutlineSearch.Text
