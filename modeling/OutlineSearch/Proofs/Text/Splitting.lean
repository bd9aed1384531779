import OutlineSearch.Proofs.Text.Finding

/-!
# The parts of a text

A text is split at the occurrences of a separator, from left to right and without overlap. The parts
joined by the separator are the text again, none of them holds the separator, and there are two of
them at least when the text holds it. A character that occurs at the end only is replaced there.
-/

namespace OutlineSearch.Text

/-- Parts into which a text is cut at occurrences of a separator, until none is left. -/
inductive Parted (separator : List Char) : List Char → List (List Char) → Prop where
  | whole {s : List Char} (h : ¬separator <:+: s) : Parted separator s [s]
  | cut {front behind : List Char} {parts : List (List Char)} (h : ¬separator <:+: front)
    (hparts : Parted separator behind parts) :
    Parted separator (front ++ separator ++ behind) (front :: parts)

namespace Parted

variable {separator s : List Char} {parts : List (List Char)}

theorem ne_nil (h : Parted separator s parts) : parts ≠ [] := by
  cases h <;> exact List.cons_ne_nil _ _

/-- The parts joined by the separator are the text. -/
theorem intercalate (h : Parted separator s parts) : separator.intercalate parts = s := by
  induction h with
  | whole => exact List.intercalate_singleton
  | cut _ hparts ih =>
    obtain ⟨part, more, rfl⟩ := List.exists_cons_of_ne_nil hparts.ne_nil
    rw [List.intercalate_cons_cons, ih]

theorem not_infix (h : Parted separator s parts) : ∀ part ∈ parts, ¬separator <:+: part := by
  induction h with
  | whole h => exact List.forall_mem_singleton.2 h
  | cut h _ ih => exact List.forall_mem_cons.2 ⟨h, ih⟩

theorem two_le_length (h : Parted separator s parts) (hs : separator <:+: s) :
    2 ≤ parts.length := by
  cases h with
  | whole h => exact absurd hs h
  | cut _ hparts =>
    have hpos := List.length_pos_iff.2 hparts.ne_nil
    rw [List.length_cons]
    omega

/-- What stands in a part stands in the text. -/
theorem isInfix (h : Parted separator s parts) : ∀ part ∈ parts, part <:+: s := by
  induction h with
  | whole => exact List.forall_mem_singleton.2 List.infix_rfl
  | @cut front behind parts _ _ ih =>
    refine List.forall_mem_cons.2 ⟨?_, fun part hpart ↦ ?_⟩
    · exact ⟨[], separator ++ behind, by rw [List.nil_append, List.append_assoc]⟩
    · exact (ih part hpart).trans (List.suffix_append _ behind).isInfix

end Parted

/-! ### Splitting -/

theorem splitFrom_skip (separator current skipped s : List Char) :
    splitFrom separator skipped.length current (skipped ++ s) =
      splitFrom separator 0 current s := by
  induction skipped with
  | nil => rfl
  | cons c skipped ih =>
    rw [List.cons_append, splitFrom, if_pos (by simp), List.length_cons, Nat.add_sub_cancel, ih]

section

variable {separator : List Char} (hseparator : separator ≠ [])

include hseparator

/-- A separator at the start of the rest ends the part that has been read. -/
theorem splitFrom_separator (current s : List Char) :
    splitFrom separator 0 current (separator ++ s) = current.reverse :: split separator s := by
  obtain ⟨c, tail, rfl⟩ := List.exists_cons_of_ne_nil hseparator
  have hstarts : startsWith (c :: (tail ++ s)) (c :: tail) = true :=
    startsWith_iff.2 (List.prefix_append (c :: tail) s)
  rw [List.cons_append, splitFrom, if_neg (Nat.lt_irrefl 0), if_pos hstarts, List.length_cons,
    Nat.add_sub_cancel, splitFrom_skip]
  rfl

/-- A part is read up to the first occurrence of the separator, or to the end of the text. -/
theorem splitFrom_cases (current s : List Char) :
    (¬separator <:+: s ∧ splitFrom separator 0 current s = [current.reverse ++ s]) ∨
      ∃ front behind, s = front ++ separator ++ behind ∧ ¬separator <:+: front ∧
        splitFrom separator 0 current s =
          (current.reverse ++ front) :: split separator behind := by
  have hnil : ¬separator <:+: [] := fun h ↦ hseparator (List.infix_nil.1 h)
  induction s generalizing current with
  | nil => exact .inl ⟨hnil, by rw [splitFrom, List.append_nil]⟩
  | cons c s ih =>
    by_cases hstarts : separator <+: c :: s
    · obtain ⟨behind, hs⟩ := hstarts
      refine .inr ⟨[], behind, hs.symm, hnil, ?_⟩
      rw [← hs, splitFrom_separator hseparator, List.append_nil]
    · have hgoes : splitFrom separator 0 current (c :: s) =
          splitFrom separator 0 (c :: current) s := by
        rw [splitFrom, if_neg (Nat.lt_irrefl 0), if_neg (by rwa [startsWith_iff])]
      rw [hgoes]
      rcases ih (c :: current) with ⟨hs, hsplit⟩ | ⟨front, behind, rfl, hfront, hsplit⟩
      · refine .inl ⟨fun h ↦ (List.infix_cons_iff.1 h).elim hstarts hs, ?_⟩
        rw [hsplit, List.reverse_cons, List.append_assoc, List.singleton_append]
      · refine .inr ⟨c :: front, behind, rfl, fun h ↦ ?_, ?_⟩
        · refine (List.infix_cons_iff.1 h).elim (fun hprefix ↦ hstarts ?_) hfront
          rw [List.append_assoc]
          exact hprefix.trans (List.prefix_append (c :: front) (separator ++ behind))
        · rw [hsplit, List.reverse_cons, List.append_assoc, List.singleton_append]

/-- To split a text cuts it at occurrences of the separator until none is left. -/
theorem parted_split (s : List Char) : Parted separator s (split separator s) := by
  induction h : s.length using Nat.strongRecOn generalizing s with
  | ind n ih =>
    rcases splitFrom_cases hseparator [] s with ⟨hs, hsplit⟩ | ⟨front, behind, rfl, hfront, hsplit⟩
    · rw [split, hsplit]
      exact .whole hs
    · have hpos := List.length_pos_iff.2 hseparator
      rw [split, hsplit]
      refine .cut hfront (ih behind.length ?_ behind rfl)
      rw [← h, List.length_append, List.length_append]
      omega

end

/-! ### Replacing one character -/

variable {c : Char} {front : List Char}

theorem splitFrom_of_notMem (h : c ∉ front) (current rest : List Char) :
    splitFrom [c] 0 current (front ++ rest) = splitFrom [c] 0 (front.reverse ++ current) rest := by
  induction front generalizing current with
  | nil => rfl
  | cons d front ih =>
    rw [List.mem_cons, not_or] at h
    have hstarts : ¬startsWith (d :: (front ++ rest)) [c] = true := by
      rw [startsWith_iff, List.cons_prefix_cons]
      exact fun hprefix ↦ h.1 hprefix.1
    rw [List.cons_append, splitFrom, if_neg (Nat.lt_irrefl 0), if_neg hstarts, ih h.2,
      List.reverse_cons, List.append_assoc, List.singleton_append]

/-- A text is one part where the character does not occur. -/
theorem split_of_notMem (h : c ∉ front) : split [c] front = [front] := by
  have hsplit := splitFrom_of_notMem h [] []
  rw [List.append_nil] at hsplit
  rw [split, hsplit, splitFrom, List.reverse_append, List.reverse_reverse]
  rfl

/-- Nothing is replaced where the character does not occur. -/
theorem replace_of_notMem (h : c ∉ front) (new : List Char) : replace [c] new front = front := by
  rw [replace, split_of_notMem h]
  exact List.append_nil front

/-- The one occurrence of a character at the end is replaced. -/
theorem replace_concat (h : c ∉ front) (new : List Char) :
    replace [c] new (front ++ [c]) = front ++ new := by
  have hend : splitFrom [c] 0 front.reverse [c] = front.reverse.reverse :: split [c] [] :=
    splitFrom_separator (List.cons_ne_nil c []) front.reverse []
  rw [replace, split, splitFrom_of_notMem h, List.append_nil, hend, List.reverse_reverse]
  exact congrArg (front ++ ·) (List.append_nil new)

end OutlineSearch.Text
