import OutlineSearch.Proofs.Text.Blanks
import OutlineSearch.Text.Decompose

/-!
# Decomposed texts

A text is decomposed character by character: to put marks in order moves no character that is not a
mark. A blank is no mark, and it decomposes to one blank.
-/

namespace OutlineSearch.Text

/-! ### Marks -/

theorem mem_insertMark {m x : Char} {s : List Char} : x ∈ insertMark m s ↔ x = m ∨ x ∈ s := by
  induction s with
  | nil => rw [insertMark, List.mem_singleton, or_iff_left List.not_mem_nil]
  | cons y s ih =>
    rw [insertMark]
    split
    · rw [List.mem_cons]
    · rw [List.mem_cons, ih, List.mem_cons, or_left_comm]

/-- To put marks in order leaves the other characters as they are. -/
theorem filter_orderMarksFrom {marks : List Char} (hmarks : ∀ m ∈ marks, combiningClass m ≠ 0)
    (s : List Char) : (orderMarksFrom marks s).filter (fun c => combiningClass c == 0) =
      s.filter fun c => combiningClass c == 0 := by
  have hnone {marks : List Char} (hmarks : ∀ m ∈ marks, combiningClass m ≠ 0) :
      marks.filter (fun c => combiningClass c == 0) = [] :=
    List.filter_eq_nil_iff.2 fun m hm ↦ by simpa using hmarks m hm
  induction s generalizing marks with
  | nil => exact hnone hmarks
  | cons c s ih =>
    rw [orderMarksFrom]
    split
    · next hc =>
      rw [List.filter_append, hnone hmarks, List.nil_append, List.filter_cons, List.filter_cons,
        ih (List.forall_mem_nil _)]
    · next hc =>
      rw [ih, List.filter_cons_of_neg (by simpa using hc)]
      intro m hm
      rcases mem_insertMark.1 hm with rfl | hm
      · exact hc
      · exact hmarks m hm

/-! ### The tables -/

theorem mem_decompositions {n first second : Nat}
    (h : decompositionStep? n = some (first, second)) :
    (n, first, second) ∈ decompositions.toList := by
  unfold decompositionStep? at h
  -- the table is not computed
  generalize decompositions = table at h ⊢
  split at h
  · cases h
  · next hn => exact mem_of_getD (by omega) h

/-- A character that is in no range of the table has the class zero. -/
theorem combiningClass_of_apart {c : Char}
    (h : ∀ e ∈ combiningClasses.toList, c.toNat < e.1 ∨ e.2.1 < c.toNat) :
    combiningClass c = 0 := by
  unfold combiningClass
  generalize combiningClasses = table at h ⊢
  by_cases hc : c.toNat < 0x300
  · exact if_pos hc
  · exact (if_neg hc).trans (class_of_getD h)

/-! ### Blanks -/

/-- By the table a blank stands for one blank. -/
theorem blank_of_mem_decompositions : decompositions.toList.all fun e =>
    !(bits blankPoints).testBit e.1 ||
      Nat.beq e.2.2 0 && (bits blankPoints).testBit e.2.1 := by
  -- the parts of the table are joined as lists, which the kernel does faster
  unfold decompositions
  simp only [Array.toList_append]
  decide +kernel

theorem exists_decomposeCode_blank (depth : Nat) {n : Nat} (hn : n ∈ blankPoints) :
    ∃ m ∈ blankPoints, decomposeCode n depth = [m] := by
  induction depth generalizing n with
  | zero => exact ⟨n, hn, rfl⟩
  | succ depth ih =>
    rw [decomposeCode]
    cases hstep : decompositionStep? n with
    | none => exact ⟨n, hn, rfl⟩
    | some parts =>
      obtain ⟨first, second⟩ := parts
      have hentry := List.all_eq_true.1 blank_of_mem_decompositions _ (mem_decompositions hstep)
      rw [testBit_bits.2 hn, Bool.not_true, Bool.false_or, Bool.and_eq_true, Nat.beq_eq] at hentry
      obtain ⟨hsecond, hfirst⟩ := hentry
      obtain ⟨m, hm, hcode⟩ := ih (testBit_bits.1 hfirst)
      refine ⟨m, hm, ?_⟩
      dsimp only at hsecond ⊢
      rw [hcode, hsecond, if_pos rfl, List.append_nil]

theorem isBlank_of_mem_blankPoints : ∀ n ∈ blankPoints, isBlank (Char.ofNat n) = true := by
  decide +kernel

/-- No range of combining characters has a blank. -/
theorem blankPoints_not_combining : blankPoints.all fun n =>
    !(rangeBits (combiningClasses.toList.map fun e => (e.1, e.2.1))).testBit n := by
  unfold combiningClasses
  rw [Array.toList_append]
  decide +kernel

theorem combiningClass_of_isBlank {c : Char} (hc : isBlank c = true) : combiningClass c = 0 := by
  refine combiningClass_of_apart fun e he ↦ ?_
  have hblank := List.all_eq_true.1 blankPoints_not_combining _ (mem_blankPoints hc)
  have hmem : (e.1, e.2.1) ∈ combiningClasses.toList.map fun e => (e.1, e.2.1) :=
    List.mem_map.2 ⟨e, he, rfl⟩
  by_contra hin
  have hbit := testBit_rangeBits.2 ⟨_, hmem, by omega, Nat.le_of_not_lt fun h ↦ hin (.inr h)⟩
  rw [hbit] at hblank
  cases hblank

/-- A blank decomposes to a blank. -/
theorem exists_decomposeChar_of_isBlank {c : Char} (hc : isBlank c = true) :
    ∃ d, isBlank d = true ∧ decomposeChar c = [d] := by
  have hpoint := mem_blankPoints hc
  obtain ⟨m, hm, hcode⟩ := exists_decomposeCode_blank 4 hpoint
  have hsmall : ∀ n ∈ blankPoints, n < 0xAC00 := by decide
  have hlow := hsmall _ hpoint
  refine ⟨Char.ofNat m, isBlank_of_mem_blankPoints m hm, ?_⟩
  rw [decomposeChar]
  dsimp only
  rw [if_neg (by omega), hcode]
  rfl

end OutlineSearch.Text
