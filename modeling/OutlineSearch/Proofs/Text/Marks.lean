import OutlineSearch.Proofs.Text.Blanks
import OutlineSearch.Proofs.Text.Finding

/-!
# Marks and words in lower-case

The hash and the brackets that make tags and references have no case, and nothing else has one of
them for its form. So where they stand in a lower-case form they stand in the text, and what is
around them is lower-case by itself. A form is a word character exactly if the character is one, but
for the dotted capital I.
-/

namespace OutlineSearch.Text

/-! ### Marks -/

/-- The characters that make tags and references. -/
def marks : List Char := ['#', '[', ']']

/-- The code points of the marks. -/
def markPoints : List Nat := [0x23, 0x5B, 0x5D]

variable {c d : Char}

theorem mem_marks_iff : c ∈ marks ↔ c = '#' ∨ c = '[' ∨ c = ']' := by
  simp [marks]

theorem mem_markPoints (hc : c ∈ marks) : c.toNat ∈ markPoints := by
  rcases mem_marks_iff.1 hc with rfl | rfl | rfl <;> decide

theorem caseless_markPoints : caseless markPoints = true := by
  unfold caseless passedOverRanges
  simp only [Array.toList_append]
  decide +kernel

theorem partsCase_of_mem_marks (hc : c ∈ marks) : PartsCase c :=
  partsCase_of_caseless caseless_markPoints (mem_markPoints hc)

theorem lowerChar_of_mem_marks (hc : c ∈ marks) : lowerChar c = c := by
  rcases mem_marks_iff.1 hc with rfl | rfl | rfl <;> rfl

theorem avoids_markPoints : avoids markPoints = true := by
  decide +kernel

theorem eq_of_toLower_mem_marks (hascii : d.toNat < 128) (h : d.toLower ∈ marks) :
    d.toLower = d :=
  of_ascii (P := fun d ↦ d.toLower ∈ marks → d.toLower = d) (by decide) hascii h

/-- Nothing else has a mark for its form. -/
theorem eq_of_lowerChar_mem_marks (h : lowerChar d ∈ marks) : lowerChar d = d := by
  by_cases hascii : d.toNat < 128
  · rw [lowerChar, if_pos hascii] at h ⊢
    exact eq_of_toLower_mem_marks hascii h
  · exact lowerChar_eq_self avoids_markPoints hascii (mem_markPoints h)

theorem IsForm.eq_of_mem_marks {form : List Char} (h : IsForm d form) (hc : c ∈ marks)
    (hmem : c ∈ form) : d = c := by
  cases h with
  | finalSigma | sigma =>
    obtain rfl := List.mem_singleton.1 hmem
    exact absurd hc (by decide)
  | dotted =>
    rcases List.mem_cons.1 hmem with rfl | hmem
    · exact absurd hc (by decide)
    · obtain rfl := List.mem_singleton.1 hmem
      exact absurd hc (by decide)
  | single =>
    obtain rfl := List.mem_singleton.1 hmem
    exact (eq_of_lowerChar_mem_marks hc).symm

/-- A mark stands in a lower-case form only if it stands in the text. -/
theorem mem_of_mem_lowerFrom (hc : c ∈ marks) {before s : List Char}
    (h : c ∈ lowerFrom before s) : c ∈ s := by
  induction s generalizing before with
  | nil => cases h
  | cons d s ih =>
    obtain ⟨form, hform, hlower⟩ := exists_isForm before s d
    rw [hlower, List.mem_append] at h
    rcases h with h | h
    · rw [hform.eq_of_mem_marks hc h]
      exact List.mem_cons_self
    · exact List.mem_cons_of_mem d (ih h)

theorem lower_append_mark (hc : c ∈ marks) (before behind : List Char) :
    lower (before ++ c :: behind) = lower before ++ c :: lower behind := by
  have h := (partsCase_of_mem_marks hc).lower_append_cons before behind
  rwa [lowerChar_of_mem_marks hc] at h

/-- Where a mark stands in a lower-case form it stands in the text, and both sides of it are
lower-case by themselves. -/
theorem lower_eq_append_mark (hc : c ∈ marks) {s before behind : List Char}
    (h : lower s = before ++ c :: behind) :
    ∃ a b, s = a ++ c :: b ∧ lower a = before ∧ lower b = behind := by
  -- by the number of characters: the first mark of the text is the wanted one or in front of it
  induction hlength : s.length using Nat.strongRecOn generalizing s before with
  | ind n ih =>
    have hlower : c ∈ lowerFrom [] s := by
      change c ∈ lower s
      simp [h]
    obtain ⟨a, b, rfl, ha⟩ := List.eq_append_cons_of_mem (mem_of_mem_lowerFrom hc hlower)
    have hfirst : c ∉ lower a := fun hmem ↦ ha (mem_of_mem_lowerFrom hc hmem)
    rw [lower_append_mark hc] at h
    rcases List.append_eq_append_iff.1 h with ⟨more, hbefore, hrest⟩ | ⟨more, hbefore, hrest⟩
    · cases more with
      | nil =>
        rw [List.append_nil] at hbefore
        exact ⟨a, b, rfl, hbefore.symm, (List.cons.inj hrest).2⟩
      | cons d more =>
        obtain ⟨rfl, hb⟩ := List.cons.inj hrest
        have hshorter : b.length < n := by
          rw [← hlength, List.length_append, List.length_cons]
          omega
        obtain ⟨a', b', rfl, rfl, hb'⟩ := ih b.length hshorter hb rfl
        refine ⟨a ++ c :: a', b', by simp, ?_, hb'⟩
        rw [lower_append_mark hc, hbefore]
    · cases more with
      | nil =>
        rw [List.append_nil] at hbefore
        exact ⟨a, b, rfl, hbefore, (List.cons.inj hrest).2.symm⟩
      | cons d more =>
        obtain ⟨rfl, -⟩ := List.cons.inj hrest
        exact absurd (by simp [hbefore]) hfirst

/-- Several marks side by side stand in a lower-case form where they stand in the text. -/
theorem lower_eq_append_marks {ms s before behind : List Char} (hms : ms ⊆ marks)
    (hne : ms ≠ []) : lower s = before ++ (ms ++ behind) ↔
      ∃ a b, s = a ++ (ms ++ b) ∧ lower a = before ∧ lower b = behind := by
  induction ms generalizing s before with
  | nil => exact absurd rfl hne
  | cons c ms ih =>
    obtain ⟨hc, hms⟩ := List.cons_subset.1 hms
    constructor
    · intro h
      obtain ⟨a, b, rfl, ha, hb⟩ := lower_eq_append_mark hc h
      cases ms with
      | nil => exact ⟨a, b, rfl, ha, hb⟩
      | cons d ms =>
        have hrest : lower b = [] ++ (d :: ms ++ behind) := hb
        obtain ⟨a', b', rfl, ha', hb'⟩ := (ih hms (List.cons_ne_nil d ms)).1 hrest
        cases a' with
        | nil => exact ⟨a, b', rfl, ha, hb'⟩
        | cons e a' =>
          obtain ⟨form, hform, hlower⟩ := exists_isForm [] a' e
          rw [lower, hlower] at ha'
          cases hform <;> cases ha'
    · rintro ⟨a, b, rfl, rfl, rfl⟩
      cases ms with
      | nil => exact lower_append_mark hc a b
      | cons d ms =>
        have hrest : lower (d :: ms ++ b) = [] ++ (d :: ms ++ lower b) :=
          (ih hms (List.cons_ne_nil d ms)).2 ⟨[], b, rfl, rfl, rfl⟩
        rw [List.cons_append, lower_append_mark hc, hrest]
        rfl

/-! ### Word characters -/

/-- The code points of the word characters. -/
def wordPoints : Nat := rangeBits wordRanges.toList

theorem wordRanges_in_order : wordRanges.toList.IsChain EndsBefore := by
  -- the parts of the table are joined as lists, which the kernel does faster
  unfold wordRanges
  simp only [Array.toList_append]
  decide +kernel

theorem testBit_wordPoints_ascii : ∀ n < 128, isWord (Char.ofNat n) = wordPoints.testBit n := by
  unfold wordPoints wordRanges
  simp only [Array.toList_append]
  decide +kernel

theorem isWord_eq (c : Char) : isWord c = wordPoints.testBit c.toNat := by
  by_cases hascii : c.toNat < 128
  · rw [← testBit_wordPoints_ascii c.toNat hascii, Char.ofNat_toNat]
  · rw [isWord, if_neg hascii, Bool.eq_iff_iff, inRanges_iff wordRanges_in_order]
    exact testBit_rangeBits.symm

/-- A run maps word characters to word characters, and others to others. -/
theorem wordPoints_along : lowerRuns.toList.all fun run =>
    Nat.beq (along wordPoints (image run run.1) run) (along wordPoints run.1 run) := by
  unfold wordPoints wordRanges
  simp only [Array.toList_append]
  decide +kernel

/-- The capitals of special forms and the sigmas are word characters, and no blank is one. -/
theorem testBit_wordPoints_special :
    (∀ n ∈ [0x130, 0x3A3, 0x3C2, 0x3C3], wordPoints.testBit n = true) ∧
      ∀ n ∈ blankPoints, wordPoints.testBit n = false := by
  unfold wordPoints wordRanges
  simp only [Array.toList_append]
  decide +kernel

theorem isWord_special (hc : c.toNat ∈ [0x130, 0x3A3, 0x3C2, 0x3C3]) : isWord c = true := by
  rw [isWord_eq]
  exact testBit_wordPoints_special.1 _ hc

/-- A blank is no word character. -/
theorem isWord_of_isBlank (hc : isBlank c = true) : isWord c = false := by
  rw [isWord_eq]
  exact testBit_wordPoints_special.2 _ (mem_blankPoints hc)

theorem isWord_toLower {c : Char} (hascii : c.toNat < 128) : isWord c.toLower = isWord c :=
  of_ascii (P := fun c ↦ isWord c.toLower = isWord c) (by decide) hascii

/-- A character is a word character exactly if its form is one. -/
theorem isWord_lowerChar (c : Char) : isWord (lowerChar c) = isWord c := by
  by_cases hascii : c.toNat < 128
  · rw [lowerChar, if_pos hascii]
    exact isWord_toLower hascii
  · rcases lowerChar_eq_or_mapsTo hascii with hself | ⟨run, hrun, hmaps⟩
    · rw [hself]
    · have hsame := Nat.eq_of_beq_eq_true (List.all_eq_true.1 wordPoints_along run hrun)
      have hplace : run.1 + (c.toNat - run.1) = c.toNat := by
        have hfirst := hmaps.1.1
        omega
      rw [isWord_eq, isWord_eq, hmaps.toNat_eq hrun, testBit_image hrun hmaps.1, hsame,
        testBit_along hmaps.1, hplace]

/-- The form of a character starts with a word character exactly if the character is one. -/
theorem IsForm.exists_cons {form : List Char} (h : IsForm c form) :
    ∃ d more, form = d :: more ∧ isWord d = isWord c := by
  cases h with
  | finalSigma =>
    exact ⟨'ς', [], rfl, (isWord_special (by decide)).trans (isWord_special (by decide)).symm⟩
  | sigma =>
    exact ⟨'σ', [], rfl, (isWord_special (by decide)).trans (isWord_special (by decide)).symm⟩
  | dotted => exact ⟨'i', ['\u0307'], rfl, (isWord_special (by decide)).symm⟩
  | single => exact ⟨lowerChar c, [], rfl, isWord_lowerChar c⟩

/-- The lower-case form of a text starts with a word character exactly if the text does. -/
theorem isWord_of_lower_eq_cons {s more : List Char} (h : lower s = d :: more) :
    ∃ c rest, s = c :: rest ∧ isWord d = isWord c := by
  cases s with
  | nil => cases h
  | cons c rest =>
    obtain ⟨form, hform, hlower⟩ := exists_isForm [] rest c
    obtain ⟨e, tail, rfl, hword⟩ := hform.exists_cons
    obtain ⟨rfl, -⟩ := List.cons.inj (hlower.symm.trans h)
    exact ⟨c, rest, rfl, hword⟩

/-- The lower-case form of a text of word characters holds these only, but for the dots of the
dotted capital I. -/
theorem isWord_of_mem_lowerFrom {before s : List Char} (hs : ∀ c ∈ s, isWord c = true)
    (hd : d ∈ lowerFrom before s) : isWord d = true ∨ d = '\u0307' ∧ 'İ' ∈ s := by
  induction s generalizing before with
  | nil => cases hd
  | cons c s ih =>
    obtain ⟨hc, hs⟩ := List.forall_mem_cons.1 hs
    obtain ⟨form, hform, hlower⟩ := exists_isForm before s c
    rw [hlower, List.mem_append] at hd
    rcases hd with hd | hd
    · cases hform with
      | finalSigma | sigma =>
        obtain rfl := List.mem_singleton.1 hd
        exact .inl (isWord_special (by decide))
      | dotted =>
        rcases List.mem_cons.1 hd with rfl | hd
        · exact .inl rfl
        · exact .inr ⟨List.mem_singleton.1 hd, List.mem_cons_self⟩
      | single =>
        obtain rfl := List.mem_singleton.1 hd
        exact .inl ((isWord_lowerChar c).trans hc)
    · rcases ih hs hd with hword | ⟨hdot, hdotted⟩
      · exact .inl hword
      · exact .inr ⟨hdot, List.mem_cons_of_mem c hdotted⟩

end OutlineSearch.Text
