import OutlineSearch.Proofs.Text.Tables
import OutlineSearch.Text.Case

/-!
# Lower-case forms stay as they are

The lower-case form of a lower-case form is the form itself: no form of a character has another
form, and neither a capital sigma nor a dotted capital I stands in one. The characters that have no
other form are those that no run of the table has.
-/

namespace OutlineSearch.Text

/-- A character is its own lower-case form, wherever it stands. -/
def IsLower (c : Char) : Prop := lowerChar c = c ∧ c ≠ 'Σ' ∧ c ≠ 'İ'

instance (c : Char) : Decidable (IsLower c) := inferInstanceAs (Decidable (_ ∧ _ ∧ _))

/-- A run of the table has a code point. -/
def Covers (run : Nat × Nat × Nat × Int) (n : Nat) : Prop :=
  run.1 ≤ n ∧ n ≤ run.2.1 ∧ (n - run.1) % run.2.2.1 = 0

/-- What a run of the table maps a code point to. -/
def image (run : Nat × Nat × Nat × Int) (n : Nat) : Nat := ((n : Int) + run.2.2.2).toNat

/-! ### The runs of the table -/

/-- The runs of the table, and the two capitals whose forms are not found there. -/
def capitalRuns : List (Nat × Nat × Nat × Int) :=
  (0x130, 0x130, 1, 0) :: (0x3A3, 0x3A3, 1, 0) :: lowerRuns.toList

/-- The code points of a run. -/
def codePoints (run : Nat × Nat × Nat × Int) : List Nat :=
  (List.range' run.1 (run.2.1 + 1 - run.1)).filter fun n => Nat.beq ((n - run.1) % run.2.2.1) 0

theorem mem_codePoints {run : Nat × Nat × Nat × Int} {n : Nat} :
    n ∈ codePoints run ↔ Covers run n := by
  rw [codePoints, List.mem_filter, List.mem_range'_1, Nat.beq_eq, Covers]
  omega

/-- The code points that have another lower-case form. -/
def capitals : Nat := bits (capitalRuns.flatMap codePoints)

theorem testBit_capitals {n : Nat} :
    capitals.testBit n = true ↔ ∃ run ∈ capitalRuns, Covers run n := by
  rw [capitals, testBit_bits, List.mem_flatMap]
  exact exists_congr fun run ↦ and_congr_right' mem_codePoints

/-- The members of a set that are as far behind a place as the code points of a run are behind the
first of them. -/
def along (set start : Nat) (run : Nat × Nat × Nat × Int) : Nat :=
  set >>> start &&& bits ((codePoints run).map (· - run.1))

theorem testBit_along {run : Nat × Nat × Nat × Int} {n : Nat} (h : Covers run n)
    (set start : Nat) :
    (along set start run).testBit (n - run.1) = set.testBit (start + (n - run.1)) := by
  have hbit : (bits ((codePoints run).map (· - run.1))).testBit (n - run.1) = true :=
    testBit_bits.2 (List.mem_map.2 ⟨n, mem_codePoints.2 h, rfl⟩)
  rw [along, Nat.testBit_and, Nat.testBit_shiftRight, hbit, Bool.and_true]

/-- What is so of each run of the table: it maps to code points of characters, NUL not among them,
none of these has another lower-case form, no code point is mapped to itself, and only one run is in
ASCII. -/
structure IsSound (run : Nat × Nat × Nat × Int) : Prop where
  valid : image run run.2.1 < 0xD800 ∨ 0xDFFF < image run run.1 ∧ image run run.2.1 < 0x110000
  pos : 0 < image run run.1
  lower : along capitals (image run run.1) run = 0
  shifts : run.2.2.2 ≠ 0
  place : run = (0x41, 0x5A, 1, 32) ∨ 128 ≤ run.1

instance (run : Nat × Nat × Nat × Int) : Decidable (IsSound run) :=
  decidable_of_iff (_ ∧ _ ∧ _ ∧ _ ∧ _)
    ⟨fun ⟨hvalid, hpos, hlower, hshifts, hplace⟩ ↦ ⟨hvalid, hpos, hlower, hshifts, hplace⟩,
      fun h ↦ ⟨h.valid, h.pos, h.lower, h.shifts, h.place⟩⟩

theorem isSound_of_mem : ∀ run ∈ lowerRuns.toList, IsSound run := by
  decide +kernel

/-- A set has what a run maps a code point to if it has a member there along the run. -/
theorem testBit_image {run : Nat × Nat × Nat × Int} (hrun : run ∈ lowerRuns.toList) {n : Nat}
    (h : Covers run n) (set : Nat) :
    set.testBit (image run n) = (along set (image run run.1) run).testBit (n - run.1) := by
  have hpos := (isSound_of_mem run hrun).pos
  have himage : image run n = image run run.1 + (n - run.1) := by
    have hfirst := h.1
    unfold image at *
    omega
  rw [himage, testBit_along h]

/-! ### Forms of characters -/

/-- A run of the table maps a code point to a character. -/
def MapsTo (run : Nat × Nat × Nat × Int) (n : Nat) (form : Char) : Prop :=
  Covers run n ∧ form = Char.ofNat (image run n)

/-- A character outside ASCII has the form that a run of the table maps it to, or itself. -/
theorem lowerChar_eq_or_mapsTo {c : Char} (hascii : ¬c.toNat < 128) :
    lowerChar c = c ∨ ∃ run ∈ lowerRuns.toList, MapsTo run c.toNat (lowerChar c) := by
  rw [lowerChar]
  dsimp only
  rw [if_neg hascii]
  generalize bisect _ c.toNat 0 lowerRuns.size = i
  by_cases hi : i < lowerRuns.size
  · rw [dif_pos hi, Array.getInternal_eq_getElem]
    split
    · next h => exact .inr ⟨lowerRuns[i], by simp, h, rfl⟩
    · exact .inl rfl
  · rw [dif_neg hi]
    exact .inl (if_neg fun h ↦ absurd (Nat.le_trans h.1 h.2.1) (by decide))

theorem toNat_ofNat {n : Nat} (h : n.isValidChar) : (Char.ofNat n).toNat = n := by
  rw [Char.ofNat, dif_pos h]
  rfl

theorem MapsTo.toNat_eq {run : Nat × Nat × Nat × Int} {n : Nat} {form : Char}
    (h : MapsTo run n form) (hrun : run ∈ lowerRuns.toList) : form.toNat = image run n := by
  obtain ⟨⟨hfirst, hlast, -⟩, rfl⟩ := h
  have hvalid := (isSound_of_mem run hrun).valid
  apply toNat_ofNat
  unfold image at *
  unfold Nat.isValidChar
  omega

/-- No run of the table maps to one of some code points. -/
def avoids (points : List Nat) : Bool := lowerRuns.toList.all fun run => points.all fun n =>
  Nat.blt (image run run.2.1) n || Nat.blt n (image run run.1)

/-- A character outside ASCII whose form is one that no run maps to is this form itself. -/
theorem lowerChar_eq_self {points : List Nat} (h : avoids points = true) {c : Char}
    (hascii : ¬c.toNat < 128) (hmem : (lowerChar c).toNat ∈ points) : lowerChar c = c := by
  rcases lowerChar_eq_or_mapsTo hascii with hself | ⟨run, hrun, hmaps⟩
  · exact hself
  · have hapart := List.all_eq_true.1 (List.all_eq_true.1 h run hrun) _ hmem
    obtain ⟨hfirst, hlast, -⟩ := hmaps.1
    rw [hmaps.toNat_eq hrun] at hapart
    simp only [Bool.or_eq_true, Nat.blt_eq] at hapart
    unfold image at hapart
    omega

theorem isLower_toLower {c : Char} (hascii : c.toNat < 128) : IsLower c.toLower :=
  of_ascii (P := fun c ↦ IsLower c.toLower) (by decide) hascii

/-! ### Nothing is mapped to what is mapped -/

theorem MapsTo.not_covers {run other : Nat × Nat × Nat × Int} {n : Nat} {form : Char}
    (h : MapsTo run n form) (hrun : run ∈ lowerRuns.toList) (hother : other ∈ capitalRuns) :
    ¬Covers other form.toNat := by
  intro hcovers
  have hcapital := testBit_capitals.2 ⟨other, hother, hcovers⟩
  rw [h.toNat_eq hrun, testBit_image hrun h.1, (isSound_of_mem run hrun).lower,
    Nat.zero_testBit] at hcapital
  cases hcapital

/-- A character that is in no run is its own lower-case form. -/
theorem isLower_of_not_covers {c : Char} (h : ∀ run ∈ capitalRuns, ¬Covers run c.toNat) :
    IsLower c := by
  refine ⟨?_, ?_, ?_⟩
  · by_cases hascii : c.toNat < 128
    · rw [lowerChar, if_pos hascii]
      refine dif_neg ?_
      rintro ⟨hfirst, hlast⟩
      exact h (0x41, 0x5A, 1, 32) (.tail _ (.tail _ (.head _))) ⟨hfirst, hlast, Nat.mod_one _⟩
    · rcases lowerChar_eq_or_mapsTo hascii with hself | ⟨run, hrun, hmaps⟩
      · exact hself
      · exact absurd hmaps.1 (h run (.tail _ (.tail _ hrun)))
  · rintro rfl
    exact h (0x3A3, 0x3A3, 1, 0) (.tail _ (.head _)) ⟨by decide, by decide, by decide⟩
  · rintro rfl
    exact h (0x130, 0x130, 1, 0) (.head _) ⟨by decide, by decide, by decide⟩

theorem isLower_lowerChar {c : Char} (hsigma : c ≠ 'Σ') (hdotted : c ≠ 'İ') :
    IsLower (lowerChar c) := by
  by_cases hascii : c.toNat < 128
  · rw [lowerChar, if_pos hascii]
    exact isLower_toLower hascii
  · rcases lowerChar_eq_or_mapsTo hascii with hself | ⟨run, hrun, hmaps⟩
    · rw [hself]
      exact ⟨hself, hsigma, hdotted⟩
    · exact isLower_of_not_covers fun other hother ↦ hmaps.not_covers hrun hother

/-- What a character adds to a lower-case form, wherever it stands. -/
inductive IsForm : Char → List Char → Prop where
  | finalSigma : IsForm 'Σ' ['ς']
  | sigma : IsForm 'Σ' ['σ']
  | dotted : IsForm 'İ' ['i', '\u0307']
  | single {c : Char} (hsigma : c ≠ 'Σ') (hdotted : c ≠ 'İ') : IsForm c [lowerChar c]

theorem exists_isForm (before s : List Char) (c : Char) :
    ∃ form, IsForm c form ∧ lowerFrom before (c :: s) = form ++ lowerFrom (c :: before) s := by
  rw [lowerFrom]
  refine ⟨_, ?_, rfl⟩
  by_cases hsigma : c = 'Σ'
  · subst hsigma
    rw [if_pos (beq_self_eq_true 'Σ')]
    split
    · exact .finalSigma
    · exact .sigma
  · by_cases hdotted : c = 'İ'
    · subst hdotted
      exact .dotted
    · rw [if_neg (by simpa using hsigma), if_neg (by simpa using hdotted)]
      exact .single hsigma hdotted

theorem IsForm.isLower {c d : Char} {form : List Char} (h : IsForm c form) (hd : d ∈ form) :
    IsLower d := by
  cases h with
  | finalSigma | sigma =>
    obtain rfl := List.mem_singleton.1 hd
    decide +kernel
  | dotted =>
    rcases List.mem_cons.1 hd with rfl | hd
    · decide +kernel
    · obtain rfl := List.mem_singleton.1 hd
      decide +kernel
  | single hsigma hdotted =>
    obtain rfl := List.mem_singleton.1 hd
    exact isLower_lowerChar hsigma hdotted

theorem isLower_of_mem_lowerFrom {before s : List Char} {c : Char} (h : c ∈ lowerFrom before s) :
    IsLower c := by
  induction s generalizing before with
  | nil => cases h
  | cons first s ih =>
    obtain ⟨form, hform, hlower⟩ := exists_isForm before s first
    rw [hlower, List.mem_append] at h
    rcases h with h | h
    · exact hform.isLower h
    · exact ih h

theorem lowerFrom_of_isLower {s : List Char} (h : ∀ c ∈ s, IsLower c) (before : List Char) :
    lowerFrom before s = s := by
  induction s generalizing before with
  | nil => rfl
  | cons c s ih =>
    obtain ⟨⟨hself, hsigma, hdotted⟩, hs⟩ := List.forall_mem_cons.1 h
    simp [lowerFrom, ih hs, hself, hsigma, hdotted]

/-- The lower-case form of a string has no other lower-case form. -/
theorem lowered_lowered (s : String) : lowered (lowered s) = lowered s := by
  rw [lowered, lower, lowerFrom_of_isLower]
  · rw [String.ofList_toList]
  · intro c hc
    rw [lowered, String.toList_ofList] at hc
    exact isLower_of_mem_lowerFrom hc

/-! ### What is mapped is not lower-case -/

/-- A run of the table is behind another. -/
def Precedes (run other : Nat × Nat × Nat × Int) : Prop := run.1 ≤ run.2.1 ∧ run.2.1 < other.1

instance (run other : Nat × Nat × Nat × Int) : Decidable (Precedes run other) :=
  inferInstanceAs (Decidable (_ ∧ _))

instance : Trans Precedes Precedes Precedes where
  trans h h' := ⟨h.1, Nat.lt_trans (Nat.lt_of_lt_of_le h.2 h'.1) h'.2⟩

theorem lowerRuns_in_order : lowerRuns.toList.IsChain Precedes := by
  decide +kernel

theorem not_isLower_capital {c : Char} (hfirst : 0x41 ≤ c.toNat) (hlast : c.toNat ≤ 0x5A) :
    ¬IsLower c :=
  of_ascii (P := fun c ↦ 0x41 ≤ c.toNat → c.toNat ≤ 0x5A → ¬IsLower c) (by decide) (by omega)
    hfirst hlast

/-- A run of a table in order is found for the code points that it has. -/
theorem getD_of_covers {table : Array (Nat × Nat × Nat × Int)}
    (horder : table.toList.IsChain Precedes) {run : Nat × Nat × Nat × Int} {n : Nat}
    (hrun : run ∈ table.toList) (h : Covers run n) (d d' : Nat × Nat × Nat × Int) :
    table.getD (bisect (fun i ↦ (table.getD i d).1) n 0 table.size) d' = run := by
  obtain ⟨front, behind, hsplit⟩ := List.append_of_mem hrun
  have hpairwise := horder.pairwise
  rw [hsplit, List.pairwise_append, List.pairwise_cons] at hpairwise
  obtain ⟨-, ⟨hbehind, -⟩, hfront⟩ := hpairwise
  refine getD_bisect hsplit (fun a ha ↦ ?_) h.1 fun b hb ↦ ?_
  · obtain ⟨hspan, hlast⟩ := hfront a ha run (.head _)
    exact Nat.le_trans hspan (Nat.le_trans (Nat.le_of_lt hlast) h.1)
  · exact Nat.lt_of_le_of_lt h.2.1 (hbehind b hb).2

/-- A character outside ASCII has the form that the run which has it maps it to. -/
theorem lowerChar_of_covers {run : Nat × Nat × Nat × Int} {c : Char} (hascii : ¬c.toNat < 128)
    (hrun : run ∈ lowerRuns.toList) (h : Covers run c.toNat) :
    lowerChar c = Char.ofNat (image run c.toNat) := by
  have hfound := getD_of_covers lowerRuns_in_order hrun h (0, 0, 1, 0) (1, 0, 1, 0)
  rw [lowerChar]
  -- the table is not computed
  generalize lowerRuns = table at hfound
  have hform := congrArg (fun run : Nat × Nat × Nat × Int ↦
    if run.1 ≤ c.toNat ∧ c.toNat ≤ run.2.1 ∧ (c.toNat - run.1) % run.2.2.1 = 0 then
      Char.ofNat ((c.toNat : Int) + run.2.2.2).toNat
    else c) hfound
  exact (if_neg hascii).trans (hform.trans (if_pos h))

/-- A lower-case character is in no run. -/
theorem IsLower.not_covers {c : Char} (hc : IsLower c) {run : Nat × Nat × Nat × Int}
    (hrun : run ∈ capitalRuns) : ¬Covers run c.toNat := by
  intro h
  have hone (n : Nat) (hn : Covers (n, n, 1, 0) c.toNat) : c = Char.ofNat n := by
    obtain rfl : c.toNat = n := Nat.le_antisymm hn.2.1 hn.1
    exact (Char.ofNat_toNat c).symm
  rcases List.mem_cons.1 hrun with rfl | hrun
  · exact hc.2.2 (hone _ h)
  rcases List.mem_cons.1 hrun with rfl | hrun
  · exact hc.2.1 (hone _ h)
  by_cases hascii : c.toNat < 128
  · rcases (isSound_of_mem run hrun).place with rfl | hbehind
    · exact not_isLower_capital h.1 h.2.1 hc
    · exact Nat.not_lt.2 (Nat.le_trans hbehind h.1) hascii
  · have hform := hc.1.symm.trans (lowerChar_of_covers hascii hrun h)
    have hshift := (isSound_of_mem run hrun).shifts
    have hcode := MapsTo.toNat_eq ⟨h, hform⟩ hrun
    unfold image at hcode
    omega

end OutlineSearch.Text
