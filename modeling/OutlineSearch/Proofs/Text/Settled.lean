import OutlineSearch.Proofs.Text.Decomposing
import OutlineSearch.Proofs.Text.Lowering

/-!
# Settled characters

What a character in lower-case decomposes to is settled: it is in lower-case, and it decomposes no
further. The table of decompositions says so entry by entry. An entry for a code point without
another lower-case form begins with one that has none either; the second code point of an entry has
no other form and no entry; and no entry leads to another one often enough to use up the depth to
which a character is decomposed.
-/

namespace OutlineSearch.Text

/-- A character is its own lower-case form wherever it stands, and decomposes to itself. -/
def Settled (c : Char) : Prop := IsLower c ∧ decomposeChar c = [c]

theorem isLower_iff {c : Char} : IsLower c ↔ capitals.testBit c.toNat = false := by
  rw [← Bool.not_eq_true, testBit_capitals]
  constructor
  · rintro hc ⟨run, hrun, hcovers⟩
    exact hc.not_covers hrun hcovers
  · exact fun h ↦ isLower_of_not_covers fun run hrun hcovers ↦ h ⟨run, hrun, hcovers⟩

/-! ### The table of decompositions -/

/-- A code point is that of a character, and not of a syllable that is decomposed by arithmetic. -/
def isLetterCode (n : Nat) : Bool :=
  Nat.blt n 0xAC00 || Nat.blt 0xD7A3 n && Nat.blt n 0xD800 ||
    Nat.blt 0xDFFF n && Nat.blt n 0x110000

/-- The code points that have entries. -/
def keysOf (entries : List (Nat × Nat × Nat)) : Nat := bits (entries.map (·.1))

/-- The first part of an entry has no other lower-case form, unless its code point has one; the
second part has none and no entry; and the letters of syllables have no entries. -/
def staysLower (keys : Nat) (e : Nat × Nat × Nat) : Bool :=
  (capitals.testBit e.1 || !capitals.testBit e.2.1) && isLetterCode e.2.1 &&
    !capitals.testBit e.2.2 && !keys.testBit e.2.2 && isLetterCode e.2.2 &&
    (Nat.blt e.1 0x1100 || Nat.blt 0x11FF e.1)

theorem staysLower_decompositions :
    decompositions.toList.all (staysLower (keysOf decompositions.toList)) = true := by
  -- the parts of the table are joined as lists, which the kernel does faster
  unfold decompositions
  simp only [Array.toList_append]
  decide +kernel

/-- The entries of a table from which one can go on so many times. -/
def further (entries : List (Nat × Nat × Nat)) : Nat → List (Nat × Nat × Nat)
  | 0 => entries
  | steps + 1 => entries.filter fun e => (keysOf (further entries steps)).testBit e.2.1

theorem further_decompositions : further decompositions.toList 4 = [] := by
  unfold decompositions
  simp only [Array.toList_append]
  decide +kernel

theorem isLetterCode_iff {n : Nat} :
    isLetterCode n = true ↔ n.isValidChar ∧ ¬(0xAC00 ≤ n ∧ n ≤ 0xD7A3) := by
  simp only [isLetterCode, Bool.or_eq_true, Bool.and_eq_true, Nat.blt_eq, Nat.isValidChar]
  omega

/-- A code point of a letter has no other lower-case form, and no entry. -/
structure SettledCode (n : Nat) : Prop where
  lower : capitals.testBit n = false
  letter : isLetterCode n = true
  step : decompositionStep? n = none

theorem step_eq_none {n : Nat} (h : ∀ parts, (n, parts) ∉ decompositions.toList) :
    decompositionStep? n = none :=
  Option.eq_none_iff_forall_not_mem.2 fun parts hparts ↦ h parts (mem_decompositions hparts)

section

variable {n first second : Nat} (hstep : decompositionStep? n = some (first, second))

include hstep

theorem lower_first (hlower : capitals.testBit n = false) :
    capitals.testBit first = false ∧ isLetterCode first = true := by
  have hentry := List.all_eq_true.1 staysLower_decompositions _ (mem_decompositions hstep)
  simp only [staysLower, hlower, Bool.false_or, Bool.and_eq_true, Bool.not_eq_true'] at hentry
  obtain ⟨⟨⟨⟨⟨hfirst, hletter⟩, -⟩, -⟩, -⟩, -⟩ := hentry
  exact ⟨hfirst, hletter⟩

theorem settledCode_second : SettledCode second := by
  have hentry := List.all_eq_true.1 staysLower_decompositions _ (mem_decompositions hstep)
  simp only [staysLower, Bool.and_eq_true, Bool.not_eq_true'] at hentry
  obtain ⟨⟨⟨⟨-, hsecond⟩, hkey⟩, hletter⟩, -⟩ := hentry
  refine ⟨hsecond, hletter, step_eq_none fun parts hmem ↦ Bool.eq_false_iff.1 hkey ?_⟩
  exact testBit_bits.2 (List.mem_map.2 ⟨_, hmem, rfl⟩)

end

/-- A code point cannot be decomposed more often than so many times. -/
def Within (steps n : Nat) : Prop := ∀ parts, (n, parts) ∉ further decompositions.toList steps

theorem within_four (n : Nat) : Within 4 n := by
  intro parts
  rw [further_decompositions]
  exact List.not_mem_nil

theorem Within.first {steps n first second : Nat} (h : Within (steps + 1) n)
    (hstep : decompositionStep? n = some (first, second)) : Within steps first := by
  intro parts hmem
  refine h _ (List.mem_filter.2 ⟨mem_decompositions hstep, ?_⟩)
  exact testBit_bits.2 (List.mem_map.2 ⟨_, hmem, rfl⟩)

/-- What a code point without another lower-case form decomposes to is settled: its first parts have
no other form, and in the end no entry. -/
theorem settledCode_of_mem_decomposeCode {steps n m : Nat} (hwithin : Within steps n)
    (hlower : capitals.testBit n = false) (hletter : isLetterCode n = true)
    (hm : m ∈ decomposeCode n steps) : SettledCode m := by
  -- each step leaves one step less for the first part, so the depth is never used up
  induction steps generalizing n with
  | zero =>
    obtain rfl := List.mem_singleton.1 hm
    exact ⟨hlower, hletter, step_eq_none hwithin⟩
  | succ steps ih =>
    rw [decomposeCode] at hm
    cases hstep : decompositionStep? n with
    | none =>
      rw [hstep] at hm
      obtain rfl := List.mem_singleton.1 hm
      exact ⟨hlower, hletter, hstep⟩
    | some parts =>
      obtain ⟨first, second⟩ := parts
      rw [hstep] at hm
      dsimp only at hm
      obtain ⟨hfirst, hletterFirst⟩ := lower_first hstep hlower
      rcases List.mem_append.1 hm with hm | hm
      · exact ih (hwithin.first hstep) hfirst hletterFirst hm
      · split at hm
        · cases hm
        · obtain rfl := List.mem_singleton.1 hm
          exact settledCode_second hstep

/-! ### Characters -/

theorem SettledCode.settled {n : Nat} (h : SettledCode n) : Settled (Char.ofNat n) := by
  obtain ⟨hvalid, hsyllable⟩ := isLetterCode_iff.1 h.letter
  have hcode : (Char.ofNat n).toNat = n := toNat_ofNat hvalid
  refine ⟨isLower_iff.2 (hcode.symm ▸ h.lower), ?_⟩
  rw [decomposeChar]
  dsimp only
  rw [hcode, if_neg hsyllable, decomposeCode, h.step]
  rfl

theorem capitalRuns_apart : ∀ run ∈ capitalRuns, run.2.1 < 0x1100 ∨ 0x11FF < run.1 := by
  decide +kernel

/-- The letters that syllables are decomposed to are settled. -/
theorem settledCode_of_syllable {n : Nat} (hfirst : 0x1100 ≤ n) (hlast : n ≤ 0x11FF) :
    SettledCode n where
  lower := by
    rw [← Bool.not_eq_true, testBit_capitals]
    rintro ⟨run, hrun, hcovers⟩
    obtain ⟨hle, hge, -⟩ := hcovers
    rcases capitalRuns_apart run hrun with hbelow | habove <;> omega
  letter := isLetterCode_iff.2 ⟨.inl (by omega), by omega⟩
  step := by
    refine step_eq_none fun parts hmem ↦ ?_
    have hentry := List.all_eq_true.1 staysLower_decompositions _ hmem
    simp only [staysLower, Bool.and_eq_true, Bool.or_eq_true, Nat.blt_eq] at hentry
    rcases hentry.2 with hbelow | habove <;> omega

/-- What a character in lower-case decomposes to is settled. -/
theorem settled_of_mem_decomposeChar {c d : Char} (hc : IsLower c) (hd : d ∈ decomposeChar c) :
    Settled d := by
  rw [decomposeChar] at hd
  dsimp only at hd
  split at hd
  · next hsyllable =>
    rcases List.mem_append.1 hd with hd | hd
    · rw [List.mem_cons, List.mem_singleton] at hd
      rcases hd with rfl | rfl
      · exact (settledCode_of_syllable (by omega) (by omega)).settled
      · exact (settledCode_of_syllable (by omega) (by omega)).settled
    · split at hd
      · cases hd
      · rw [List.mem_singleton.1 hd]
        have hlast : 0x11A7 + (c.toNat - 0xAC00) % 28 ≤ 0x11FF := by omega
        exact (settledCode_of_syllable (by omega) hlast).settled
  · next hsyllable =>
    obtain ⟨m, hm, rfl⟩ := List.mem_map.1 hd
    exact (settledCode_of_mem_decomposeCode (within_four _) (isLower_iff.1 hc)
      (isLetterCode_iff.2 ⟨c.valid, hsyllable⟩) hm).settled

end OutlineSearch.Text
