import OutlineSearch.Proofs.Number.Adding

/-!
# The range of the numbers of 64 bits

An integer has a nearest number of 64 bits unless it is as near to `2 ^ 1024` as to the greatest of
them, which is `2 ^ 1024 - 2 ^ 971`, or beyond that point.
-/

namespace OutlineSearch.Binary64

open OutlineSearch.Number OutlineSearch.Number.RoundingInterval

/-- The magnitude from which on an integer is nearer to `2 ^ 1024`. -/
def rangeLimit : Nat := Nat.pow 2 1024 - Nat.pow 2 970

/-- An integer that lies beyond the numbers of 64 bits. -/
def OutOfRange (n : Int) : Prop := rangeLimit ≤ n.natAbs

theorem rangeLimit_eq : ∃ k, k = 970 ∧ rangeLimit = (2 ^ 54 - 1) * 2 ^ k := by
  have hpow (k : Nat) : Nat.pow 2 (54 + k) - Nat.pow 2 k = (2 ^ 54 - 1) * 2 ^ k := by
    rw [Nat.sub_mul, Nat.one_mul, ← Nat.pow_add]
    rfl
  have hsum : 1024 = 54 + 970 := rfl
  delta rangeLimit
  rw [hsum]
  generalize 970 = k
  exact ⟨k, rfl, hpow k⟩

theorem dvd_two_pow (k : Nat) : 2 ^ ((2 ^ k).log2 - 52) ∣ 2 ^ k := by
  rw [Nat.log2_two_pow]
  exact Nat.pow_dvd_pow 2 (Nat.sub_le k 52)

/-- Between the greatest number under a power of two and this power, a whole number is rounded to
the nearer one, and from the middle to the power. -/
theorem roundSteps_of_binade {k m n : Nat} (hlow : 2 ^ 53 * 2 ^ k ≤ n) (hhigh : n < 2 ^ 54 * 2 ^ k)
    (hm : m * 2 ^ k * 4 ≤ 2 * n + 2 * 2 ^ k) (hn : 2 * n ≤ m * 2 ^ k * 4 + 2 * 2 ^ k)
    (htie : 2 * n = m * 2 ^ k * 4 + 2 * 2 ^ k ∨ 2 * n + 2 * 2 ^ k = m * 2 ^ k * 4 → m % 2 = 0) :
    roundSteps n 1 = m * 2 ^ (k + 1) := by
  have hdouble : 2 ^ (k + 1) = 2 * 2 ^ k := by ring
  have hspan : 2 * (m * (1 * 2 ^ (k + 1))) = m * 2 ^ k * 4 := by ring
  have hexcess : (n / 1).log2 - 52 = k + 1 := by
    rw [Nat.div_one]
    refine excess_eq ?_ ?_
    · calc 2 ^ (52 + (k + 1)) = 2 ^ 53 * 2 ^ k := by ring
        _ ≤ n := hlow
    · calc n < 2 ^ 54 * 2 ^ k := hhigh
        _ = 2 ^ (53 + (k + 1)) := by ring
  refine roundSteps_of_excess Nat.one_pos hexcess ?_ ?_ ?_ <;> rw [hspan, Nat.one_mul, hdouble]
  · exact hm
  · exact hn
  · exact htie

/-- A whole number is rounded to a power of two or above it from half a unit below it on. -/
theorem pow_le_roundSteps_iff (k n : Nat) :
    2 ^ 54 * 2 ^ k ≤ roundSteps n 1 ↔ (2 ^ 54 - 1) * 2 ^ k ≤ n := by
  have hunit : 0 < 2 ^ k := Nat.two_pow_pos k
  have hgreatest : (2 ^ 53 - 1) * 2 ^ (k + 1) = (2 ^ 54 - 2) * 2 ^ k := by ring
  constructor
  · intro h
    by_contra hlt
    have hle : roundSteps n 1 ≤ (2 ^ 54 - 2) * 2 ^ k := by
      by_cases hn : n ≤ (2 ^ 54 - 2) * 2 ^ k
      · rw [← hgreatest] at hn ⊢
        have hround := roundSteps_le_of_dvd Nat.one_pos (dvd_mul_two_pow (by decide) _) hn
        rwa [Nat.mul_one] at hround
      · rw [← hgreatest]
        exact Nat.le_of_eq (roundSteps_of_binade (by omega) (by omega) (by omega) (by omega)
          (by omega))
    omega
  · intro h
    by_cases hn : 2 ^ 54 * 2 ^ k ≤ n
    · rw [← Nat.pow_add] at hn ⊢
      have hround := le_roundSteps_of_dvd Nat.one_pos (dvd_two_pow (54 + k)) hn
      rwa [Nat.mul_one] at hround
    · have hpow : 2 ^ 53 * 2 ^ (k + 1) = 2 ^ 54 * 2 ^ k := by ring
      rw [← hpow]
      exact Nat.le_of_eq (roundSteps_of_binade (by omega) (by omega) (by omega) (by omega)
        fun _ ↦ rfl).symm

/-- A number of steps is infinite from the limit on. -/
theorem ofSteps_eq_infinite_iff (negative : Bool) (steps : Nat) :
    (∃ sign, ofSteps negative steps = .infinite sign) ↔ stepLimit ≤ steps := by
  unfold ofSteps
  generalize stepLimit = limit
  constructor
  · rintro ⟨sign, h⟩
    by_contra hlt
    rw [if_neg hlt] at h
    split at h
    · split at h <;> cases h
    · cases h
  · intro h
    exact ⟨negative, if_pos h⟩

theorem stepLimit_le_iff (n : Nat) :
    stepLimit ≤ roundSteps (n * stepsPerOne) 1 ↔ rangeLimit ≤ n := by
  obtain ⟨k, hk, hone⟩ := stepsPerOne_eq
  obtain ⟨l, hl, hlimit⟩ := stepLimit_eq
  obtain ⟨m, hm, hrange⟩ := rangeLimit_eq
  have hsum : l = 54 + (m + k) := by omega
  rw [hone, hlimit, hrange, hsum, Nat.pow_add, pow_le_roundSteps_iff, Nat.pow_add, ← Nat.mul_assoc]
  exact Nat.mul_le_mul_right_iff (Nat.two_pow_pos k)

theorem ofInt_eq_infinite_iff {n : Int} : (∃ sign, ofInt n = .infinite sign) ↔ OutOfRange n := by
  rw [ofInt, ofRatio, ofMagnitude, ofSteps_eq_infinite_iff]
  exact stepLimit_le_iff n.natAbs

/-- An integer has no nearest number exactly when it lies beyond them. -/
theorem ofInt?_eq_none_iff {n : Int} : ofInt? n = none ↔ OutOfRange n := by
  -- The function is unfolded and not its value, since that would be computed.
  obtain ⟨nearest?, hnearest⟩ : ∃ f, f = ofInt? := ⟨_, rfl⟩
  rw [← ofInt_eq_infinite_iff, ← hnearest]
  delta ofInt? at hnearest
  subst hnearest
  generalize ofInt = nearest
  dsimp only
  cases nearest n <;> simp

end OutlineSearch.Binary64
