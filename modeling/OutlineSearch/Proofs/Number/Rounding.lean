import OutlineSearch.Number.Shortest
import OutlineSearch.Number.Numeral
import Mathlib.Tactic.Ring
import Mathlib.Tactic.Linarith

/-!
# Rounding

A ratio that lies in the rounding interval of a number is rounded to that number. The interval is
counted in quarter steps, so that its ends are whole.
-/

namespace OutlineSearch

open OutlineSearch.Number

namespace Binary64

/-- The numbers of steps that a finite number can have: below the limit, with at most 53 significant
bits. -/
structure IsSteps (n : Nat) : Prop where
  lt_limit : n < stepLimit
  dvd : 2 ^ (n.log2 - 52) ∣ n

/-- The finite numbers of 64 bits. -/
def IsDouble : Binary64 → Prop
  | .finite s => IsSteps s.natAbs
  | .negativeZero => True
  | _ => False

/-- A number at most half a unit away is the nearest one, if it is even in case of a tie. -/
theorem nearestEven_eq {n d m : Nat} (hlow : 2 * (m * d) ≤ 2 * n + d)
    (hhigh : 2 * n ≤ 2 * (m * d) + d) (hd : 0 < d)
    (htie : 2 * n = 2 * (m * d) + d ∨ 2 * n + d = 2 * (m * d) → m % 2 = 0) :
    nearestEven n d = m := by
  have hsplit : d * (n / d) + n % d = n := Nat.div_add_mod n d
  have hrest : n % d < d := Nat.mod_lt n hd
  unfold nearestEven
  generalize n / d = q at *
  generalize n % d = r at *
  subst hsplit
  have hle : q ≤ m := by
    by_contra hlt
    have : (m + 1) * d ≤ d * q := by
      rw [Nat.mul_comm d q]
      exact Nat.mul_le_mul_right d (by omega)
    rw [Nat.add_mul] at this
    omega
  have hge : m ≤ q + 1 := by
    by_contra hlt
    have : d * (q + 2) ≤ m * d := by
      rw [Nat.mul_comm m d]
      exact Nat.mul_le_mul_left d (by omega)
    rw [Nat.mul_add] at this
    omega
  obtain rfl | rfl : m = q ∨ m = q + 1 := by omega
  · rw [Nat.mul_comm m d] at hhigh htie
    dsimp only
    split
    · rfl
    · rw [if_neg (by omega), if_pos (htie (by omega))]
  · have hsucc : (q + 1) * d = d * q + d := by ring
    rw [hsucc] at hlow htie
    dsimp only
    rw [if_neg (by omega)]
    split
    · rfl
    · have := htie (by omega)
      rw [if_neg (by omega)]

end Binary64

namespace Number.RoundingInterval

open Binary64

/-- A ratio in an interval lies between its ends, and only a closed interval has its ends. -/
theorem contains_iff (r : RoundingInterval) (n d : Nat) :
    r.contains n d = true ↔ r.low * d ≤ n ∧ n ≤ r.high * d ∧
      (n = r.low * d ∨ n = r.high * d → r.closed = true) := by
  unfold contains
  cases r.closed with
  | true => simp
  | false =>
    simp only [Bool.false_eq_true, if_false, decide_eq_true_eq, imp_false, not_or]
    omega

/-- Whether a ratio lies in an interval does not depend on how it is written. -/
theorem contains_congr (r : RoundingInterval) {n d n' d' : Nat} (hd : 0 < d) (hd' : 0 < d')
    (h : n * d' = n' * d) : r.contains n d = r.contains n' d' := by
  have hle (a : Nat) : a * d ≤ n ↔ a * d' ≤ n' := by
    rw [← Nat.mul_le_mul_right_iff hd', h, Nat.mul_right_comm, Nat.mul_le_mul_right_iff hd]
  have hge (a : Nat) : n ≤ a * d ↔ n' ≤ a * d' := by
    rw [← Nat.mul_le_mul_right_iff hd', h, Nat.mul_right_comm, Nat.mul_le_mul_right_iff hd]
  have hlt (a : Nat) : a * d < n ↔ a * d' < n' := by
    rw [← Nat.not_le, ← Nat.not_le, hge]
  have hgt (a : Nat) : n < a * d ↔ n' < a * d' := by
    rw [← Nat.not_le, ← Nat.not_le, hle]
  unfold contains
  simp only [hle, hge, hlt, hgt]

/-- The interval of a number reaches a half unit up and a half unit down, but down from a power of
two that is normal a quarter unit only. -/
theorem ofSteps_cases (n : Nat) : ∃ below,
    (below = 2 * 2 ^ (n.log2 - 52) ∨
      below = 2 ^ (n.log2 - 52) ∧ n = 2 ^ (52 + (n.log2 - 52)) ∧ n.log2 - 52 ≠ 0) ∧
    (n = 2 ^ (52 + (n.log2 - 52)) ∧ n.log2 - 52 ≠ 0 → below = 2 ^ (n.log2 - 52)) ∧
    (ofSteps n).low = 4 * n - below ∧ (ofSteps n).high = 4 * n + 2 * 2 ^ (n.log2 - 52) ∧
    (ofSteps n).closed = (n / 2 ^ (n.log2 - 52) % 2 == 0) := by
  by_cases h : n = 2 ^ (52 + (n.log2 - 52)) ∧ n.log2 - 52 ≠ 0
  · refine ⟨2 ^ (n.log2 - 52), .inr ⟨rfl, h⟩, fun _ ↦ rfl, ?_, rfl, rfl⟩
    exact congrArg (4 * n - ·) (if_pos h)
  · refine ⟨2 * 2 ^ (n.log2 - 52), .inl rfl, fun h' ↦ absurd h' h, ?_, rfl, rfl⟩
    exact congrArg (4 * n - ·) (if_neg h)

/-- The excess of a number over 53 significant bits. -/
theorem excess_eq_zero {q : Nat} (h : q < 2 ^ 53) : q.log2 - 52 = 0 := by
  by_cases hq : q = 0
  · rw [hq, Nat.log2_zero]
  · have := (Nat.log2_lt hq).2 h
    omega

theorem excess_eq {q e : Nat} (hlow : 2 ^ (52 + e) ≤ q) (hhigh : q < 2 ^ (53 + e)) :
    q.log2 - 52 = e := by
  have hq : q ≠ 0 := by
    have : 0 < 2 ^ (52 + e) := Nat.two_pow_pos _
    omega
  have hle := (Nat.le_log2 hq).2 hlow
  have hlt := (Nat.log2_lt hq).2 hhigh
  omega

/-- The bounds that a positive number has by its excess. -/
theorem lt_of_excess (n : Nat) : n < 2 ^ (53 + (n.log2 - 52)) := by
  refine Nat.lt_of_lt_of_le Nat.lt_log2_self (Nat.pow_le_pow_right (by decide) ?_)
  omega

theorem le_of_excess {n : Nat} (hpos : 0 < n) (h : n.log2 - 52 ≠ 0) :
    2 ^ (52 + (n.log2 - 52)) ≤ n := by
  refine Nat.le_trans (Nat.pow_le_pow_right (by decide) ?_) (Nat.log2_self_le hpos.ne')
  omega

/-- A ratio is rounded to the multiple of its unit that is at most half a unit away. -/
theorem roundSteps_of_excess {a d e m : Nat} (hd : 0 < d) (he : (a / d).log2 - 52 = e)
    (hlow : 2 * (m * (d * 2 ^ e)) ≤ 2 * a + d * 2 ^ e)
    (hhigh : 2 * a ≤ 2 * (m * (d * 2 ^ e)) + d * 2 ^ e)
    (htie : 2 * a = 2 * (m * (d * 2 ^ e)) + d * 2 ^ e ∨
      2 * a + d * 2 ^ e = 2 * (m * (d * 2 ^ e)) → m % 2 = 0) :
    roundSteps a d = m * 2 ^ e := by
  have hunit : 0 < d * 2 ^ e := Nat.mul_pos hd (Nat.two_pow_pos e)
  unfold roundSteps
  dsimp only
  rw [he]
  change nearestEven a (d * 2 ^ e) * 2 ^ e = _
  rw [nearestEven_eq hlow hhigh hunit htie]

/-- A ratio in the interval of a number is rounded to it. -/
theorem roundSteps_eq {n a d : Nat} (hn : IsSteps n) (hpos : 0 < n) (hd : 0 < d)
    (h : (ofSteps n).contains (4 * a) d = true) : roundSteps a d = n := by
  obtain ⟨below, hcases, hnarrow, hlow, hhigh, hclosed⟩ := ofSteps_cases n
  have hbelow : below ≤ 2 * 2 ^ (n.log2 - 52) := by omega
  clear hcases
  rw [contains_iff, hlow, hhigh, hclosed] at h
  obtain ⟨hle, hge, hends⟩ := h
  have hlt := lt_of_excess n
  have hmin := le_of_excess hpos
  obtain ⟨m, hm⟩ := hn.dvd
  generalize n.log2 - 52 = e at *
  have hg : 0 < 2 ^ e := Nat.two_pow_pos e
  obtain rfl : n = m * 2 ^ e := by rw [hm, Nat.mul_comm]
  rw [Nat.mul_div_cancel _ hg] at hends
  have hsub : (4 * (m * 2 ^ e) - below) * d = 4 * (m * (d * 2 ^ e)) - below * d := by
    rw [Nat.sub_mul]
    congr 1
    ring
  have hadd : (4 * (m * 2 ^ e) + 2 * 2 ^ e) * d = 4 * (m * (d * 2 ^ e)) + 2 * (d * 2 ^ e) := by
    ring
  have hbelowd : below * d ≤ 2 * (d * 2 ^ e) := by
    calc below * d ≤ 2 * 2 ^ e * d := Nat.mul_le_mul_right d hbelow
      _ = 2 * (d * 2 ^ e) := by ring
  have hunit : 0 < d * 2 ^ e := Nat.mul_pos hd hg
  rw [hsub] at hle hends
  rw [hadd] at hge hends
  -- Where the ratio has the unit of the number, the number is the nearest multiple.
  have hround (he : (a / d).log2 - 52 = e) : roundSteps a d = m * 2 ^ e := by
    refine roundSteps_of_excess hd he (by omega) (by omega) fun htie ↦ ?_
    have hend : m % 2 == 0 := hends (by omega)
    simpa using hend
  have hup : a < (m + 1) * 2 ^ e * d := by
    have : (m + 1) * 2 ^ e * d = m * (d * 2 ^ e) + d * 2 ^ e := by ring
    omega
  have hm53 : (m + 1) * 2 ^ e ≤ 2 ^ (53 + e) := by
    rw [Nat.pow_add] at hlt ⊢
    exact Nat.mul_le_mul_right _ (Nat.lt_of_mul_lt_mul_right hlt)
  have hup53 : a / d < 2 ^ (53 + e) :=
    (Nat.div_lt_iff_lt_mul hd).2 (Nat.lt_of_lt_of_le hup (Nat.mul_le_mul_right d hm53))
  by_cases he : e = 0
  · subst he
    exact hround (excess_eq_zero hup53)
  by_cases hdown : a < 2 ^ (52 + e) * d
  · -- Only just below a power of two the unit of the ratio is half as large.
    obtain ⟨f, rfl⟩ : ∃ f, e = f + 1 := ⟨e - 1, by omega⟩
    have hm52 : 2 ^ 52 ≤ m := by
      have := hmin he
      rw [Nat.pow_add] at this
      exact Nat.le_of_mul_le_mul_right this hg
    have hpow : 2 ^ (52 + (f + 1)) * d = 2 ^ 52 * (d * 2 ^ (f + 1)) := by ring
    rw [hpow] at hdown
    have hm52' : m ≤ 2 ^ 52 := by
      by_contra hlt'
      have : (2 ^ 52 + 1) * (d * 2 ^ (f + 1)) ≤ m * (d * 2 ^ (f + 1)) :=
        Nat.mul_le_mul_right _ (by omega)
      rw [Nat.add_mul] at this
      omega
    obtain rfl : m = 2 ^ 52 := Nat.le_antisymm hm52' hm52
    have hbelowd' : below * d = d * 2 ^ (f + 1) := by
      rw [hnarrow ⟨(Nat.pow_add 2 52 (f + 1)).symm, he⟩, Nat.mul_comm]
    have hhalf : d * 2 ^ (f + 1) = 2 * (d * 2 ^ f) := by ring
    rw [hbelowd', hhalf] at hle
    rw [hhalf] at hdown
    have hunit' : 0 < d * 2 ^ f := Nat.mul_pos hd (Nat.two_pow_pos f)
    have hexcess : (a / d).log2 - 52 = f := by
      refine excess_eq ((Nat.le_div_iff_mul_le hd).2 ?_) ((Nat.div_lt_iff_lt_mul hd).2 ?_)
      · have : 2 ^ (52 + f) * d = 2 ^ 52 * (d * 2 ^ f) := by ring
        omega
      · have : 2 ^ (53 + f) * d = 2 ^ 53 * (d * 2 ^ f) := by ring
        omega
    have hdouble : 2 ^ 52 * 2 ^ (f + 1) = 2 ^ 53 * 2 ^ f := by ring
    rw [hdouble]
    exact roundSteps_of_excess hd hexcess (by omega) (by omega) fun _ ↦ rfl
  · exact hround (excess_eq ((Nat.le_div_iff_mul_le hd).2 (by omega)) hup53)

end Number.RoundingInterval

end OutlineSearch
