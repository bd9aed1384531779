import OutlineSearch.Proofs.Number.Rounding
import Mathlib.Data.List.Basic
import Mathlib.Data.List.TakeWhile

/-!
# The shortest digits of a number

The decimal point that is chosen for a number lies in its rounding interval: a grid with seventeen
digits is always fine enough, since its spacing is less than the length of the interval. So reading
the digits gives the number again.
-/

namespace OutlineSearch.Number

open OutlineSearch.Binary64

/-- The powers of two that are too large to be computed, by their exponents. -/
theorem stepsPerOne_eq : ∃ k, k = 1074 ∧ stepsPerOne = 2 ^ k := by
  delta stepsPerOne
  generalize 1074 = k
  exact ⟨k, rfl, rfl⟩

theorem stepLimit_eq : ∃ k, k = 2098 ∧ stepLimit = 2 ^ k := by
  delta stepLimit
  generalize 2098 = k
  exact ⟨k, rfl, rfl⟩

theorem stepsPerOne_pos : 0 < stepsPerOne := by
  obtain ⟨k, -, hk⟩ := stepsPerOne_eq
  rw [hk]
  exact Nat.two_pow_pos k

theorem ten_pow_pos (n : Nat) : 0 < 10 ^ n := Nat.pow_pos (by decide)

namespace RoundingInterval

/-- Whether the decimal `k * 10 ^ e` lies in an interval. -/
def ContainsDecimal (r : RoundingInterval) (k : Nat) (e : Int) : Prop :=
  r.contains (4 * stepsPerOne * (k * 10 ^ e.toNat)) (10 ^ (-e).toNat) = true

/-- A decimal is the same with zeros behind its digits and a smaller exponent. -/
theorem containsDecimal_shift (r : RoundingInterval) (k j : Nat) (e : Int) :
    r.ContainsDecimal (k * 10 ^ j) e ↔ r.ContainsDecimal k (e + j) := by
  unfold ContainsDecimal
  have hexp : j + e.toNat + (-(e + j)).toNat = (e + j).toNat + (-e).toNat := by omega
  have hpow : 10 ^ j * 10 ^ e.toNat * 10 ^ (-(e + j)).toNat =
      10 ^ (e + j).toNat * 10 ^ (-e).toNat := by
    rw [← Nat.pow_add, ← Nat.pow_add, ← Nat.pow_add, hexp]
  rw [contains_congr r (ten_pow_pos _) (ten_pow_pos _)]
  calc 4 * stepsPerOne * (k * 10 ^ j * 10 ^ e.toNat) * 10 ^ (-(e + j)).toNat
      = 4 * stepsPerOne * k * (10 ^ j * 10 ^ e.toNat * 10 ^ (-(e + j)).toNat) := by ring
    _ = 4 * stepsPerOne * k * (10 ^ (e + j).toNat * 10 ^ (-e).toNat) := by rw [hpow]
    _ = 4 * stepsPerOne * (k * 10 ^ (e + j).toNat) * 10 ^ (-e).toNat := by ring

end RoundingInterval

/-! ### The grid -/

/-- The spacing of a grid as a ratio of quarter steps. -/
def spacingOver (s : Int) : Nat := 4 * stepsPerOne * 10 ^ s.toNat

def spacingUnder (s : Int) : Nat := 10 ^ (-s).toNat

theorem spacingOver_pos (s : Int) : 0 < spacingOver s :=
  Nat.mul_pos (Nat.mul_pos (by decide) stepsPerOne_pos) (ten_pow_pos _)

theorem spacingUnder_pos (s : Int) : 0 < spacingUnder s := ten_pow_pos _

theorem spacing_eq (s : Int) :
    (if 0 ≤ s then (4 * stepsPerOne * Nat.pow 10 s.toNat, 1)
      else (4 * stepsPerOne, Nat.pow 10 (-s).toNat)) = (spacingOver s, spacingUnder s) := by
  unfold spacingOver spacingUnder
  split
  · rw [show (-s).toNat = 0 by omega]
    rfl
  · rw [show s.toNat = 0 by omega, Nat.pow_zero, Nat.mul_one]
    rfl

/-- The grid point below a number. -/
def pointBelow (r : RoundingInterval) (s : Int) : Nat := r.value * spacingUnder s / spacingOver s

theorem gridPoint?_eq (r : RoundingInterval) (p : Int) (count : Nat) :
    gridPoint? r p count =
      let s := p - (count : Int)
      let k := pointBelow r s
      let below := r.contains (k * spacingOver s) (spacingUnder s)
      let above := r.contains ((k + 1) * spacingOver s) (spacingUnder s)
      if below && above then
        let twice := 2 * (r.value * spacingUnder s)
        let middle := (2 * k + 1) * spacingOver s
        if twice < middle ∨ (twice = middle ∧ k % 2 = 0) then some k else some (k + 1)
      else if below then some k
      else if above then some (k + 1)
      else none := by
  unfold gridPoint?
  simp only [spacing_eq]
  rfl

/-- A grid point that is chosen lies in the interval. -/
theorem containsDecimal_of_gridPoint? {r : RoundingInterval} {p : Int} {count k : Nat}
    (h : gridPoint? r p count = some k) : r.ContainsDecimal k (p - count) := by
  rw [gridPoint?_eq] at h
  have hmul (j : Nat) (s : Int) :
      j * spacingOver s = 4 * stepsPerOne * (j * 10 ^ s.toNat) := by
    unfold spacingOver
    ring
  unfold RoundingInterval.ContainsDecimal
  simp only [hmul] at h
  change r.contains _ (spacingUnder (p - count)) = true
  split at h
  · next hboth =>
    rw [Bool.and_eq_true] at hboth
    split at h
    · obtain rfl := Option.some.inj h
      exact hboth.1
    · obtain rfl := Option.some.inj h
      exact hboth.2
  · split at h
    · next hbelow =>
      obtain rfl := Option.some.inj h
      exact hbelow
    · split at h
      · next habove =>
        obtain rfl := Option.some.inj h
        exact habove
      · cases h

/-- A grid whose spacing is less than the length of the interval has a point in it. -/
theorem gridPoint?_ne_none {r : RoundingInterval} {p : Int} {count : Nat} (hlow : r.low ≤ r.value)
    (hhigh : r.value < r.high)
    (hfine : spacingOver (p - count) + r.low * spacingUnder (p - count) <
      r.high * spacingUnder (p - count)) : gridPoint? r p count ≠ none := by
  rw [gridPoint?_eq]
  have hunder := spacingUnder_pos (p - count)
  have hpoint := Nat.div_add_mod (r.value * spacingUnder (p - count)) (spacingOver (p - count))
  have hrest := Nat.mod_lt (r.value * spacingUnder (p - count)) (spacingOver_pos (p - count))
  rw [Nat.mul_comm (spacingOver _)] at hpoint
  change pointBelow r (p - count) * _ + _ = _ at hpoint
  have hlow' := Nat.mul_le_mul_right (spacingUnder (p - count)) hlow
  have hhigh' := (Nat.mul_lt_mul_right hunder).2 hhigh
  have hsome : r.contains (pointBelow r (p - count) * spacingOver (p - count))
        (spacingUnder (p - count)) = true ∨
      r.contains ((pointBelow r (p - count) + 1) * spacingOver (p - count))
        (spacingUnder (p - count)) = true := by
    simp only [RoundingInterval.contains_iff, Nat.add_mul, Nat.one_mul]
    by_cases hle : pointBelow r (p - count) * spacingOver (p - count) ≤
        r.low * spacingUnder (p - count)
    · exact .inr ⟨by omega, by omega, by omega⟩
    · exact .inl ⟨by omega, by omega, by omega⟩
  intro hnone
  dsimp only at hnone
  split at hnone
  · split at hnone <;> cases hnone
  · split at hnone
    · cases hnone
    · split at hnone
      · cases hnone
      · next hbelow habove => exact hsome.elim hbelow habove

/-- The first grid with a point in the interval is found if the last one that is tried has one. -/
theorem shortestFrom_spec (r : RoundingInterval) (p : Int) {fuel count : Nat} (hfuel : 0 < fuel)
    (hlast : gridPoint? r p (count + fuel - 1) ≠ none) :
    ∃ k c, shortestFrom r p count fuel = (k, c) ∧ r.ContainsDecimal k (p - (c : Int)) := by
  induction fuel generalizing count with
  | zero => omega
  | succ fuel ih =>
    unfold shortestFrom
    cases hpoint : gridPoint? r p count with
    | some k => exact ⟨k, count, rfl, containsDecimal_of_gridPoint? hpoint⟩
    | none =>
      have hfuel' : 0 < fuel := by
        rcases Nat.eq_zero_or_pos fuel with rfl | hfuel'
        · exact absurd hpoint hlast
        · exact hfuel'
      exact ih hfuel' (by rwa [show count + 1 + fuel - 1 = count + (fuel + 1) - 1 by omega])

/-! ### The magnitude -/

/-- Whether a number of quarter steps is below a power of ten, as an inequality of integers. -/
theorem belowPowerOfTen_iff (quarters : Nat) (p : Int) :
    belowPowerOfTen quarters p = true ↔
      quarters * 10 ^ (-p).toNat < 4 * stepsPerOne * 10 ^ p.toNat := by
  unfold belowPowerOfTen
  dsimp only
  split
  · rw [show (-p).toNat = 0 by omega, Nat.pow_zero, Nat.mul_one]
    exact decide_eq_true_iff
  · rw [show p.toNat = 0 by omega, Nat.pow_zero, Nat.mul_one]
    exact decide_eq_true_iff

/-- The search for a magnitude never stops above a power of ten that the number is below of. -/
theorem not_below_magnitudeFrom {quarters : Nat} {start : Int}
    (h : ¬belowPowerOfTen quarters (start - 1) = true) (fuel : Nat) :
    ¬belowPowerOfTen quarters (magnitudeFrom quarters start fuel - 1) = true := by
  induction fuel generalizing start with
  | zero => exact h
  | succ fuel ih =>
    unfold magnitudeFrom
    split
    · exact h
    · next hbelow =>
      refine ih ?_
      rwa [show start + 1 - 1 = start by omega]

/-- Ten is a little less than two to the power of `196 / 59`, and a little more than two to the power
of `93 / 28`. -/
theorem ten_pow_le_two_pow {a b : Nat} (h : 196 * a ≤ 59 * b) : 10 ^ a ≤ 2 ^ b := by
  refine (Nat.pow_le_pow_iff_left (show 196 ≠ 0 by decide)).1 ?_
  calc (10 ^ a) ^ 196 = 10 ^ (196 * a) := by rw [← Nat.pow_mul, Nat.mul_comm]
    _ ≤ 10 ^ (59 * b) := Nat.pow_le_pow_right (by decide) h
    _ = (10 ^ 59) ^ b := Nat.pow_mul ..
    _ ≤ (2 ^ 196) ^ b := Nat.pow_le_pow_left (by decide) b
    _ = (2 ^ b) ^ 196 := by rw [← Nat.pow_mul, ← Nat.pow_mul, Nat.mul_comm]

theorem two_pow_le_ten_pow {a b : Nat} (h : 28 * a ≤ 93 * b) : 2 ^ a ≤ 10 ^ b := by
  refine (Nat.pow_le_pow_iff_left (show 93 ≠ 0 by decide)).1 ?_
  calc (2 ^ a) ^ 93 = (2 ^ 93) ^ a := by rw [← Nat.pow_mul, ← Nat.pow_mul, Nat.mul_comm]
    _ ≤ (10 ^ 28) ^ a := Nat.pow_le_pow_left (by decide) a
    _ = 10 ^ (28 * a) := (Nat.pow_mul ..).symm
    _ ≤ 10 ^ (93 * b) := Nat.pow_le_pow_right (by decide) h
    _ = (10 ^ b) ^ 93 := by rw [← Nat.pow_mul, Nat.mul_comm]

theorem log2_quarters {n : Nat} (hpos : 0 < n) : Nat.log2 (4 * n) = n.log2 + 2 := by
  rw [show 4 * n = 2 * (2 * n) by omega, Nat.log2_two_mul (by omega), Nat.log2_two_mul (by omega)]

theorem log2_lt_of_isSteps {n : Nat} (hn : IsSteps n) (hpos : 0 < n) : n.log2 < 2098 := by
  obtain ⟨k, hk, hlimit⟩ := stepLimit_eq
  have hlt := hn.lt_limit
  rw [hlimit, ← Nat.log2_lt hpos.ne', hk] at hlt
  exact hlt

/-- A number is not below the power of ten under its magnitude. -/
theorem not_below_magnitude {n : Nat} (hn : IsSteps n) (hpos : 0 < n) :
    4 * stepsPerOne * 10 ^ (magnitude (4 * n) - 1).toNat ≤
      4 * n * 10 ^ (-(magnitude (4 * n) - 1)).toNat := by
  rw [← Nat.not_lt, ← belowPowerOfTen_iff]
  unfold magnitude
  rw [log2_quarters hpos]
  refine not_below_magnitudeFrom ?_ 8
  rw [belowPowerOfTen_iff, Nat.not_lt]
  have hlog := log2_lt_of_isSteps hn hpos
  have hn2 := Nat.log2_self_le hpos.ne'
  obtain ⟨k, hk, hsteps⟩ := stepsPerOne_eq
  rw [hsteps, Nat.mul_assoc, Nat.mul_assoc]
  refine Nat.mul_le_mul_left 4 ?_
  generalize n.log2 = l at *
  generalize hp : ((l + 2 : Nat) - 1076 : Int) * 30103 / 100000 - 1 - 1 = p
  refine Nat.le_trans ?_ (Nat.mul_le_mul_right _ hn2)
  by_cases hsign : 0 ≤ p
  · have hten : 10 ^ p.toNat ≤ 2 ^ (l - k) := ten_pow_le_two_pow (by omega)
    calc 2 ^ k * 10 ^ p.toNat ≤ 2 ^ k * 2 ^ (l - k) := Nat.mul_le_mul_left _ hten
      _ = 2 ^ l := by rw [← Nat.pow_add, show k + (l - k) = l by omega]
      _ ≤ 2 ^ l * 10 ^ (-p).toNat := Nat.le_mul_of_pos_right _ (ten_pow_pos _)
  · have htwo : 2 ^ (k - l) ≤ 10 ^ (-p).toNat := two_pow_le_ten_pow (by omega)
    rw [show p.toNat = 0 by omega, Nat.pow_zero, Nat.mul_one]
    calc 2 ^ k ≤ 2 ^ (l + (k - l)) := Nat.pow_le_pow_right (by decide) (by omega)
      _ = 2 ^ l * 2 ^ (k - l) := Nat.pow_add ..
      _ ≤ 2 ^ l * 10 ^ (-p).toNat := Nat.mul_le_mul_left _ htwo

/-! ### The chosen digits -/

theorem unit_le {n : Nat} (hn : IsSteps n) (hpos : 0 < n) : 2 ^ (n.log2 - 52) ≤ n :=
  Nat.le_of_dvd hpos hn.dvd

/-- The spacing of a grid with seventeen digits is less than the length of the interval. -/
theorem spacing_lt_length {n : Nat} (hn : IsSteps n) (hpos : 0 < n) {s : Int}
    (hs : s = magnitude (4 * n) - 17) :
    spacingOver s + (RoundingInterval.ofSteps n).low * spacingUnder s <
      (RoundingInterval.ofSteps n).high * spacingUnder s := by
  have hmagnitude := not_below_magnitude hn hpos
  rw [show magnitude (4 * n) - 1 = s + 16 by omega] at hmagnitude
  obtain ⟨below, hcases, -, hlow, hhigh, -⟩ := RoundingInterval.ofSteps_cases n
  have hunit := unit_le hn hpos
  have hlt := RoundingInterval.lt_of_excess n
  rw [hlow, hhigh]
  generalize n.log2 - 52 = e at *
  have hexp : s.toNat + 16 + (-(s + 16)).toNat = (s + 16).toNat + (-s).toNat := by omega
  -- Sixteen more digits reach the first digit of the number.
  have hspacing : spacingOver s * 10 ^ 16 ≤ 4 * n * spacingUnder s := by
    refine Nat.le_of_mul_le_mul_right ?_ (ten_pow_pos (-(s + 16)).toNat)
    calc spacingOver s * 10 ^ 16 * 10 ^ (-(s + 16)).toNat
        = 4 * stepsPerOne * (10 ^ s.toNat * 10 ^ 16 * 10 ^ (-(s + 16)).toNat) := by
          unfold spacingOver
          ring
      _ = 4 * stepsPerOne * (10 ^ (s + 16).toNat * 10 ^ (-s).toNat) := by
          rw [← Nat.pow_add, ← Nat.pow_add, hexp, Nat.pow_add]
      _ = 4 * stepsPerOne * 10 ^ (s + 16).toNat * 10 ^ (-s).toNat := by ring
      _ ≤ 4 * n * 10 ^ (-(s + 16)).toNat * 10 ^ (-s).toNat := Nat.mul_le_mul_right _ hmagnitude
      _ = 4 * n * spacingUnder s * 10 ^ (-(s + 16)).toNat := by
          unfold spacingUnder
          ring
  -- The length of the interval is more than four times the number over ten to the sixteenth.
  have hlength : 4 * n < (below + 2 * 2 ^ e) * 10 ^ 16 := by
    rw [Nat.pow_add] at hlt hcases
    rcases hcases with rfl | ⟨rfl, hn52, -⟩ <;> omega
  have hwide : spacingOver s < (below + 2 * 2 ^ e) * spacingUnder s := by
    refine Nat.lt_of_mul_lt_mul_right (a := 10 ^ 16) ?_
    calc spacingOver s * 10 ^ 16 ≤ 4 * n * spacingUnder s := hspacing
      _ < (below + 2 * 2 ^ e) * 10 ^ 16 * spacingUnder s :=
          (Nat.mul_lt_mul_right (spacingUnder_pos s)).2 hlength
      _ = (below + 2 * 2 ^ e) * spacingUnder s * 10 ^ 16 := by ring
  have hsub : 4 * n - below + (below + 2 * 2 ^ e) = 4 * n + 2 * 2 ^ e := by omega
  rw [← hsub, Nat.add_mul (4 * n - below)]
  omega

/-- The point that is chosen for a number lies in its interval. -/
theorem exists_shortest {n : Nat} (hn : IsSteps n) (hpos : 0 < n) :
    ∃ k c, shortestFrom (RoundingInterval.ofSteps n) (magnitude (4 * n)) 1 17 = (k, c) ∧
      (RoundingInterval.ofSteps n).ContainsDecimal k (magnitude (4 * n) - (c : Int)) := by
  refine shortestFrom_spec _ _ (by decide) (gridPoint?_ne_none ?_ ?_ ?_)
  · exact Nat.sub_le ..
  · have : 0 < 2 ^ (n.log2 - 52) := Nat.two_pow_pos _
    change 4 * n < 4 * n + 2 * 2 ^ (n.log2 - 52)
    omega
  · exact spacing_lt_length hn hpos rfl

/-- The interval of a positive number has a positive lower end. -/
theorem low_pos {n : Nat} (hn : IsSteps n) (hpos : 0 < n) : 0 < (RoundingInterval.ofSteps n).low := by
  obtain ⟨below, hcases, -, hlow, -, -⟩ := RoundingInterval.ofSteps_cases n
  have hunit := unit_le hn hpos
  omega

theorem pos_of_containsDecimal {n k : Nat} {e : Int} (hn : IsSteps n) (hpos : 0 < n)
    (h : (RoundingInterval.ofSteps n).ContainsDecimal k e) : 0 < k := by
  refine Nat.pos_of_ne_zero fun hzero ↦ ?_
  have hle := ((RoundingInterval.contains_iff ..).1 h).1
  rw [hzero, Nat.zero_mul, Nat.mul_zero, Nat.le_zero, Nat.mul_eq_zero] at hle
  rcases hle with hle | hle
  · exact (low_pos hn hpos).ne' hle
  · exact (ten_pow_pos _).ne' hle

/-! ### Digits -/

/-- The number that some digits spell. -/
def spelled (digits : List Char) : Nat := ofDigits (digits.map fun d => d.toNat - 48)

theorem spelled_eq (digits : List Char) : spelled digits = Nat.ofDigitChars 10 digits 0 := by
  unfold spelled ofDigits
  rw [List.foldl_map, Nat.ofDigitChars_eq_foldl]
  congr 1
  funext n d
  rw [Nat.mul_comm]
  rfl

theorem spelled_append (digits more : List Char) :
    spelled (digits ++ more) = spelled digits * 10 ^ more.length + spelled more := by
  rw [spelled_eq, spelled_eq, spelled_eq, Nat.ofDigitChars_append,
    Nat.ofDigitChars_eq_ofDigitChars_zero, Nat.mul_comm]

theorem spelled_zeros (j : Nat) : spelled (List.replicate j '0') = 0 := by
  rw [spelled_eq, Nat.ofDigitChars_replicate_zero, Nat.mul_zero]

theorem spelled_toDigits (n : Nat) : spelled (Nat.toDigits 10 n) = n := by
  rw [spelled_eq, Nat.ofDigitChars_ten_toDigits]

theorem digitChar_ne_zero : ∀ d < 10, 0 < d → Nat.digitChar d ≠ '0' := by decide

/-- The decimal digits of a positive number start with one that is not zero. -/
theorem head?_toDigits {n : Nat} (hpos : 0 < n) : (Nat.toDigits 10 n).head? ≠ some '0' := by
  induction n using Nat.strongRecOn with
  | _ n ih =>
    rw [Nat.toDigits_eq_if (by decide)]
    by_cases hsmall : n < 10
    · rw [if_pos hsmall]
      simpa using digitChar_ne_zero n hsmall hpos
    · rw [if_neg hsmall, List.head?_append_of_ne_nil _ Nat.toDigits_ne_nil]
      exact ih (n / 10) (by omega) (by omega)

/-- Digits without the zeros at their end. -/
def withoutZeros (digits : List Char) : List Char :=
  (digits.reverse.dropWhile (· == '0')).reverse

theorem exists_zeros (digits : List Char) :
    ∃ j, digits = withoutZeros digits ++ List.replicate j '0' := by
  let zeros := digits.reverse.takeWhile (· == '0')
  have hzeros : zeros = List.replicate zeros.length '0' := by
    refine List.eq_replicate_of_mem fun c hc ↦ ?_
    simpa using List.mem_takeWhile_imp hc
  refine ⟨zeros.length, ?_⟩
  rw [withoutZeros, ← List.reverse_replicate, ← hzeros, ← List.reverse_append,
    List.takeWhile_append_dropWhile, List.reverse_reverse]

/-- Digits that a decimal may be written with: at least one, the first of them not zero. -/
structure Significant (digits : List Char) : Prop where
  isDigit : ∀ c ∈ digits, c.isDigit = true
  ne_nil : digits ≠ []
  head : digits.head? ≠ some '0'

theorem significant_withoutZeros {n : Nat} (hpos : 0 < n) :
    Significant (withoutZeros (Nat.toDigits 10 n)) := by
  obtain ⟨j, hj⟩ := exists_zeros (Nat.toDigits 10 n)
  have hhead := head?_toDigits hpos
  have hdigit (c : Char) (hc : c ∈ Nat.toDigits 10 n) : c.isDigit = true :=
    Nat.isDigit_of_mem_toDigits (by decide) (by decide) hc
  rw [hj] at hhead hdigit
  have hnil : withoutZeros (Nat.toDigits 10 n) ≠ [] := by
    intro hnil
    rw [hnil, List.nil_append] at hj hhead
    cases j with
    | zero => exact Nat.toDigits_ne_nil hj
    | succ j => exact hhead rfl
  rw [List.head?_append_of_ne_nil _ hnil] at hhead
  exact ⟨fun c hc ↦ hdigit c (List.mem_append_left _ hc), hnil, hhead⟩

/-- The shortest digits of a number are a decimal in its interval. -/
theorem shortestDigits_spec {n : Nat} (hn : IsSteps n) (hpos : 0 < n) :
    Significant (shortestDigits n).1 ∧
      (RoundingInterval.ofSteps n).ContainsDecimal (spelled (shortestDigits n).1)
        ((shortestDigits n).2 - ((shortestDigits n).1.length : Int)) := by
  obtain ⟨k, c, hshortest, hcontains⟩ := exists_shortest hn hpos
  have hk : 0 < k := pos_of_containsDecimal hn hpos hcontains
  have hdigits : shortestDigits n = (withoutZeros (Nat.toDigits 10 k),
      magnitude (4 * n) + (((Nat.toDigits 10 k).length : Int) - (c : Int))) := by
    unfold shortestDigits
    dsimp only
    rw [show (RoundingInterval.ofSteps n).value = 4 * n from rfl, hshortest]
    rfl
  rw [hdigits]
  refine ⟨significant_withoutZeros hk, ?_⟩
  obtain ⟨j, hj⟩ := exists_zeros (Nat.toDigits 10 k)
  have hvalue : k = spelled (withoutZeros (Nat.toDigits 10 k)) * 10 ^ j := by
    have hspelled := spelled_toDigits k
    rw [hj, spelled_append, spelled_zeros, List.length_replicate, Nat.add_zero] at hspelled
    exact hspelled.symm
  have hlength := congrArg List.length hj
  rw [List.length_append, List.length_replicate] at hlength
  dsimp only
  rw [hvalue, RoundingInterval.containsDecimal_shift] at hcontains
  convert hcontains using 1
  omega

/-! ### Reading a decimal -/

theorem high_le {n : Nat} (hn : IsSteps n) (hpos : 0 < n) :
    (RoundingInterval.ofSteps n).high ≤ 8 * n := by
  obtain ⟨below, -, -, -, hhigh, -⟩ := RoundingInterval.ofSteps_cases n
  have hunit := unit_le hn hpos
  omega

/-- A decimal in the interval of a number is not so large that it is infinite. -/
theorem places_le {n k : Nat} {e : Int} (hn : IsSteps n) (hpos : 0 < n)
    (h : (RoundingInterval.ofSteps n).ContainsDecimal k e) :
    e + (Nat.toDigits 10 k).length ≤ 1000 := by
  by_contra hlarge
  obtain ⟨-, hhigh, -⟩ := (RoundingInterval.contains_iff ..).1 h
  obtain ⟨l, hl, hlimit⟩ := stepLimit_eq
  obtain ⟨o, ho, hone⟩ := stepsPerOne_eq
  obtain ⟨t, ht⟩ : ∃ t : Nat, t = 1000 := ⟨_, rfl⟩
  have hk : 10 ^ ((Nat.toDigits 10 k).length - 1) ≤ k := by
    by_cases hlength : (Nat.toDigits 10 k).length - 1 = 0
    · rw [hlength]
      exact pos_of_containsDecimal hn hpos h
    · rw [← Nat.not_lt, ← Nat.length_toDigits_le_iff (by decide) (by omega)]
      omega
  have hpower : 10 ^ t * 10 ^ (-e).toNat ≤ k * 10 ^ e.toNat := by
    calc 10 ^ t * 10 ^ (-e).toNat = 10 ^ (t + (-e).toNat) := (Nat.pow_add ..).symm
      _ ≤ 10 ^ ((Nat.toDigits 10 k).length - 1 + e.toNat) :=
          Nat.pow_le_pow_right (by decide) (by omega)
      _ = 10 ^ ((Nat.toDigits 10 k).length - 1) * 10 ^ e.toNat := Nat.pow_add ..
      _ ≤ k * 10 ^ e.toNat := Nat.mul_le_mul_right _ hk
  have hn8 : (RoundingInterval.ofSteps n).high < 8 * 2 ^ l := by
    have hle := high_le hn hpos
    have hlt := hn.lt_limit
    rw [hlimit] at hlt
    omega
  have htwo : 8 * 2 ^ l ≤ 4 * stepsPerOne * 10 ^ t := by
    calc 8 * 2 ^ l = 4 * 2 ^ o * 2 ^ (l - o + 1) := by
          rw [Nat.mul_assoc, ← Nat.pow_add, show o + (l - o + 1) = l + 1 by omega, Nat.pow_succ]
          ring
      _ ≤ 4 * 2 ^ o * 10 ^ t := Nat.mul_le_mul_left _ (two_pow_le_ten_pow (by omega))
      _ = 4 * stepsPerOne * 10 ^ t := by rw [hone]
  have hcontra : 4 * stepsPerOne * 10 ^ t * 10 ^ (-e).toNat <
      4 * stepsPerOne * 10 ^ t * 10 ^ (-e).toNat := by
    calc 4 * stepsPerOne * 10 ^ t * 10 ^ (-e).toNat
        = 4 * stepsPerOne * (10 ^ t * 10 ^ (-e).toNat) := Nat.mul_assoc ..
      _ ≤ 4 * stepsPerOne * (k * 10 ^ e.toNat) := Nat.mul_le_mul_left _ hpower
      _ ≤ (RoundingInterval.ofSteps n).high * 10 ^ (-e).toNat := hhigh
      _ < 8 * 2 ^ l * 10 ^ (-e).toNat := (Nat.mul_lt_mul_right (ten_pow_pos _)).2 hn8
      _ ≤ 4 * stepsPerOne * 10 ^ t * 10 ^ (-e).toNat := Nat.mul_le_mul_right _ htwo
  exact Nat.lt_irrefl _ hcontra

/-- A decimal in the interval of a positive number is not so small that it is zero. -/
theorem le_places {n k : Nat} {e : Int} (hn : IsSteps n) (hpos : 0 < n)
    (h : (RoundingInterval.ofSteps n).ContainsDecimal k e) :
    -1000 ≤ e + (Nat.toDigits 10 k).length := by
  by_contra hsmall
  obtain ⟨hlow, -, -⟩ := (RoundingInterval.contains_iff ..).1 h
  obtain ⟨o, ho, hone⟩ := stepsPerOne_eq
  have hk : k < 10 ^ (Nat.toDigits 10 k).length :=
    (Nat.length_toDigits_le_iff (by decide) Nat.length_toDigits_pos).1 (Nat.le_refl _)
  have htwo : 4 * stepsPerOne ≤ 10 ^ 1000 := by
    rw [hone, show 4 * 2 ^ o = 2 ^ (o + 2) by ring]
    exact two_pow_le_ten_pow (by omega)
  have hcontra : 10 ^ (-e).toNat < 10 ^ (-e).toNat := by
    calc 10 ^ (-e).toNat ≤ (RoundingInterval.ofSteps n).low * 10 ^ (-e).toNat :=
          Nat.le_mul_of_pos_left _ (low_pos hn hpos)
      _ ≤ 4 * stepsPerOne * (k * 10 ^ e.toNat) := hlow
      _ < 4 * stepsPerOne * (10 ^ (Nat.toDigits 10 k).length * 10 ^ e.toNat) :=
          (Nat.mul_lt_mul_left (Nat.mul_pos (by decide) stepsPerOne_pos)).2
            ((Nat.mul_lt_mul_right (ten_pow_pos _)).2 hk)
      _ ≤ 10 ^ 1000 * (10 ^ (Nat.toDigits 10 k).length * 10 ^ e.toNat) :=
          Nat.mul_le_mul_right _ htwo
      _ = 10 ^ (1000 + ((Nat.toDigits 10 k).length + e.toNat)) := by
          rw [Nat.pow_add, Nat.pow_add]
      _ ≤ 10 ^ (-e).toNat := Nat.pow_le_pow_right (by decide) (by omega)
  exact Nat.lt_irrefl _ hcontra

/-- A number of the given sign. -/
def signed (negative : Bool) (n : Nat) : Binary64 :=
  if negative then .finite (-(n : Int)) else .finite n

/-- A decimal in the interval of a number is read as that number. -/
theorem ofDecimal_eq {n k : Nat} {e : Int} (hn : IsSteps n) (hpos : 0 < n)
    (h : (RoundingInterval.ofSteps n).ContainsDecimal k e) (negative : Bool) :
    ofDecimal negative k e = signed negative n := by
  have hk := pos_of_containsDecimal hn hpos h
  have hlarge := places_le hn hpos h
  have hsmall := le_places hn hpos h
  have hround : roundSteps (k * 10 ^ e.toNat * stepsPerOne) (10 ^ (-e).toNat) = n := by
    refine RoundingInterval.roundSteps_eq hn hpos (ten_pow_pos _) ?_
    rw [show 4 * (k * 10 ^ e.toNat * stepsPerOne) = 4 * stepsPerOne * (k * 10 ^ e.toNat) by ring]
    exact h
  have hmagnitude :
      ofMagnitude negative (k * 10 ^ e.toNat) (10 ^ (-e).toNat) = signed negative n := by
    rw [ofMagnitude, hround, Binary64.ofSteps, if_neg (Nat.not_le.2 hn.lt_limit),
      if_neg hpos.ne']
    rfl
  unfold ofDecimal
  dsimp only
  rw [if_neg hk.ne', if_neg (by omega), if_neg (by omega)]
  split
  · rw [← hmagnitude, show (-e).toNat = 0 by omega]
    rfl
  · rw [← hmagnitude, show e.toNat = 0 by omega, Nat.pow_zero, Nat.mul_one]
    rfl

end OutlineSearch.Number
