import OutlineSearch.Proofs.Number.Shortest

/-!
# Adding to a time

A sum is rounded, but never past a number of 64 bits: what is added to a time and is not negative
leads to a time that is not earlier.
-/

namespace OutlineSearch.Binary64

open OutlineSearch.Number

/-! ### Rounding keeps the order -/

theorem div_le_nearestEven (n d : Nat) : n / d ≤ nearestEven n d := by
  unfold nearestEven
  dsimp only
  split
  · exact Nat.le_refl _
  · split
    · exact Nat.le_succ _
    · split
      · exact Nat.le_refl _
      · exact Nat.le_succ _

theorem nearestEven_le {n d k : Nat} (hd : 0 < d) (h : n ≤ k * d) : nearestEven n d ≤ k := by
  have hle : n / d ≤ k := Nat.div_le_of_le_mul (by rwa [Nat.mul_comm])
  rcases Nat.lt_or_eq_of_le hle with hlt | heq
  · unfold nearestEven
    dsimp only
    split
    · exact hle
    · split
      · exact hlt
      · split
        · exact hle
        · exact hlt
  · -- then the ratio is whole
    have hsplit := Nat.div_add_mod n d
    have hrest : n % d = 0 := by
      rw [heq, Nat.mul_comm] at hsplit
      omega
    unfold nearestEven
    dsimp only
    rw [if_pos (by omega)]
    exact hle

theorem roundSteps_mul (n : Nat) {d : Nat} (hd : 0 < d) :
    roundSteps (n * d) d =
      nearestEven (n * d) (d * 2 ^ (n.log2 - 52)) * 2 ^ (n.log2 - 52) := by
  unfold roundSteps
  rw [Nat.mul_div_cancel _ hd]
  rfl

theorem excess_mono {m n : Nat} (h : m ≤ n) : m.log2 - 52 ≤ n.log2 - 52 := by
  rcases Nat.eq_zero_or_pos m with rfl | hpos
  · exact Nat.zero_le _
  · have hlog : m.log2 ≤ n.log2 := by
      rw [Nat.le_log2 (by omega)]
      exact Nat.le_trans (Nat.log2_self_le hpos.ne') h
    omega

/-- A multiple of a unit by a number of at most 53 bits has at most 53 significant bits. -/
theorem dvd_mul_two_pow {m : Nat} (h : m < 2 ^ 53) (e : Nat) :
    2 ^ ((m * 2 ^ e).log2 - 52) ∣ m * 2 ^ e := by
  rcases Nat.eq_zero_or_pos m with rfl | hpos
  · rw [Nat.zero_mul]
    exact Nat.dvd_zero _
  · have hlog : (m * 2 ^ e).log2 < 53 + e := by
      rw [Nat.log2_lt (Nat.mul_pos hpos (Nat.two_pow_pos e)).ne', Nat.pow_add]
      exact Nat.mul_lt_mul_of_pos_right h (Nat.two_pow_pos e)
    exact Nat.dvd_trans (Nat.pow_dvd_pow 2 (by omega)) (Nat.dvd_mul_left _ m)

/-- What is at least a number of at most 53 significant bits is not rounded below it. -/
theorem le_roundSteps_of_dvd {m n d : Nat} (hd : 0 < d) (hdvd : 2 ^ (m.log2 - 52) ∣ m)
    (h : m ≤ n) : m ≤ roundSteps (n * d) d := by
  have hlt := Number.RoundingInterval.lt_of_excess m
  have hmin : n.log2 - 52 ≠ 0 → 2 ^ (52 + (n.log2 - 52)) ≤ n := fun hne ↦ by
    refine Number.RoundingInterval.le_of_excess (Nat.pos_of_ne_zero fun hzero ↦ hne ?_) hne
    rw [hzero, Nat.log2_zero]
  have hmono := excess_mono h
  rw [roundSteps_mul n hd]
  generalize m.log2 - 52 = e' at hdvd hlt hmono
  generalize n.log2 - 52 = e at hmin hmono
  have hg : 0 < 2 ^ e := Nat.two_pow_pos e
  have hfloor : n / 2 ^ e ≤ nearestEven (n * d) (d * 2 ^ e) := by
    have hle := div_le_nearestEven (n * d) (d * 2 ^ e)
    rwa [Nat.mul_comm n d, Nat.mul_div_mul_left _ _ hd, Nat.mul_comm d n] at hle
  refine Nat.le_trans ?_ (Nat.mul_le_mul_right _ hfloor)
  rcases Nat.lt_or_eq_of_le hmono with hless | rfl
  · -- the unit of the number is smaller: it lies below the numbers that have the unit of the ratio
    have hunit : 2 ^ 52 ≤ n / 2 ^ e := by
      rw [Nat.le_div_iff_mul_le hg, ← Nat.pow_add]
      exact hmin (by omega)
    have hpow : 2 ^ (53 + e') ≤ 2 ^ 52 * 2 ^ e := by
      rw [← Nat.pow_add]
      exact Nat.pow_le_pow_right (by decide) (by omega)
    exact Nat.le_trans (Nat.le_of_lt (Nat.lt_of_lt_of_le hlt hpow)) (Nat.mul_le_mul_right _ hunit)
  · obtain ⟨k, rfl⟩ := hdvd
    have hk : k ≤ n / 2 ^ e' := (Nat.le_div_iff_mul_le hg).2 (by rwa [Nat.mul_comm])
    rw [Nat.mul_comm]
    exact Nat.mul_le_mul_right _ hk

/-- What is at least a number of 64 bits is not rounded below it. -/
theorem le_roundSteps {m n d : Nat} (hd : 0 < d) (hm : IsSteps m) (h : m ≤ n) :
    m ≤ roundSteps (n * d) d :=
  le_roundSteps_of_dvd hd hm.dvd h

/-- What is at most a number of at most 53 significant bits is not rounded above it. -/
theorem roundSteps_le_of_dvd {m n d : Nat} (hd : 0 < d) (hm : 2 ^ (m.log2 - 52) ∣ m) (h : n ≤ m) :
    roundSteps (n * d) d ≤ m := by
  have hdvd : 2 ^ (n.log2 - 52) ∣ m := Nat.dvd_trans (Nat.pow_dvd_pow 2 (excess_mono h)) hm
  rw [roundSteps_mul n hd]
  generalize n.log2 - 52 = e at hdvd
  obtain ⟨k, rfl⟩ := hdvd
  have hg : 0 < 2 ^ e := Nat.two_pow_pos e
  rw [Nat.mul_comm (2 ^ e) k]
  refine Nat.mul_le_mul_right _ (nearestEven_le (Nat.mul_pos hd hg) ?_)
  calc n * d ≤ 2 ^ e * k * d := Nat.mul_le_mul_right d h
    _ = k * (d * 2 ^ e) := by ring

/-- What is at most a number of 64 bits is not rounded above it. -/
theorem roundSteps_le {m n d : Nat} (hd : 0 < d) (hm : IsSteps m) (h : n ≤ m) :
    roundSteps (n * d) d ≤ m :=
  roundSteps_le_of_dvd hd hm.dvd h

/-- What is rounded to is a number of 64 bits, if it is not too large. -/
theorem isSteps_roundSteps (n : Nat) {d : Nat} (hd : 0 < d)
    (hlimit : roundSteps (n * d) d < stepLimit) : IsSteps (roundSteps (n * d) d) := by
  refine ⟨hlimit, ?_⟩
  clear hlimit
  have hlt := Number.RoundingInterval.lt_of_excess n
  rw [roundSteps_mul n hd]
  generalize n.log2 - 52 = e at hlt
  have hg : 0 < 2 ^ e := Nat.two_pow_pos e
  have hq : nearestEven (n * d) (d * 2 ^ e) ≤ 2 ^ 53 := by
    refine nearestEven_le (Nat.mul_pos hd hg) ?_
    calc n * d ≤ 2 ^ (53 + e) * d := Nat.mul_le_mul_right d (Nat.le_of_lt hlt)
      _ = 2 ^ 53 * (d * 2 ^ e) := by ring
  generalize nearestEven (n * d) (d * 2 ^ e) = q at hq
  rcases Nat.lt_or_eq_of_le hq with hq | rfl
  · exact dvd_mul_two_pow hq e
  · rw [← Nat.pow_add, Nat.log2_two_pow]
    exact Nat.pow_dvd_pow 2 (by omega)

/-! ### Times -/

/-- What a clock may tell: a number of 64 bits, or what all of them are before. -/
inductive IsTime : Binary64 → Prop where
  | counted {x : Binary64} {a : Int} (hx : x.steps? = some a) (ha : IsSteps a.natAbs) : IsTime x
  | endless : IsTime (.infinite false)

/-- Numbers are in the order of their steps. -/
theorem atMost_of_steps? {x y : Binary64} {a b : Int} (hx : x.steps? = some a)
    (hy : y.steps? = some b) (h : a ≤ b) : x.atMost y = true := by
  have hcases : a < b ∨ a = b := by omega
  cases x <;> cases y <;> simp_all [atMost, less, equals, steps?]

theorem steps?_ofSteps_true {n : Nat} (h : n < stepLimit) :
    (ofSteps true n).steps? = some (-(n : Int)) := by
  unfold ofSteps
  generalize stepLimit = k at h
  rw [if_neg (Nat.not_le_of_lt h), if_pos rfl]
  split
  · next hzero => exact congrArg (fun n : Nat ↦ some (-(n : Int))) hzero.symm
  · rfl

theorem ofSteps_false (n : Nat) :
    ofSteps false n = .infinite false ∨
      n < stepLimit ∧ (ofSteps false n).steps? = some (n : Int) := by
  unfold ofSteps
  generalize stepLimit = k
  split
  · exact .inl rfl
  · next h => exact .inr ⟨Nat.lt_of_not_le h, rfl⟩

/-- A sum of steps, one of them not negative, is rounded to a time that is not before the other
one. -/
theorem ofSteps_add {a b : Int} {d : Nat} (hd : 0 < d) (ha : IsSteps a.natAbs) (hb : 0 ≤ b) :
    ofSteps (decide (a + b < 0)) (roundSteps ((a + b).natAbs * d) d) = .infinite false ∨
      ∃ c, (ofSteps (decide (a + b < 0)) (roundSteps ((a + b).natAbs * d) d)).steps? = some c ∧
        IsSteps c.natAbs ∧ a ≤ c := by
  by_cases hneg : a + b < 0
  · have hle := roundSteps_le hd ha (show (a + b).natAbs ≤ a.natAbs by omega)
    have hlimit := Nat.lt_of_le_of_lt hle ha.lt_limit
    have hsteps := isSteps_roundSteps (a + b).natAbs hd hlimit
    rw [decide_eq_true hneg]
    generalize roundSteps ((a + b).natAbs * d) d = r at hle hlimit hsteps
    exact .inr ⟨-(r : Int), steps?_ofSteps_true hlimit, by rwa [Int.natAbs_neg], by omega⟩
  · have hle (h : 0 ≤ a) := le_roundSteps hd ha (show a.natAbs ≤ (a + b).natAbs by omega)
    have hsteps := isSteps_roundSteps (a + b).natAbs hd
    rw [decide_eq_false hneg]
    generalize roundSteps ((a + b).natAbs * d) d = r at hle hsteps
    exact (ofSteps_false r).imp_right fun ⟨hlimit, hr⟩ ↦ ⟨r, hr, hsteps hlimit, by omega⟩

theorem ofRatio_add {a b : Int} (ha : IsSteps a.natAbs) (hb : 0 ≤ b) :
    ofRatio (a + b) stepsPerOne = .infinite false ∨
      ∃ c, (ofRatio (a + b) stepsPerOne).steps? = some c ∧ IsSteps c.natAbs ∧ a ≤ c := by
  rw [ofRatio, ofMagnitude]
  exact ofSteps_add stepsPerOne_pos ha hb

/-- A number that is not negative is rounded to a time. -/
theorem isTime_of_rounded {n r : Nat} {x : Binary64} (hr : roundSteps n 1 = r)
    (hx : ofSteps false r = x) : x.IsTime := by
  have hsteps := isSteps_roundSteps n Nat.one_pos
  rw [Nat.mul_one, hr] at hsteps
  have hrounded := ofSteps_false r
  rw [hx] at hrounded
  rcases hrounded with rfl | ⟨hlimit, hr⟩
  · exact .endless
  · exact .counted hr (hsteps hlimit)

theorem isTime_ofInt {n : Int} (h : 0 ≤ n) : (ofInt n).IsTime := by
  have hsign : decide (n < 0) = false := decide_eq_false (by omega)
  have hx : ofSteps false (roundSteps (n.natAbs * stepsPerOne) 1) = ofInt n := by
    rw [ofInt, ofRatio, ofMagnitude, hsign]
  -- the number is not computed
  generalize hr : roundSteps _ 1 = r at hx
  generalize ofInt n = x at hx
  exact isTime_of_rounded hr hx

/-- More steps are not less. -/
theorem atMost_ofSteps {a b : Nat} (h : a ≤ b) :
    (ofSteps false a).atMost (ofSteps false b) = true := by
  have hb := ofSteps_false b
  unfold ofSteps at hb ⊢
  generalize stepLimit = limit at hb ⊢
  by_cases ha : limit ≤ a
  · rw [if_pos ha, if_pos (Nat.le_trans ha h)]
    rfl
  · rw [if_neg ha]
    rcases hb with hinfinite | ⟨-, hsteps⟩
    · rw [hinfinite]
      rfl
    · exact atMost_of_steps? rfl hsteps (Int.ofNat_le.2 h)

/-- An integer of at most 53 bits is not more than the integers from it on, however these are
rounded. -/
theorem atMost_ofInt {m n : Nat} (hm : m < 2 ^ 53) (h : m ≤ n) :
    (ofInt m).atMost (ofInt n) = true := by
  obtain ⟨k, -, hone⟩ := stepsPerOne_eq
  have hdvd : 2 ^ ((m * stepsPerOne).log2 - 52) ∣ m * stepsPerOne := by
    rw [hone]
    exact dvd_mul_two_pow hm k
  have hself := roundSteps_le_of_dvd Nat.one_pos hdvd (Nat.le_refl _)
  have hle := le_roundSteps_of_dvd Nat.one_pos hdvd (Nat.mul_le_mul_right stepsPerOne h)
  rw [Nat.mul_one] at hself hle
  rw [ofInt, ofInt, ofRatio, ofRatio, ofMagnitude, ofMagnitude]
  exact atMost_ofSteps (Nat.le_trans hself hle)

theorem isSteps_zero : IsSteps 0 := by
  refine ⟨?_, Nat.dvd_zero _⟩
  obtain ⟨k, -, hk⟩ := stepLimit_eq
  rw [hk]
  exact Nat.two_pow_pos k

theorem nonneg_of_atMost {s : Int} (h : (finite 0).atMost (finite s) = true) : 0 ≤ s := by
  simp only [atMost, less_finite, equals_finite, Bool.or_eq_true, decide_eq_true_eq,
    beq_iff_eq] at h
  omega

/-- What is added to a time and is not negative leads to a time that is not before it. -/
theorem IsTime.add {x y : Binary64} (hx : x.IsTime) (hy : (finite 0).atMost y = true) :
    (x.add y).IsTime ∧ x.atMost (x.add y) = true := by
  cases hx with
  | endless =>
    cases y with
    | nan => cases hy
    | infinite negative =>
      cases negative with
      | true => cases hy
      | false => exact ⟨.endless, rfl⟩
    | negativeZero | finite => exact ⟨.endless, rfl⟩
  | @counted x a hx ha =>
    -- the sums that are rounded
    have hrounded {b : Int} (hb : 0 ≤ b) (hsum : x.add y = ofRatio (a + b) stepsPerOne) :
        (x.add y).IsTime ∧ x.atMost (x.add y) = true := by
      have hrounded := ofRatio_add ha hb
      rw [hsum]
      generalize ofRatio (a + b) stepsPerOne = z at hrounded
      rcases hrounded with rfl | ⟨c, hc, hc', hle⟩
      · cases x with
        | nan | infinite => cases hx
        | negativeZero | finite => exact ⟨.endless, rfl⟩
      · exact ⟨.counted hc hc', atMost_of_steps? hx hc hle⟩
    cases y with
    | nan => cases hy
    | infinite negative =>
      cases negative with
      | true => cases hy
      | false =>
        cases x with
        | nan | infinite => cases hx
        | negativeZero | finite => exact ⟨.endless, rfl⟩
    | negativeZero =>
      cases x with
      | nan | infinite => cases hx
      | negativeZero => exact ⟨.counted rfl isSteps_zero, rfl⟩
      | finite s =>
        obtain rfl := Option.some.inj hx
        exact hrounded (Int.le_refl 0) rfl
    | finite s =>
      have hs := nonneg_of_atMost hy
      cases x with
      | nan | infinite => cases hx
      | negativeZero | finite =>
        obtain rfl := Option.some.inj hx
        exact hrounded hs rfl

end OutlineSearch.Binary64
