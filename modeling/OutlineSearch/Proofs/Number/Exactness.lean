import OutlineSearch.Proofs.Number.Comparing
import OutlineSearch.Proofs.Number.Integers
import OutlineSearch.Proofs.Number.Range

/-!
# Integers as numbers of 64 bits

Up to `2 ^ 53` either way every integer is a number of 64 bits, and ratios and products that are
such integers are exact. So one of them below that bound is told apart from every other integer,
however large, once both are rounded. The decimal form of an integer is read as the number that the
integer is rounded to.
-/

namespace OutlineSearch.Binary64

open OutlineSearch.Number

/-! ### Rounding integers -/

theorem dvd_mul_stepsPerOne {m : Nat} (h : m ≤ 2 ^ 53) :
    2 ^ ((m * stepsPerOne).log2 - 52) ∣ m * stepsPerOne := by
  obtain ⟨k, -, hone⟩ := stepsPerOne_eq
  rw [hone]
  rcases Nat.lt_or_eq_of_le h with hlt | rfl
  · exact dvd_mul_two_pow hlt k
  · rw [← Nat.pow_add]
    exact dvd_two_pow (53 + k)

/-- An integer up to `2 ^ 53` is not rounded, as a ratio of any denominator. -/
theorem roundSteps_mul_stepsPerOne_mul {m d : Nat} (h : m ≤ 2 ^ 53) (hd : 0 < d) :
    roundSteps (m * stepsPerOne * d) d = m * stepsPerOne :=
  Nat.le_antisymm (roundSteps_le_of_dvd hd (dvd_mul_stepsPerOne h) (Nat.le_refl _))
    (le_roundSteps_of_dvd hd (dvd_mul_stepsPerOne h) (Nat.le_refl _))

theorem roundSteps_mul_stepsPerOne {m : Nat} (h : m ≤ 2 ^ 53) :
    roundSteps (m * stepsPerOne) 1 = m * stepsPerOne := by
  have hround := roundSteps_mul_stepsPerOne_mul h Nat.one_pos
  rwa [Nat.mul_one] at hround

/-- Two integers up to `2 ^ 53`, or one below it and any other one. -/
def Apart (m n : Nat) : Prop := m ≤ 2 ^ 53 ∧ (n ≤ 2 ^ 53 ∨ m < 2 ^ 53)

/-- Rounding does not make such integers the same. -/
theorem Apart.eq_of_roundSteps_eq {m n : Nat} (h : Apart m n)
    (heq : roundSteps (n * stepsPerOne) 1 = m * stepsPerOne) : n = m := by
  obtain ⟨-, hn | hm⟩ := h
  · rw [roundSteps_mul_stepsPerOne hn] at heq
    exact Nat.eq_of_mul_eq_mul_right stepsPerOne_pos heq
  · by_cases hn : n ≤ 2 ^ 53
    · rw [roundSteps_mul_stepsPerOne hn] at heq
      exact Nat.eq_of_mul_eq_mul_right stepsPerOne_pos heq
    · -- the next integer is not rounded either, and it is not more than the other one
      have hle := le_roundSteps_of_dvd Nat.one_pos (dvd_mul_stepsPerOne hm)
        (Nat.mul_le_mul_right stepsPerOne (show m + 1 ≤ n by omega))
      rw [Nat.mul_one, heq] at hle
      have hsucc := Nat.le_of_mul_le_mul_right hle stepsPerOne_pos
      omega

theorem steps?_ofSteps {negative : Bool} {n : Nat} {s : Int}
    (h : (ofSteps negative n).steps? = some s) : s = if negative then -(n : Int) else n := by
  by_cases hlimit : stepLimit ≤ n
  · rw [ofSteps, if_pos hlimit] at h
    cases h
  · cases negative with
    | true =>
      rw [steps?_ofSteps_true (Nat.lt_of_not_le hlimit)] at h
      exact (Option.some.inj h).symm
    | false =>
      rw [ofSteps, if_neg hlimit] at h
      exact (Option.some.inj h).symm

theorem mul_stepsPerOne_lt {m : Nat} (h : m ≤ 2 ^ 53) : m * stepsPerOne < stepLimit := by
  obtain ⟨k, hk, hone⟩ := stepsPerOne_eq
  obtain ⟨l, hl, hlimit⟩ := stepLimit_eq
  rw [hone, hlimit]
  calc m * 2 ^ k ≤ 2 ^ 53 * 2 ^ k := Nat.mul_le_mul_right _ h
    _ = 2 ^ (53 + k) := (Nat.pow_add ..).symm
    _ < 2 ^ l := Nat.pow_lt_pow_right (by decide) (by omega)

/-- A magnitude with the sign of an integer is the integer. -/
theorem ofSteps_natAbs {n : Int} {negative : Bool} (h : n.natAbs ≤ 2 ^ 53)
    (hsign : negative = true ↔ n < 0) :
    ofSteps negative (n.natAbs * stepsPerOne) = .finite (n * stepsPerOne) := by
  have hlimit := Nat.not_le.2 (mul_stepsPerOne_lt h)
  have hpos := stepsPerOne_pos
  rw [ofSteps, if_neg hlimit]
  cases negative with
  | true =>
    have hn := hsign.1 rfl
    have hne : n.natAbs * stepsPerOne ≠ 0 := Nat.mul_ne_zero (by omega) hpos.ne'
    rw [if_pos rfl, if_neg hne, Nat.cast_mul, show (n.natAbs : Int) = -n by omega, Int.neg_mul,
      Int.neg_neg]
  | false =>
    have hn : ¬n < 0 := fun h ↦ Bool.false_ne_true (hsign.2 h)
    rw [if_neg Bool.false_ne_true, Nat.cast_mul, show (n.natAbs : Int) = n by omega]

theorem mul_neg_iff_of_pos {a unit : Int} (h : 0 < unit) : a * unit < 0 ↔ a < 0 :=
  ⟨fun hmul ↦ Int.neg_of_mul_neg_left hmul h, fun ha ↦ Int.mul_neg_of_neg_of_pos ha h⟩

/-- A ratio that is an integer up to `2 ^ 53` is that integer. -/
theorem ofRatio_mul {n : Int} {d : Nat} (h : n.natAbs ≤ 2 ^ 53) (hd : 0 < d) :
    ofRatio (n * d) d = .finite (n * stepsPerOne) := by
  have habs : (n * d).natAbs * stepsPerOne = n.natAbs * stepsPerOne * d := by
    rw [Int.natAbs_mul, Int.natAbs_natCast, Nat.mul_right_comm]
  have hsign : decide (n * d < 0) = true ↔ n < 0 := by
    rw [decide_eq_true_iff, mul_neg_iff_of_pos (Int.natCast_pos.2 hd)]
  rw [ofRatio, ofMagnitude, habs, roundSteps_mul_stepsPerOne_mul h hd, ofSteps_natAbs h hsign]

/-- An integer up to `2 ^ 53` either way is the number that it is made. -/
theorem ofInt_of_le {n : Int} (h : n.natAbs ≤ 2 ^ 53) : ofInt n = .finite (n * stepsPerOne) := by
  have hratio := ofRatio_mul h Nat.one_pos
  rwa [Nat.cast_one, Int.mul_one] at hratio

theorem steps?_ofInt {n : Int} (h : n.natAbs ≤ 2 ^ 53) :
    (ofInt n).steps? = some (n * stepsPerOne) := by
  rw [ofInt_of_le h, steps?_finite]

/-- The product of integers, the second one positive, is exact up to `2 ^ 53`. -/
theorem mul_of_pos {a b : Int} (hb : 0 < b) (h : (a * b).natAbs ≤ 2 ^ 53) :
    (finite (a * stepsPerOne)).mul (finite (b * stepsPerOne)) = .finite (a * b * stepsPerOne) := by
  have hpos : (0 : Int) < stepsPerOne := Int.natCast_pos.2 stepsPerOne_pos
  have hsign : (decide (a * stepsPerOne < 0) != decide (b * stepsPerOne < 0)) = true ↔
      a * b < 0 := by
    have hpositive : ¬b * stepsPerOne < 0 := by
      rw [mul_neg_iff_of_pos hpos]
      exact Int.not_lt.2 (Int.le_of_lt hb)
    rw [decide_eq_false hpositive, Bool.bne_false, decide_eq_true_iff, mul_neg_iff_of_pos hpos,
      mul_neg_iff_of_pos hb]
  have habs : (a * stepsPerOne).natAbs * (b * stepsPerOne).natAbs * stepsPerOne =
      (a * b).natAbs * stepsPerOne * (stepsPerOne * stepsPerOne) := by
    rw [Int.natAbs_mul, Int.natAbs_mul, Int.natAbs_mul, Int.natAbs_natCast]
    ring
  calc (finite (a * stepsPerOne)).mul (finite (b * stepsPerOne))
      = ofSteps (decide (a * stepsPerOne < 0) != decide (b * stepsPerOne < 0))
          (roundSteps ((a * stepsPerOne).natAbs * (b * stepsPerOne).natAbs * stepsPerOne)
            (stepsPerOne * stepsPerOne)) := rfl
    _ = ofSteps (decide (a * stepsPerOne < 0) != decide (b * stepsPerOne < 0))
          ((a * b).natAbs * stepsPerOne) := by
        rw [habs, roundSteps_mul_stepsPerOne_mul h (Nat.mul_pos stepsPerOne_pos stepsPerOne_pos)]
    _ = .finite (a * b * stepsPerOne) := ofSteps_natAbs h hsign

theorem not_outOfRange {n : Int} (h : n.natAbs ≤ 2 ^ 53) : ¬OutOfRange n := by
  rw [← ofInt_eq_infinite_iff]
  rintro ⟨sign, hinfinite⟩
  have hsteps := steps?_ofInt h
  rw [hinfinite] at hsteps
  cases hsteps

/-! ### Equality -/

theorem steps?_of_equals {x y : Binary64} {s : Int} (hx : x.steps? = some s)
    (h : x.equals y = true) : y.steps? = some s := by
  cases x <;> cases y <;> simp_all [equals, steps?]

theorem equals_comm (x y : Binary64) : x.equals y = y.equals x := by
  cases x <;> cases y <;> simp [equals, steps?, Bool.beq_comm]

theorem equals_ofInt_self (n : Int) : (ofInt n).equals (ofInt n) = true :=
  (equals_iff (ofInt_ne_nan n) (ofInt_ne_nan n)).2 rfl

/-- A multiple of a positive unit with the sign of an integer of the same magnitude. -/
theorem eq_of_signed {a b : Int} {unit : Nat} (hunit : 0 < unit) (habs : b.natAbs = a.natAbs)
    (h : a * unit = if decide (b < 0) then -((a.natAbs * unit : Nat) : Int)
      else (a.natAbs * unit : Nat)) : b = a := by
  have hne : (unit : Int) ≠ 0 := by omega
  by_cases hb : b < 0
  · rw [decide_eq_true hb, if_pos rfl, Nat.cast_mul, ← Int.neg_mul] at h
    have := Int.eq_of_mul_eq_mul_right hne h
    omega
  · rw [decide_eq_false hb, if_neg Bool.false_ne_true, Nat.cast_mul] at h
    have := Int.eq_of_mul_eq_mul_right hne h
    omega

theorem natAbs_of_signed {a : Int} {unit n : Nat} {negative : Bool}
    (h : a * unit = if negative then -(n : Int) else n) : n = a.natAbs * unit := by
  have habs := congrArg Int.natAbs h
  rw [Int.natAbs_mul, Int.natAbs_natCast] at habs
  rw [habs]
  cases negative <;> simp

/-- Integers that are kept apart are not made equal numbers. -/
theorem Apart.eq_of_equals {a b : Int} (h : Apart a.natAbs b.natAbs)
    (heq : (ofInt a).equals (ofInt b) = true) : b = a := by
  have hsteps := steps?_of_equals (steps?_ofInt h.1) heq
  rw [ofInt, ofRatio, ofMagnitude] at hsteps
  have hsigned := steps?_ofSteps hsteps
  have hmagnitude := natAbs_of_signed hsigned
  rw [hmagnitude] at hsigned
  exact eq_of_signed stepsPerOne_pos (h.eq_of_roundSteps_eq hmagnitude) hsigned

/-- An integer that is not out of range has a nearest number. -/
theorem ofInt?_eq_some {n : Int} (h : ¬OutOfRange n) : ofInt? n = some (ofInt n) := by
  rw [← ofInt_eq_infinite_iff, not_exists] at h
  -- The function is unfolded and not its value, since that would be computed.
  obtain ⟨nearest?, hnearest⟩ : ∃ f, f = ofInt? := ⟨_, rfl⟩
  rw [← hnearest]
  delta ofInt? at hnearest
  subst hnearest
  generalize ofInt = nearest at h ⊢
  dsimp only
  generalize nearest n = x at h ⊢
  cases x with
  | infinite sign => exact absurd rfl (h sign)
  | _ => rfl

/-- Both integers are at most `2 ^ 53` either way, or one of them is less. -/
def Distinguished (a b : Int) : Prop :=
  a.natAbs ≤ 2 ^ 53 ∧ b.natAbs ≤ 2 ^ 53 ∨ a.natAbs < 2 ^ 53 ∨ b.natAbs < 2 ^ 53

theorem Distinguished.equals_iff {a b : Int} (h : Distinguished a b) :
    (ofInt a).equals (ofInt b) = true ↔ a = b := by
  refine ⟨fun heq ↦ ?_, fun heq ↦ heq ▸ equals_ofInt_self a⟩
  rcases h with ⟨ha, hb⟩ | ha | hb
  · exact (Apart.eq_of_equals ⟨ha, .inl hb⟩ heq).symm
  · exact (Apart.eq_of_equals ⟨Nat.le_of_lt ha, .inr ha⟩ heq).symm
  · rw [equals_comm] at heq
    exact Apart.eq_of_equals ⟨Nat.le_of_lt hb, .inr hb⟩ heq

end OutlineSearch.Binary64

namespace OutlineSearch.Number

open OutlineSearch.Text OutlineSearch.Binary64

/-! ### Decimal forms -/

theorem dropUnderscores?_eq (s : List Char) (h : ∀ c ∈ s, c ≠ '_') (afterDigit : Bool) :
    dropUnderscores? afterDigit s = some s := by
  induction s generalizing afterDigit with
  | nil => rfl
  | cons c s ih =>
    obtain ⟨hc, hs⟩ := List.forall_mem_cons.1 h
    rw [dropUnderscores?.eq_3 _ _ _ (by simp [hc]), ih hs, if_neg (by simpa using hc)]
    rfl

theorem spanDigits_eq {s : List Char} (h : ∀ c ∈ s, isDecimal c = true) :
    spanDigits s = (decimals s, []) := by
  induction s with
  | nil => rfl
  | cons c s ih =>
    obtain ⟨hc, hs⟩ := List.forall_mem_cons.1 h
    obtain ⟨d, hd⟩ := Option.isSome_iff_exists.1 hc
    rw [spanDigits, hd, ih hs]
    simp [decimals, hd]

/-- Digits are read as the decimal that they spell. -/
theorem readUnsigned?_digits (negative : Bool) {s : List Char} (hne : s ≠ [])
    (h : ∀ c ∈ s, c.isDigit = true) :
    readUnsigned? negative s = some (ofDecimal negative (ofDigits (decimals s)) 0) := by
  obtain ⟨d, more, rfl⟩ := List.exists_cons_of_ne_nil hne
  have hd := h d (.head _)
  -- no name of a number starts with a digit
  have hname (name : List Char) (hfirst : (name.headD d).isDigit = false) :
      ((d :: more).map Char.toLower == name) = false := by
    rw [List.map_cons, toLower_of_isDigit hd, beq_eq_false_iff_ne]
    rintro rfl
    cases hd.symm.trans hfirst
  have hspan := spanDigits_eq fun c hc ↦ isDecimal_of_isDigit (h c hc)
  rw [readUnsigned?, hspan]
  dsimp only
  rw [hname "inf".toList rfl, hname "infinity".toList rfl, hname "nan".toList rfl]
  simp [decimals, readExponent?]

/-- A whole decimal is rounded as the integer that it is. -/
theorem ofDecimal_whole {negative : Bool} {n : Nat} (h : n = 0 → negative = false) :
    ofDecimal negative n 0 = ofMagnitude negative n 1 := by
  unfold ofDecimal
  dsimp only
  split
  · next hzero =>
    subst hzero
    rw [h rfl, ofMagnitude, roundSteps_mul_stepsPerOne (Nat.zero_le _), Nat.zero_mul, ofSteps,
      if_neg (Nat.not_le.2 isSteps_zero.lt_limit)]
    rfl
  · split
    · next hplaces =>
      -- so many digits spell what is out of range
      obtain ⟨t, ht⟩ : ∃ t : Nat, t = 1000 := ⟨_, rfl⟩
      have hlarge : 10 ^ t ≤ n := by
        rw [← Nat.not_lt, ← Nat.length_toDigits_le_iff (by decide) (by omega)]
        omega
      have hrange : rangeLimit ≤ n := by
        obtain ⟨k, hk, hlimit⟩ := rangeLimit_eq
        calc rangeLimit ≤ 2 ^ 54 * 2 ^ k := by
              rw [hlimit]
              exact Nat.mul_le_mul_right _ (Nat.sub_le _ _)
          _ = 2 ^ (54 + k) := (Nat.pow_add ..).symm
          _ ≤ 10 ^ t := two_pow_le_ten_pow (by omega)
          _ ≤ n := hlarge
      rw [ofMagnitude, ofSteps, if_pos ((stepLimit_le_iff n).2 hrange)]
    · rw [if_neg (by omega), if_pos (by omega), Int.toNat_zero, show Nat.pow 10 0 = 1 from rfl,
        Nat.mul_one]

/-- The decimal form of an integer is read as the number that the integer is rounded to. -/
theorem readFloat?_toString (n : Int) : readFloat? (toString n).toList = some (ofInt n) := by
  have hdigit := Json.isDigit_toDigits n.natAbs
  have hchars : ∀ c ∈ (toString n).toList, c = '-' ∨ c.isDigit = true := by
    rw [Json.toList_toString]
    intro c hc
    rcases List.mem_append.1 hc with hc | hc
    · split at hc
      · exact .inl (List.mem_singleton.1 hc)
      · cases hc
    · exact .inr (hdigit c hc)
  have htrim : trim (toString n).toList = (toString n).toList :=
    Json.trim_of_not_blank fun c hc ↦ (hchars c hc).elim (fun hc ↦ hc ▸ rfl)
      fun hc ↦ isBlank_of_isDecimal (isDecimal_of_isDigit hc)
  have hplain : ∀ c ∈ (toString n).toList, c ≠ '_' := by
    rintro _ hc rfl
    exact (hchars _ hc).elim (by decide) (by decide)
  have hsign := Json.readSign_toString n []
  rw [List.append_nil, List.append_nil] at hsign
  rw [readFloat?, htrim, dropUnderscores?_eq _ hplain]
  simp only [Option.bind_eq_bind, Option.bind_some, hsign]
  rw [readUnsigned?_digits _ Nat.toDigits_ne_nil hdigit, ofDigits_decimals_toDigits,
    ofDecimal_whole (by simp; omega)]
  rfl

end OutlineSearch.Number
