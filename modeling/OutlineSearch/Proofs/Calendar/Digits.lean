import OutlineSearch.Proofs.Number.Integers
import Mathlib.Tactic.IntervalCases

/-!
# Numbers of fixed width

A number written with a fixed number of decimal places, noughts in front. Its value is read back
digit by digit, and a decimal form without a nought in front is the number in as many places as it
has digits.
-/

namespace OutlineSearch.Text

open OutlineSearch.Number

/-! ### One digit -/

theorem isDigit_digitChar {d : Nat} (h : d < 10) : d.digitChar.isDigit = true := by
  interval_cases d <;> rfl

theorem digitValue?_digitChar {d : Nat} (h : d < 10) : digitValue? d.digitChar = some d := by
  interval_cases d <;> rfl

/-- The last digit of a number. -/
theorem isDigit_place (n : Nat) : (n % 10).digitChar.isDigit = true :=
  isDigit_digitChar (Nat.mod_lt n (by decide))

theorem isDecimal_place (n : Nat) : isDecimal (n % 10).digitChar = true :=
  isDecimal_of_isDigit (isDigit_place n)

theorem isBlank_place (n : Nat) : isBlank (n % 10).digitChar = false :=
  isBlank_of_isDecimal (isDecimal_place n)

theorem place_ne {c : Char} (hc : c.isDigit = false) (n : Nat) : (n % 10).digitChar ≠ c := by
  rintro rfl
  cases (isDigit_place n).symm.trans hc

/-! ### Places -/

/-- The last decimal digits of a number, as many as there are places. -/
def places : (width n : Nat) → List Char
  | 0, _ => []
  | width + 1, n => places width (n / 10) ++ [(n % 10).digitChar]

theorem length_places (width n : Nat) : (places width n).length = width := by
  induction width generalizing n with
  | zero => rfl
  | succ width ih => simp [places, ih]

theorem isDigit_of_mem_places {width n : Nat} {c : Char} (h : c ∈ places width n) :
    c.isDigit = true := by
  induction width generalizing n with
  | zero => cases h
  | succ width ih =>
    rcases List.mem_append.1 h with h | h
    · exact ih h
    · rw [List.mem_singleton.1 h]
      exact isDigit_place n

/-- Places side by side. -/
theorem places_add (front back n : Nat) :
    places (front + back) n = places front (n / 10 ^ back) ++ places back n := by
  induction back generalizing n with
  | zero => simp [places]
  | succ back ih =>
    rw [← Nat.add_assoc, places, places, ih, Nat.div_div_eq_div_mul, ← Nat.pow_succ',
      List.append_assoc]

theorem places_mod (width n : Nat) : places width (n % 10 ^ width) = places width n := by
  induction width generalizing n with
  | zero => rfl
  | succ width ih =>
    have hdiv : n % 10 ^ (width + 1) / 10 = n / 10 % 10 ^ width := by
      rw [Nat.pow_succ', Nat.mod_mul_right_div_self]
    have hmod : n % 10 ^ (width + 1) % 10 = n % 10 :=
      Nat.mod_mod_of_dvd n (Nat.pow_succ' ▸ Nat.dvd_mul_right 10 _)
    rw [places, places, hdiv, hmod, ih]

/-- A number made of two others has no more digits than both. -/
theorem mul_add_lt {front back high low : Nat} (hhigh : high < 10 ^ front)
    (hlow : low < 10 ^ back) :
    high * 10 ^ back + low < 10 ^ (front + back) := by
  calc high * 10 ^ back + low < high * 10 ^ back + 10 ^ back := Nat.add_lt_add_left hlow _
    _ = (high + 1) * 10 ^ back := (Nat.succ_mul high _).symm
    _ ≤ 10 ^ front * 10 ^ back := Nat.mul_le_mul_right _ hhigh
    _ = 10 ^ (front + back) := (Nat.pow_add 10 front back).symm

/-- A number made of two others has the places of both. -/
theorem places_mul_add {back : Nat} (front : Nat) {high low : Nat} (h : low < 10 ^ back) :
    places (front + back) (high * 10 ^ back + low) = places front high ++ places back low := by
  have hdiv : (high * 10 ^ back + low) / 10 ^ back = high := by
    rw [Nat.add_comm, Nat.add_mul_div_right _ _ (Nat.pow_pos (by decide)), Nat.div_eq_of_lt h,
      Nat.zero_add]
  rw [places_add, hdiv, ← places_mod back, Nat.mul_add_mod_of_lt h]

/-- The decimal form of a number has as many places as the number has digits. -/
theorem toDigits_eq_places {width n : Nat} (hlow : 10 ^ width ≤ n) (hhigh : n < 10 ^ (width + 1)) :
    Nat.toDigits 10 n = places (width + 1) n := by
  induction width generalizing n with
  | zero =>
    have hdigit : n < 10 := hhigh
    rw [Nat.toDigits_of_lt_base hdigit, places, places, Nat.mod_eq_of_lt hdigit]
    rfl
  | succ width ih =>
    rw [Nat.pow_succ] at hlow hhigh
    have hbase : 10 ≤ n := Nat.le_trans (Nat.le_mul_of_pos_left 10 (Nat.pow_pos (by decide))) hlow
    rw [Nat.toDigits_of_base_le (by decide) hbase, places,
      ih ((Nat.le_div_iff_mul_le (by decide)).2 hlow) ((Nat.div_lt_iff_lt_mul (by decide)).2 hhigh)]

theorem decimals_digitChar {d : Nat} (h : d < 10) : decimals [d.digitChar] = [d] := by
  rw [decimals, List.map_singleton, digitValue?_digitChar h]
  rfl

/-- The digits in the places spell the number, when it has no more of them. -/
theorem ofDigits_decimals_places {width n : Nat} (h : n < 10 ^ width) :
    ofDigits (decimals (places width n)) = n := by
  induction width generalizing n with
  | zero => exact (Nat.lt_one_iff.1 h).symm
  | succ width ih =>
    rw [Nat.pow_succ] at h
    rw [places, decimals_append, decimals_digitChar (Nat.mod_lt n (by decide)), ofDigits_concat,
      ih ((Nat.div_lt_iff_lt_mul (by decide)).2 h)]
    omega

end OutlineSearch.Text
