import OutlineSearch.Number.Binary64
import Mathlib.Data.Prod.Lex

/-!
# Comparing numbers of 64 bits

But for what is no number, the numbers of 64 bits stand on a line: the finite ones by their steps,
the two zeros at one place, between the infinite ones. So `less` and `atMost` on them are the two
orders of one line. A whole number is never rounded to what is no number.
-/

namespace OutlineSearch.Binary64

/-- The place of a number on the line: the part of the line, and the place in it. What is no number
has no place; it is put at the lower end. -/
def place : Binary64 → Int ×ₗ Int
  | infinite false => toLex (1, 0)
  | negativeZero => toLex (0, 0)
  | finite s => toLex (0, s)
  | _ => toLex (-1, 0)

variable {x y : Binary64}

theorem less_iff (hx : x ≠ nan) (hy : y ≠ nan) : x.less y = true ↔ x.place < y.place := by
  have hsteps (s t : Int) :
      decide (s < t) = true ↔ toLex ((0 : Int), s) < toLex ((0 : Int), t) := by
    rw [decide_eq_true_iff, Prod.Lex.toLex_lt_toLex]
    simp
  rcases x with _ | (_ | _) | _ | s <;> rcases y with _ | (_ | _) | _ | t
  all_goals first
    | exact absurd rfl hx
    | exact absurd rfl hy
    | exact hsteps _ _
    | simp [less, place, Prod.Lex.toLex_lt_toLex]

theorem equals_iff (hx : x ≠ nan) (hy : y ≠ nan) : x.equals y = true ↔ x.place = y.place := by
  rcases x with _ | (_ | _) | _ | s <;> rcases y with _ | (_ | _) | _ | t <;>
    simp_all [equals, place, steps?]

theorem atMost_iff (hx : x ≠ nan) (hy : y ≠ nan) : x.atMost y = true ↔ x.place ≤ y.place := by
  rw [atMost, Bool.or_eq_true, less_iff hx hy, equals_iff hx hy, le_iff_lt_or_eq]

/-- Nothing is at most what is no number, and what is no number is at most nothing. -/
theorem ne_nan_of_atMost (h : x.atMost y = true) : x ≠ nan ∧ y ≠ nan := by
  constructor
  · rintro rfl
    cases y <;> cases h
  · rintro rfl
    cases x <;> cases h

theorem atMost_trans {z : Binary64} (hxy : x.atMost y = true) (hyz : y.atMost z = true) :
    x.atMost z = true := by
  obtain ⟨hx, hy⟩ := ne_nan_of_atMost hxy
  obtain ⟨-, hz⟩ := ne_nan_of_atMost hyz
  rw [atMost_iff hx hy] at hxy
  rw [atMost_iff hy hz] at hyz
  rw [atMost_iff hx hz]
  exact hxy.trans hyz

/-- Of two numbers, one is not before the other exactly if the other is at most it. -/
theorem not_less_iff (hx : x ≠ nan) (hy : y ≠ nan) : (!x.less y) = true ↔ y.atMost x = true := by
  rw [atMost_iff hy hx, ← not_lt, ← less_iff hx hy, Bool.not_eq_true', Bool.not_eq_true]

/-- A finite number is above the lower end of the line. -/
theorem atMost_infinite_true (hx : x.isFinite = true) : x.atMost (infinite true) = false := by
  cases x with
  | negativeZero | finite => rfl
  | nan | infinite => simp [isFinite, steps?] at hx

theorem ofSteps_ne_nan (negative : Bool) (steps : Nat) : ofSteps negative steps ≠ nan := by
  by_cases hlimit : stepLimit ≤ steps
  · rw [ofSteps, if_pos hlimit]
    exact Binary64.noConfusion
  · rw [ofSteps, if_neg hlimit]
    split
    · split <;> exact Binary64.noConfusion
    · exact Binary64.noConfusion

theorem ofInt_ne_nan (n : Int) : ofInt n ≠ nan := by
  rw [ofInt, ofRatio, ofMagnitude]
  exact ofSteps_ne_nan _ _

end OutlineSearch.Binary64
