import OutlineSearch.Text.Class
import Mathlib.Data.List.Chain

/-!
# Looking up in tables

What is looked up in a table of characters stands in the table, or is the default. So a character
that lies apart from all that stands in a table is not found there. In a table in order bisection
finds the last entry whose key is not greater than what is looked for.

To ask every entry about every other one would be slow, so sets of code points are kept as the bits
of one number.
-/

namespace OutlineSearch.Text

/-- What is looked up in a table stands in it, or is the default. -/
theorem getD_mem_or_eq {α : Type} (table : Array α) (i : Nat) (default : α) :
    table.getD i default ∈ table.toList ∨ table.getD i default = default := by
  rw [Array.getD_eq_getD_getElem?]
  by_cases hi : i < table.size
  · rw [Array.getElem?_eq_getElem hi]
    exact .inl (Array.getElem_mem_toList hi)
  · rw [Array.getElem?_eq_none (Nat.not_lt.1 hi)]
    exact .inr rfl

/-- What is found under a key that is not zero stands in the table with it. -/
theorem mem_of_getD {table : Array (Nat × Nat × Nat)} {i n first second : Nat} (hn : n ≠ 0)
    (h : (match table.getD i (0, 0, 0) with
      | (key, first, second) => if key = n then some (first, second) else none) =
        some (first, second)) :
    (n, first, second) ∈ table.toList := by
  have hmem := getD_mem_or_eq table i (0, 0, 0)
  generalize table.getD i (0, 0, 0) = entry at h hmem
  split at h
  next key first' second' =>
  split at h
  · next hkey =>
    cases h
    subst hkey
    rcases hmem with hmem | hzero
    · exact hmem
    · cases hzero
      exact absurd rfl hn
  · cases h

/-- A code point that is in no range of the table is in none that is looked up. -/
theorem class_of_getD {table : Array (Nat × Nat × Nat)} {i n : Nat}
    (h : ∀ e ∈ table.toList, n < e.1 ∨ e.2.1 < n) :
    (match table.getD i (1, 0, 0) with
      | (first, last, k) => if first ≤ n ∧ n ≤ last then k else 0) = 0 := by
  have hmem := getD_mem_or_eq table i (1, 0, 0)
  generalize table.getD i (1, 0, 0) = entry at hmem ⊢
  have hnot : ¬(entry.1 ≤ n ∧ n ≤ entry.2.1) := by
    rcases hmem with hmem | rfl
    · have hapart := h entry hmem
      omega
    · simp only
      omega
  exact if_neg hnot

/-- A code point that lies apart from all ranges is in none of them. -/
theorem inRanges_of_apart {ranges : Array (Nat × Nat)} {n : Nat}
    (h : ∀ e ∈ ranges.toList, n < e.1 ∨ e.2 < n) : inRanges ranges n = false := by
  have hnot (i : Nat) :
      ((ranges.getD i (1, 0)).1 ≤ n && n ≤ (ranges.getD i (1, 0)).2 : Bool) = false := by
    have hmem := getD_mem_or_eq ranges i (1, 0)
    generalize ranges.getD i (1, 0) = entry at hmem ⊢
    refine Bool.eq_false_iff.2 fun hin ↦ ?_
    simp only [Bool.and_eq_true, decide_eq_true_eq] at hin
    rcases hmem with hmem | rfl
    · have hapart := h entry hmem
      omega
    · omega
  exact hnot _

/-! ### Tables in order -/

/-- What bisection finds has a key that is at most the one looked for, and the next one has not. -/
theorem bisect_spec {keys : Nat → Nat} {n low high : Nat} (h : low < high) (hlow : keys low ≤ n) :
    bisect keys n low high < high ∧ keys (bisect keys n low high) ≤ n ∧
      (bisect keys n low high + 1 < high → n < keys (bisect keys n low high + 1)) := by
  fun_induction bisect keys n low high with
  | case1 low high hlt middle hmiddle ih => exact ih (by omega) hmiddle
  | case2 low high hlt middle hmiddle ih =>
    obtain ⟨hbelow, hkey, hnext⟩ := ih (by omega) hlow
    refine ⟨by omega, hkey, fun _ ↦ ?_⟩
    rcases Nat.lt_or_eq_of_le (Nat.succ_le_of_lt hbelow) with hbefore | heq
    · exact hnext hbefore
    · rw [← Nat.succ_eq_add_one, heq]
      exact Nat.lt_of_not_le hmiddle
  | case3 low high hlt => exact ⟨h, hlow, fun hnext ↦ absurd hnext hlt⟩

theorem bisect_eq {keys : Nat → Nat} {n i size : Nat} (hi : i < size)
    (hfront : ∀ j ≤ i, keys j ≤ n) (hbehind : ∀ j, i < j → j < size → n < keys j) :
    bisect keys n 0 size = i := by
  obtain ⟨hlt, hkey, hnext⟩ := bisect_spec (Nat.zero_lt_of_lt hi) (hfront 0 (Nat.zero_le i))
  generalize bisect keys n 0 size = found at hlt hkey hnext
  rcases Nat.lt_trichotomy found i with hbefore | heq | hafter
  · have := hfront (found + 1) hbefore
    have := hnext (by omega)
    omega
  · exact heq
  · have := hbehind found hafter hlt
    omega

/-- An entry of a table is found for what is not less than its key, nor than the keys in front of
it, and less than the keys behind it. -/
theorem getD_bisect {α : Type} {table : Array α} {key : α → Nat} {e d d' : α} {n : Nat}
    {front behind : List α} (h : table.toList = front ++ e :: behind)
    (hfront : ∀ a ∈ front, key a ≤ n) (he : key e ≤ n) (hbehind : ∀ b ∈ behind, n < key b) :
    table.getD (bisect (fun i ↦ key (table.getD i d)) n 0 table.size) d' = e := by
  have hget (i : Nat) (d : α) : table.getD i d = ((front ++ e :: behind)[i]?).getD d := by
    rw [Array.getD_eq_getD_getElem?, ← Array.getElem?_toList, h]
  have hsize : table.size = front.length + (behind.length + 1) := by
    rw [← Array.length_toList, h, List.length_append, List.length_cons]
  have hfound : bisect (fun i ↦ key (table.getD i d)) n 0 table.size = front.length := by
    refine bisect_eq (by omega) (fun j hj ↦ ?_) (fun j hj hlt ↦ ?_)
    · rw [hget]
      rcases Nat.lt_or_eq_of_le hj with hlt | rfl
      · rw [List.getElem?_append_left hlt, List.getElem?_eq_getElem hlt]
        exact hfront _ (List.getElem_mem hlt)
      · rw [List.getElem?_append_right (Nat.le_refl _), Nat.sub_self]
        exact he
    · obtain ⟨k, rfl⟩ := Nat.exists_eq_add_of_lt hj
      have hk : k < behind.length := by omega
      rw [hget, List.getElem?_append_right (by omega), Nat.add_assoc, Nat.add_sub_cancel_left,
        List.getElem?_cons_succ, List.getElem?_eq_getElem hk]
      exact hbehind _ (List.getElem_mem hk)
  rw [hfound, hget, List.getElem?_append_right (Nat.le_refl _), Nat.sub_self]
  rfl

/-- One range ends in front of another. -/
def EndsBefore (e f : Nat × Nat) : Prop := e.1 ≤ e.2 ∧ e.2 < f.1

instance (e f : Nat × Nat) : Decidable (EndsBefore e f) := inferInstanceAs (Decidable (_ ∧ _))

instance : Trans EndsBefore EndsBefore EndsBefore where
  trans h h' := ⟨h.1, Nat.lt_trans (Nat.lt_of_lt_of_le h.2 h'.1) h'.2⟩

/-- A code point lies in the ranges of a table in order when one of them has it. -/
theorem inRanges_iff {ranges : Array (Nat × Nat)} (horder : ranges.toList.IsChain EndsBefore)
    {n : Nat} : inRanges ranges n = true ↔ ∃ e ∈ ranges.toList, e.1 ≤ n ∧ n ≤ e.2 := by
  constructor
  · intro h
    by_contra hnone
    have hapart : ∀ e ∈ ranges.toList, n < e.1 ∨ e.2 < n := by
      intro e he
      by_contra hin
      exact hnone ⟨e, he, by omega⟩
    rw [inRanges_of_apart hapart] at h
    cases h
  · rintro ⟨e, he, hfirst, hlast⟩
    obtain ⟨front, behind, hsplit⟩ := List.append_of_mem he
    have hpairwise := horder.pairwise
    rw [hsplit, List.pairwise_append, List.pairwise_cons] at hpairwise
    obtain ⟨-, ⟨hbehind, -⟩, hfront⟩ := hpairwise
    have hbefore : ∀ a ∈ front, a.1 ≤ n := by
      intro a ha
      obtain ⟨hspan, hend⟩ := hfront a ha e (.head _)
      omega
    have hafter : ∀ b ∈ behind, n < b.1 := fun b hb ↦ Nat.lt_of_le_of_lt hlast (hbehind b hb).2
    have hfound : ranges.getD (bisect (fun i ↦ (ranges.getD i (0, 0)).1) n 0 ranges.size) (1, 0) =
        e := getD_bisect hsplit hbefore hfirst hafter
    unfold inRanges
    simp only [hfound, hfirst, hlast, decide_true, Bool.and_self]

/-! ### Characters by their code points -/

/-- What is so at the code points of ASCII is so for every character of ASCII. -/
theorem of_ascii {P : Char → Prop} (h : ∀ n < 128, P (Char.ofNat n)) {c : Char}
    (hc : c.toNat < 128) : P c := by
  have hpoint := h _ hc
  rwa [Char.ofNat_toNat] at hpoint

/-! ### Sets of numbers -/

/-- A set of numbers as the bits of a number. -/
def bits : List Nat → Nat
  | [] => 0
  | n :: rest => bits rest ||| 1 <<< n

theorem testBit_bits {s : List Nat} {n : Nat} : (bits s).testBit n = true ↔ n ∈ s := by
  induction s with
  | nil => simp [bits]
  | cons m s ih =>
    have hone : (1 <<< m).testBit n = decide (n = m) := by
      rw [Nat.one_shiftLeft, Nat.testBit_two_pow]
      exact decide_eq_decide.2 eq_comm
    rw [bits, Nat.testBit_or, Bool.or_eq_true, ih, hone, decide_eq_true_eq, List.mem_cons, or_comm]

/-- The numbers in some ranges, as the bits of a number. -/
def rangeBits : List (Nat × Nat) → Nat
  | [] => 0
  | (first, last) :: rest => rangeBits rest ||| (1 <<< (last + 1 - first) - 1) <<< first

theorem testBit_rangeBits {ranges : List (Nat × Nat)} {n : Nat} :
    (rangeBits ranges).testBit n = true ↔ ∃ e ∈ ranges, e.1 ≤ n ∧ n ≤ e.2 := by
  induction ranges with
  | nil => simp [rangeBits]
  | cons e ranges ih =>
    obtain ⟨first, last⟩ := e
    have hrange : ((1 <<< (last + 1 - first) - 1) <<< first).testBit n = true ↔
        first ≤ n ∧ n ≤ last := by
      rw [Nat.one_shiftLeft, Nat.testBit_shiftLeft, Nat.testBit_two_pow_sub_one, Bool.and_eq_true,
        decide_eq_true_eq, decide_eq_true_eq]
      omega
    rw [rangeBits, Nat.testBit_or, Bool.or_eq_true, ih, hrange, List.exists_mem_cons_iff, or_comm]

/-- A code point that is not among those of the ranges of a table is in none that is looked up. -/
theorem inRanges_of_testBit {ranges : Array (Nat × Nat)} {n : Nat}
    (h : (rangeBits ranges.toList).testBit n = false) : inRanges ranges n = false := by
  apply inRanges_of_apart
  intro e he
  by_contra hin
  rw [testBit_rangeBits.2 ⟨e, he, by omega, by omega⟩] at h
  cases h

end OutlineSearch.Text
