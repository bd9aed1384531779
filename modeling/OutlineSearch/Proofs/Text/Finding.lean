import OutlineSearch.Proofs.Text.Lines
import OutlineSearch.Proofs.Text.Tables
import OutlineSearch.Text.Case
import OutlineSearch.Text.Find
import Mathlib.Data.List.Basic

/-!
# Texts around a character

A text that does not hold some character occurs on one side of it or on the other. Case rules do not
look beyond a character that has no case and is not passed over, so both sides have their lower-case
forms by themselves. And a phrase ends at the first double quote behind the one at which it starts.
-/

namespace OutlineSearch.Text

/-! ### Starts and occurrences -/

theorem dropPrefix?_eq_some_iff {start s rest : List Char} :
    dropPrefix? start s = some rest ↔ s = start ++ rest := by
  induction start generalizing s with
  | nil => rw [dropPrefix?, Option.some.injEq, List.nil_append]
  | cons c start ih =>
    cases s with
    | nil => simp [dropPrefix?]
    | cons d s =>
      rw [dropPrefix?, List.cons_append, List.cons.injEq]
      by_cases h : c = d
      · simp [h, ih]
      · simp [h, Ne.symm h]

theorem dropPrefix?_append (start rest : List Char) :
    dropPrefix? start (start ++ rest) = some rest :=
  dropPrefix?_eq_some_iff.2 rfl

theorem startsWith_iff {s start : List Char} : startsWith s start = true ↔ start <+: s := by
  rw [startsWith, Option.isSome_iff_exists]
  exact exists_congr fun rest ↦ dropPrefix?_eq_some_iff.trans eq_comm

theorem occursIn_iff {needle s : List Char} : occursIn needle s = true ↔ needle <:+: s := by
  induction s with
  | nil => rw [occursIn, List.isEmpty_iff, List.infix_nil]
  | cons c s ih => rw [occursIn, Bool.or_eq_true, startsWith_iff, ih, List.infix_cons_iff]

theorem occursIn_of_notMem {needle s : List Char} {c : Char} (hneedle : c ∈ needle) (hs : c ∉ s) :
    occursIn needle s = false := by
  rw [Bool.eq_false_iff, Ne, occursIn_iff]
  exact fun h ↦ hs (h.subset hneedle)

section

variable {needle before behind : List Char} {c : Char}

theorem prefix_append_cons (hc : c ∉ needle) :
    needle <+: before ++ c :: behind ↔ needle <+: before := by
  induction needle generalizing before with
  | nil => simp
  | cons d needle ih =>
    rw [List.mem_cons, not_or] at hc
    cases before with
    | nil => simp [List.cons_prefix_cons, Ne.symm hc.1]
    | cons e before => rw [List.cons_append, List.cons_prefix_cons, List.cons_prefix_cons, ih hc.2]

/-- A text without some character occurs in front of it or behind it. -/
theorem infix_append_cons (hc : c ∉ needle) :
    needle <:+: before ++ c :: behind ↔ needle <:+: before ∨ needle <:+: behind := by
  induction before with
  | nil =>
    rw [List.infix_nil, ← List.prefix_nil, ← prefix_append_cons hc, List.nil_append,
      List.infix_cons_iff]
  | cons e before ih =>
    rw [List.cons_append, List.infix_cons_iff, List.infix_cons_iff, ih, ← List.cons_append,
      prefix_append_cons hc, or_assoc]

theorem occursIn_append_cons (hc : c ∉ needle) :
    occursIn needle (before ++ c :: behind) =
      (occursIn needle before || occursIn needle behind) := by
  rw [Bool.eq_iff_iff, Bool.or_eq_true, occursIn_iff, occursIn_iff, occursIn_iff,
    infix_append_cons hc]

end

/-! ### Trimming -/

/-- A text with no blank at its ends stays as it is. -/
theorem trim_of_ends {c d : Char} (hc : isBlank c = false) (hd : isBlank d = false)
    (s : List Char) : trim (c :: (s ++ [d])) = c :: (s ++ [d]) := by
  rw [trim, trimStart, List.dropWhile_cons_of_neg (by simp [hc]), trimEnd, dropEndWhile,
    ← List.cons_append, List.reverse_append, List.reverse_singleton, List.singleton_append,
    List.dropWhile_cons_of_neg (by simp [hd]), ← List.singleton_append, List.reverse_append,
    List.reverse_reverse, List.reverse_singleton]

theorem trim_toList_of_trimmed {s : String} (h : trimmed s = s) : trim s.toList = s.toList := by
  conv_rhs => rw [← h, trimmed, String.toList_ofList]

/-! ### Lower-case forms -/

/-- A character that the rules of case do not look beyond. -/
structure PartsCase (c : Char) : Prop where
  passedOver : isPassedOver c = false
  cased : isCased c = false

namespace PartsCase

variable {c : Char} (hc : PartsCase c)

include hc

theorem startsCased_append (s rest : List Char) :
    startsCased (s ++ c :: rest) = startsCased s := by
  unfold startsCased
  rw [List.dropWhile_append]
  cases hdrop : s.dropWhile isPassedOver with
  | nil => simp [hc.passedOver, hc.cased]
  | cons d more => rfl

theorem lowerFrom_append_front (front before s : List Char) :
    lowerFrom (front ++ c :: before) s = lowerFrom front s := by
  induction s generalizing front with
  | nil => rfl
  | cons d s ih =>
    rw [lowerFrom, lowerFrom, hc.startsCased_append, ← List.cons_append, ih]

theorem lowerFrom_append (before s rest : List Char) :
    lowerFrom before (s ++ c :: rest) =
      lowerFrom before s ++ lowerFrom (s.reverse ++ before) (c :: rest) := by
  induction s generalizing before with
  | nil => rfl
  | cons d s ih =>
    rw [List.cons_append, lowerFrom, lowerFrom, hc.startsCased_append, ih, List.reverse_cons,
      List.append_assoc, List.append_assoc, List.singleton_append]

/-- Both sides of the character have their lower-case forms by themselves. -/
theorem lower_append_cons (before behind : List Char) :
    lower (before ++ c :: behind) = lower before ++ lowerChar c :: lower behind := by
  have hsigma : c ≠ 'Σ' := by
    rintro rfl
    exact absurd hc.cased (by decide +kernel)
  have hdotted : c ≠ 'İ' := by
    rintro rfl
    exact absurd hc.cased (by decide +kernel)
  have hbehind : lowerFrom (c :: (before.reverse ++ [])) behind = lowerFrom [] behind :=
    hc.lowerFrom_append_front [] _ behind
  rw [lower, hc.lowerFrom_append, lowerFrom, hbehind]
  simp only [beq_iff_eq, hsigma, hdotted, if_false, List.singleton_append]
  rfl

end PartsCase

/-- No character of some code points has case, and none is passed over. -/
def caseless (points : List Nat) : Bool := points.all fun n =>
  !(rangeBits passedOverRanges.toList).testBit n && !(rangeBits casedRanges.toList).testBit n

theorem partsCase_of_caseless {points : List Nat} (h : caseless points = true) {c : Char}
    (hc : c.toNat ∈ points) : PartsCase c := by
  have hpoint := List.all_eq_true.1 h _ hc
  rw [Bool.and_eq_true, Bool.not_eq_true', Bool.not_eq_true'] at hpoint
  exact ⟨inRanges_of_testBit hpoint.1, inRanges_of_testBit hpoint.2⟩

theorem caseless_quote : caseless [0x22] = true := by
  unfold caseless passedOverRanges
  simp only [Array.toList_append]
  decide +kernel

theorem partsCase_quote : PartsCase '"' := partsCase_of_caseless caseless_quote (.head _)

/-! ### Phrases -/

theorem takeWhile_quote {s : List Char} (h : '"' ∉ s) (rest : List Char) :
    (s ++ rest).takeWhile (fun c => ['"'].head? != some c) =
      s ++ rest.takeWhile fun c => ['"'].head? != some c := by
  refine List.takeWhile_append_of_pos fun c hc ↦ ?_
  have hne : '"' ≠ c := fun heq ↦ h (heq ▸ hc)
  simpa using hne

/-- What stands behind a double quote up to the next one is a phrase. -/
theorem phrase_cons {s : List Char} (hs : s ≠ []) (h : '"' ∉ s) (rest : List Char) :
    phrase ('"' :: (s ++ '"' :: rest)) = some (s, s.length + 2) := by
  have hinner : (s ++ '"' :: rest).takeWhile (fun c => ['"'].head? != some c) = s := by
    rw [takeWhile_quote h]
    simp
  have hfront : dropPrefix? ['"'] ('"' :: (s ++ '"' :: rest)) = some (s ++ '"' :: rest) :=
    dropPrefix?_append ['"'] _
  have hbehind : dropPrefix? ['"'] ('"' :: rest) = some rest := dropPrefix?_append ['"'] _
  simp only [phrase, enclosed, hfront, hinner, bind, Option.bind, List.isEmpty_iff, hs, if_false,
    List.drop_left, hbehind, pure]
  simp only [List.length_cons, List.length_nil, Option.some.injEq, Prod.mk.injEq, true_and]
  omega

/-- A phrase is what stands between two double quotes, if there is anything and no other one. -/
theorem phrase_eq_some_iff {s inner : List Char} {n : Nat} : phrase s = some (inner, n) ↔
    inner ≠ [] ∧ '"' ∉ inner ∧ n = inner.length + 2 ∧
      ∃ rest, s = '"' :: (inner ++ '"' :: rest) := by
  constructor
  · intro h
    rcases s with _ | ⟨c, s⟩
    · cases h
    by_cases hc : c = '"'
    · subst hc
      by_cases hs : '"' ∈ s
      · obtain ⟨inner', rest, rfl, hinner⟩ := List.eq_append_cons_of_mem hs
        rcases eq_or_ne inner' [] with rfl | hne
        · -- two double quotes enclose nothing
          cases h
        · cases (phrase_cons hne hinner rest).symm.trans h
          exact ⟨hne, hinner, rfl, rest, rfl⟩
      · have hinner := takeWhile_quote hs []
        rw [List.takeWhile_nil, List.append_nil] at hinner
        have hfront : dropPrefix? ['"'] ('"' :: s) = some s := dropPrefix?_append ['"'] s
        simp only [phrase, enclosed, hfront, hinner, bind, Option.bind, List.drop_length] at h
        split at h <;> cases h
    · rw [phrase, enclosed, dropPrefix?, if_neg (by simpa using Ne.symm hc)] at h
      cases h
  · rintro ⟨hne, hinner, rfl, rest, rfl⟩
    exact phrase_cons hne hinner rest

theorem phrase_of_ne {c : Char} (hc : c ≠ '"') (s : List Char) : phrase (c :: s) = none := by
  refine Option.eq_none_iff_forall_ne_some.2 fun ⟨inner, n⟩ h ↦ ?_
  obtain ⟨-, -, -, rest, hs⟩ := phrase_eq_some_iff.1 h
  exact hc (List.cons.inj hs).1

/-- A character behind a text that is no double quote makes no phrase. -/
theorem phrase_concat {c : Char} (hc : c ≠ '"') (s : List Char) : phrase (s ++ [c]) = phrase s := by
  refine Option.ext fun ⟨inner, n⟩ ↦ ?_
  rw [phrase_eq_some_iff, phrase_eq_some_iff]
  refine and_congr_right fun _ ↦ and_congr_right fun _ ↦ and_congr_right fun _ ↦ ⟨?_, ?_⟩
  · rintro ⟨rest, hs⟩
    rcases List.eq_nil_or_concat' rest with rfl | ⟨rest, d, rfl⟩
    · rw [← List.cons_append] at hs
      exact absurd (List.append_singleton_inj.1 hs).2 hc
    · have hend : s ++ [c] = '"' :: (inner ++ '"' :: rest) ++ [d] := by simpa using hs
      exact ⟨rest, (List.append_singleton_inj.1 hend).1⟩
  · rintro ⟨rest, rfl⟩
    exact ⟨rest ++ [c], by simp⟩

/-! ### All that is found -/

section

variable {α : Type} {read : Reader α}

theorem exists_of_mem_findAllFrom {skip : Nat} {s : List Char} {a : α}
    (h : a ∈ findAllFrom read skip s) : ∃ t n, read t = some (a, n) := by
  induction s generalizing skip with
  | nil => cases h
  | cons c s ih =>
    rw [findAllFrom] at h
    split at h
    · exact ih h
    · split at h
      · next a' n hread =>
        rcases List.mem_cons.1 h with rfl | h
        · exact ⟨_, n, hread⟩
        · exact ih h
      · exact ih h

/-- A find stands at the start of a text, or further on. -/
theorem exists_find_cons {c : Char} {s : List Char} {a : α} :
    (∃ before t n, c :: s = before ++ t ∧ t ≠ [] ∧ read t = some (a, n)) ↔
      (∃ n, read (c :: s) = some (a, n)) ∨
        ∃ before t n, s = before ++ t ∧ t ≠ [] ∧ read t = some (a, n) := by
  constructor
  · rintro ⟨before, t, n, hs, hne, hread⟩
    cases before with
    | nil => exact .inl ⟨n, by rw [hs]; exact hread⟩
    | cons d before => exact .inr ⟨before, t, n, (List.cons.inj hs).2, hne, hread⟩
  · rintro (⟨n, hread⟩ | ⟨before, t, n, rfl, hne, hread⟩)
    · exact ⟨[], c :: s, n, rfl, List.cons_ne_nil c s, hread⟩
    · exact ⟨c :: before, t, n, rfl, hne, hread⟩

/-- If nothing is found inside of a find, a scan finds what can be found anywhere. -/
theorem mem_findAllFrom_iff
    (hapart : ∀ t a n, read t = some (a, n) → ∀ k, 0 < k → k < n → read (t.drop k) = none)
    {skip : Nat} {s : List Char} (hskip : ∀ k < skip, read (s.drop k) = none) {a : α} :
    a ∈ findAllFrom read skip s ↔
      ∃ before t n, s = before ++ t ∧ t ≠ [] ∧ read t = some (a, n) := by
  -- what is still passed over of the last find holds no other one
  induction s generalizing skip with
  | nil => simp [findAllFrom]
  | cons c s ih =>
    rw [findAllFrom, exists_find_cons]
    split
    · next hpos =>
      have hnone : read (c :: s) = none := hskip 0 hpos
      rw [ih fun k hk ↦ hskip (k + 1) (by omega), hnone]
      simp
    · split
      · next a' n hread =>
        rw [List.mem_cons, ih fun k hk ↦ hapart _ _ _ hread (k + 1) (Nat.succ_pos k) (by omega),
          hread]
        simp [eq_comm]
      · next hnone =>
        rw [ih fun k hk ↦ absurd hk (Nat.not_lt_zero k), hnone]
        simp

/-- A character that makes no difference to what is found anywhere adds nothing at the end. -/
theorem findAllFrom_concat {c : Char} (h : ∀ s, read (s ++ [c]) = read s) (hnil : read [] = none)
    (skip : Nat) (s : List Char) : findAllFrom read skip (s ++ [c]) = findAllFrom read skip s := by
  induction s generalizing skip with
  | nil =>
    have hnone : read [c] = none := (h []).trans hnil
    rw [List.nil_append, findAllFrom.eq_2, hnone]
    split
    · rfl
    · rfl
  | cons d s ih =>
    rw [List.cons_append, findAllFrom, findAllFrom, ← List.cons_append, h]
    split
    · exact ih _
    · split
      · rw [ih]
      · exact ih _

end

theorem ne_empty_of_mem_phrases {s p : String} (h : p ∈ phrases s) : p.toList ≠ [] := by
  obtain ⟨inner, hinner, rfl⟩ := List.mem_map.1 h
  obtain ⟨t, n, hread⟩ := exists_of_mem_findAllFrom hinner
  rw [String.toList_ofList]
  exact (phrase_eq_some_iff.1 hread).1

/-- The blanks around a text are not in its phrases. -/
theorem phrases_trimmed (s : String) : phrases (trimmed s) = phrases s := by
  have hquote {c : Char} (hc : isBlank c = true) : c ≠ '"' := by
    rintro rfl
    cases hc
  have htrim : findAll phrase (trim s.toList) = findAll phrase s.toList := by
    refine trim_invariant (f := findAll phrase) ?_ ?_ s.toList
    · intro c s hc
      rw [findAll, findAllFrom, if_neg (Nat.lt_irrefl 0), phrase_of_ne (hquote hc)]
      rfl
    · exact fun c s hc ↦ findAllFrom_concat (phrase_concat (hquote hc)) rfl 0 s
  rw [phrases, trimmed, String.toList_ofList, htrim]
  rfl

end OutlineSearch.Text
