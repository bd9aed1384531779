import OutlineSearch.Proofs.Text.Finding
import OutlineSearch.Proofs.Text.Lowering
import Mathlib.Data.List.Basic

/-!
# Blanks at the ends of texts

A blank has no case and stands for itself in a lower-case form, and nothing else has a blank for its
form. So a text without blanks at its ends keeps that in lower-case, and what occurs in another text
occurs in what stays of it when it is trimmed.
-/

namespace OutlineSearch.Text

/-! ### The blanks -/

/-- The code points of the blanks. -/
def blankPoints : List Nat :=
  List.range' 9 5 ++ List.range' 0x1C 5 ++ List.range' 0x2000 11 ++
    [0x85, 0xA0, 0x1680, 0x2028, 0x2029, 0x202F, 0x205F, 0x3000]

theorem mem_blankPoints {c : Char} (h : isBlank c = true) : c.toNat ∈ blankPoints := by
  simp only [isBlank, Bool.or_eq_true, Bool.and_eq_true, decide_eq_true_eq, beq_iff_eq] at h
  simp only [blankPoints, List.mem_append, List.mem_range'_1, List.mem_cons, List.not_mem_nil,
    or_false]
  omega

/-- What is so at the code points of the blanks is so for every blank. -/
theorem of_blankPoints {P : Char → Prop} (h : ∀ n ∈ blankPoints, P (Char.ofNat n)) {c : Char}
    (hc : isBlank c = true) : P c := by
  have hpoint := h _ (mem_blankPoints hc)
  rwa [Char.ofNat_toNat] at hpoint

theorem caseless_blankPoints : caseless blankPoints = true := by
  unfold caseless passedOverRanges
  simp only [Array.toList_append]
  decide +kernel

theorem partsCase_of_isBlank {c : Char} (hc : isBlank c = true) : PartsCase c :=
  partsCase_of_caseless caseless_blankPoints (mem_blankPoints hc)

theorem lowerChar_of_isBlank {c : Char} (hc : isBlank c = true) : lowerChar c = c :=
  of_blankPoints (P := fun c ↦ lowerChar c = c) (by decide +kernel) hc

/-- No run of the table maps to a blank. -/
theorem avoids_blankPoints : avoids blankPoints = true := by
  decide +kernel

theorem isBlank_toLower {c : Char} (hascii : c.toNat < 128) (hc : isBlank c = false) :
    isBlank c.toLower = false :=
  of_ascii (P := fun c ↦ isBlank c = false → isBlank c.toLower = false) (by decide) hascii hc

/-- No other character has a blank for its form. -/
theorem isBlank_lowerChar {c : Char} (hc : isBlank c = false) : isBlank (lowerChar c) = false := by
  by_cases hascii : c.toNat < 128
  · rw [lowerChar, if_pos hascii]
    exact isBlank_toLower hascii hc
  · refine Bool.eq_false_iff.2 fun hblank ↦ ?_
    have hself := lowerChar_eq_self avoids_blankPoints hascii (mem_blankPoints hblank)
    rw [hself, hc] at hblank
    cases hblank

/-! ### Texts without blanks at their ends -/

/-- No blank stands at either end of the text. -/
structure Bare (s : List Char) : Prop where
  first {c : Char} {rest : List Char} (h : s = c :: rest) : isBlank c = false
  last {c : Char} {front : List Char} (h : s = front ++ [c]) : isBlank c = false

namespace Bare

variable {s text : List Char} {c : Char}

theorem of_trim (h : trim s = s) : Bare s where
  first {c rest} hs := by
    refine Bool.eq_false_iff.2 fun hc ↦ ?_
    have hle := (trim_sublist rest).length_le
    rw [← trim_cons hc, ← hs, h, hs, List.length_cons] at hle
    omega
  last {c front} hs := by
    refine Bool.eq_false_iff.2 fun hc ↦ ?_
    have hle := (trim_sublist front).length_le
    rw [← trim_concat hc, ← hs, h, hs, List.length_append, List.length_singleton] at hle
    omega

theorem trim (s : List Char) : Bare (trim s) := of_trim (trim_trim s)

theorem trim_eq (h : Bare s) : Text.trim s = s := by
  obtain ⟨before, after, hbefore, hafter, hs⟩ := exists_eq_trim s
  rw [isAllBlank_iff] at hbefore hafter
  have hnil : before = [] := by
    cases before with
    | nil => rfl
    | cons c before =>
      cases (h.first (by rw [hs]; rfl)).symm.trans (hbefore c (.head _))
  have hnil' : after = [] := by
    rcases List.eq_nil_or_concat' after with rfl | ⟨front, c, rfl⟩
    · rfl
    · rw [← List.append_assoc] at hs
      cases (h.last hs).symm.trans (hafter c (by simp))
  rw [hnil, hnil', List.nil_append, List.append_nil] at hs
  exact hs.symm

theorem of_forall (h : ∀ c ∈ s, isBlank c = false) : Bare s where
  first hs := h _ (hs ▸ List.mem_cons_self)
  last hs := h _ (hs ▸ List.mem_append_right _ List.mem_cons_self)

/-- Without blanks at its ends a text is what is left when blanks around it are trimmed. -/
theorem trim_padded (h : Bare s) {before after : List Char}
    (hbefore : ∀ c ∈ before, isBlank c = true) (hafter : ∀ c ∈ after, isBlank c = true) :
    Text.trim (before ++ s ++ after) = s := by
  induction after using List.reverseRecOn with
  | nil =>
    rw [List.append_nil]
    induction before with
    | nil => exact h.trim_eq
    | cons c before ih =>
      obtain ⟨hc, hbefore⟩ := List.forall_mem_cons.1 hbefore
      rw [List.cons_append, trim_cons hc, ih hbefore]
  | append_singleton after c ih =>
    rw [List.forall_mem_append, List.forall_mem_singleton] at hafter
    rw [← List.append_assoc, trim_concat hafter.2, ih hafter.1]

theorem infix_cons (h : Bare s) (hc : isBlank c = true) : s <:+: c :: text ↔ s <:+: text := by
  refine ⟨fun hs ↦ ?_, fun hs ↦ List.infix_cons hs⟩
  rcases List.infix_cons_iff.1 hs with hprefix | hs
  · cases s with
    | nil => exact List.nil_infix
    | cons d s =>
      obtain ⟨rfl, -⟩ := List.cons_prefix_cons.1 hprefix
      cases (h.first rfl).symm.trans hc
  · exact hs

theorem infix_concat (h : Bare s) (hc : isBlank c = true) : s <:+: text ++ [c] ↔ s <:+: text := by
  refine ⟨fun hs ↦ ?_, fun hs ↦ hs.trans (List.prefix_append _ _).isInfix⟩
  rcases List.infix_concat_iff.1 hs with hsuffix | hs
  · rcases List.suffix_concat_iff.1 hsuffix with rfl | ⟨front, rfl, -⟩
    · exact List.nil_infix
    · cases (h.last rfl).symm.trans hc
  · exact hs

/-- Without blanks at its ends a text occurs in another one when it does in that one trimmed. -/
theorem infix_trim (h : Bare s) : s <:+: Text.trim text ↔ s <:+: text :=
  iff_of_eq (trim_invariant (f := fun text ↦ s <:+: text) (fun _ _ hc ↦ propext (h.infix_cons hc))
    (fun _ _ hc ↦ propext (h.infix_concat hc)) text)

end Bare

/-! ### Lower-case forms -/

theorem lower_cons_of_isBlank {c : Char} (hc : isBlank c = true) (s : List Char) :
    lower (c :: s) = c :: lower s := by
  have h := (partsCase_of_isBlank hc).lower_append_cons [] s
  rwa [lowerChar_of_isBlank hc] at h

theorem lower_concat_of_isBlank {c : Char} (hc : isBlank c = true) (s : List Char) :
    lower (s ++ [c]) = lower s ++ [c] := by
  have h := (partsCase_of_isBlank hc).lower_append_cons s []
  rwa [lowerChar_of_isBlank hc] at h

/-- A character has a form wherever it stands, and one without blanks if it is no blank. -/
theorem exists_lowerFrom_cons (before s : List Char) (c : Char) : ∃ form, form ≠ [] ∧
    (isBlank c = false → ∀ d ∈ form, isBlank d = false) ∧
      lowerFrom before (c :: s) = form ++ lowerFrom (c :: before) s := by
  obtain ⟨form, hform, hlower⟩ := exists_isForm before s c
  refine ⟨form, ?_, fun hc ↦ ?_, hlower⟩
  · cases hform <;> exact List.cons_ne_nil _ _
  · cases hform with
    | finalSigma | sigma => exact List.forall_mem_singleton.2 rfl
    | dotted => exact List.forall_mem_cons.2 ⟨rfl, List.forall_mem_singleton.2 rfl⟩
    | single => exact List.forall_mem_singleton.2 (isBlank_lowerChar hc)

theorem lower_ne_nil {s : List Char} (h : s ≠ []) : lower s ≠ [] := by
  obtain ⟨c, s, rfl⟩ := List.exists_cons_of_ne_nil h
  obtain ⟨form, hne, -, hlower⟩ := exists_lowerFrom_cons [] s c
  rw [lower, hlower]
  exact List.append_ne_nil_of_left_ne_nil hne _

theorem exists_lowerFrom_concat {c : Char} (hc : isBlank c = false) (before s : List Char) :
    ∃ front form, form ≠ [] ∧ (∀ d ∈ form, isBlank d = false) ∧
      lowerFrom before (s ++ [c]) = front ++ form := by
  induction s generalizing before with
  | nil =>
    obtain ⟨form, hne, hform, hlower⟩ := exists_lowerFrom_cons before [] c
    refine ⟨[], form, hne, hform hc, ?_⟩
    rw [List.nil_append, hlower, lowerFrom, List.append_nil, List.nil_append]
  | cons d s ih =>
    obtain ⟨front, form, hne, hform, hlower⟩ := ih (d :: before)
    rw [List.cons_append, lowerFrom, hlower]
    exact ⟨_, form, hne, hform, (List.append_assoc ..).symm⟩

/-- A text without blanks at its ends has none at the ends of its lower-case form. -/
theorem Bare.lower {s : List Char} (h : Bare s) : Bare (lower s) where
  first {d rest} hd := by
    cases s with
    | nil => cases hd
    | cons c s =>
      obtain ⟨form, hne, hform, hlower⟩ := exists_lowerFrom_cons [] s c
      obtain ⟨x, form, rfl⟩ := List.exists_cons_of_ne_nil hne
      obtain ⟨rfl, -⟩ := List.cons.inj (hlower.symm.trans hd)
      exact hform (h.first rfl) x (.head _)
  last {d front} hd := by
    rcases List.eq_nil_or_concat' s with rfl | ⟨s, c, rfl⟩
    · cases front <;> cases hd
    · obtain ⟨front', form, hne, hform, hlower⟩ := exists_lowerFrom_concat (h.last rfl) [] s
      rcases List.eq_nil_or_concat' form with rfl | ⟨form, x, rfl⟩
      · exact absurd rfl hne
      · rw [← List.append_assoc] at hlower
        obtain ⟨-, rfl⟩ := List.append_singleton_inj.1 (hlower.symm.trans hd)
        exact hform x (by simp)

/-- A text whose lower-case form has no blanks has none at its ends. -/
theorem Bare.of_lower {s : List Char} (h : ∀ c ∈ Text.lower s, isBlank c = false) : Bare s where
  first {c rest} hs := by
    refine Bool.eq_false_iff.2 fun hc ↦ ?_
    rw [hs, lower_cons_of_isBlank hc] at h
    exact absurd hc (by simp [h c List.mem_cons_self])
  last {c front} hs := by
    refine Bool.eq_false_iff.2 fun hc ↦ ?_
    rw [hs, lower_concat_of_isBlank hc] at h
    exact absurd hc (by simp [h c (by simp)])

theorem Bare.infix_lower_trim {s text : List Char} (h : Bare s) :
    s <:+: Text.lower (Text.trim text) ↔ s <:+: Text.lower text := by
  refine iff_of_eq (trim_invariant (f := fun text ↦ s <:+: Text.lower text) ?_ ?_ text)
  · intro c text hc
    rw [lower_cons_of_isBlank hc, h.infix_cons hc]
  · intro c text hc
    rw [lower_concat_of_isBlank hc, h.infix_concat hc]

/-! ### Collapsed blanks -/

theorem collapseBlanks_cons {c : Char} (hc : isBlank c = false) (s : List Char) :
    collapseBlanks (c :: s) = c :: collapseBlanks s := by
  rw [collapseBlanks, hc, if_neg Bool.false_ne_true]

/-- A character that is no blank parts a text: both sides of it are collapsed by themselves. -/
theorem collapseBlanks_append_cons {c : Char} (hc : isBlank c = false) (before behind : List Char) :
    collapseBlanks (before ++ c :: behind) =
      collapseBlanks before ++ c :: collapseBlanks behind := by
  induction before with
  | nil => exact collapseBlanks_cons hc behind
  | cons d before ih =>
    by_cases hd : isBlank d = true
    · have hspace : c ≠ ' ' := by
        rintro rfl
        cases hc
      rw [List.cons_append, collapseBlanks, collapseBlanks, if_pos hd, if_pos hd, ih]
      cases collapseBlanks before with
      | nil => simp [hspace]
      | cons e more =>
        by_cases he : e = ' '
        · simp [he]
        · simp [he]
    · rw [Bool.not_eq_true] at hd
      rw [List.cons_append, collapseBlanks_cons hd, ih, collapseBlanks_cons hd, List.cons_append]

/-- A blank behind a text adds one space at most. -/
theorem collapseBlanks_concat {c : Char} (hc : isBlank c = true) (s : List Char) :
    collapseBlanks (s ++ [c]) = collapseBlanks s ∨
      collapseBlanks (s ++ [c]) = collapseBlanks s ++ [' '] := by
  induction s with
  | nil =>
    refine .inr ?_
    rw [List.nil_append, collapseBlanks.eq_2, if_pos hc]
    rfl
  | cons d s ih =>
    by_cases hd : isBlank d = true
    · rw [List.cons_append, collapseBlanks, collapseBlanks, if_pos hd, if_pos hd]
      rcases ih with ih | ih
      · rw [ih]
        exact .inl rfl
      · rw [ih]
        cases collapseBlanks s with
        | nil => exact .inl rfl
        | cons e more =>
          by_cases he : e = ' '
          · simp [he]
          · simp [he]
    · rw [Bool.not_eq_true] at hd
      rw [List.cons_append, collapseBlanks_cons hd, collapseBlanks_cons hd, List.cons_append,
        List.cons.injEq, List.cons.injEq]
      simpa using ih

theorem trim_collapseBlanks_cons {c : Char} (hc : isBlank c = true) (s : List Char) :
    trim (collapseBlanks (c :: s)) = trim (collapseBlanks s) := by
  rw [collapseBlanks, if_pos hc]
  split
  · next h => rw [h]
  · exact trim_cons rfl _

theorem trim_collapseBlanks_concat {c : Char} (hc : isBlank c = true) (s : List Char) :
    trim (collapseBlanks (s ++ [c])) = trim (collapseBlanks s) := by
  rcases collapseBlanks_concat hc s with h | h
  · rw [h]
  · rw [h, trim_concat rfl]

theorem trim_collapseBlanks_trim (s : List Char) :
    trim (collapseBlanks (trim s)) = trim (collapseBlanks s) :=
  trim_invariant (f := fun s ↦ trim (collapseBlanks s)) (fun _ s hc ↦ trim_collapseBlanks_cons hc s)
    (fun _ s hc ↦ trim_collapseBlanks_concat hc s) s

theorem Bare.collapseBlanks {s : List Char} (h : Bare s) : Bare (collapseBlanks s) where
  first {d rest} hd := by
    cases s with
    | nil => cases hd
    | cons c s =>
      have hc := h.first rfl
      rw [collapseBlanks_cons hc] at hd
      exact (List.cons.inj hd).1 ▸ hc
  last {d front} hd := by
    rcases List.eq_nil_or_concat' s with rfl | ⟨s, c, rfl⟩
    · cases front <;> cases hd
    · have hc := h.last rfl
      rw [collapseBlanks_append_cons hc] at hd
      exact (List.append_singleton_inj.1 hd).2 ▸ hc

/-- Without blanks at its ends a text still occurs in another one when both are collapsed. -/
theorem Bare.infix_collapseBlanks {s text : List Char} (h : Bare s) (hs : s <:+: text) :
    Text.collapseBlanks s <:+: Text.collapseBlanks text := by
  cases s with
  | nil => exact List.nil_infix
  | cons c s =>
    obtain ⟨before, behind, rfl⟩ := hs
    have hc := h.first rfl
    obtain ⟨front, d, hlast⟩ : ∃ front d, c :: s = front ++ [d] :=
      (List.eq_nil_or_concat' (c :: s)).resolve_left (List.cons_ne_nil c s)
    have hd := h.last hlast
    have hbehind : Text.collapseBlanks (c :: s ++ behind) =
        Text.collapseBlanks (c :: s) ++ Text.collapseBlanks behind := by
      rw [hlast, List.append_assoc, List.singleton_append, collapseBlanks_append_cons hd,
        collapseBlanks_append_cons hd, List.append_assoc]
      rfl
    refine ⟨Text.collapseBlanks before, Text.collapseBlanks behind, ?_⟩
    rw [List.append_assoc, List.append_assoc, ← hbehind, List.cons_append,
      collapseBlanks_append_cons hc, collapseBlanks_cons hc]

theorem trim_isInfix (s : List Char) : trim s <:+: s := by
  obtain ⟨before, after, -, -, hs⟩ := exists_eq_trim s
  exact ⟨before, after, hs.symm⟩

/-- What occurs in a text still does when both are collapsed and trimmed. -/
theorem infix_trim_collapseBlanks {s text : List Char} (h : s <:+: text) :
    trim (collapseBlanks s) <:+: trim (collapseBlanks text) := by
  have hbare := Bare.trim s
  rw [← trim_collapseBlanks_trim s, hbare.collapseBlanks.trim_eq, hbare.collapseBlanks.infix_trim]
  exact hbare.infix_collapseBlanks ((trim_isInfix s).trans h)

end OutlineSearch.Text
