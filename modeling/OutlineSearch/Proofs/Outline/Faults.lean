import OutlineSearch.Outline.Tree
import OutlineSearch.Proofs.Number.Integers

/-!
# What is at fault in an outline

A text is read as an outline unless a scalar of its frontmatter cannot be built or one of its property
lines has an integer with too many digits. Nothing else in a text is a fault.
-/

namespace OutlineSearch.Outline

open OutlineSearch.Text OutlineSearch.Number

/-! ### Property lines -/

/-- A value is an integer with more digits than are read. -/
def TooLong (s : List Char) : Prop :=
  ∃ (negative : Bool) (digits : List Char), s = (if negative then ['-'] else []) ++ digits ∧
    (∀ c ∈ digits, isDecimal c = true) ∧ digitLimit < digits.length

theorem isDecimal_minus : isDecimal '-' = false := by decide

/-- A text of integer shape is digits behind a minus sign or none. -/
theorem isIntegerShape_iff (s : List Char) : isIntegerShape s = true ↔
    ∃ (negative : Bool) (digits : List Char),
      s = (if negative then ['-'] else []) ++ digits ∧ digits ≠ [] ∧
      ∀ c ∈ digits, isDecimal c = true := by
  unfold isIntegerShape
  constructor
  · intro h
    dsimp only at h
    split at h
    · next rest =>
      refine ⟨true, rest, rfl, ?_⟩
      simpa using h
    · refine ⟨false, s, rfl, ?_⟩
      simpa using h
  · rintro ⟨negative, digits, rfl, hne, hdigits⟩
    cases negative with
    | true => simpa [hne] using hdigits
    | false =>
      cases digits with
      | nil => exact absurd rfl hne
      | cons c digits =>
        have hminus : c ≠ '-' := by
          rintro rfl
          exact absurd (hdigits '-' (.head _)) (by simp [isDecimal_minus])
        dsimp only
        split
        · next heq => exact absurd (List.cons.inj heq).1 hminus
        · simpa using hdigits

theorem TooLong.isIntegerShape {s : List Char} (h : TooLong s) : isIntegerShape s = true := by
  obtain ⟨negative, digits, rfl, hdigits, hlong⟩ := h
  refine (isIntegerShape_iff _).2 ⟨negative, digits, rfl, ?_, hdigits⟩
  rintro rfl
  cases hlong

theorem tooLong_iff {negative : Bool} {digits : List Char} (hne : digits ≠ [])
    (hdigits : ∀ c ∈ digits, isDecimal c = true) :
    TooLong ((if negative then ['-'] else []) ++ digits) ↔ digitLimit < digits.length := by
  refine ⟨fun ⟨negative', digits', heq, hdigits', hlong⟩ ↦ ?_, fun h ↦ ⟨_, _, rfl, hdigits, h⟩⟩
  have hread := readInteger_decimals negative hne hdigits
  have hne' : digits' ≠ [] := by
    rintro rfl
    cases hlong
  rw [heq, readInteger_decimals negative' hne' hdigits', if_pos hlong] at hread
  split at hread
  · assumption
  · cases hread

/-! ### What can be had -/

section

variable {ε α β : Type}

theorem isOk_iff {x : Except ε α} : x.isOk = true ↔ ∃ a, x = .ok a := by
  cases x <;> simp [Except.isOk, Except.toBool]

theorem isOk_bind {x : Except ε α} {f : α → Except ε β} (hf : ∀ a, (f a).isOk = true) :
    (x >>= f).isOk = x.isOk := by
  cases x with
  | error e => rfl
  | ok a => exact hf a

theorem isOk_map {x : Except ε α} {f : α → β} : (x.map f).isOk = x.isOk := by
  cases x <;> rfl

end

/-- The lower-case form of a text is no shorter. -/
theorem length_le_lowerFrom (before s : List Char) : s.length ≤ (lowerFrom before s).length := by
  induction s generalizing before with
  | nil => exact Nat.zero_le _
  | cons c s ih =>
    have hform := ih (c :: before)
    rw [lowerFrom, List.length_append, List.length_cons]
    repeat' split
    all_goals simp only [List.length_cons, List.length_nil]; omega

theorem not_tooLong_of_lower {s word : List Char} (h : lower s = word)
    (hword : word.length ≤ digitLimit) : ¬TooLong s := by
  rintro ⟨negative, digits, rfl, -, hlong⟩
  have hle := length_le_lowerFrom [] ((if negative then ['-'] else []) ++ digits)
  rw [← lower, h, List.length_append] at hle
  omega

/-- The value of a property can be had unless it is an integer with too many digits. -/
theorem isOk_propertyValue_iff (raw : List Char) :
    (propertyValue raw).isOk = true ↔ ¬TooLong (trim raw) := by
  unfold propertyValue
  dsimp only
  generalize trim raw = s
  by_cases htrue : lower s = "true".toList
  · simp [htrue, not_tooLong_of_lower htrue (by decide), Except.isOk, Except.toBool]
  rw [if_neg htrue]
  by_cases hfalse : lower s = "false".toList
  · simp [hfalse, not_tooLong_of_lower hfalse (by decide), Except.isOk, Except.toBool]
  rw [if_neg hfalse]
  by_cases hshape : isIntegerShape s = true
  · obtain ⟨negative, digits, rfl, hne, hdigits⟩ := (isIntegerShape_iff s).1 hshape
    rw [if_pos hshape, readInteger_decimals negative hne hdigits, tooLong_iff hne hdigits]
    split
    · next n heq =>
      split at heq
      · cases heq
      · simpa only [Except.isOk, Except.toBool, true_iff] using ‹¬_›
    · next e heq =>
      split at heq
      · simpa [Except.isOk, Except.toBool] using ‹_ < _›
      · cases heq
  · have hlong : ¬TooLong s := fun h ↦ hshape h.isIntegerShape
    rw [if_neg hshape]
    split <;> simp [hlong, Except.isOk, Except.toBool]

/-- What a line says apart from its dash. -/
def said (line : List Char) : List Char :=
  match bullet? line with
  | some (_, first) => first
  | none => line

/-- A line gives a property an integer with too many digits. -/
def Overlong (line : List Char) : Prop :=
  ∃ key raw, propertyParts? (said line) = some (key, raw) ∧ TooLong (trim raw)

theorem isOk_propertyLine_iff (line : List Char) :
    (propertyLine (said line)).isOk = true ↔ ¬Overlong line := by
  rw [propertyLine]
  cases hparts : propertyParts? (said line) with
  | none => simp [Overlong, hparts, Except.isOk, Except.toBool]
  | some parts =>
    obtain ⟨key, raw⟩ := parts
    have hvalue := isOk_propertyValue_iff raw
    simp only [Overlong, hparts, Option.some.injEq, Prod.mk.injEq, isOk_map, hvalue]
    simp

/-- A line is added to what has been read unless it is overlong. -/
theorem isOk_add_iff (maxDepth : Int) (r : Reading) (line : List Char) :
    (r.add maxDepth line).isOk = true ↔ ¬Overlong line := by
  rw [← isOk_propertyLine_iff, Reading.add, said]
  cases bullet? line with
  | some bullet =>
    obtain ⟨indent, first⟩ := bullet
    dsimp only [Reading.addNode]
    rw [isOk_bind fun _ ↦ rfl]
  | none =>
    dsimp only [Reading.addLine]
    rw [isOk_bind]
    intro p
    split
    · rfl
    · split <;> rfl
    · rfl
    · rfl

/-- Lines are read unless one of them is overlong. -/
theorem isOk_foldlM_add_iff (maxDepth : Int) (r : Reading) (lines : List (List Char)) :
    (lines.foldlM (Reading.add maxDepth) r).isOk = true ↔ ∀ line ∈ lines, ¬Overlong line := by
  induction lines generalizing r with
  | nil => simp [Except.isOk, Except.toBool, pure, Except.pure]
  | cons line lines ih =>
    rw [List.foldlM_cons, List.forall_mem_cons, ← isOk_add_iff maxDepth r line]
    cases r.add maxDepth line with
    | error fault => simp [Except.isOk, Except.toBool, bind, Except.bind]
    | ok r' => simpa [Except.isOk, Except.toBool, bind, Except.bind] using ih r'

/-- A text can be read: the scalars of its frontmatter can be built, and no line behind it is
overlong. -/
def Readable (text : String) : Prop :=
  ∃ entries body, frontmatter text.toList = .ok (entries, body) ∧
    ∀ line ∈ lines body, ¬Overlong line

/-- A text that can be read is read, and no other one. -/
theorem isOk_items_iff (maxDepth : Int) (text : String) :
    (items maxDepth text).isOk = true ↔ Readable text := by
  rw [items, Readable]
  cases frontmatter text.toList with
  | error fault => simp [Except.isOk, Except.toBool, bind, Except.bind]
  | ok parts =>
    obtain ⟨entries, body⟩ := parts
    let given : Properties :=
      entries.foldl (fun known entry => known.put (lowered entry.1.plainText) entry.2) []
    have hlines := isOk_foldlM_add_iff maxDepth { pageProperties := given } (lines body)
    change Except.isOk ((lines body).foldlM (Reading.add maxDepth) { pageProperties := given } >>=
      fun r => pure (settle r.pageProperties r.allItems)) = true ↔ _
    rw [isOk_bind fun _ ↦ rfl]
    refine hlines.trans ⟨fun h ↦ ⟨entries, body, rfl, h⟩, ?_⟩
    rintro ⟨_, _, hparts, h⟩
    obtain ⟨rfl, rfl⟩ := Prod.mk.inj (Except.ok.inj hparts)
    exact h

end OutlineSearch.Outline
