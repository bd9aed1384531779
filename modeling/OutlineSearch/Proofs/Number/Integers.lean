import OutlineSearch.Proofs.Json.Numbers
import OutlineSearch.Proofs.Json.Strings
import OutlineSearch.Proofs.Text.Blanks

/-!
# Reading integers

Decimal digits of any script are read as the integer that they spell, unless there are too many of
them. So an integer is read again from its decimal form as long as that form is short enough.
-/

namespace OutlineSearch.Number

open OutlineSearch.Text

/-! ### Digits -/

/-- No decimal digit is a blank. -/
theorem isBlank_of_isDecimal {c : Char} (h : isDecimal c = true) : isBlank c = false := by
  cases hblank : isBlank c with
  | false => rfl
  | true =>
    have hnone : digitValue? c = none :=
      of_blankPoints (P := fun c ↦ digitValue? c = none) (by decide +kernel) hblank
    rw [isDecimal, hnone] at h
    cases h

theorem ascii_of_isDigit {c : Char} (h : c.isDigit = true) : c.toNat < 128 :=
  Nat.lt_of_le_of_lt (Char.isDigit_iff_toNat.1 h).2 (by decide)

theorem digitValue?_of_isDigit {c : Char} (h : c.isDigit = true) :
    digitValue? c = some (c.toNat - 48) := by
  simp [digitValue?, ascii_of_isDigit h, h]

theorem digitValue?_lt {c : Char} {d : Nat} (h : digitValue? c = some d) : d < 10 := by
  unfold digitValue? at h
  dsimp only at h
  split at h
  · split at h
    · next hdigit =>
      obtain rfl := Option.some.inj h
      have hrange := Char.isDigit_iff_toNat.1 hdigit
      have h9 : '9'.toNat = 57 := rfl
      omega
    · cases h
  · split at h
    · next hrange =>
      obtain rfl := Option.some.inj h
      omega
    · cases h

theorem baseDigit?_ten {c : Char} {d : Nat} (h : digitValue? c = some d) :
    baseDigit? 10 c = some d := by
  simp [baseDigit?, h, digitValue?_lt h]

theorem toLower_of_isDigit {c : Char} (h : c.isDigit = true) : c.toLower = c := by
  obtain ⟨-, hhigh⟩ := Char.isDigit_iff_toNat.1 h
  have hupper : ¬(c.val ≥ 'A'.val ∧ c.val ≤ 'Z'.val) := by
    rintro ⟨hA, -⟩
    have hA : 'A'.toNat ≤ c.toNat := UInt32.le_iff_toNat_le.1 hA
    have hlt : '9'.toNat < 'A'.toNat := by decide
    omega
  exact dif_neg hupper

/-- Digits have no case. -/
theorem isLower_of_isDigit {c : Char} (h : c.isDigit = true) : IsLower c := by
  have hlower := isLower_toLower (ascii_of_isDigit h)
  rwa [toLower_of_isDigit h] at hlower

/-! ### Integers -/

theorem ofDigits_concat (digits : List Nat) (d : Nat) :
    ofDigits (digits ++ [d]) = ofDigits digits * 10 + d := by
  rw [ofDigits, List.foldl_append]
  rfl

/-- Digits side by side. -/
theorem ofDigits_append (front back : List Nat) :
    ofDigits (front ++ back) = ofDigits front * 10 ^ back.length + ofDigits back := by
  induction back using List.reverseRecOn with
  | nil => rw [List.append_nil, List.length_nil, Nat.pow_zero, Nat.mul_one]; rfl
  | append_singleton back d ih =>
    rw [← List.append_assoc, ofDigits_concat, ofDigits_concat, ih, List.length_append,
      List.length_singleton, Nat.pow_succ, Nat.add_mul, Nat.mul_assoc, Nat.add_assoc]

theorem ofDigits_lt {digits : List Nat} (h : ∀ d ∈ digits, d < 10) :
    ofDigits digits < 10 ^ digits.length := by
  induction digits using List.reverseRecOn with
  | nil => exact Nat.one_pos
  | append_singleton digits d ih =>
    rw [List.forall_mem_append, List.forall_mem_singleton] at h
    have hdigits := ih h.1
    rw [ofDigits_concat, List.length_append, List.length_singleton, Nat.pow_succ]
    omega

/-- The digits of a text of decimal digits. -/
def decimals (s : List Char) : List Nat := s.map fun c => (digitValue? c).getD 0

theorem decimals_append (front back : List Char) :
    decimals (front ++ back) = decimals front ++ decimals back := List.map_append

theorem length_decimals (s : List Char) : (decimals s).length = s.length := List.length_map _

theorem lt_of_mem_decimals {s : List Char} : ∀ d ∈ decimals s, d < 10 := by
  refine List.forall_mem_map.2 fun c _ ↦ ?_
  cases hvalue : digitValue? c with
  | none => exact Nat.succ_pos 9
  | some d => exact digitValue?_lt hvalue

theorem decimals_of_isDigit {s : List Char} (h : ∀ c ∈ s, c.isDigit = true) :
    decimals s = s.map fun c => c.toNat - 48 :=
  List.map_congr_left fun c hc ↦ by
    rw [digitValue?_of_isDigit (h c hc)]
    rfl

theorem readDigits?_of_isDecimal {s : List Char} (hne : s ≠ [])
    (h : ∀ c ∈ s, isDecimal c = true) : readDigits? 10 s = some (decimals s) := by
  induction s with
  | nil => exact absurd rfl hne
  | cons c s ih =>
    obtain ⟨hc, hs⟩ := List.forall_mem_cons.1 h
    obtain ⟨d, hd⟩ := Option.isSome_iff_exists.1 hc
    have hdecimals : decimals (c :: s) = d :: decimals s := by simp [decimals, hd]
    rw [hdecimals]
    cases s with
    | nil =>
      rw [readDigits?, baseDigit?_ten hd]
      rfl
    | cons b s =>
      have hb : b ≠ '_' := by
        rintro rfl
        exact absurd (hs '_' (.head _)) (by decide)
      rw [readDigits?.eq_4 _ _ _ (by simp) (by simp [hb]), baseDigit?_ten hd, ih (by simp) hs]
      rfl

/-- The integer that decimal digits behind a sign spell. -/
def signedDecimals (negative : Bool) (s : List Char) : Int :=
  let n : Int := ofDigits (decimals s)
  if negative then -n else n

/-- Digits behind a minus sign or none are read as an integer unless there are too many of them. -/
theorem readInteger_decimals (negative : Bool) {s : List Char} (hne : s ≠ [])
    (h : ∀ c ∈ s, isDecimal c = true) :
    readInteger ((if negative then ['-'] else []) ++ s) =
      if digitLimit < s.length then .error (.tooLong s.length)
      else .ok (signedDecimals negative s) := by
  have htrim : trim ((if negative then ['-'] else []) ++ s) =
      (if negative then ['-'] else []) ++ s := by
    refine Json.trim_of_not_blank fun c hc ↦ ?_
    rcases List.mem_append.1 hc with hc | hc
    · cases negative with
      | true =>
        obtain rfl := List.mem_singleton.1 hc
        rfl
      | false => cases hc
    · exact isBlank_of_isDecimal (h c hc)
  have hsign : readSign ((if negative then ['-'] else []) ++ s) = (negative, s) := by
    cases negative with
    | true => rfl
    | false =>
      cases s with
      | nil => exact absurd rfl hne
      | cons c s =>
        have hc := h c (.head _)
        have hminus : c ≠ '-' := by
          rintro rfl
          exact absurd hc (by decide)
        have hplus : c ≠ '+' := by
          rintro rfl
          exact absurd hc (by decide)
        unfold readSign
        split
        · next heq => exact absurd (List.cons.inj heq).1 hminus
        · next heq => exact absurd (List.cons.inj heq).1 hplus
        · rfl
  rw [readInteger, htrim, hsign]
  simp only [readDigits?_of_isDecimal hne h, length_decimals]
  rfl

theorem isDecimal_of_isDigit {c : Char} (h : c.isDigit = true) : isDecimal c = true := by
  rw [isDecimal, digitValue?_of_isDigit h]
  rfl

/-- The decimal digits of a number spell it. -/
theorem ofDigits_decimals_toDigits (n : Nat) : ofDigits (decimals (Nat.toDigits 10 n)) = n := by
  rw [decimals_of_isDigit (Json.isDigit_toDigits n)]
  exact spelled_toDigits n

/-- A decimal form is digits behind a minus sign or none. -/
theorem exists_digits_toString (n : Int) : ∃ negative digits, digits ≠ [] ∧
    (∀ c ∈ digits, c.isDigit = true) ∧ digits.length = (Nat.toDigits 10 n.natAbs).length ∧
    (toString n).toList = (if negative then ['-'] else []) ++ digits ∧
    signedDecimals negative digits = n := by
  refine ⟨decide (n < 0), _, Nat.toDigits_ne_nil, Json.isDigit_toDigits n.natAbs, rfl, ?_, ?_⟩
  · rw [Json.toList_toString]
    simp only [decide_eq_true_eq]
  · rw [signedDecimals, ofDigits_decimals_toDigits]
    simp only [decide_eq_true_eq]
    omega

/-- An integer is read again from its decimal form. -/
theorem readInteger_toString_int {n : Int} (h : (Nat.toDigits 10 n.natAbs).length ≤ digitLimit) :
    readInteger (toString n).toList = .ok n := by
  obtain ⟨negative, digits, hne, hdigits, hlength, htext, hvalue⟩ := exists_digits_toString n
  rw [htext, readInteger_decimals negative hne fun c hc ↦ isDecimal_of_isDigit (hdigits c hc),
    if_neg (Nat.not_lt.2 (hlength ▸ h)), hvalue]

theorem readInteger_toString (n : Nat) (h : (Nat.toDigits 10 n).length ≤ digitLimit) :
    readInteger (toString (n : Int)).toList = .ok n :=
  readInteger_toString_int h

end OutlineSearch.Number
