import OutlineSearch.Json.Reader
import OutlineSearch.Json.Writer
import OutlineSearch.Proofs.Number.Shortest
import Mathlib.Data.List.TakeDrop

/-!
# Numbers in JSON texts

A number that is written is read again as itself, whatever follows it, provided that this is not
more of a number. An integer is read as an integer and a floating point number as a floating point
number.
-/

namespace OutlineSearch.Json

open OutlineSearch.Number OutlineSearch.Text OutlineSearch.Binary64

/-- What may follow a number: nothing that would be read as a part of it. -/
def Ends (rest : List Char) : Prop :=
  ∀ c, rest.head? = some c → c.isDigit = false ∧ c ≠ '.' ∧ c ≠ 'e' ∧ c ≠ 'E'

theorem ends_nil : Ends [] := by
  intro c h
  cases h

theorem ends_cons {c : Char} {rest : List Char} (hdigit : c.isDigit = false) (hpoint : c ≠ '.')
    (he : c ≠ 'e') (hE : c ≠ 'E') : Ends (c :: rest) := by
  intro d h
  obtain rfl : c = d := Option.some.inj h
  exact ⟨hdigit, hpoint, he, hE⟩

/-- Digits in front of something else are read to their end. -/
theorem spanPlain_append {digits rest : List Char} (hdigits : ∀ c ∈ digits, c.isDigit = true)
    (hrest : ∀ c, rest.head? = some c → c.isDigit = false) :
    spanPlain (digits ++ rest) = (digits, rest) := by
  unfold spanPlain
  rw [List.span_eq_takeWhile_dropWhile]
  have hnone : rest.takeWhile Char.isDigit = [] ∧ rest.dropWhile Char.isDigit = rest := by
    cases rest with
    | nil => exact ⟨rfl, rfl⟩
    | cons c rest =>
      have hc := hrest c rfl
      exact ⟨List.takeWhile_cons_of_neg (by simp [hc]), List.dropWhile_cons_of_neg (by simp [hc])⟩
  rw [List.takeWhile_append_of_pos hdigits, List.dropWhile_append_of_pos hdigits, hnone.1, hnone.2,
    List.append_nil]

/-- What a number is made of: whole digits, digits behind a point, and an exponent. -/
def readParts (negative : Bool) (whole fraction : List Char) (mark : Option Int)
    (rest : List Char) : Option (Json × List Char) :=
  if fraction.isEmpty && mark.isNone then
    if digitLimit < whole.length then none
    else some (int (if negative then -(spelled whole : Int) else spelled whole), rest)
  else
    some (float (ofDecimal negative (spelled (whole ++ fraction)) (mark.getD 0 - fraction.length)),
      rest)

/-- A number whose whole digits do not start with a superfluous zero is read by its parts. -/
theorem readNumber?_eq (negative : Bool) {whole more : List Char}
    (hdigits : ∀ c ∈ whole, c.isDigit = true) (hnil : whole ≠ [])
    (hzero : whole.head? = some '0' → whole = ['0'])
    (hmore : ∀ c, more.head? = some c → c.isDigit = false) :
    readNumber? negative (whole ++ more) =
      readParts negative whole (readFraction more).1 (readMark (readFraction more).2).1
        (readMark (readFraction more).2).2 := by
  unfold readNumber?
  rw [spanPlain_append hdigits hmore]
  dsimp only
  split
  · next d tail =>
    have hone := hzero rfl
    simp at hone
  · dsimp only
    rw [if_neg (by simpa using hnil)]
    rfl

theorem readParts_float (negative : Bool) (whole : List Char) {fraction : List Char}
    {mark : Option Int} (h : fraction ≠ [] ∨ mark ≠ none) (rest : List Char) :
    readParts negative whole fraction mark rest =
      some (float (ofDecimal negative (spelled (whole ++ fraction))
        (mark.getD 0 - fraction.length)), rest) := by
  unfold readParts
  rw [if_neg]
  rw [Bool.and_eq_true, List.isEmpty_iff, Option.isNone_iff_eq_none]
  rintro ⟨hfraction, hmark⟩
  exact h.elim (fun h ↦ h hfraction) (fun h ↦ h hmark)

/-! ### Fractions and exponents -/

theorem readFraction_of_ne {s : List Char} (h : s.head? ≠ some '.') : readFraction s = ([], s) := by
  unfold readFraction
  split
  · exact absurd rfl h
  · rfl

theorem readFraction_digits {digits rest : List Char} (hdigits : ∀ c ∈ digits, c.isDigit = true)
    (hnil : digits ≠ []) (hrest : ∀ c, rest.head? = some c → c.isDigit = false) :
    readFraction ('.' :: (digits ++ rest)) = (digits, rest) := by
  change (if (spanPlain (digits ++ rest)).1.isEmpty then ([], '.' :: (digits ++ rest))
    else ((spanPlain (digits ++ rest)).1, (spanPlain (digits ++ rest)).2)) = (digits, rest)
  rw [spanPlain_append hdigits hrest]
  exact if_neg (by simpa using hnil)

theorem readMark_of_ends {rest : List Char} (h : Ends rest) : readMark rest = (none, rest) := by
  cases rest with
  | nil => rfl
  | cons c rest =>
    obtain ⟨-, -, he, hE⟩ := h c rfl
    unfold readMark
    exact if_neg (by simp [he, hE])

/-- The exponent that is written is read again. -/
theorem readMark_writeExponent (e : Int) {rest : List Char}
    (hrest : ∀ c, rest.head? = some c → c.isDigit = false) :
    readMark (writeExponent numberFormat e ++ rest) = (some e, rest) := by
  unfold writeExponent
  dsimp only
  generalize hzeros : List.replicate (numberFormat.exponentDigits -
    (Nat.toDigits 10 e.natAbs).length) '0' = zeros
  have hdigits : ∀ c ∈ zeros ++ Nat.toDigits 10 e.natAbs, c.isDigit = true := by
    intro c hc
    rcases List.mem_append.1 hc with hc | hc
    · rw [← hzeros] at hc
      rw [List.eq_of_mem_replicate hc]
      rfl
    · exact Nat.isDigit_of_mem_toDigits (by decide) (by decide) hc
  have hspelled : spelled (zeros ++ Nat.toDigits 10 e.natAbs) = e.natAbs := by
    rw [spelled_append, spelled_toDigits, ← hzeros, spelled_zeros, Nat.zero_mul, Nat.zero_add]
  have hnil : zeros ++ Nat.toDigits 10 e.natAbs ≠ [] :=
    List.append_ne_nil_of_right_ne_nil _ Nat.toDigits_ne_nil
  have hsign : readSign ((if e < 0 then '-' else '+') :: (zeros ++ Nat.toDigits 10 e.natAbs ++ rest)) =
      (decide (e < 0), zeros ++ Nat.toDigits 10 e.natAbs ++ rest) := by
    split
    · next h => simp [readSign, h]
    · next h => simp [readSign, h]
  unfold readMark
  simp only [List.cons_append]
  rw [if_pos (by decide), hsign]
  dsimp only
  rw [spanPlain_append hdigits hrest]
  dsimp only
  rw [if_neg (by simp)]
  change (some (if decide (e < 0) = true then
    -(spelled (zeros ++ Nat.toDigits 10 e.natAbs) : Int)
    else spelled (zeros ++ Nat.toDigits 10 e.natAbs)), rest) = _
  rw [hspelled]
  congr 2
  split
  · next h =>
    rw [decide_eq_true_eq] at h
    omega
  · next h =>
    rw [decide_eq_true_eq] at h
    omega

/-! ### Floating point numbers -/

theorem not_isDigit_of_ends {rest : List Char} (h : Ends rest) :
    ∀ c, rest.head? = some c → c.isDigit = false :=
  fun c hc ↦ (h c hc).1

theorem not_isDigit_writeExponent (e : Int) (rest : List Char) :
    ∀ c, (writeExponent numberFormat e ++ rest).head? = some c → c.isDigit = false := by
  intro c hc
  obtain rfl : 'e' = c := Option.some.inj hc
  rfl

theorem not_isDigit_point (s : List Char) :
    ∀ c, ('.' :: s).head? = some c → c.isDigit = false := by
  intro c hc
  obtain rfl : '.' = c := Option.some.inj hc
  rfl

/-- A text of digits, a point, more digits and nothing else that belongs to a number. -/
theorem readNumber?_point (negative : Bool) {whole fraction rest : List Char}
    (hwhole : ∀ c ∈ whole, c.isDigit = true) (hnil : whole ≠ [])
    (hzero : whole.head? = some '0' → whole = ['0'])
    (hfraction : ∀ c ∈ fraction, c.isDigit = true) (hnil' : fraction ≠ []) (hrest : Ends rest) :
    readNumber? negative (whole ++ '.' :: (fraction ++ rest)) =
      some (float (ofDecimal negative (spelled (whole ++ fraction)) (-fraction.length)), rest) := by
  rw [readNumber?_eq negative hwhole hnil hzero (not_isDigit_point _),
    readFraction_digits hfraction hnil' (not_isDigit_of_ends hrest), readMark_of_ends hrest,
    readParts_float negative whole (.inl hnil'), Option.getD_none, Int.zero_sub]

/-- A text is read as the decimal `k * 10 ^ e`, perhaps with more zeros behind its digits. -/
def ReadsDecimal (negative : Bool) (s : List Char) (k : Nat) (e : Int) : Prop :=
  ∀ rest, Ends rest → ∃ j : Nat,
    readNumber? negative (s ++ rest) = some (float (ofDecimal negative (k * 10 ^ j) (e - j)), rest)

theorem isDigit_zeros (n : Nat) : ∀ c ∈ List.replicate n '0', c.isDigit = true := by
  intro c hc
  rw [List.eq_of_mem_replicate hc]
  rfl

theorem isDigit_zero : ∀ c ∈ ['0'], c.isDigit = true :=
  isDigit_zeros 1

theorem isDigit_append {a b : List Char} (ha : ∀ c ∈ a, c.isDigit = true)
    (hb : ∀ c ∈ b, c.isDigit = true) : ∀ c ∈ a ++ b, c.isDigit = true :=
  fun c hc ↦ (List.mem_append.1 hc).elim (ha c) (hb c)

/-- A digit by itself has no nought in front of it. -/
theorem eq_zero_of_head? (d : Char) (h : [d].head? = some '0') : [d] = ['0'] :=
  congrArg (fun c ↦ [c]) (Option.some.inj h)

/-- One digit with an exponent. -/
theorem reads_digit (negative : Bool) {d : Char} (hd : d.isDigit = true) (p : Int) :
    ReadsDecimal negative (d :: writeExponent numberFormat (p - 1)) (spelled [d]) (p - 1) := by
  intro rest hrest
  refine ⟨0, ?_⟩
  have hdigit : ∀ c ∈ [d], c.isDigit = true := List.forall_mem_singleton.2 hd
  rw [List.cons_append, ← List.singleton_append,
    readNumber?_eq negative hdigit (by simp) (eq_zero_of_head? d) (not_isDigit_writeExponent _ _),
    readFraction_of_ne (by simp [writeExponent]),
    readMark_writeExponent _ (not_isDigit_of_ends hrest),
    readParts_float negative _ (.inr (by simp))]
  simp

/-- A digit, a point and more digits with an exponent. -/
theorem reads_digits (negative : Bool) {d : Char} {tail : List Char} (hd : d.isDigit = true)
    (htail : ∀ c ∈ tail, c.isDigit = true) (hnil : tail ≠ []) (p : Int) :
    ReadsDecimal negative (d :: '.' :: (tail ++ writeExponent numberFormat (p - 1)))
      (spelled (d :: tail)) (p - (d :: tail).length) := by
  intro rest hrest
  refine ⟨0, ?_⟩
  have hdigit : ∀ c ∈ [d], c.isDigit = true := List.forall_mem_singleton.2 hd
  rw [List.cons_append, List.cons_append, List.append_assoc, ← List.singleton_append,
    readNumber?_eq negative hdigit (by simp) (eq_zero_of_head? d) (not_isDigit_point _),
    readFraction_digits htail hnil (not_isDigit_writeExponent _ _),
    readMark_writeExponent _ (not_isDigit_of_ends hrest),
    readParts_float negative _ (.inl hnil), List.singleton_append, Option.getD_some,
    List.length_cons, Nat.pow_zero, Nat.mul_one]
  congr 4
  omega

/-- Digits behind a point and zeros. -/
theorem reads_behind_zeros (negative : Bool) {digits : List Char}
    (hdigits : ∀ c ∈ digits, c.isDigit = true) (hnil : digits ≠ []) (n : Nat) :
    ReadsDecimal negative ('0' :: '.' :: (List.replicate n '0' ++ digits)) (spelled digits)
      (-n - digits.length) := by
  intro rest hrest
  refine ⟨0, ?_⟩
  have hspelled : spelled (['0'] ++ (List.replicate n '0' ++ digits)) = spelled digits := by
    rw [spelled_append, spelled_append, spelled_zeros, show spelled ['0'] = 0 by decide,
      Nat.zero_mul, Nat.zero_mul, Nat.zero_add, Nat.zero_add]
  rw [List.cons_append, List.cons_append, ← List.singleton_append,
    readNumber?_point negative isDigit_zero (by decide) (fun _ ↦ rfl)
      (isDigit_append (isDigit_zeros n) hdigits) (List.append_ne_nil_of_right_ne_nil _ hnil) hrest,
    hspelled, Nat.pow_zero, Nat.mul_one, List.length_append, List.length_replicate]
  congr 4
  omega

/-- Digits with a point between them. -/
theorem reads_around_point (negative : Bool) {digits : List Char} (hdigits : Significant digits)
    {n : Nat} (hn : n < digits.length) (hpos : 0 < n) :
    ReadsDecimal negative (digits.take n ++ '.' :: digits.drop n) (spelled digits)
      (n - digits.length) := by
  obtain ⟨hdigit, hnil, hhead⟩ := hdigits
  intro rest hrest
  refine ⟨0, ?_⟩
  have hfraction : digits.drop n ≠ [] := by
    rw [ne_eq, List.drop_eq_nil_iff]
    omega
  have hwhole : digits.take n ≠ [] := by
    rw [ne_eq, List.take_eq_nil_iff]
    exact fun h ↦ h.elim (by omega) hnil
  have hfirst : (digits.take n).head? ≠ some '0' := by
    rwa [List.head?_take, if_neg (by omega)]
  rw [List.append_assoc, List.cons_append,
    readNumber?_point negative (fun c hc ↦ hdigit c (List.mem_of_mem_take hc)) hwhole
      (fun h ↦ absurd h hfirst) (fun c hc ↦ hdigit c (List.mem_of_mem_drop hc)) hfraction hrest,
    List.take_append_drop, List.length_drop, Nat.pow_zero, Nat.mul_one]
  congr 4
  omega

/-- Digits and zeros in front of a point. -/
theorem reads_before_point (negative : Bool) {digits : List Char} (hdigits : Significant digits)
    (n : Nat) :
    ReadsDecimal negative (digits ++ List.replicate n '0' ++ '.' :: ['0']) (spelled digits) n := by
  obtain ⟨hdigit, hnil, hhead⟩ := hdigits
  intro rest hrest
  refine ⟨n + 1, ?_⟩
  have hfirst : (digits ++ List.replicate n '0').head? ≠ some '0' := by
    rwa [List.head?_append_of_ne_nil _ hnil]
  rw [List.append_assoc, List.cons_append,
    readNumber?_point negative (isDigit_append hdigit (isDigit_zeros n))
      (List.append_ne_nil_of_left_ne_nil hnil _) (fun h ↦ absurd h hfirst)
      isDigit_zero (by decide) hrest,
    spelled_append, spelled_append, spelled_zeros, List.length_replicate,
    show spelled ['0'] = 0 by decide, Nat.add_zero, Nat.add_zero, Nat.mul_assoc, ← Nat.pow_add]
  congr 4
  simp

/-- The digits of a decimal that are written are read as that decimal. -/
theorem reads_writeDigits (negative : Bool) {digits : List Char} (hdigits : Significant digits)
    (p : Int) : ReadsDecimal negative (writeDigits numberFormat digits p) (spelled digits)
      (p - digits.length) := by
  have hdigit := hdigits.isDigit
  unfold writeDigits
  split
  · split
    · exact absurd rfl hdigits.ne_nil
    · next d => exact reads_digit negative (hdigit d List.mem_cons_self) p
    · next d tail hne =>
      exact reads_digits negative (hdigit d List.mem_cons_self)
        (fun c hc ↦ hdigit c (List.mem_cons_of_mem _ hc)) hne p
  · split
    · have h := reads_behind_zeros negative hdigit hdigits.ne_nil (-p).toNat
      rwa [show -((-p).toNat : Int) = p by omega] at h
    · dsimp only
      by_cases hshort : p.toNat < digits.length
      · have h := reads_around_point negative hdigits hshort (by omega)
        have hfraction : (digits.drop p.toNat).isEmpty = false := by
          rw [List.isEmpty_eq_false_iff, ne_eq, List.drop_eq_nil_iff]
          omega
        rw [show p.toNat - digits.length = 0 by omega, List.replicate_zero, List.append_nil,
          hfraction]
        rwa [show (p.toNat : Int) = p by omega] at h
      · have h := reads_before_point negative hdigits (p.toNat - digits.length)
        rw [List.take_of_length_le (by omega), List.drop_eq_nil_of_le (by omega)]
        rwa [show ((p.toNat - digits.length : Nat) : Int) = p - digits.length by omega] at h

/-- The number at the start of a text, with its sign. -/
def readSigned? : List Char → Option (Json × List Char)
  | '-' :: rest => readNumber? true rest
  | s => readNumber? false s

theorem readSigned?_minus (s : List Char) : readSigned? ('-' :: s) = readNumber? true s := rfl

theorem readSigned?_of_readNumber? {s : List Char} {r : Json × List Char}
    (h : readNumber? false s = some r) : readSigned? s = some r := by
  unfold readSigned?
  split
  · exact absurd h (by intro h; cases h)
  · exact h

/-- A decimal in the interval of a number is read as that number, however it is written. -/
theorem ReadsDecimal.eq {negative : Bool} {s : List Char} {k n : Nat} {e : Int}
    (h : ReadsDecimal negative s k e) (hn : IsSteps n) (hpos : 0 < n)
    (hcontains : (RoundingInterval.ofSteps n).ContainsDecimal k e) {rest : List Char}
    (hrest : Ends rest) :
    readNumber? negative (s ++ rest) = some (float (signed negative n), rest) := by
  obtain ⟨j, hj⟩ := h rest hrest
  have hshift := (RoundingInterval.containsDecimal_shift _ k j (e - j)).2
    (by rwa [Int.sub_add_cancel])
  rw [hj, ofDecimal_eq hn hpos hshift]

/-- A finite number is read as itself. -/
theorem readSigned?_writeFloat {x : Binary64} (hx : IsDouble x) {rest : List Char}
    (hrest : Ends rest) :
    readSigned? ((writeFloat numberFormat x).toList ++ rest) = some (float x, rest) := by
  have hzero (negative : Bool) : readNumber? negative (['0'] ++ '.' :: (['0'] ++ rest)) =
      some (float (if negative then .negativeZero else .finite 0), rest) := by
    rw [readNumber?_point negative isDigit_zero (by decide) (fun _ ↦ rfl) isDigit_zero
      (by decide) hrest]
    rfl
  cases x with
  | nan => exact hx.elim
  | infinite negative => exact hx.elim
  | negativeZero => exact hzero true
  | finite s =>
    by_cases hs : s = 0
    · rw [hs]
      exact readSigned?_of_readNumber? (hzero false)
    · have hpos : 0 < s.natAbs := Int.natAbs_pos.2 hs
      obtain ⟨hdigits, hcontains⟩ := shortestDigits_spec hx hpos
      have hread (negative : Bool) :=
        (reads_writeDigits negative hdigits (shortestDigits s.natAbs).2).eq hx hpos hcontains hrest
      unfold writeFloat
      dsimp only
      rw [if_neg hs]
      by_cases hneg : s < 0
      · rw [if_pos hneg, String.toList_append, String.toList_ofList,
          String.toList_ofList, List.append_assoc, List.singleton_append,
          readSigned?_minus, hread true, signed, if_pos rfl, show -(s.natAbs : Int) = s by omega]
      · rw [if_neg hneg, String.toList_ofList, readSigned?_of_readNumber? (hread false), signed,
          if_neg Bool.false_ne_true, show (s.natAbs : Int) = s by omega]

/-! ### Integers -/

/-- The sign and the digits of an integer. -/
theorem toList_toString (n : Int) :
    (toString n).toList = (if n < 0 then ['-'] else []) ++ Nat.toDigits 10 n.natAbs := by
  cases n with
  | ofNat m =>
    change (Nat.repr m).toList = _
    simp [Nat.repr]
  | negSucc m =>
    change ("-" ++ Nat.repr (m + 1)).toList = _
    simp [Nat.repr]

theorem isDigit_toDigits (n : Nat) : ∀ c ∈ Nat.toDigits 10 n, c.isDigit = true :=
  fun _ hc ↦ Nat.isDigit_of_mem_toDigits (by decide) (by decide) hc

/-- The sign in front of digits, and the digits. -/
theorem readSign_toString (n : Int) (rest : List Char) :
    readSign ((toString n).toList ++ rest) =
      (decide (n < 0), Nat.toDigits 10 n.natAbs ++ rest) := by
  rw [toList_toString]
  by_cases hn : n < 0
  · rw [if_pos hn, decide_eq_true hn]
    rfl
  · rw [if_neg hn, decide_eq_false hn, List.nil_append]
    cases hdigits : Nat.toDigits 10 n.natAbs with
    | nil => exact absurd hdigits Nat.toDigits_ne_nil
    | cons d tail =>
      have hd : d.isDigit = true := isDigit_toDigits n.natAbs d (by rw [hdigits]; exact .head _)
      unfold readSign
      split
      · next h => simp_all
      · next h => simp_all
      · rfl

/-- Two integers with one text are the same, and the same stands behind them. -/
theorem toString_inj {n m : Int} {rest rest' : List Char} (hrest : Ends rest) (hrest' : Ends rest')
    (h : (toString n).toList ++ rest = (toString m).toList ++ rest') : n = m ∧ rest = rest' := by
  have hsign := congrArg readSign h
  rw [readSign_toString, readSign_toString, Prod.mk.injEq] at hsign
  have hspan := congrArg spanPlain hsign.2
  rw [spanPlain_append (isDigit_toDigits _) (not_isDigit_of_ends hrest),
    spanPlain_append (isDigit_toDigits _) (not_isDigit_of_ends hrest'), Prod.mk.injEq] at hspan
  have habs : n.natAbs = m.natAbs := by
    rw [← spelled_toDigits n.natAbs, hspan.1, spelled_toDigits]
  have hneg : n < 0 ↔ m < 0 := decide_eq_decide.1 hsign.1
  exact ⟨by omega, hspan.2⟩

/-- Digits that nothing belongs to are not read as a floating point number. -/
theorem readNumber?_toDigits_ne (negative : Bool) (n : Nat) (x : Binary64)
    {rest rest' : List Char} (hrest : Ends rest) :
    readNumber? negative (Nat.toDigits 10 n ++ rest) ≠ some (float x, rest') := by
  have hzero : (Nat.toDigits 10 n).head? = some '0' → Nat.toDigits 10 n = ['0'] := by
    intro h
    rcases Nat.eq_zero_or_pos n with rfl | hpos
    · rfl
    · exact absurd h (head?_toDigits hpos)
  have hpoint : rest.head? ≠ some '.' := fun h ↦ (hrest _ h).2.1 rfl
  rw [readNumber?_eq negative (isDigit_toDigits n) Nat.toDigits_ne_nil hzero
    (not_isDigit_of_ends hrest), readFraction_of_ne hpoint, readMark_of_ends hrest]
  unfold readParts
  rw [if_pos (by rfl)]
  split
  · exact fun h ↦ by cases h
  · exact fun h ↦ by cases h

/-- The text of an integer is not read as a floating point number. -/
theorem readSigned?_toString_ne (n : Int) (x : Binary64) {rest rest' : List Char}
    (hrest : Ends rest) : readSigned? ((toString n).toList ++ rest) ≠ some (float x, rest') := by
  rw [toList_toString]
  split
  · exact readNumber?_toDigits_ne true n.natAbs x hrest
  · intro h
    unfold readSigned? at h
    split at h
    · next hminus =>
      have hhead := congrArg List.head? hminus
      rw [List.nil_append, List.head?_append_of_ne_nil _ Nat.toDigits_ne_nil] at hhead
      exact absurd (isDigit_toDigits _ _ (List.mem_of_head? hhead)) (by decide)
    · exact readNumber?_toDigits_ne false n.natAbs x hrest h

end OutlineSearch.Json
