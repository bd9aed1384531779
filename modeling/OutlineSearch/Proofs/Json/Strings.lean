import OutlineSearch.Json.Reader
import OutlineSearch.Json.Writer

/-!
# Strings in JSON texts

Every character of a string is read again from the way in which it is written: as itself, behind a
backslash, or as the hexadecimal form of its UTF-16 units. So a string is read again as itself.
-/

namespace OutlineSearch.Json

open OutlineSearch.Number OutlineSearch.Text

/-! ### Hexadecimal digits -/

/-- A character that may stand among four hexadecimal digits. -/
def isHexDigit (c : Char) : Bool :=
  c.isDigit || ('a' ≤ c && c ≤ 'f') || ('A' ≤ c && c ≤ 'F')

theorem hexDigit_spec : ∀ d < 16, baseDigit? 16 (Nat.digitChar d) = some d ∧
    isBlank (Nat.digitChar d) = false ∧ isHexDigit (Nat.digitChar d) = true ∧
    Nat.digitChar d ≠ '-' ∧ Nat.digitChar d ≠ '+' ∧ Nat.digitChar d ≠ '_' := by
  decide +kernel

/-- A padded number ends in its last digit. -/
theorem hex_succ {m : Nat} (hm : 0 < m) (n : Nat) :
    hex (m + 1) n = hex m (n / 16) ++ [Nat.digitChar (n % 16)] := by
  unfold hex
  dsimp only
  rw [Nat.toDigits_eq_if (b := 16) (n := n) (by decide)]
  split
  · next hn =>
    rw [Nat.div_eq_of_lt hn, Nat.mod_eq_of_lt hn, Nat.toDigits_of_lt_base (by decide),
      List.length_singleton, List.length_singleton, Nat.add_sub_cancel,
      show [Nat.digitChar 0] = List.replicate 1 '0' from rfl, List.replicate_append_replicate,
      Nat.sub_add_cancel hm]
  · rw [List.length_append, List.length_singleton, Nat.add_sub_add_right, List.append_assoc]

/-- The four hexadecimal digits of a unit. -/
theorem hex_four {n : Nat} (hn : n < 0x10000) : hex 4 n =
    [Nat.digitChar (n / 0x1000), Nat.digitChar (n / 0x100 % 16), Nat.digitChar (n / 0x10 % 16),
      Nat.digitChar (n % 16)] := by
  have hone : hex 1 (n / 0x1000) = [Nat.digitChar (n / 0x1000)] := by
    unfold hex
    rw [Nat.toDigits_of_lt_base (by omega)]
    rfl
  rw [hex_succ (by decide), hex_succ (by decide), hex_succ (by decide), Nat.div_div_eq_div_mul,
    Nat.div_div_eq_div_mul, hone]
  simp only [List.cons_append, List.nil_append, Nat.div_div_eq_div_mul]

theorem trim_of_not_blank {s : List Char} (h : ∀ c ∈ s, isBlank c = false) : trim s = s := by
  have hdrop (t : List Char) (ht : ∀ c ∈ t, isBlank c = false) : t.dropWhile isBlank = t := by
    cases t with
    | nil => rfl
    | cons c t => exact List.dropWhile_cons_of_neg (by simp [ht c List.mem_cons_self])
  unfold trim trimStart trimEnd dropEndWhile
  rw [hdrop s h, hdrop s.reverse (fun c hc ↦ h c (List.mem_reverse.1 hc)), List.reverse_reverse]

/-- Four hexadecimal digits are read as the number that they spell. -/
theorem readHex4?_digits {a b c d : Nat} (ha : a < 16) (hb : b < 16) (hc : c < 16) (hd : d < 16)
    (rest : List Char) :
    readHex4? (Nat.digitChar a :: Nat.digitChar b :: Nat.digitChar c :: Nat.digitChar d :: rest) =
      some (((a * 16 + b) * 16 + c) * 16 + d, rest) := by
  obtain ⟨hda, hba, hxa, hma, hpa, hua⟩ := hexDigit_spec a ha
  obtain ⟨hdb, hbb, hxb, hmb, hpb, hub⟩ := hexDigit_spec b hb
  obtain ⟨hdc, hbc, hxc, hmc, hpc, huc⟩ := hexDigit_spec c hc
  obtain ⟨hdd, hbd, hxd, hmd, hpd, hud⟩ := hexDigit_spec d hd
  generalize Nat.digitChar a = x at *
  generalize Nat.digitChar b = y at *
  generalize Nat.digitChar c = z at *
  generalize Nat.digitChar d = w at *
  have htrim : trim [x, y, z, w] = [x, y, z, w] := by
    apply trim_of_not_blank
    intro e he
    simp only [List.mem_cons, List.not_mem_nil, or_false] at he
    rcases he with rfl | rfl | rfl | rfl <;> assumption
  have hsign : readSign [x, y, z, w] = (false, [x, y, z, w]) := by
    unfold readSign
    split
    · simp_all
    · simp_all
    · rfl
  have hdigits : readDigits? 16 [x, y, z, w] = some [a, b, c, d] := by
    simp [readDigits?, hda, hdb, hdc, hdd, hub, huc, hud]
  have hbase : readInBase? 16 [x, y, z, w] = some ((((a * 16 + b) * 16 + c) * 16 + d : Nat) : Int) := by
    unfold readInBase?
    rw [htrim, hsign]
    dsimp only
    rw [hdigits]
    simp
  have hall : [x, y, z, w].all isHexDigit = true := by
    simp [hxa, hxb, hxc, hxd]
  refine (if_pos hall).trans ?_
  rw [hbase]
  rfl

/-- The hexadecimal form of a unit is read as the unit. -/
theorem readHex4?_hex {n : Nat} (hn : n < 0x10000) (rest : List Char) :
    readHex4? (hex 4 n ++ rest) = some (n, rest) := by
  rw [hex_four hn]
  refine (readHex4?_digits (by omega) (Nat.mod_lt _ (by decide)) (Nat.mod_lt _ (by decide))
    (Nat.mod_lt _ (by decide)) rest).trans ?_
  congr 2
  omega

/-! ### Escaped characters -/

/-- A unit that is no half of a pair is read as its character. -/
theorem readUnit?_hex {n : Nat} (hn : n < 0x10000) (hhalf : n < 0xD800 ∨ 0xDFFF < n)
    (rest : List Char) : readUnit? (hex 4 n ++ rest) = some (Char.ofNat n, rest) := by
  unfold readUnit?
  rw [readHex4?_hex hn, Option.bind_eq_bind, Option.bind_some]
  dsimp only
  rw [if_neg (by omega), if_neg (by omega)]
  rfl

/-- The two halves of a pair are read as their character. -/
theorem readUnit?_pair {a b : Nat} (ha : a < 0x400) (hb : b < 0x400) (rest : List Char) :
    readUnit? (hex 4 (0xD800 + a) ++ '\\' :: 'u' :: (hex 4 (0xDC00 + b) ++ rest)) =
      some (Char.ofNat (0x10000 + a * 0x400 + b), rest) := by
  unfold readUnit?
  rw [readHex4?_hex (by omega), Option.bind_eq_bind, Option.bind_some]
  dsimp only
  rw [if_pos (by omega)]
  simp only [readHex4?_hex (show 0xDC00 + b < 0x10000 by omega)]
  rw [if_pos (by omega), Nat.add_sub_cancel_left, Nat.add_sub_cancel_left]
  rfl

theorem toNat_not_half (c : Char) : c.toNat < 0xD800 ∨ 0xDFFF < c.toNat ∧ c.toNat < 0x110000 :=
  c.valid

/-- A character that is read in front of the rest of a string. -/
def readBefore (c : Char) (r : Option (List Char × List Char)) : Option (List Char × List Char) :=
  r.map fun (cs, rest) => (c :: cs, rest)

theorem readString?_plain {c : Char} (hquote : c ≠ '"') (hslash : c ≠ '\\')
    (hcontrol : 0x20 ≤ c.toNat) (fuel : Nat) (more : List Char) :
    readString? (fuel + 1) (c :: more) = readBefore c (readString? fuel more) := by
  rw [readString?.eq_def]
  dsimp only
  rw [if_neg (by simpa using hquote), if_neg (by simpa using hslash),
    if_neg (Nat.not_lt.2 hcontrol)]
  cases readString? fuel more with
  | none => rfl
  | some found => rfl

theorem readString?_simple {e c : Char} (hu : e ≠ 'u') (hescape : simpleEscape? e = some c)
    (fuel : Nat) (more : List Char) :
    readString? (fuel + 1) ('\\' :: e :: more) = readBefore c (readString? fuel more) := by
  rw [readString?, if_neg (by decide), if_pos (by decide), hescape]
  · cases readString? fuel more with
    | none => rfl
    | some found => rfl
  · exact fun h ↦ absurd h hu

theorem readString?_unit {s : List Char} {c : Char} {more : List Char}
    (hunit : readUnit? s = some (c, more)) (fuel : Nat) :
    readString? (fuel + 1) ('\\' :: 'u' :: s) = readBefore c (readString? fuel more) := by
  rw [readString?, if_neg (by decide), if_pos (by decide), hunit]
  cases hrest : readString? fuel more with
  | none => simp [hrest, readBefore]
  | some found => simp [hrest, readBefore]

theorem readString?_pair {a b : Nat} (ha : a < 0x400) (hb : b < 0x400) (fuel : Nat)
    (more : List Char) :
    readString? (fuel + 1) (unitEscape (0xD800 + a) ++ unitEscape (0xDC00 + b) ++ more) =
      readBefore (Char.ofNat (0x10000 + a * 0x400 + b)) (readString? fuel more) := by
  rw [List.append_assoc]
  exact readString?_unit (readUnit?_pair ha hb more) fuel

/-- A character is read from the way in which it is written. -/
theorem readString?_escapeChar (c : Char) (fuel : Nat) (more : List Char) :
    readString? (fuel + 1) (escapeChar c ++ more) = readBefore c (readString? fuel more) := by
  have hvalid := toNat_not_half c
  unfold escapeChar
  dsimp only
  split
  · next h =>
    rw [Bool.or_eq_true, beq_iff_eq, beq_iff_eq] at h
    rcases h with rfl | rfl
    · exact readString?_simple (by decide) rfl fuel more
    · exact readString?_simple (by decide) rfl fuel more
  next hplain =>
  rw [Bool.or_eq_true, beq_iff_eq, beq_iff_eq, not_or] at hplain
  split
  · next h =>
    obtain rfl := beq_iff_eq.1 h
    exact readString?_simple (by decide) rfl fuel more
  split
  · next h =>
    obtain rfl := beq_iff_eq.1 h
    exact readString?_simple (by decide) rfl fuel more
  split
  · next h =>
    obtain rfl := beq_iff_eq.1 h
    exact readString?_simple (by decide) rfl fuel more
  split
  · next h =>
    obtain rfl : c = '\x08' := Char.toNat_inj.1 (beq_iff_eq.1 h)
    exact readString?_simple (by decide) rfl fuel more
  split
  · next h =>
    obtain rfl : c = '\x0c' := Char.toNat_inj.1 (beq_iff_eq.1 h)
    exact readString?_simple (by decide) rfl fuel more
  split
  · next h => exact readString?_plain hplain.1 hplain.2 h.1 fuel more
  split
  · next h =>
    have hunit := readUnit?_hex h (by omega) more
    rw [Char.ofNat_toNat] at hunit
    exact readString?_unit hunit fuel
  · next h =>
    have hhalves : 0x10000 + (c.toNat - 0x10000) / 0x400 * 0x400 + (c.toNat - 0x10000) % 0x400 =
        c.toNat := by omega
    have hfirst : (c.toNat - 0x10000) / 0x400 < 0x400 := by omega
    have hsecond : (c.toNat - 0x10000) % 0x400 < 0x400 := Nat.mod_lt _ (by decide)
    generalize (c.toNat - 0x10000) / 0x400 = a at *
    generalize (c.toNat - 0x10000) % 0x400 = b at *
    rw [readString?_pair hfirst hsecond, hhalves, Char.ofNat_toNat]

/-- A string is read from the way in which it is written. -/
theorem readString?_flatMap (s rest : List Char) {fuel : Nat} (hfuel : s.length < fuel) :
    readString? fuel (s.flatMap escapeChar ++ '"' :: rest) = some (s, rest) := by
  induction s generalizing fuel with
  | nil =>
    cases fuel with
    | zero => cases hfuel
    | succ fuel => rfl
  | cons c s ih =>
    cases fuel with
    | zero => cases hfuel
    | succ fuel =>
      rw [List.flatMap_cons, List.append_assoc, readString?_escapeChar,
        ih (Nat.lt_of_succ_lt_succ hfuel)]
      rfl

/-- Two strings with one text are the same, and the same stands behind them. -/
theorem writeText_inj {s t : String} {rest rest' : List Char}
    (h : (writeText s).toList ++ rest = (writeText t).toList ++ rest') : s = t ∧ rest = rest' := by
  unfold writeText at h
  rw [String.toList_ofList, String.toList_ofList, List.cons_append, List.cons_append,
    List.cons.injEq, List.append_assoc, List.append_assoc, List.singleton_append,
    List.singleton_append] at h
  have hread := congrArg (readString? (s.toList.length + t.toList.length + 1)) h.2
  rw [readString?_flatMap _ _ (by omega), readString?_flatMap _ _ (by omega), Option.some.injEq,
    Prod.mk.injEq] at hread
  exact ⟨String.toList_inj.1 hread.1, hread.2⟩

end OutlineSearch.Json
