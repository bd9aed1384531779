import OutlineSearch.Proofs.Json.Numbers
import OutlineSearch.Proofs.Json.Strings

/-!
# Documents are told apart by their texts

A text is that of one document only: where two documents with something behind them are written
alike, the documents are the same and so is what stands behind them. The first character tells the
kind of a document, and the parts of a collection are told apart one after the other. A floating
point number that is not finite has no part in this.
-/

namespace OutlineSearch.Json

open OutlineSearch.Number OutlineSearch.Binary64

mutual

/-- Whether the floating point numbers of a document are finite numbers of 64 bits. -/
def Finite : Json → Prop
  | float x => IsDouble x
  | list items => FiniteAll items
  | object members => FiniteMembers members
  | _ => True

/-- Whether the numbers of some documents are finite. -/
def FiniteAll : List Json → Prop
  | [] => True
  | j :: rest => Finite j ∧ FiniteAll rest

/-- Whether the numbers of the values of some members are finite. -/
def FiniteMembers : List (String × Json) → Prop
  | [] => True
  | (_, j) :: rest => Finite j ∧ FiniteMembers rest

end

mutual

/-- The characters of the text of a document on one line. -/
def chars : Json → List Char
  | null => "null".toList
  | bool b => if b then "true".toList else "false".toList
  | int n => (toString n).toList
  | float x => (writeFloat numberFormat x).toList
  | text s => (writeText s).toList
  | list [] => ['[', ']']
  | list (j :: rest) => '[' :: (chars j ++ charsMore rest)
  | object [] => ['\x7b', '\x7d']
  | object ((k, j) :: rest) =>
    '\x7b' :: ((writeText k).toList ++ ':' :: ' ' :: (chars j ++ charsMoreMembers rest))

/-- The characters behind an item of a list. -/
def charsMore : List Json → List Char
  | [] => [']']
  | j :: rest => ',' :: ' ' :: (chars j ++ charsMore rest)

/-- The characters behind a member of an object. -/
def charsMoreMembers : List (String × Json) → List Char
  | [] => ['\x7d']
  | (k, j) :: rest =>
    ',' :: ' ' :: ((writeText k).toList ++ ':' :: ' ' :: (chars j ++ charsMoreMembers rest))

end

/-! ### The text on one line -/

theorem intercalate_cons (sep first : List Char) (parts : List (List Char)) :
    sep.intercalate (first :: parts) = first ++ parts.flatMap fun s => sep ++ s := by
  induction parts generalizing first with
  | nil => rw [List.intercalate_singleton, List.flatMap_nil, List.append_nil]
  | cons s parts ih =>
    rw [List.intercalate_cons_cons, ih, List.flatMap_cons, List.append_assoc, List.append_assoc]

theorem enclose_nil (depth : Nat) (opening closing : String) :
    (spaced.enclose depth opening closing []).toList = opening.toList ++ closing.toList := by
  unfold Layout.enclose
  rw [if_pos (by rfl), String.toList_append]

/-- The parts of a collection on one line. -/
theorem enclose_cons (depth : Nat) (opening closing first : String) (parts : List String) :
    (spaced.enclose depth opening closing (first :: parts)).toList =
      opening.toList ++ (first.toList ++
        ((parts.flatMap fun s => ',' :: ' ' :: s.toList) ++ closing.toList)) := by
  unfold Layout.enclose
  rw [if_neg (by simp)]
  dsimp only
  rw [show spaced.itemSeparator ++ spaced.lineBreak (depth + 1) = ", " by rfl,
    show spaced.lineBreak (depth + 1) = "" by rfl, show spaced.lineBreak depth = "" by rfl]
  simp [intercalate_cons, List.flatMap_map]

mutual

theorem toList_writeAt : ∀ (j : Json) (depth : Nat), (writeAt spaced depth j).toList = chars j
  | null, depth => by rw [writeAt, chars]
  | bool b, depth => by
    rw [writeAt, chars]
    split
    · rfl
    · rfl
  | int n, depth => by rw [writeAt, chars]
  | float x, depth => by rw [writeAt, chars]
  | text s, depth => by rw [writeAt, chars]
  | list [], depth => by
    rw [writeAt, writeAll, chars, enclose_nil]
    rfl
  | list (j :: rest), depth => by
    rw [writeAt, writeAll, chars, enclose_cons, toList_writeAt j,
      show "]".toList = [']'] from rfl, flatMap_writeAll rest]
    rfl
  | object [], depth => by
    rw [writeAt, writeMembers, chars, enclose_nil]
    rfl
  | object ((k, j) :: rest), depth => by
    rw [writeAt, writeMembers, chars, enclose_cons, String.toList_append, String.toList_append,
      toList_writeAt j, show "\x7d".toList = ['\x7d'] from rfl, flatMap_writeMembers rest]
    simp [spaced]

theorem flatMap_writeAll : ∀ (items : List Json) (depth : Nat),
    ((writeAll spaced depth items).flatMap fun s => ',' :: ' ' :: s.toList) ++ [']'] =
      charsMore items
  | [], depth => by
    rw [writeAll, charsMore]
    rfl
  | j :: rest, depth => by
    rw [writeAll, charsMore, List.flatMap_cons, toList_writeAt j, List.append_assoc,
      flatMap_writeAll rest]
    rfl

theorem flatMap_writeMembers : ∀ (members : List (String × Json)) (depth : Nat),
    ((writeMembers spaced depth members).flatMap fun s => ',' :: ' ' :: s.toList) ++ ['\x7d'] =
      charsMoreMembers members
  | [], depth => by
    rw [writeMembers, charsMoreMembers]
    rfl
  | (k, j) :: rest, depth => by
    rw [writeMembers, charsMoreMembers, List.flatMap_cons, String.toList_append,
      String.toList_append, toList_writeAt j, List.append_assoc, flatMap_writeMembers rest]
    simp [spaced]

end

/-! ### The first character -/

/-- The character that tells the kind of a document; a digit counts as a minus sign. -/
def markOf (c : Char) : Char := if c.isDigit then '-' else c

/-- The character that tells that a document is of its kind. -/
def mark : Json → Char
  | null => 'n'
  | bool b => if b then 't' else 'f'
  | int _ => '-'
  | float _ => '-'
  | text _ => '"'
  | list _ => '['
  | object _ => '\x7b'

theorem readNumber?_none (negative : Bool) {s : List Char}
    (h : ∀ c, s.head? = some c → c.isDigit = false) : readNumber? negative s = none := by
  unfold readNumber?
  rw [show spanPlain s = ([], s) from @spanPlain_append [] s (by simp) h]
  rfl

/-- What is read as a number starts with a digit or a minus sign. -/
theorem mark_of_readSigned? {s : List Char} {r : Json × List Char} (h : readSigned? s = some r) :
    ∃ c tail, s = c :: tail ∧ markOf c = '-' := by
  cases s with
  | nil => cases h
  | cons c tail =>
    refine ⟨c, tail, rfl, ?_⟩
    unfold markOf
    split
    · rfl
    · next hdigit =>
      unfold readSigned? at h
      split at h
      · next hminus => exact (List.cons.inj hminus).1
      · rw [readNumber?_none false] at h
        · cases h
        · intro d hd
          obtain rfl := Option.some.inj hd
          exact Bool.eq_false_of_not_eq_true hdigit

/-- The text of a document starts with its mark. -/
theorem mark_chars {j : Json} (hj : j.Finite) : ∃ c tail, chars j = c :: tail ∧ markOf c = mark j := by
  unfold chars
  split
  · exact ⟨_, _, rfl, by decide⟩
  · next b =>
    cases b with
    | false => exact ⟨_, _, rfl, by decide⟩
    | true => exact ⟨_, _, rfl, by decide⟩
  · next n =>
    rw [toList_toString]
    by_cases hn : n < 0
    · rw [if_pos hn]
      exact ⟨_, _, rfl, rfl⟩
    · rw [if_neg hn, List.nil_append]
      obtain ⟨c, tail, htext⟩ := List.exists_cons_of_ne_nil (@Nat.toDigits_ne_nil n.natAbs 10)
      have hc : c.isDigit = true := isDigit_toDigits n.natAbs c (by rw [htext]; exact .head _)
      exact ⟨c, tail, htext, if_pos hc⟩
  · next x =>
    rw [Finite] at hj
    have hread := readSigned?_writeFloat hj ends_nil
    rw [List.append_nil] at hread
    exact mark_of_readSigned? hread
  · next s =>
    refine ⟨'"', s.toList.flatMap escapeChar ++ ['"'], ?_, rfl⟩
    rw [writeText, String.toList_ofList]
  · exact ⟨_, _, rfl, rfl⟩
  · exact ⟨_, _, rfl, rfl⟩
  · exact ⟨_, _, rfl, rfl⟩
  · exact ⟨_, _, rfl, rfl⟩

/-- Documents that are written alike are of one kind. -/
theorem mark_eq {j j' : Json} (hj : j.Finite) (hj' : j'.Finite) {rest rest' : List Char}
    (h : chars j ++ rest = chars j' ++ rest') : mark j = mark j' := by
  obtain ⟨c, tail, hc, hmark⟩ := mark_chars hj
  obtain ⟨c', tail', hc', hmark'⟩ := mark_chars hj'
  rw [hc, hc', List.cons_append, List.cons_append, List.cons.injEq] at h
  rw [← hmark, ← hmark', h.1]

theorem ends_charsMore (items : List Json) (rest : List Char) : Ends (charsMore items ++ rest) := by
  cases items with
  | nil => exact ends_cons (by decide) (by decide) (by decide) (by decide)
  | cons j items => exact ends_cons (by decide) (by decide) (by decide) (by decide)

theorem ends_charsMoreMembers (members : List (String × Json)) (rest : List Char) :
    Ends (charsMoreMembers members ++ rest) := by
  cases members with
  | nil => exact ends_cons (by decide) (by decide) (by decide) (by decide)
  | cons m members => exact ends_cons (by decide) (by decide) (by decide) (by decide)

/-! ### One text, one document -/

theorem mark_bool_ne (b : Bool) : mark (bool b) ≠ 'n' ∧ mark (bool b) ≠ '-' ∧ mark (bool b) ≠ '"' ∧
    mark (bool b) ≠ '[' ∧ mark (bool b) ≠ '\x7b' := by
  cases b with
  | false => decide
  | true => decide

theorem eq_null_of_mark {j : Json} (h : mark j = 'n') : j = null := by
  cases j with
  | null => rfl
  | bool b => exact absurd h (mark_bool_ne b).1
  | _ => exact absurd h (by simp [mark])

theorem exists_bool_of_mark {j : Json} {b : Bool} (h : mark j = mark (bool b)) : j = bool b := by
  cases j with
  | bool a => cases a <;> cases b <;> first | rfl | exact absurd h (by decide)
  | null => exact absurd h.symm (mark_bool_ne b).1
  | int n => exact absurd h.symm (mark_bool_ne b).2.1
  | float x => exact absurd h.symm (mark_bool_ne b).2.1
  | text s => exact absurd h.symm (mark_bool_ne b).2.2.1
  | list items => exact absurd h.symm (mark_bool_ne b).2.2.2.1
  | object members => exact absurd h.symm (mark_bool_ne b).2.2.2.2

theorem exists_number_of_mark {j : Json} (h : mark j = '-') :
    (∃ n, j = int n) ∨ ∃ x, j = float x := by
  cases j with
  | int n => exact .inl ⟨n, rfl⟩
  | float x => exact .inr ⟨x, rfl⟩
  | bool b => exact absurd h (mark_bool_ne b).2.1
  | _ => exact absurd h (by simp [mark])

theorem exists_text_of_mark {j : Json} (h : mark j = '"') : ∃ s, j = text s := by
  cases j with
  | text s => exact ⟨s, rfl⟩
  | bool b => exact absurd h (mark_bool_ne b).2.2.1
  | _ => exact absurd h (by simp [mark])

theorem exists_list_of_mark {j : Json} (h : mark j = '[') : ∃ items, j = list items := by
  cases j with
  | list items => exact ⟨items, rfl⟩
  | bool b => exact absurd h (mark_bool_ne b).2.2.2.1
  | _ => exact absurd h (by simp [mark])

theorem exists_object_of_mark {j : Json} (h : mark j = '\x7b') : ∃ members, j = object members := by
  cases j with
  | object members => exact ⟨members, rfl⟩
  | bool b => exact absurd h (mark_bool_ne b).2.2.2.2
  | _ => exact absurd h (by simp [mark])

/-- Two finite numbers with one text are the same, and the same stands behind them. -/
theorem writeFloat_inj {x y : Binary64} (hx : IsDouble x) (hy : IsDouble y) {rest rest' : List Char}
    (hrest : Ends rest) (hrest' : Ends rest')
    (h : (writeFloat numberFormat x).toList ++ rest = (writeFloat numberFormat y).toList ++ rest') :
    x = y ∧ rest = rest' := by
  have hread := readSigned?_writeFloat hx hrest
  rw [h, readSigned?_writeFloat hy hrest', Option.some.injEq, Prod.mk.injEq, float.injEq] at hread
  exact ⟨hread.1.symm, hread.2.symm⟩

/-- An integer and a finite number are written differently. -/
theorem toString_ne_writeFloat (n : Int) {x : Binary64} (hx : IsDouble x) {rest rest' : List Char}
    (hrest : Ends rest) (hrest' : Ends rest') :
    (toString n).toList ++ rest ≠ (writeFloat numberFormat x).toList ++ rest' := by
  intro h
  have hread := readSigned?_writeFloat hx hrest'
  rw [← h] at hread
  exact readSigned?_toString_ne n x hrest hread

/-- No document starts with a closing bracket. -/
theorem chars_ne_closing {j : Json} (hj : j.Finite) (rest rest' : List Char) :
    chars j ++ rest ≠ ']' :: rest' := by
  obtain ⟨c, tail, hc, hmark⟩ := mark_chars hj
  intro h
  rw [hc, List.cons_append, List.cons.injEq] at h
  rw [h.1] at hmark
  cases j with
  | bool b => cases b <;> exact absurd hmark (by decide)
  | _ => exact absurd hmark (by simp [mark]; decide)

mutual

/-- Documents that are written alike are the same, and the same stands behind them. -/
theorem chars_inj : ∀ {j j' : Json}, j.Finite → j'.Finite → ∀ {rest rest' : List Char},
    Ends rest → Ends rest' → chars j ++ rest = chars j' ++ rest' → j = j' ∧ rest = rest'
  | null, j', hj, hj', rest, rest', _, _, h => by
    obtain rfl := eq_null_of_mark (mark_eq hj hj' h).symm
    exact ⟨rfl, List.append_cancel_left h⟩
  | bool b, j', hj, hj', rest, rest', _, _, h => by
    obtain rfl := exists_bool_of_mark (mark_eq hj hj' h).symm
    exact ⟨rfl, List.append_cancel_left h⟩
  | int n, j', hj, hj', rest, rest', hrest, hrest', h => by
    rcases exists_number_of_mark (mark_eq hj hj' h).symm with ⟨m, rfl⟩ | ⟨x, rfl⟩
    · rw [chars, chars] at h
      obtain ⟨rfl, hbehind⟩ := toString_inj hrest hrest' h
      exact ⟨rfl, hbehind⟩
    · rw [chars, chars] at h
      rw [Finite] at hj'
      exact absurd h (toString_ne_writeFloat n hj' hrest hrest')
  | float x, j', hj, hj', rest, rest', hrest, hrest', h => by
    rcases exists_number_of_mark (mark_eq hj hj' h).symm with ⟨n, rfl⟩ | ⟨y, rfl⟩
    · rw [chars, chars] at h
      rw [Finite] at hj
      exact absurd h.symm (toString_ne_writeFloat n hj hrest' hrest)
    · rw [chars, chars] at h
      rw [Finite] at hj hj'
      obtain ⟨rfl, hbehind⟩ := writeFloat_inj hj hj' hrest hrest' h
      exact ⟨rfl, hbehind⟩
  | text s, j', hj, hj', rest, rest', _, _, h => by
    obtain ⟨t, rfl⟩ := exists_text_of_mark (mark_eq hj hj' h).symm
    rw [chars, chars] at h
    obtain ⟨rfl, hbehind⟩ := writeText_inj h
    exact ⟨rfl, hbehind⟩
  | list [], j', hj, hj', rest, rest', _, _, h => by
    obtain ⟨items', rfl⟩ := exists_list_of_mark (mark_eq hj hj' h).symm
    cases items' with
    | nil =>
      rw [chars] at h
      exact ⟨rfl, List.append_cancel_left h⟩
    | cons j' more' =>
      simp only [chars, List.cons_append, List.nil_append, List.append_assoc, List.cons.injEq,
        true_and] at h
      rw [Finite, FiniteAll] at hj'
      exact absurd h.symm (chars_ne_closing hj'.1 _ _)
  | list (j :: more), j', hj, hj', rest, rest', _, _, h => by
    obtain ⟨items', rfl⟩ := exists_list_of_mark (mark_eq hj hj' h).symm
    rw [Finite, FiniteAll] at hj
    cases items' with
    | nil =>
      simp only [chars, List.cons_append, List.nil_append, List.append_assoc, List.cons.injEq,
        true_and] at h
      exact absurd h (chars_ne_closing hj.1 _ _)
    | cons j' more' =>
      rw [Finite, FiniteAll] at hj'
      simp only [chars, List.cons_append, List.append_assoc, List.cons.injEq, true_and] at h
      obtain ⟨rfl, hmore⟩ := chars_inj hj.1 hj'.1 (ends_charsMore _ _) (ends_charsMore _ _) h
      obtain ⟨rfl, hbehind⟩ := charsMore_inj hj.2 hj'.2 hmore
      exact ⟨rfl, hbehind⟩
  | object [], j', hj, hj', rest, rest', _, _, h => by
    obtain ⟨members', rfl⟩ := exists_object_of_mark (mark_eq hj hj' h).symm
    cases members' with
    | nil =>
      rw [chars] at h
      exact ⟨rfl, List.append_cancel_left h⟩
    | cons m more' =>
      simp only [chars, writeText, String.toList_ofList, List.cons_append, List.nil_append,
        List.cons.injEq, true_and] at h
      exact absurd h.1 (by decide)
  | object ((k, j) :: more), j', hj, hj', rest, rest', _, _, h => by
    obtain ⟨members', rfl⟩ := exists_object_of_mark (mark_eq hj hj' h).symm
    rw [Finite, FiniteMembers] at hj
    cases members' with
    | nil =>
      simp only [chars, writeText, String.toList_ofList, List.cons_append, List.nil_append,
        List.cons.injEq, true_and] at h
      exact absurd h.1 (by decide)
    | cons m more' =>
      obtain ⟨k', j'⟩ := m
      rw [Finite, FiniteMembers] at hj'
      simp only [chars, List.cons_append, List.append_assoc, List.cons.injEq, true_and] at h
      obtain ⟨rfl, hvalue⟩ := writeText_inj h
      simp only [List.cons.injEq, true_and] at hvalue
      obtain ⟨rfl, hmore⟩ := chars_inj hj.1 hj'.1 (ends_charsMoreMembers _ _)
        (ends_charsMoreMembers _ _) hvalue
      obtain ⟨rfl, hbehind⟩ := charsMoreMembers_inj hj.2 hj'.2 hmore
      exact ⟨rfl, hbehind⟩

/-- What stands behind an item is told apart up to the closing bracket. -/
theorem charsMore_inj : ∀ {items items' : List Json}, FiniteAll items → FiniteAll items' →
    ∀ {rest rest' : List Char}, charsMore items ++ rest = charsMore items' ++ rest' →
      items = items' ∧ rest = rest'
  | [], items', _, _, rest, rest', h => by
    cases items' with
    | nil => exact ⟨rfl, List.append_cancel_left h⟩
    | cons j' more' =>
      simp only [charsMore, List.cons_append, List.cons.injEq] at h
      exact absurd h.1 (by decide)
  | j :: more, items', hj, hj', rest, rest', h => by
    rw [FiniteAll] at hj
    cases items' with
    | nil =>
      simp only [charsMore, List.cons_append, List.cons.injEq] at h
      exact absurd h.1 (by decide)
    | cons j' more' =>
      rw [FiniteAll] at hj'
      simp only [charsMore, List.cons_append, List.append_assoc, List.cons.injEq, true_and] at h
      obtain ⟨rfl, hmore⟩ := chars_inj hj.1 hj'.1 (ends_charsMore _ _) (ends_charsMore _ _) h
      obtain ⟨rfl, hbehind⟩ := charsMore_inj hj.2 hj'.2 hmore
      exact ⟨rfl, hbehind⟩

/-- What stands behind a member is told apart up to the closing brace. -/
theorem charsMoreMembers_inj : ∀ {members members' : List (String × Json)},
    FiniteMembers members → FiniteMembers members' → ∀ {rest rest' : List Char},
      charsMoreMembers members ++ rest = charsMoreMembers members' ++ rest' →
        members = members' ∧ rest = rest'
  | [], members', _, _, rest, rest', h => by
    cases members' with
    | nil => exact ⟨rfl, List.append_cancel_left h⟩
    | cons m more' =>
      simp only [charsMoreMembers, List.cons_append, List.cons.injEq] at h
      exact absurd h.1 (by decide)
  | (k, j) :: more, members', hj, hj', rest, rest', h => by
    rw [FiniteMembers] at hj
    cases members' with
    | nil =>
      simp only [charsMoreMembers, List.cons_append, List.cons.injEq] at h
      exact absurd h.1 (by decide)
    | cons m more' =>
      obtain ⟨k', j'⟩ := m
      rw [FiniteMembers] at hj'
      simp only [charsMoreMembers, List.cons_append, List.append_assoc, List.cons.injEq,
        true_and] at h
      obtain ⟨rfl, hvalue⟩ := writeText_inj h
      simp only [List.cons.injEq, true_and] at hvalue
      obtain ⟨rfl, hmore⟩ := chars_inj hj.1 hj'.1 (ends_charsMoreMembers _ _)
        (ends_charsMoreMembers _ _) hvalue
      obtain ⟨rfl, hbehind⟩ := charsMoreMembers_inj hj.2 hj'.2 hmore
      exact ⟨rfl, hbehind⟩

end

/-- Documents with one text are the same. -/
theorem write_inj {j j' : Json} (hj : j.Finite) (hj' : j'.Finite)
    (h : write spaced j = write spaced j') : j = j' := by
  have hchars : chars j ++ [] = chars j' ++ [] := by
    rw [List.append_nil, List.append_nil, ← toList_writeAt j 0, ← toList_writeAt j' 0]
    exact congrArg String.toList h
  exact (chars_inj hj hj' ends_nil ends_nil hchars).1

end OutlineSearch.Json
