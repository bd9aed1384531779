import OutlineSearch.Proofs.Value.Plain

/-!
# Documents are read from their texts

A document is read again from the text that is written for it in any layout, when its numbers are
finite, its integers have few enough digits and no object in it has two members of one name. The
reader takes one part of a collection after the other, so it is followed from part to part.
-/

namespace OutlineSearch.Json

open OutlineSearch.Number OutlineSearch.Text OutlineSearch.Binary64

/-! ### Blanks and layouts -/

/-- A blank that JSON allows between tokens. -/
def isSpace (c : Char) : Bool := c == ' ' || c == '\t' || c == '\n' || c == '\r'

/-- A text of such blanks only. -/
def AllSpaces (s : List Char) : Prop := ∀ c ∈ s, isSpace c = true

/-- A text that does not start with a blank. -/
def Starts (s : List Char) : Prop := ∃ c tail, s = c :: tail ∧ isSpace c = false

theorem skipBlanks_of_starts {s : List Char} (h : Starts s) : skipBlanks s = s := by
  obtain ⟨c, tail, rfl, hc⟩ := h
  exact List.dropWhile_cons_of_neg (by simpa [isSpace] using hc)

theorem skipBlanks_append {blanks s : List Char} (hblanks : AllSpaces blanks) (h : Starts s) :
    skipBlanks (blanks ++ s) = s := by
  have hdrop : (blanks ++ s).dropWhile isSpace = s.dropWhile isSpace :=
    List.dropWhile_append_of_pos hblanks
  exact hdrop.trans (skipBlanks_of_starts h)

theorem starts_cons {c : Char} (hc : isSpace c = false) (tail : List Char) : Starts (c :: tail) :=
  ⟨c, tail, rfl, hc⟩

theorem Starts.append {s : List Char} (h : Starts s) (rest : List Char) : Starts (s ++ rest) := by
  obtain ⟨c, tail, rfl, hc⟩ := h
  exact starts_cons hc _

theorem AllSpaces.append {s s' : List Char} (h : AllSpaces s) (h' : AllSpaces s') :
    AllSpaces (s ++ s') :=
  fun c hc ↦ (List.mem_append.1 hc).elim (h c) (h' c)

/-- Blanks in front of what ends a number end a number. -/
theorem AllSpaces.ends {blanks rest : List Char} (hblanks : AllSpaces blanks) (hrest : Ends rest) :
    Ends (blanks ++ rest) := by
  cases blanks with
  | nil => exact hrest
  | cons c blanks =>
    have hc : c = ' ' ∨ c = '\t' ∨ c = '\n' ∨ c = '\r' := by
      simpa [isSpace, or_assoc] using hblanks c (.head _)
    refine ends_cons ?_ ?_ ?_ ?_ <;> rcases hc with rfl | rfl | rfl | rfl <;> decide

/-- A layout whose separators are a comma and a colon with blanks behind them. -/
structure Layout.Separates (l : Layout) : Prop where
  item : ∃ blanks, l.itemSeparator.toList = ',' :: blanks ∧ AllSpaces blanks
  name : ∃ blanks, l.nameSeparator.toList = ':' :: blanks ∧ AllSpaces blanks

theorem allSpaces_nil : AllSpaces [] := List.forall_mem_nil _

theorem allSpaces_blank : AllSpaces [' '] := List.forall_mem_singleton.2 rfl

theorem separates_indented : indented.Separates :=
  ⟨⟨[], rfl, allSpaces_nil⟩, ⟨[' '], rfl, allSpaces_blank⟩⟩

theorem allSpaces_lineBreak (l : Layout) (depth : Nat) : AllSpaces (l.lineBreak depth).toList := by
  unfold Layout.lineBreak
  split
  · exact allSpaces_nil
  · rw [String.toList_ofList]
    refine List.forall_mem_cons.2 ⟨rfl, fun c hc ↦ ?_⟩
    rw [List.eq_of_mem_replicate hc]
    rfl

/-- What stands in front of a further part of a collection. -/
def between (l : Layout) (depth : Nat) : List Char :=
  l.itemSeparator.toList ++ (l.lineBreak depth).toList

/-- The further parts of a collection, behind the first one. -/
def furtherParts (l : Layout) (depth : Nat) (parts : List String) : List Char :=
  parts.flatMap fun part => between l depth ++ part.toList

theorem toList_enclose_nil (l : Layout) (depth : Nat) (opening closing : String) :
    (l.enclose depth opening closing []).toList = opening.toList ++ closing.toList := by
  rw [Layout.enclose, List.isEmpty_nil, if_pos rfl, String.toList_append]

theorem toList_enclose_cons (l : Layout) (depth : Nat) (opening closing first : String)
    (parts : List String) :
    (l.enclose depth opening closing (first :: parts)).toList =
      opening.toList ++ ((l.lineBreak (depth + 1)).toList ++ (first.toList ++
        (furtherParts l (depth + 1) parts ++ ((l.lineBreak depth).toList ++ closing.toList)))) := by
  rw [Layout.enclose, if_neg (by simp)]
  simp [intercalate_cons, furtherParts, between, List.flatMap_map]

/-! ### Names, numbers and strings -/

theorem readSigned?_of_ne {c : Char} (hc : c ≠ '-') (tail : List Char) :
    readSigned? (c :: tail) = readNumber? false (c :: tail) := by
  unfold readSigned?
  split
  · next heq => exact absurd (List.cons.inj heq).1 hc
  · rfl

/-- What is read as a number is not read as a name. -/
theorem readName?_of_readSigned? {s : List Char} {r : Json × List Char}
    (h : readSigned? s = some r) : readName? s = none := by
  obtain ⟨c, tail, rfl, hmark⟩ := mark_of_readSigned? h
  have hletter : c ≠ 'n' ∧ c ≠ 't' ∧ c ≠ 'f' ∧ c ≠ 'N' ∧ c ≠ 'I' := by
    refine ⟨?_, ?_, ?_, ?_, ?_⟩ <;> rintro rfl <;> exact absurd hmark (by decide)
  have hminus : '-' = c → dropPrefix? "Infinity".toList tail = none := by
    rintro rfl
    rw [readSigned?_minus] at h
    cases tail with
    | nil => rfl
    | cons d tail =>
      by_cases hd : 'I' = d
      · subst hd
        have hdigit : ∀ c, ('I' :: tail).head? = some c → c.isDigit = false := by
          intro c hc
          obtain rfl := Option.some.inj hc
          rfl
        rw [readNumber?_none true hdigit] at h
        cases h
      · simp [dropPrefix?, hd]
  simpa [readName?, names, dropPrefix?, hletter, Ne.symm] using hminus

/-- What is read as a number is read as a document. -/
theorem readValue?_of_readSigned? {s : List Char} {r : Json × List Char}
    (h : readSigned? s = some r) (fuel : Nat) : readValue? (fuel + 1) s = some r := by
  have hname := readName?_of_readSigned? h
  obtain ⟨c, tail, rfl, hmark⟩ := mark_of_readSigned? h
  rw [readValue?.eq_def]
  dsimp only
  split
  · next heq =>
    obtain ⟨rfl, -⟩ := List.cons.inj heq
    exact absurd hmark (by decide)
  · next heq =>
    obtain ⟨rfl, -⟩ := List.cons.inj heq
    exact absurd hmark (by decide)
  · next heq =>
    obtain ⟨rfl, -⟩ := List.cons.inj heq
    exact absurd hmark (by decide)
  · rw [hname]
    dsimp only
    by_cases hminus : c = '-'
    · rw [hminus] at h ⊢
      exact h
    · rw [readSigned?_of_ne hminus] at h
      split
      · next heq => exact absurd (List.cons.inj heq).1 hminus
      · exact h

/-- An integer with few enough digits is read as itself. -/
theorem readSigned?_toString {n : Int} (hshort : (int n).isShort = true) {rest : List Char}
    (hrest : Ends rest) : readSigned? ((toString n).toList ++ rest) = some (int n, rest) := by
  have hlength : ¬digitLimit < (Nat.toDigits 10 n.natAbs).length := by
    simpa [isShort] using hshort
  have hzero : (Nat.toDigits 10 n.natAbs).head? = some '0' → Nat.toDigits 10 n.natAbs = ['0'] := by
    intro h
    rcases Nat.eq_zero_or_pos n.natAbs with hn | hpos
    · rw [hn]
      rfl
    · exact absurd h (head?_toDigits hpos)
  have hpoint : rest.head? ≠ some '.' := fun h ↦ (hrest _ h).2.1 rfl
  have hread (negative : Bool) : readNumber? negative (Nat.toDigits 10 n.natAbs ++ rest) =
      some (int (if negative then -(n.natAbs : Int) else n.natAbs), rest) := by
    rw [readNumber?_eq negative (isDigit_toDigits _) Nat.toDigits_ne_nil hzero
      (not_isDigit_of_ends hrest), readFraction_of_ne hpoint, readMark_of_ends hrest, readParts,
      if_pos (by rfl), if_neg hlength, spelled_toDigits]
  rw [toList_toString]
  split
  · next hn =>
    rw [List.append_assoc, List.singleton_append, readSigned?_minus, hread true, if_pos rfl,
      show -(n.natAbs : Int) = n by omega]
  · next hn =>
    rw [List.nil_append, readSigned?_of_readNumber? (hread false), if_neg Bool.false_ne_true,
      show (n.natAbs : Int) = n by omega]

theorem escapeChar_ne_nil (c : Char) : escapeChar c ≠ [] := by
  intro h
  have hread := readString?_escapeChar c 1 ['"']
  rw [h] at hread
  cases hread

theorem length_le_flatMap_escapeChar (s : List Char) :
    s.length ≤ (s.flatMap escapeChar).length := by
  induction s with
  | nil => exact Nat.le_refl _
  | cons c s ih =>
    have hc := List.length_pos_of_ne_nil (escapeChar_ne_nil c)
    rw [List.flatMap_cons, List.length_append, List.length_cons]
    omega

/-- A string is read behind its opening quote. -/
theorem readString?_writeText (s : String) (rest : List Char) :
    ∃ text, (writeText s).toList ++ rest = '"' :: text ∧
      readString? (text.length + 1) text = some (s.toList, rest) := by
  refine ⟨s.toList.flatMap escapeChar ++ '"' :: rest, ?_, readString?_flatMap _ _ ?_⟩
  · rw [writeText, String.toList_ofList, List.cons_append, List.append_assoc]
    rfl
  · have hlength := length_le_flatMap_escapeChar s.toList
    rw [List.length_append]
    omega

theorem head?_writeText (s : String) (rest : List Char) :
    ((writeText s).toList ++ rest).head? = some '"' := by
  obtain ⟨text, htext, -⟩ := readString?_writeText s rest
  rw [htext]
  rfl

theorem starts_writeText (s : String) (rest : List Char) : Starts ((writeText s).toList ++ rest) := by
  obtain ⟨text, htext, -⟩ := readString?_writeText s rest
  exact ⟨'"', text, htext, rfl⟩

/-! ### One part after the other -/

section

variable {fuel : Nat} {s rest more tail : List Char} {j : Json}

theorem readItems?_last (hitem : readValue? fuel s = some (j, rest))
    (hrest : skipBlanks rest = ']' :: tail) : readItems? (fuel + 1) s = some ([j], tail) := by
  rw [readItems?, hitem]
  simp [hrest]

theorem readItems?_next {items : List Json} (hitem : readValue? fuel s = some (j, rest))
    (hrest : skipBlanks rest = ',' :: more)
    (hmore : readItems? fuel (skipBlanks more) = some (items, tail)) :
    readItems? (fuel + 1) s = some (j :: items, tail) := by
  rw [readItems?, hitem]
  simp [hrest, hmore]

theorem readValue?_list {blanks : List Char} {items : List Json} (hblanks : AllSpaces blanks)
    (hs : Starts s) (hend : s.head? ≠ some ']') (hitems : readItems? fuel s = some (items, rest)) :
    readValue? (fuel + 1) ('[' :: (blanks ++ s)) = some (list items, rest) := by
  rw [readValue?, skipBlanks_append hblanks hs]
  split
  · exact absurd rfl hend
  · rw [hitems]
    rfl

theorem readValue?_object {blanks : List Char} {members : List (String × Json)}
    (hblanks : AllSpaces blanks) (hs : Starts s) (hend : s.head? ≠ some '\x7d')
    (hmembers : readMembers? fuel [] s = some (members, rest)) :
    readValue? (fuel + 1) ('\x7b' :: (blanks ++ s)) = some (object members, rest) := by
  rw [readValue?, skipBlanks_append hblanks hs]
  split
  · exact absurd rfl hend
  · rw [hmembers]
    rfl

variable {l : Layout} {known : List (String × Json)}

/-- The member at the start of a text is read up to what stands behind it. -/
theorem readMembers?_eq (hl : l.Separates) (name : String) (hs : Starts s)
    (hvalue : readValue? fuel s = some (j, rest)) :
    readMembers? (fuel + 1) known ((writeText name).toList ++ (l.nameSeparator.toList ++ s)) =
      match skipBlanks rest with
      | ',' :: rest => readMembers? fuel ((name, j) :: known) (skipBlanks rest)
      | '\x7d' :: rest => some ((name, j) :: known, rest)
      | _ => none := by
  obtain ⟨blanks, hname, hblanks⟩ := hl.name
  obtain ⟨text, htext, hstring⟩ := readString?_writeText name (l.nameSeparator.toList ++ s)
  have hcolon : skipBlanks (l.nameSeparator.toList ++ s) = ':' :: (blanks ++ s) := by
    rw [hname]
    exact skipBlanks_of_starts (starts_cons rfl _)
  rw [htext, readMembers?, hstring]
  simp only [Option.bind_eq_bind, Option.bind_some, hcolon, skipBlanks_append hblanks hs, hvalue,
    String.ofList_toList]
  rfl

theorem readMembers?_last (hl : l.Separates) (name : String) (hs : Starts s)
    (hvalue : readValue? fuel s = some (j, rest)) (hrest : skipBlanks rest = '\x7d' :: tail) :
    readMembers? (fuel + 1) known ((writeText name).toList ++ (l.nameSeparator.toList ++ s)) =
      some ((name, j) :: known, tail) := by
  rw [readMembers?_eq hl name hs hvalue, hrest]
  rfl

theorem readMembers?_next (hl : l.Separates) (name : String) (hs : Starts s)
    (hvalue : readValue? fuel s = some (j, rest)) (hrest : skipBlanks rest = ',' :: more) :
    readMembers? (fuel + 1) known ((writeText name).toList ++ (l.nameSeparator.toList ++ s)) =
      readMembers? fuel ((name, j) :: known) (skipBlanks more) := by
  rw [readMembers?_eq hl name hs hvalue, hrest]
  rfl

end

/-! ### What the reader finds -/

mutual

/-- A document as the reader leaves it, with the members of its objects last first. -/
def reversed : Json → Json
  | list items => list (reversedAll items)
  | object members => object (reversedMembers members)
  | j => j

/-- Documents as the reader leaves them. -/
def reversedAll : List Json → List Json
  | [] => []
  | j :: rest => reversed j :: reversedAll rest

/-- Members as the reader leaves them. -/
def reversedMembers : List (String × Json) → List (String × Json)
  | [] => []
  | (k, j) :: rest => reversedMembers rest ++ [(k, reversed j)]

end

mutual

/-- How deep the reader may call itself for a document. -/
def calls : Json → Nat
  | list items => callsAll items + 1
  | object members => callsMembers members + 1
  | _ => 1

/-- How deep the reader may call itself for the items of a list. -/
def callsAll : List Json → Nat
  | [] => 0
  | j :: rest => calls j + callsAll rest + 1

/-- How deep the reader may call itself for the members of an object. -/
def callsMembers : List (String × Json) → Nat
  | [] => 0
  | (_, j) :: rest => calls j + callsMembers rest + 1

end

theorem mark_mem (j : Json) : mark j ∈ ['n', 't', 'f', '-', '"', '[', '\x7b'] := by
  cases j with
  | bool b => cases b <;> decide
  | _ => simp [mark]

/-- What starts with the mark of a document starts with neither a blank nor the end of a list. -/
theorem of_markOf_eq_mark {c : Char} {j : Json} (h : markOf c = mark j) :
    isSpace c = false ∧ c ≠ ']' := by
  have hmark := h ▸ mark_mem j
  refine ⟨Bool.eq_false_iff.2 fun hspace ↦ ?_, ?_⟩
  · have hc : c = ' ' ∨ c = '\t' ∨ c = '\n' ∨ c = '\r' := by
      simpa [isSpace, or_assoc] using hspace
    rcases hc with rfl | rfl | rfl | rfl <;> exact absurd hmark (by decide)
  · rintro rfl
    exact absurd hmark (by decide)

/-- The text of a document starts with its mark, in any layout. -/
theorem mark_writeAt (l : Layout) (depth : Nat) {j : Json} (hj : j.Finite) :
    ∃ c tail, (writeAt l depth j).toList = c :: tail ∧ markOf c = mark j := by
  have hopening (opening closing : String) (parts : List String) :
      ∃ tail, (l.enclose depth opening closing parts).toList = opening.toList ++ tail := by
    cases parts with
    | nil => exact ⟨_, toList_enclose_nil ..⟩
    | cons first parts => exact ⟨_, toList_enclose_cons ..⟩
  cases j with
  | list items =>
    rw [writeAt]
    obtain ⟨tail, htail⟩ := hopening "[" "]" (writeAll l (depth + 1) items)
    exact ⟨'[', tail, htail, rfl⟩
  | object members =>
    rw [writeAt]
    obtain ⟨tail, htail⟩ := hopening "\x7b" "\x7d" (writeMembers l (depth + 1) members)
    exact ⟨'\x7b', tail, htail, rfl⟩
  | _ =>
    have hchars := mark_chars hj
    rwa [← toList_writeAt _ 0, writeAt, ← writeAt] at hchars

/-- The text of a document does not start with the end of a list. -/
theorem head?_writeAt_ne (l : Layout) (depth : Nat) {j : Json} (hj : j.Finite)
    (rest : List Char) : ((writeAt l depth j).toList ++ rest).head? ≠ some ']' := by
  obtain ⟨c, tail, hc, hmark⟩ := mark_writeAt l depth hj
  rw [hc]
  exact fun h ↦ (of_markOf_eq_mark hmark).2 (Option.some.inj h)

theorem starts_writeAt (l : Layout) (depth : Nat) {j : Json} (hj : j.Finite) :
    Starts (writeAt l depth j).toList := by
  obtain ⟨c, tail, hc, hmark⟩ := mark_writeAt l depth hj
  exact ⟨c, tail, hc, (of_markOf_eq_mark hmark).1⟩

/-! ### Documents and their parts -/

theorem furtherParts_cons (l : Layout) (depth : Nat) (part : String) (parts : List String) :
    furtherParts l depth (part :: parts) =
      between l depth ++ (part.toList ++ furtherParts l depth parts) := by
  rw [furtherParts, List.flatMap_cons, List.append_assoc]
  rfl

section

variable {l : Layout} {depth : Nat} {blanks rest s : List Char}

theorem skipBlanks_between (hl : l.Separates) (depth : Nat) (hs : Starts s) :
    ∃ more, skipBlanks (between l depth ++ s) = ',' :: more ∧ skipBlanks more = s := by
  obtain ⟨blanks, hitem, hblanks⟩ := hl.item
  refine ⟨blanks ++ (l.lineBreak depth).toList ++ s, ?_,
    skipBlanks_append (hblanks.append (allSpaces_lineBreak l depth)) hs⟩
  rw [between, hitem, List.cons_append, List.cons_append]
  exact skipBlanks_of_starts (starts_cons rfl _)

/-- Further parts and the end of a collection end a number. -/
theorem ends_furtherParts (hl : l.Separates) (hblanks : AllSpaces blanks) (parts : List String)
    (hrest : Ends rest) : Ends (furtherParts l depth parts ++ (blanks ++ rest)) := by
  cases parts with
  | nil => exact hblanks.ends hrest
  | cons part parts =>
    obtain ⟨spaces, hitem, -⟩ := hl.item
    rw [furtherParts_cons, between, hitem]
    exact ends_cons rfl (by decide) (by decide) (by decide)

theorem ends_bracket (rest : List Char) : Ends (']' :: rest) :=
  ends_cons rfl (by decide) (by decide) (by decide)

theorem ends_brace (rest : List Char) : Ends ('\x7d' :: rest) :=
  ends_cons rfl (by decide) (by decide) (by decide)

end

mutual

/-- A document is read from its text, whatever stands behind that ends a number. -/
theorem readValue?_writeAt {l : Layout} (hl : l.Separates) : ∀ {j : Json}, j.Finite →
    j.isShort = true → ∀ (depth : Nat) {fuel : Nat}, calls j ≤ fuel → ∀ {rest : List Char},
      Ends rest →
        readValue? fuel ((writeAt l depth j).toList ++ rest) = some (reversed j, rest)
  | null, _, _, depth, fuel + 1, _, rest, _ => by
    rw [writeAt]
    rfl
  | bool b, _, _, depth, fuel + 1, _, rest, _ => by
    rw [writeAt]
    cases b <;> rfl
  | int n, _, hshort, depth, fuel + 1, _, rest, hrest => by
    rw [writeAt]
    exact readValue?_of_readSigned? (readSigned?_toString hshort hrest) fuel
  | float x, hfinite, _, depth, fuel + 1, _, rest, hrest => by
    rw [Finite] at hfinite
    rw [writeAt]
    exact readValue?_of_readSigned? (readSigned?_writeFloat hfinite hrest) fuel
  | text s, _, _, depth, fuel + 1, _, rest, hrest => by
    obtain ⟨text, htext, hstring⟩ := readString?_writeText s rest
    rw [writeAt, htext, readValue?, hstring]
    simp [reversed]
  | list [], _, _, depth, fuel + 1, _, rest, _ => by
    rw [writeAt, writeAll, toList_enclose_nil]
    rfl
  | list (j :: items), hfinite, hshort, depth, fuel + 1, hfuel, rest, _ => by
    rw [Finite, FiniteAll] at hfinite
    rw [isShort, areShort, Bool.and_eq_true] at hshort
    rw [calls, callsAll] at hfuel
    obtain ⟨fuel, rfl⟩ := Nat.exists_eq_add_of_le' (show 1 ≤ fuel by omega)
    have hitems := readItems?_writeAll hl hfinite.2 hshort.2 (depth + 1) fuel (by omega)
      (allSpaces_lineBreak l depth)
      (readValue?_writeAt hl hfinite.1 hshort.1 (depth + 1) (by omega)
        (ends_furtherParts hl (allSpaces_lineBreak l depth) _ (ends_bracket rest)))
    rw [writeAt, writeAll, toList_enclose_cons, show "[".toList = ['['] from rfl,
      show "]".toList = [']'] from rfl]
    simp only [List.append_assoc, List.cons_append, List.nil_append]
    exact readValue?_list (allSpaces_lineBreak l (depth + 1))
      ((starts_writeAt l (depth + 1) hfinite.1).append _)
      (head?_writeAt_ne l (depth + 1) hfinite.1 _) hitems
  | object [], _, _, depth, fuel + 1, _, rest, _ => by
    rw [writeAt, writeMembers, toList_enclose_nil]
    rfl
  | object ((k, j) :: members), hfinite, hshort, depth, fuel + 1, hfuel, rest, _ => by
    rw [Finite, FiniteMembers] at hfinite
    rw [isShort, areShortMembers, Bool.and_eq_true] at hshort
    rw [calls, callsMembers] at hfuel
    obtain ⟨fuel, rfl⟩ := Nat.exists_eq_add_of_le' (show 1 ≤ fuel by omega)
    have hmembers := readMembers?_writeMembers hl hfinite.2 hshort.2 (depth + 1) fuel (by omega)
      [] k (allSpaces_lineBreak l depth)
      ((starts_writeAt l (depth + 1) hfinite.1).append _)
      (readValue?_writeAt hl hfinite.1 hshort.1 (depth + 1) (by omega)
        (ends_furtherParts hl (allSpaces_lineBreak l depth) _ (ends_brace rest)))
    rw [writeAt, writeMembers, toList_enclose_cons, show "\x7b".toList = ['\x7b'] from rfl,
      show "\x7d".toList = ['\x7d'] from rfl, String.toList_append, String.toList_append]
    simp only [List.append_assoc, List.cons_append, List.nil_append]
    refine readValue?_object (allSpaces_lineBreak l (depth + 1)) (starts_writeText k _) ?_ hmembers
    rw [head?_writeText]
    decide

/-- The items of a list are read behind one that has been read. -/
theorem readItems?_writeAll {l : Layout} (hl : l.Separates) : ∀ {items : List Json},
    FiniteAll items → areShort items = true → ∀ (depth fuel : Nat), callsAll items ≤ fuel →
      ∀ {j : Json} {s blanks rest : List Char}, AllSpaces blanks →
        readValue? fuel s = some (j, furtherParts l depth (writeAll l depth items) ++
          (blanks ++ ']' :: rest)) →
        readItems? (fuel + 1) s = some (j :: reversedAll items, rest)
  | [], _, _, depth, fuel, _, j, s, blanks, rest, hblanks, hread => by
    refine readItems?_last hread ?_
    exact skipBlanks_append hblanks (starts_cons rfl rest)
  | i :: items, hfinite, hshort, depth, fuel, hfuel, j, s, blanks, rest, hblanks, hread => by
    rw [FiniteAll] at hfinite
    rw [areShort, Bool.and_eq_true] at hshort
    rw [callsAll] at hfuel
    obtain ⟨fuel, rfl⟩ := Nat.exists_eq_add_of_le' (Nat.le_trans (Nat.le_add_left 1 _) hfuel)
    rw [writeAll, furtherParts_cons, List.append_assoc, List.append_assoc] at hread
    obtain ⟨more, hmore, hnext⟩ := skipBlanks_between hl depth
      ((starts_writeAt l depth hfinite.1).append _)
    refine readItems?_next hread hmore ?_
    rw [hnext]
    refine readItems?_writeAll hl hfinite.2 hshort.2 depth fuel (by omega) hblanks ?_
    exact readValue?_writeAt hl hfinite.1 hshort.1 depth (by omega)
      (ends_furtherParts hl hblanks _ (ends_bracket rest))

/-- The members of an object are read behind one whose value has been read. -/
theorem readMembers?_writeMembers {l : Layout} (hl : l.Separates) :
    ∀ {members : List (String × Json)}, FiniteMembers members → areShortMembers members = true →
      ∀ (depth fuel : Nat), callsMembers members ≤ fuel →
        ∀ (known : List (String × Json)) (k : String) {j : Json} {s blanks rest : List Char},
          AllSpaces blanks → Starts s →
          readValue? fuel s = some (j, furtherParts l depth (writeMembers l depth members) ++
            (blanks ++ '\x7d' :: rest)) →
          readMembers? (fuel + 1) known ((writeText k).toList ++ (l.nameSeparator.toList ++ s)) =
            some (reversedMembers members ++ (k, j) :: known, rest)
  | [], _, _, depth, fuel, _, known, k, j, s, blanks, rest, hblanks, hs, hread => by
    refine readMembers?_last hl k hs hread ?_
    exact skipBlanks_append hblanks (starts_cons rfl rest)
  | (k', j') :: members, hfinite, hshort, depth, fuel, hfuel, known, k, j, s, blanks, rest,
      hblanks, hs, hread => by
    rw [FiniteMembers] at hfinite
    rw [areShortMembers, Bool.and_eq_true] at hshort
    rw [callsMembers] at hfuel
    obtain ⟨fuel, rfl⟩ := Nat.exists_eq_add_of_le' (Nat.le_trans (Nat.le_add_left 1 _) hfuel)
    rw [writeMembers, furtherParts_cons, String.toList_append, String.toList_append,
      List.append_assoc, List.append_assoc, List.append_assoc, List.append_assoc] at hread
    obtain ⟨more, hmore, hnext⟩ := skipBlanks_between hl depth (starts_writeText k' _)
    rw [readMembers?_next hl k hs hread hmore, hnext, reversedMembers, List.append_assoc]
    refine readMembers?_writeMembers hl hfinite.2 hshort.2 depth fuel (by omega) _ k' hblanks
      ((starts_writeAt l depth hfinite.1).append _) ?_
    exact readValue?_writeAt hl hfinite.1 hshort.1 depth (by omega)
      (ends_furtherParts hl hblanks _ (ends_brace rest))

end

/-! ### Members in order -/

theorem settleMembers_of_nodup {members : List (String × Json)}
    (h : (members.map Prod.fst).Nodup) :
    settleMembers members = (members.map fun m => (m.1, settle m.2)).reverse := by
  induction members with
  | nil => rfl
  | cons m members ih =>
    obtain ⟨k, j⟩ := m
    rw [List.map_cons, List.nodup_cons] at h
    have hnew : k ∉ (settleMembers members).map Prod.fst := by
      rw [ih h.2, List.map_reverse, List.mem_reverse, List.map_map]
      exact h.1
    rw [settleMembers, putMember_new hnew, ih h.2, List.map_cons, List.reverse_cons]

theorem reversedMembers_eq (members : List (String × Json)) :
    reversedMembers members = (members.map fun m => (m.1, reversed m.2)).reverse := by
  induction members with
  | nil => rfl
  | cons m members ih => rw [reversedMembers, ih, List.map_cons, List.reverse_cons]

mutual

/-- Members that were read last first are put in order again. -/
theorem settle_reversed : ∀ {j : Json}, j.Distinct → settle (reversed j) = j
  | null, _ => rfl
  | bool b, _ => rfl
  | int n, _ => rfl
  | float x, _ => rfl
  | text s, _ => rfl
  | list items, h => by
    rw [Distinct] at h
    rw [reversed, settle, settleAll_reversed h]
  | object members, h => by
    rw [Distinct] at h
    have hnodup : ((reversedMembers members).map Prod.fst).Nodup := by
      rw [reversedMembers_eq, List.map_reverse, (List.reverse_perm _).nodup_iff, List.map_map]
      exact h.1
    rw [reversed, settle, settleMembers_of_nodup hnodup, reversedMembers_eq, List.map_reverse,
      List.reverse_reverse, List.map_map]
    exact congrArg object (settle_reversed_members h.2)

theorem settleAll_reversed : ∀ {items : List Json}, DistinctAll items →
    settleAll (reversedAll items) = items
  | [], _ => rfl
  | j :: items, h => by
    rw [DistinctAll] at h
    rw [reversedAll, settleAll, settle_reversed h.1, settleAll_reversed h.2]

theorem settle_reversed_members : ∀ {members : List (String × Json)}, DistinctMembers members →
    members.map ((fun m => (m.1, settle m.2)) ∘ fun m => (m.1, reversed m.2)) = members
  | [], _ => rfl
  | (k, j) :: members, h => by
    rw [DistinctMembers] at h
    rw [List.map_cons, settle_reversed_members h.2]
    exact congrArg (fun j => (k, j) :: members) (settle_reversed h.1)

end

/-! ### Texts are long enough -/

/-- The number of characters of some parts. -/
def lengths (parts : List String) : Nat := (parts.map fun part => part.toList.length).sum

theorem lengths_cons (part : String) (parts : List String) :
    lengths (part :: parts) = part.toList.length + lengths parts := List.sum_cons

theorem lengths_le_furtherParts (l : Layout) (depth : Nat) (parts : List String) :
    lengths parts ≤ (furtherParts l depth parts).length := by
  induction parts with
  | nil => exact Nat.le_refl 0
  | cons part parts ih =>
    rw [lengths_cons, furtherParts_cons, List.length_append, List.length_append]
    omega

theorem lengths_le_enclose (l : Layout) (depth : Nat) (opening closing : String)
    (parts : List String) (hopening : opening.toList.length = 1)
    (hclosing : closing.toList.length = 1) :
    lengths parts + 2 ≤ (l.enclose depth opening closing parts).toList.length := by
  cases parts with
  | nil =>
    rw [toList_enclose_nil, List.length_append, hopening, hclosing]
    exact Nat.le_refl 2
  | cons first parts =>
    have hparts := lengths_le_furtherParts l (depth + 1) parts
    rw [lengths_cons, toList_enclose_cons]
    simp only [List.length_append, hopening, hclosing]
    omega

theorem calls_lt_of_eq_one (l : Layout) (depth : Nat) {j : Json} (h : j.Finite)
    (hcalls : calls j = 1) : calls j + 1 ≤ 2 * (writeAt l depth j).toList.length := by
  obtain ⟨c, tail, hc, -⟩ := starts_writeAt l depth h
  rw [hc, hcalls, List.length_cons]
  omega

mutual

/-- The reader calls itself less deep than twice the length of the text. -/
theorem calls_lt (l : Layout) : ∀ (j : Json) (depth : Nat), j.Finite →
    calls j + 1 ≤ 2 * (writeAt l depth j).toList.length
  | list items, depth, h => by
    have hitems := callsAll_le l items (depth + 1) (by rwa [Finite] at h)
    have hlength := lengths_le_enclose l depth "[" "]" (writeAll l (depth + 1) items) rfl rfl
    rw [calls, writeAt]
    omega
  | object members, depth, h => by
    have hmembers := callsMembers_le l members (depth + 1) (by rwa [Finite] at h)
    have hlength := lengths_le_enclose l depth "\x7b" "\x7d" (writeMembers l (depth + 1) members)
      rfl rfl
    rw [calls, writeAt]
    omega
  | null, depth, h => calls_lt_of_eq_one l depth h rfl
  | bool b, depth, h => calls_lt_of_eq_one l depth h rfl
  | int n, depth, h => calls_lt_of_eq_one l depth h rfl
  | float x, depth, h => calls_lt_of_eq_one l depth h rfl
  | text s, depth, h => calls_lt_of_eq_one l depth h rfl

theorem callsAll_le (l : Layout) : ∀ (items : List Json) (depth : Nat), FiniteAll items →
    callsAll items ≤ 2 * lengths (writeAll l depth items)
  | [], _, _ => Nat.zero_le _
  | j :: items, depth, h => by
    rw [FiniteAll] at h
    have hj := calls_lt l j depth h.1
    have hitems := callsAll_le l items depth h.2
    rw [callsAll, writeAll, lengths_cons]
    omega

theorem callsMembers_le (l : Layout) : ∀ (members : List (String × Json)) (depth : Nat),
    FiniteMembers members → callsMembers members ≤ 2 * lengths (writeMembers l depth members)
  | [], _, _ => Nat.zero_le _
  | (k, j) :: members, depth, h => by
    rw [FiniteMembers] at h
    have hj := calls_lt l j depth h.1
    have hmembers := callsMembers_le l members depth h.2
    rw [callsMembers, writeMembers, lengths_cons, String.toList_append, List.length_append]
    omega

end

/-- A document is read from its text. -/
theorem read?_write {l : Layout} (hl : l.Separates) {j : Json} (hplain : j.Plain)
    (hshort : j.isShort = true) : read? (write l j).toList = some j := by
  have hcalls := calls_lt l j 0 hplain.finite
  have hread : readValue? (2 * (write l j).toList.length + 2) ((write l j).toList ++ []) = _ :=
    readValue?_writeAt hl hplain.finite hshort 0 (by rw [write]; omega) ends_nil
  have hstarts : Starts (write l j).toList := starts_writeAt l 0 hplain.finite
  rw [List.append_nil] at hread
  rw [read?, skipBlanks_of_starts hstarts, hread]
  exact congrArg some (settle_reversed hplain.distinct)

end OutlineSearch.Json
