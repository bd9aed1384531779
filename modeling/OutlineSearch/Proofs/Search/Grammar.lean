import OutlineSearch.Proofs.Search.Boolean
import OutlineSearch.Proofs.Text.Blanks
import OutlineSearch.Proofs.Text.Splitting

/-!
# The grammar of queries

Every query is read as an atomic filter, a conjunction of atomic filters, or a disjunction of such
expressions. It is a disjunction exactly when the mark of one stands in it, no atomic filter holds a
mark, and but for blanks the expression spells the query.
-/

namespace OutlineSearch.Expr

open OutlineSearch.Text

/-! ### Grammar and spelling -/

/-- An atomic filter, or a conjunction of two of them at least. -/
def IsTerm : Expr → Prop
  | atom _ => True
  | all operands => 2 ≤ operands.length ∧ ∀ operand ∈ operands, operand.isAtom = true
  | any _ => False

/-- What the grammar of queries allows: a term, or a disjunction of two terms at least. -/
def IsQuery : Expr → Prop
  | any operands => 2 ≤ operands.length ∧ ∀ operand ∈ operands, operand.IsTerm
  | expr => expr.IsTerm

mutual

/-- The atomic filters of an expression in order, with `AND` or `OR` between operands. -/
def spelling : Expr → List Char
  | atom text => text.toList
  | all operands => "AND".toList.intercalate (spellings operands)
  | any operands => "OR".toList.intercalate (spellings operands)

/-- The spellings of some expressions. -/
def spellings : List Expr → List (List Char)
  | [] => []
  | operand :: rest => spelling operand :: spellings rest

end

theorem spellings_eq_map (operands : List Expr) : spellings operands = operands.map spelling := by
  induction operands with
  | nil => rfl
  | cons operand rest ih => rw [spellings, ih, List.map_cons]

theorem leavesOf_eq_flatMap (operands : List Expr) :
    leavesOf operands = operands.flatMap leaves := by
  induction operands with
  | nil => rfl
  | cons operand rest ih => rw [leavesOf, ih, List.flatMap_cons]

/-- The text with its blanks deleted. -/
def squeezed (s : List Char) : List Char := s.filter (!isBlank ·)

theorem squeezed_append (s s' : List Char) : squeezed (s ++ s') = squeezed s ++ squeezed s' :=
  List.filter_append ..

theorem squeezed_of_isBlank {c : Char} (hc : isBlank c = true) : squeezed [c] = [] :=
  List.filter_cons_of_neg (by simp [hc])

theorem squeezed_trim (s : List Char) : squeezed (trim s) = squeezed s := by
  refine trim_invariant (f := squeezed) (fun c s hc ↦ ?_) (fun c s hc ↦ ?_) s
  · rw [← List.singleton_append, squeezed_append, squeezed_of_isBlank hc, List.nil_append]
  · rw [squeezed_append, squeezed_of_isBlank hc, List.append_nil]

theorem squeezed_intercalate (separator : List Char) (parts : List (List Char)) :
    squeezed (separator.intercalate parts) =
      (squeezed separator).intercalate (parts.map squeezed) := by
  induction parts with
  | nil => rfl
  | cons part parts ih =>
    cases parts with
    | nil => rw [List.intercalate_singleton, List.map_singleton, List.intercalate_singleton]
    | cons next parts =>
      rw [List.intercalate_cons_cons, squeezed_append, squeezed_append, ih, List.map_cons,
        List.map_cons, List.map_cons, List.intercalate_cons_cons]

/-! ### Reading -/

/-- The text of an atomic filter: no blanks stand at its ends, and no mark stands in it. -/
structure IsLeaf (text : String) : Prop where
  bare : trimmed text = text
  noAnd : ¬andMark <:+: text.toList
  noOr : ¬orMark <:+: text.toList

/-- An expression of atomic filters without marks that spells a text. -/
structure Reads (s : List Char) (expr : Expr) : Prop where
  leaves : ∀ leaf ∈ expr.leaves, IsLeaf leaf
  spelling : squeezed expr.spelling = squeezed s

variable {s : List Char}

theorem Reads.trim {expr : Expr} (h : Reads (trim s) expr) : Reads s expr :=
  ⟨h.leaves, h.spelling.trans (squeezed_trim s)⟩

theorem reads_ofText (hand : ¬andMark <:+: s) (hor : ¬orMark <:+: s) : Reads s (ofText s) where
  leaves := by
    rw [ofText, leaves, List.forall_mem_singleton]
    refine ⟨?_, ?_, ?_⟩
    · rw [trimmed, String.toList_ofList, trim_trim]
    · rw [String.toList_ofList]
      exact fun h ↦ hand (h.trans (trim_isInfix s))
    · rw [String.toList_ofList]
      exact fun h ↦ hor (h.trans (trim_isInfix s))
  spelling := by rw [ofText, spelling, String.toList_ofList, squeezed_trim]

section

variable {mark word : List Char} {parts : List (List Char)} {read : List Char → Expr}
  (hread : ∀ part ∈ parts, Reads part (read part))

include hread

theorem isLeaf_of_mem_leavesOf : ∀ leaf ∈ leavesOf (parts.map read), IsLeaf leaf := by
  rw [leavesOf_eq_flatMap]
  intro leaf hleaf
  obtain ⟨operand, hoperand, hleaf⟩ := List.mem_flatMap.1 hleaf
  obtain ⟨part, hpart, rfl⟩ := List.mem_map.1 hoperand
  exact (hread part hpart).leaves leaf hleaf

/-- Operands that spell the parts of a text spell the text, the mark between them squeezed. -/
theorem squeezed_spellings (h : Parted mark s parts) (hword : squeezed word = squeezed mark) :
    squeezed (word.intercalate (spellings (parts.map read))) = squeezed s := by
  have hparts : (spellings (parts.map read)).map squeezed = parts.map squeezed := by
    rw [spellings_eq_map, List.map_map, List.map_map]
    exact List.map_congr_left fun part hpart ↦ (hread part hpart).spelling
  rw [squeezed_intercalate, hparts, hword, ← squeezed_intercalate, h.intercalate]

end

theorem parted_andMark (s : List Char) : Parted andMark s (split andMark s) :=
  parted_split (List.cons_ne_nil _ _) s

theorem parted_orMark (s : List Char) : Parted orMark s (split orMark s) :=
  parted_split (List.cons_ne_nil _ _) s

theorem reads_conjunction (hor : ¬orMark <:+: s) : Reads s (conjunction s) := by
  rw [conjunction]
  split
  · have hparts := parted_andMark s
    have hread : ∀ part ∈ split andMark s, Reads part (ofText part) := fun part hpart ↦
      reads_ofText (hparts.not_infix part hpart) fun h ↦ hor (h.trans (hparts.isInfix part hpart))
    exact ⟨isLeaf_of_mem_leavesOf hread, squeezed_spellings hread hparts rfl⟩
  · next hand =>
    rw [occursIn_iff] at hand
    exact reads_ofText hand hor

theorem isTerm_conjunction (s : List Char) : (conjunction s).IsTerm := by
  rw [conjunction]
  split
  · next hand =>
    refine ⟨?_, ?_⟩
    · rw [List.length_map]
      exact (parted_andMark s).two_le_length (occursIn_iff.1 hand)
    · rw [List.forall_mem_map]
      exact fun _ _ ↦ rfl
  · trivial

theorem reads_parse (query : String) : Reads query.toList (parse query) := by
  rw [parse]
  split
  · have hparts := parted_orMark query.toList
    have hread : ∀ part ∈ split orMark query.toList, Reads part (conjunction (trim part)) :=
      fun part hpart ↦ (reads_conjunction fun h ↦
        hparts.not_infix part hpart (h.trans (trim_isInfix part))).trim
    exact ⟨isLeaf_of_mem_leavesOf hread, squeezed_spellings hread hparts rfl⟩
  · next hor =>
    rw [occursIn_iff] at hor
    exact (reads_conjunction fun h ↦ hor (h.trans (trim_isInfix _))).trim

theorem isQuery_parse (query : String) : (parse query).IsQuery := by
  rw [parse]
  split
  · next hor =>
    refine ⟨?_, ?_⟩
    · rw [List.length_map]
      exact (parted_orMark _).two_le_length (occursIn_iff.1 hor)
    · rw [List.forall_mem_map]
      exact fun part _ ↦ isTerm_conjunction (trim part)
  · have hterm := isTerm_conjunction (trim query.toList)
    generalize conjunction (trim query.toList) = expr at hterm ⊢
    cases expr with
    | atom text => exact hterm
    | all operands => exact hterm
    | any operands => exact hterm.elim

/-- A term is no disjunction. -/
theorem IsTerm.ne_any {expr : Expr} (h : expr.IsTerm) (operands : List Expr) :
    expr ≠ any operands := by
  rintro rfl
  exact h

theorem exists_parse_eq_any_iff (query : String) :
    (∃ operands, parse query = any operands) ↔ orMark <:+: query.toList := by
  rw [parse, ← occursIn_iff]
  split
  · next hor => exact ⟨fun _ ↦ hor, fun _ ↦ ⟨_, rfl⟩⟩
  · next hor =>
    refine ⟨fun ⟨operands, h⟩ ↦ ?_, fun h ↦ absurd h hor⟩
    exact absurd h ((isTerm_conjunction _).ne_any operands)

/-- Every query is read as an atomic filter, a conjunction of atomic filters, or a disjunction of
such expressions, and this exactly when the mark of a disjunction stands in it. Each atomic filter
is trimmed and holds no mark, and the expression spells the query but for blanks. -/
theorem parse_grammatical (query : String) :
    (parse query).IsQuery ∧
    ((∃ operands, parse query = any operands) ↔ " OR ".toList <:+: query.toList) ∧
    (∀ leaf ∈ (parse query).leaves, trimmed leaf = leaf ∧
      ¬" AND ".toList <:+: leaf.toList ∧ ¬" OR ".toList <:+: leaf.toList) ∧
    squeezed (parse query).spelling = squeezed query.toList := by
  have hreads := reads_parse query
  refine ⟨isQuery_parse query, exists_parse_eq_any_iff query, fun leaf hleaf ↦ ?_, hreads.spelling⟩
  obtain ⟨hbare, hand, hor⟩ := hreads.leaves leaf hleaf
  exact ⟨hbare, hand, hor⟩

end OutlineSearch.Expr
