import OutlineSearch.Proofs.Outline.Faults
import OutlineSearch.Proofs.Outline.Preorder
import OutlineSearch.Proofs.Text.Finding

/-!
# How a text is read

A line that can be read takes what has been read to what has been read with the line; so the lines of
a text that can be read take the empty reading to one that holds all of them. At every time the path
of indentations decreases from the node read last up to its root, it leads to that node, and no node
is more than one deeper than the one before it.
-/

namespace OutlineSearch.Outline

open OutlineSearch.Text

/-! ### The text behind the frontmatter -/

theorem suffix_of_dropPrefix? {start s rest : List Char} (h : dropPrefix? start s = some rest) :
    rest <:+ s :=
  dropPrefix?_eq_some_iff.1 h ▸ List.suffix_append start rest

theorem suffix_of_skipBlankLines? {s rest : List Char} (h : skipBlankLines? s = some rest) :
    rest <:+ s := by
  have hblanks : ((s.takeWhile isBlank).reverse.takeWhile (· != '\n')).reverse <:+
      s.takeWhile isBlank := by
    rw [← List.reverse_prefix, List.reverse_reverse]
    exact List.takeWhile_prefix _
  obtain ⟨before, hbefore⟩ := hblanks
  unfold skipBlankLines? at h
  dsimp only at h
  split at h
  · obtain rfl := Option.some.inj h
    refine ⟨before, ?_⟩
    rw [← List.append_assoc, hbefore, ← List.prefix_iff_eq_append]
    exact List.takeWhile_prefix _
  · cases h

theorem suffix_of_closing? {s rest : List Char} (h : closing? s = some rest) : rest <:+ s := by
  obtain ⟨behind, hbehind, hrest⟩ := Option.bind_eq_some_iff.1 h
  exact (suffix_of_skipBlankLines? hrest).trans (suffix_of_dropPrefix? hbehind)

theorem suffix_of_cutAtClosing? {s front rest : List Char}
    (h : cutAtClosing? s = some (front, rest)) : rest <:+ s := by
  induction s generalizing front with
  | nil => cases h
  | cons c s ih =>
    rw [cutAtClosing?] at h
    split at h
    · next hclosing =>
      cases h
      exact suffix_of_closing? hclosing
    · obtain ⟨parts, hparts, heq⟩ := Option.map_eq_some_iff.1 h
      obtain ⟨-, rfl⟩ := Prod.mk.inj heq
      exact (ih hparts).trans (List.suffix_cons c s)

theorem suffix_of_mem_blankLineEnds {s : List Char} : ∀ rest ∈ blankLineEnds s, rest <:+ s := by
  induction s with
  | nil => simp [blankLineEnds]
  | cons c s ih =>
    intro rest h
    rw [blankLineEnds] at h
    split at h
    · rcases List.mem_append.1 h with h | h
      · exact (ih rest h).trans (List.suffix_cons c s)
      · split at h
        · obtain rfl := List.mem_singleton.1 h
          exact List.suffix_cons c rest
        · cases h
    · cases h

/-- The text behind the frontmatter is the end of the text. -/
theorem suffix_of_frontmatter {s body : List Char} {entries : List (Value × Value)}
    (h : frontmatter s = .ok (entries, body)) : body <:+ s := by
  have hparts (source : List Char) (hparts : frontmatterParts? s = some (source, body)) :
      body <:+ s := by
    obtain ⟨rest, hrest, hcut⟩ := Option.bind_eq_some_iff.1 hparts
    obtain ⟨behind, hbehind, hcut⟩ := List.exists_of_findSome?_eq_some hcut
    exact (suffix_of_cutAtClosing? hcut).trans
      ((suffix_of_mem_blankLineEnds behind hbehind).trans (suffix_of_dropPrefix? hrest))
  unfold frontmatter at h
  split at h
  · cases h
    exact List.suffix_refl _
  · next source body' hparts' =>
    split at h
    · cases h
      exact hparts source hparts'
    · cases h
      exact hparts source hparts'
    · cases h
      exact hparts source hparts'
    · cases h

/-! ### A line -/

/-- A node of a depth, with the property or the text that stands behind its dash. -/
def nodeOf (depth : Nat) (first : List Char) : Option (String × Value) → Item
  | some p => ⟨depth, [], [p]⟩
  | none => ⟨depth, [first], []⟩

namespace Reading

/-- The indentations of the nodes around a new node. -/
def around (r : Reading) (indent : List Char) : List Nat :=
  r.path.dropWhile (width 2 indent ≤ ·)

/-- The depth of a new node. -/
def depthFor (r : Reading) (maxDepth : Int) (indent : List Char) : Nat :=
  kept maxDepth (r.around indent).length

/-- The reading with a new node, given what stands behind its dash. -/
def withNode (r : Reading) (maxDepth : Int) (indent first : List Char)
    (p : Option (String × Value)) : Reading :=
  { r with
    items := nodeOf (r.depthFor maxDepth indent) first p :: r.items
    path := width 2 indent ::
      (r.around indent).drop ((r.around indent).length - r.depthFor maxDepth indent) }

/-- The reading with a line that starts no node, given the property on it. -/
def withLine (r : Reading) (line : List Char) (p : Option (String × Value)) : Reading :=
  match r.items, p with
  | [], some (k, v) => { r with pageProperties := r.pageProperties.putNew k v }
  | [], none => if isAllBlank line then r else { r with preamble := trim line :: r.preamble }
  | x :: rest, some (k, v) => { r with items := { x with properties := x.properties.put k v } :: rest }
  | x :: rest, none => { r with items := { x with lines := trim line :: x.lines } :: rest }

/-- The reading with a further line, given the property on it. -/
def next (r : Reading) (maxDepth : Int) (line : List Char) (p : Option (String × Value)) :
    Reading :=
  match bullet? line with
  | some (indent, first) => r.withNode maxDepth indent first p
  | none => r.withLine line p

/-- To read a line is to read the property on it. -/
theorem add_eq (r : Reading) (maxDepth : Int) (line : List Char) :
    r.add maxDepth line = (propertyLine (said line)).map (r.next maxDepth line) := by
  unfold add next said
  cases bullet? line with
  | some bullet =>
    obtain ⟨indent, first⟩ := bullet
    dsimp only [addNode]
    cases propertyLine first with
    | error fault => rfl
    | ok p => cases p <;> rfl
  | none =>
    dsimp only [addLine, withLine]
    cases propertyLine line with
    | error fault => rfl
    | ok p =>
      cases r.items with
      | nil =>
        cases p with
        | some p => rfl
        | none =>
          change (if isAllBlank line then Except.ok r else _) = Except.ok (ite ..)
          split <;> rfl
      | cons x rest => cases p <;> rfl

/-! ### What holds at every time -/

/-- What has been read holds together. -/
structure Sound (r : Reading) : Prop where
  decreasing : r.path.Pairwise (· > ·)
  length_path : r.path.length = (r.items.head?.map (·.depth + 1)).getD 0
  rising : Rising 0 (r.items.reverse.map Item.depth)

variable {r : Reading} {maxDepth : Int} {indent first line : List Char}
  {p : Option (String × Value)}

theorem lt_of_mem_around (h : r.path.Pairwise (· > ·)) :
    ∀ column ∈ r.around indent, column < width 2 indent := by
  have haround : (r.around indent).Pairwise (· > ·) := h.sublist (List.dropWhile_sublist _)
  have hhead : ∀ column, (r.around indent).head? = some column → column < width 2 indent := by
    intro column hcolumn
    have hnot := List.head?_dropWhile_not (fun column => decide (width 2 indent ≤ column)) r.path
    rw [show r.path.dropWhile _ = r.around indent from rfl, hcolumn] at hnot
    simpa using hnot
  intro column hcolumn
  cases hpath : r.around indent with
  | nil =>
    rw [hpath] at hcolumn
    cases hcolumn
  | cons c path =>
    rw [hpath] at haround hhead hcolumn
    rcases List.mem_cons.1 hcolumn with rfl | hmem
    · exact hhead column rfl
    · exact Nat.lt_trans (List.rel_of_pairwise_cons haround hmem) (hhead c rfl)

theorem kept_le (maxDepth : Int) (count : Nat) : kept maxDepth count ≤ count := by
  rw [kept]
  split <;> omega

theorem length_around_le : (r.around indent).length ≤ r.path.length :=
  (List.dropWhile_sublist _).length_le

theorem depthFor_le : r.depthFor maxDepth indent ≤ (r.around indent).length := kept_le ..

theorem depth_nodeOf (depth : Nat) : (nodeOf depth first p).depth = depth := by
  cases p <;> rfl

end Reading

/-- A further depth that is at most one above the last one. -/
theorem rising_concat {limit depth : Nat} {depths : List Nat} (h : Rising limit depths)
    (hdepth : depth ≤ (depths.getLast?.map (· + 1)).getD limit) :
    Rising limit (depths ++ [depth]) := by
  induction depths generalizing limit with
  | nil => exact ⟨hdepth, trivial⟩
  | cons d rest ih =>
    refine ⟨h.1, ih h.2 ?_⟩
    cases rest with
    | nil => exact hdepth
    | cons d' rest => rwa [List.getLast?_cons_cons] at hdepth

namespace Reading

variable {r : Reading} {maxDepth : Int} {indent first line : List Char}
  {p : Option (String × Value)}

theorem Sound.withNode (h : r.Sound) : (r.withNode maxDepth indent first p).Sound := by
  have hlength : (r.around indent).length ≤ r.path.length := length_around_le
  have hdepth : r.depthFor maxDepth indent ≤ (r.around indent).length := depthFor_le
  refine ⟨?_, ?_, ?_⟩
  · refine List.pairwise_cons.2 ⟨fun column hcolumn ↦ ?_, ?_⟩
    · exact lt_of_mem_around h.decreasing column (List.mem_of_mem_drop hcolumn)
    · exact h.decreasing.sublist ((List.drop_sublist ..).trans (List.dropWhile_sublist _))
  · change _ + 1 = (nodeOf ..).depth + 1
    rw [depth_nodeOf, List.length_drop, Nat.sub_sub_self hdepth]
  · change Rising 0 ((nodeOf .. :: r.items).reverse.map _)
    rw [List.reverse_cons, List.map_append]
    refine rising_concat h.rising ?_
    rw [depth_nodeOf, List.getLast?_map, List.getLast?_reverse, Option.map_map]
    exact Nat.le_trans hdepth (Nat.le_trans hlength (Nat.le_of_eq h.length_path))

theorem Sound.withLine (h : r.Sound) : (r.withLine line p).Sound := by
  obtain ⟨hdecreasing, hlength, hrising⟩ := h
  unfold Reading.withLine
  split
  · exact ⟨hdecreasing, hlength, hrising⟩
  · split
    · exact ⟨hdecreasing, hlength, hrising⟩
    · exact ⟨hdecreasing, hlength, hrising⟩
  · next heq =>
    rw [heq] at hlength hrising
    exact ⟨hdecreasing, hlength, by simpa using hrising⟩
  · next heq =>
    rw [heq] at hlength hrising
    exact ⟨hdecreasing, hlength, by simpa using hrising⟩

/-- A further line keeps what has been read together. -/
theorem Sound.next (h : r.Sound) : (r.next maxDepth line p).Sound := by
  unfold Reading.next
  split
  · exact h.withNode
  · exact h.withLine

/-- The path grows by one node at most. -/
theorem length_path_next (r : Reading) (maxDepth : Int) (line : List Char)
    (p : Option (String × Value)) : (r.next maxDepth line p).path.length ≤ r.path.length + 1 := by
  unfold next
  split
  · next indent first _ =>
    have hlength : (r.around indent).length ≤ r.path.length := length_around_le
    change ((r.around indent).drop _).length + 1 ≤ _
    rw [List.length_drop]
    omega
  · have hpath : (r.withLine line p).path = r.path := by
      unfold withLine
      split
      · rfl
      · split <;> rfl
      · rfl
      · rfl
    rw [hpath]
    exact Nat.le_succ _

/-! ### All lines -/

/-- The reading of a text before its first line, with the properties that its frontmatter gives. -/
def start (entries : List (Value × Value)) : Reading :=
  { pageProperties := entries.foldl (fun known (k, v) => known.put (lowered k.plainText) v) [] }

theorem sound_start (entries : List (Value × Value)) : (start entries).Sound :=
  ⟨.nil, rfl, trivial⟩

theorem foldlM_add_cons (r : Reading) (maxDepth : Int) (line : List Char)
    (lines : List (List Char)) :
    (line :: lines).foldlM (add maxDepth) r =
      (propertyLine (said line)).bind fun p =>
        lines.foldlM (add maxDepth) (r.next maxDepth line p) := by
  rw [List.foldlM_cons, add_eq]
  cases propertyLine (said line) <;> rfl

/-- What is kept by every line, given the property on it, holds when all lines have been read. -/
theorem foldlM_read_induction {P : Reading → Prop} {r' : Reading} {lines : List (List Char)}
    (hread : lines.foldlM (add maxDepth) r = .ok r') (h : P r)
    (hnext : ∀ r line p, line ∈ lines → propertyLine (said line) = .ok p → P r →
      P (r.next maxDepth line p)) : P r' := by
  induction lines generalizing r with
  | nil =>
    cases hread
    exact h
  | cons line lines ih =>
    rw [foldlM_add_cons] at hread
    cases hline : propertyLine (said line) with
    | error fault =>
      rw [hline] at hread
      cases hread
    | ok p =>
      rw [hline] at hread
      exact ih hread (hnext r line p (.head _) hline h) fun r line p hmem ↦
        hnext r line p (.tail _ hmem)

theorem foldlM_add_induction {P : Reading → Prop} {r' : Reading} {lines : List (List Char)}
    (hread : lines.foldlM (add maxDepth) r = .ok r') (h : P r)
    (hnext : ∀ r line p, line ∈ lines → P r → P (r.next maxDepth line p)) : P r' :=
  foldlM_read_induction hread h fun r line p hmem _ ↦ hnext r line p hmem

theorem sound_of_foldlM {r' : Reading} {lines : List (List Char)}
    (hread : lines.foldlM (add maxDepth) r = .ok r') (h : r.Sound) : r'.Sound :=
  foldlM_add_induction hread h fun _ _ _ _ h ↦ h.next

end Reading

/-- The nodes that stay when those that hold nothing but properties of the page have been taken
away. -/
def settled (items : List Item) : List Item :=
  if startsWithProperties items then items.tail else items

theorem mem_of_mem_settled {items : List Item} {x : Item} (h : x ∈ settled items) : x ∈ items := by
  rw [settled] at h
  split at h
  · exact List.mem_of_mem_tail h
  · exact h

/-- What is so of the node of the preamble and of all others is so of the nodes that stay. -/
theorem Reading.forall_settled {r : Reading} {P : Item → Prop}
    (hpreamble : P { depth := 0, lines := r.preamble, properties := [] })
    (hitems : ∀ x ∈ r.items, P x) : ∀ x ∈ settled r.allItems, P x := by
  have hall : ∀ x ∈ r.allItems, P x := by
    have hreverse : ∀ x ∈ r.items.reverse, P x := fun x hx ↦ hitems x (List.mem_reverse.1 hx)
    unfold allItems
    split
    · exact hreverse
    · exact List.forall_mem_cons.2 ⟨hpreamble, hreverse⟩
  exact fun x hx ↦ hall x (mem_of_mem_settled hx)

theorem settle_snd (properties : Properties) (items : List Item) :
    (settle properties items).2 = settled items := by
  unfold settle settled
  cases items with
  | nil => rfl
  | cons x rest =>
    dsimp only
    split <;> rfl

section

variable {text : String} {entries : List (Value × Value)} {body : List Char}

theorem items_eq (maxDepth : Int) (hbody : frontmatter text.toList = .ok (entries, body)) :
    items maxDepth text = ((lines body).foldlM (Reading.add maxDepth) (.start entries)).map fun r =>
      settle r.pageProperties r.allItems := by
  unfold items
  rw [hbody]
  change ((lines body).foldlM (Reading.add maxDepth) (.start entries) >>= fun r => _) = _
  cases (lines body).foldlM (Reading.add maxDepth) (.start entries) <;> rfl

/-- A text whose parts can be read is read: its lines take the empty reading to one of which the
properties of the page and the blocks are made. -/
theorem exists_reading (maxDepth : Int) (page : String)
    (hbody : frontmatter text.toList = .ok (entries, body))
    (hlines : ∀ line ∈ lines body, ¬Overlong line) :
    ∃ r, (lines body).foldlM (Reading.add maxDepth) (.start entries) = .ok r ∧
      read maxDepth page text =
        .ok ((settle r.pageProperties r.allItems).1,
          blocksUnder page none "" 0 (settled r.allItems)) := by
  obtain ⟨r, hr⟩ := isOk_iff.1 ((isOk_foldlM_add_iff maxDepth (.start entries) (lines body)).2 hlines)
  refine ⟨r, hr, ?_⟩
  rw [read, items_eq maxDepth hbody, hr, ← settle_snd r.pageProperties]
  rfl

end

end OutlineSearch.Outline
