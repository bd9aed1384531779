import OutlineSearch.Proofs.Outline.Reading

/-!
# An outline keeps the words of its text

Each line of a text that gives no property is told once by the blocks of the outline, in the order of
the text: what has been read tells the lines read so far, and a further line is told last. That lines
in front of the first node become a node, that nodes are put at a greatest depth, and that a first node
which holds nothing but properties is taken away changes nothing of it.
-/

namespace OutlineSearch.Outline

open OutlineSearch.Text OutlineSearch.Block

/-! ### What nodes tell -/

/-- Whether a line gives a property. -/
def givesProperty (line : List Char) : Bool :=
  match propertyLine line with
  | .ok (some _) => true
  | _ => false

/-- The lines that give no property, without the dashes of nodes. -/
def plainLines (lines : List (List Char)) : List (List Char) :=
  (lines.map said).filter (!givesProperty ·)

/-- What some nodes tell. -/
def toldBy (items : List Item) : List (List Char) := wording (items.flatMap (·.lines.reverse))

/-- Every line of a node is one line. -/
def Item.Lined (x : Item) : Prop := ∀ line ∈ x.lines, OneLine line

variable {x : Item} {items : List Item}

theorem toldBy_cons (x : Item) (items : List Item) :
    toldBy (x :: items) = wording x.lines.reverse ++ toldBy items := by
  rw [toldBy, List.flatMap_cons, wording_append]
  rfl

theorem toldBy_append (items items' : List Item) :
    toldBy (items ++ items') = toldBy items ++ toldBy items' := by
  rw [toldBy, List.flatMap_append, wording_append]
  rfl

/-- A node tells its text. -/
theorem passages_content (h : x.Lined) : passages x.content.toList = wording x.lines.reverse := by
  rw [Item.content, String.toList_ofList, passages_trim]
  exact passages_intercalate fun line hline ↦ h line (List.mem_reverse.1 hline)

theorem flatMap_passages (h : ∀ x ∈ items, x.Lined) :
    items.flatMap (fun x => passages x.content.toList) = toldBy items := by
  induction items with
  | nil => rfl
  | cons x items ih =>
    rw [List.forall_mem_cons] at h
    rw [List.flatMap_cons, toldBy_cons, passages_content h.1, ih h.2]

/-- A first node that holds properties at most tells nothing. -/
theorem toldBy_settled (items : List Item) : toldBy (settled items) = toldBy items := by
  rw [settled]
  split
  · next hstarts =>
    cases items with
    | nil => rfl
    | cons x rest =>
      have hblank : ∀ line ∈ x.lines, isAllBlank line = true :=
        List.all_eq_true.1 (Bool.and_eq_true_iff.1 hstarts).1
      rw [toldBy_cons, wording_of_isAllBlank fun line hline ↦ hblank line (List.mem_reverse.1 hline)]
      rfl
  · rfl

namespace Reading

variable {r : Reading} {maxDepth : Int} {indent first line : List Char}
  {p : Option (String × Value)}

/-! ### What has been read tells the lines read -/

/-- What has been read tells. -/
def told (r : Reading) : List (List Char) := toldBy r.allItems

/-- Every line kept is one line. -/
structure Lined (r : Reading) : Prop where
  preamble : ∀ line ∈ r.preamble, OneLine line
  items : ∀ x ∈ r.items, x.Lined

theorem told_eq (r : Reading) :
    r.told = wording r.preamble.reverse ++ toldBy r.items.reverse := by
  rw [told, allItems]
  split
  · next hempty => rw [List.isEmpty_iff.1 hempty]; rfl
  · exact toldBy_cons ..

theorem wording_nodeOf (depth : Nat) (first : List Char) (p : Option (String × Value)) :
    wording (nodeOf depth first p).lines.reverse = if p.isSome then [] else wording [first] := by
  cases p <;> rfl

theorem told_withNode :
    (r.withNode maxDepth indent first p).told =
      r.told ++ if p.isSome then [] else wording [first] := by
  rw [told_eq, told_eq, withNode, List.reverse_cons, toldBy_append, toldBy_cons, wording_nodeOf,
    List.append_assoc]
  congr 2
  exact List.append_nil _

theorem told_withLine (line : List Char) (p : Option (String × Value)) :
    (r.withLine line p).told = r.told ++ if p.isSome then [] else wording [line] := by
  obtain ⟨pageProperties, preamble, items, path⟩ := r
  rw [told_eq, told_eq]
  cases items with
  | nil =>
    cases p with
    | some p => exact (List.append_nil _).symm
    | none =>
      dsimp only [withLine]
      split
      · next hblank =>
        rw [if_neg (by simp), wording_cons_of_isAllBlank hblank]
        exact (List.append_nil _).symm
      · rw [List.reverse_cons, wording_append, wording_trim, List.append_assoc, List.append_assoc]
        exact congrArg _ (List.append_nil _)
  | cons x rest =>
    dsimp only [withLine]
    cases p with
    | some p =>
      rw [List.reverse_cons, List.reverse_cons, toldBy_append, toldBy_append]
      exact (List.append_nil _).symm
    | none =>
      rw [List.reverse_cons, List.reverse_cons, toldBy_append, toldBy_append, toldBy_cons,
        toldBy_cons, List.reverse_cons, wording_append, wording_trim]
      simp [toldBy, wording]

/-- A further line is told last. -/
theorem told_next (line : List Char) (p : Option (String × Value)) :
    (r.next maxDepth line p).told = r.told ++ if p.isSome then [] else wording [said line] := by
  unfold next said
  cases bullet? line with
  | some bullet => exact told_withNode
  | none => exact told_withLine line p

/-- All lines are told, one behind the other. -/
theorem told_of_foldlM {r' : Reading} {lines : List (List Char)}
    (hread : lines.foldlM (add maxDepth) r = .ok r') :
    r'.told = r.told ++ wording (plainLines lines) := by
  induction lines generalizing r with
  | nil =>
    cases hread
    exact (List.append_nil _).symm
  | cons line lines ih =>
    rw [foldlM_add_cons] at hread
    cases hline : propertyLine (said line) with
    | error fault =>
      rw [hline] at hread
      cases hread
    | ok p =>
      rw [hline] at hread
      have hplain : plainLines (line :: lines) =
          (if p.isSome then [] else [said line]) ++ plainLines lines := by
        rw [plainLines, List.map_cons, List.filter_cons, givesProperty, hline]
        cases p <;> rfl
      rw [ih hread, told_next, hplain, wording_append, List.append_assoc]
      cases p <;> rfl

/-! ### Lines that are kept -/

theorem sublist_of_bullet? (h : bullet? line = some (indent, first)) : first.Sublist line := by
  have hdrop : (line.drop (line.takeWhile isBlank).length).Sublist line := List.drop_sublist ..
  unfold bullet? at h
  dsimp only at h
  split at h
  · next rest heq =>
    rw [heq] at hdrop
    split at h
    · cases h
      exact List.nil_sublist line
    · split at h
      · cases h
        exact (List.dropWhile_sublist _).trans ((List.sublist_cons_self '-' _).trans hdrop)
      · cases h
  · cases h

theorem lined_nodeOf (h : OneLine first) (depth : Nat) : (nodeOf depth first p).Lined := by
  cases p with
  | some p => exact List.forall_mem_nil _
  | none => exact List.forall_mem_singleton.2 h

theorem Lined.withNode (h : r.Lined) (hfirst : OneLine first) :
    (r.withNode maxDepth indent first p).Lined :=
  ⟨h.preamble, List.forall_mem_cons.2 ⟨lined_nodeOf hfirst _, h.items⟩⟩

theorem Lined.withLine (h : r.Lined) (hline : OneLine line) : (r.withLine line p).Lined := by
  obtain ⟨pageProperties, preamble, items, path⟩ := r
  obtain ⟨hpreamble, hitems⟩ := h
  cases items with
  | nil =>
    cases p with
    | some p => exact ⟨hpreamble, hitems⟩
    | none =>
      dsimp only [Reading.withLine]
      split
      · exact ⟨hpreamble, hitems⟩
      · exact ⟨List.forall_mem_cons.2 ⟨hline.trim, hpreamble⟩, hitems⟩
  | cons x rest =>
    obtain ⟨hx, hrest⟩ := List.forall_mem_cons.1 hitems
    cases p with
    | some p => exact ⟨hpreamble, List.forall_mem_cons.2 ⟨hx, hrest⟩⟩
    | none =>
      exact ⟨hpreamble, List.forall_mem_cons.2 ⟨List.forall_mem_cons.2 ⟨hline.trim, hx⟩, hrest⟩⟩

/-- A further line is kept as one line. -/
theorem Lined.next (h : r.Lined) (hline : OneLine line) : (r.next maxDepth line p).Lined := by
  unfold Reading.next
  split
  · next hbullet => exact h.withNode (hline.sublist (sublist_of_bullet? hbullet))
  · exact h.withLine hline

theorem lined_start (entries : List (Value × Value)) : (start entries).Lined :=
  ⟨List.forall_mem_nil _, List.forall_mem_nil _⟩

theorem Lined.settled (h : r.Lined) : ∀ x ∈ settled r.allItems, x.Lined :=
  forall_settled h.preamble h.items

end Reading

variable {text : String} {entries : List (Value × Value)} {body : List Char}

/-- The blocks made from nodes tell what the nodes tell. -/
theorem flatMap_passages_listing (page : String) (items : List Item) :
    (listing (blocksUnder page none "" 0 items)).flatMap (fun e => passages e.1.content.toList) =
      items.flatMap fun x => passages x.content.toList := by
  have hsayings := congrArg (List.flatMap fun saying => passages saying.1.toList)
    (sayings_blocksUnder page none "" 0 items [] 0)
  rwa [List.flatMap_map, List.flatMap_map] at hsayings

/-- The blocks of an outline, one behind the other, say the lines of its text that give no property:
none is lost, none is told twice and none is out of its order. -/
theorem passages_listing (maxDepth : Int) (page : String)
    (hbody : frontmatter text.toList = .ok (entries, body))
    (hlines : ∀ line ∈ lines body, ¬Overlong line) :
    ∃ properties blocks, read maxDepth page text = .ok (properties, blocks) ∧
      (listing blocks).flatMap (fun e => passages e.1.content.toList) =
        wording (plainLines (lines body)) := by
  obtain ⟨r, hr, hread⟩ := exists_reading maxDepth page hbody hlines
  have hlined : r.Lined := Reading.foldlM_add_induction hr (Reading.lined_start entries)
    fun r line p hline h ↦ h.next (oneLine_of_mem_lines body line hline)
  refine ⟨_, _, hread, ?_⟩
  calc (listing (blocksUnder page none "" 0 (settled r.allItems))).flatMap
        (fun e => passages e.1.content.toList)
      = (settled r.allItems).flatMap fun x => passages x.content.toList :=
        flatMap_passages_listing page _
    _ = toldBy (settled r.allItems) := flatMap_passages hlined.settled
    _ = r.told := toldBy_settled _
    _ = wording (plainLines (lines body)) := Reading.told_of_foldlM hr

/-- A text with a line in front of its nodes, a line behind one, and properties of both kinds. -/
def notes : String :=
  "kind:: notes\nfirst of all\n- one\n  and more \n  weight:: 3\n\n- done:: true\n    - two"

theorem notes_told : frontmatter notes.toList = .ok ([], notes.toList) ∧
    ∃ properties blocks, read 1 "notes" notes = .ok (properties, blocks) ∧
      (listing blocks).flatMap (fun e => passages e.1.content.toList) =
        ["first of all".toList, "one".toList, "and more".toList, "two".toList] := by
  have hbody : frontmatter notes.toList = .ok ([], notes.toList) := rfl
  have hlines : ∀ line ∈ lines notes.toList, ¬Overlong line := by
    intro line hline
    rw [← isOk_propertyLine_iff]
    revert line
    decide
  obtain ⟨properties, blocks, hread, htold⟩ := passages_listing 1 "notes" hbody hlines
  exact ⟨hbody, properties, blocks, hread, htold.trans (by decide)⟩

end OutlineSearch.Outline
