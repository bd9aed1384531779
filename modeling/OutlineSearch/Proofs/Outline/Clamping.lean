import OutlineSearch.Proofs.Outline.Reading
import OutlineSearch.Search.Atom

/-!
# Outlines that may not be too deep

A text is read down to a greatest depth, and what is deeper is put at that depth. The reading keeps
the indentations of the nodes around, and forgets some of them where it has come too deep. They
decrease from the node read last up to its root, so that what has been forgotten would never have
counted again. So the nodes and their order do not depend on the greatest depth, and a node stands
under the first ones of those under which it stands in an outline of any depth.
-/

namespace OutlineSearch.Outline

open OutlineSearch.Text OutlineSearch.Block

/-! ### Paths of indentations -/

/-- What stays of a path of indentations, from the last node up to its root, when nothing may be
deeper than `maxDepth`: the last one and the first ones. -/
def clipped (maxDepth : Nat) : List Nat → List Nat
  | [] => []
  | column :: path => column :: path.drop (path.length - maxDepth)

section

variable {path : List Nat} {maxDepth : Nat}

/-- Of a decreasing path the indentations below a column are its end. -/
theorem dropWhile_drop (hpath : path.Pairwise (· > ·)) (column m : Nat) :
    (path.drop m).dropWhile (column ≤ ·) = path.drop (max m (path.countP (column ≤ ·))) := by
  induction path generalizing m with
  | nil => simp
  | cons c path ih =>
    obtain ⟨hc, hpath⟩ := List.pairwise_cons.1 hpath
    by_cases hcolumn : column ≤ c
    · rw [List.countP_cons_of_pos (by simpa using hcolumn)]
      cases m with
      | zero =>
        rw [List.drop_zero, List.dropWhile_cons_of_pos (by simpa using hcolumn), Nat.zero_max,
          List.drop_succ_cons]
        simpa using ih hpath 0
      | succ m => rw [List.drop_succ_cons, ih hpath, Nat.succ_max_succ, List.drop_succ_cons]
    · have hbelow : ∀ d ∈ c :: path, ¬column ≤ d := by
        intro d hd
        rcases List.mem_cons.1 hd with rfl | hd
        · exact hcolumn
        · have := hc d hd
          omega
      rw [List.countP_eq_zero.2 (by simpa using hbelow), Nat.max_zero]
      cases hdrop : (c :: path).drop m with
      | nil => rfl
      | cons d rest =>
        have hd : d ∈ c :: path := List.mem_of_mem_drop (by rw [hdrop]; exact .head _)
        exact List.dropWhile_cons_of_neg (by simpa using hbelow d hd)

theorem dropWhile_path (hpath : path.Pairwise (· > ·)) (column : Nat) :
    path.dropWhile (column ≤ ·) = path.drop (path.countP (column ≤ ·)) := by
  have h := dropWhile_drop hpath column 0
  rwa [List.drop_zero, Nat.zero_max] at h

theorem kept_natCast (count : Nat) : kept (maxDepth : Int) count = min count maxDepth := by
  rw [kept, if_pos (by omega), Int.toNat_natCast]

/-- A new node of some column has the same nodes around it on the whole path and on what stays of it,
as far as they are not too deep. -/
theorem around_clipped (maxDepth : Nat) (hpath : path.Pairwise (· > ·)) (column : Nat) :
    let around := path.dropWhile (column ≤ ·)
    let around' := (clipped maxDepth path).dropWhile (column ≤ ·)
    min around'.length maxDepth = min around.length maxDepth ∧
      around'.drop (around'.length - min around'.length maxDepth) =
        around.drop (around.length - maxDepth) := by
  dsimp only
  cases path with
  | nil => simp [clipped]
  | cons c path =>
    obtain ⟨-, hrest⟩ := List.pairwise_cons.1 hpath
    rw [clipped]
    have hcount := List.countP_le_length (p := fun d => decide (column ≤ d)) (l := path)
    by_cases hcolumn : column ≤ c
    · rw [List.dropWhile_cons_of_pos (by simpa using hcolumn),
        List.dropWhile_cons_of_pos (by simpa using hcolumn), dropWhile_path hrest,
        dropWhile_drop hrest, List.drop_drop, List.drop_drop, List.length_drop, List.length_drop]
      refine ⟨by omega, congrArg (path.drop ·) (by omega)⟩
    · rw [List.dropWhile_cons_of_neg (by simpa using hcolumn),
        List.dropWhile_cons_of_neg (by simpa using hcolumn), List.length_cons, List.length_cons,
        List.length_drop]
      refine ⟨by omega, ?_⟩
      by_cases hlength : path.length + 1 ≤ maxDepth
      · rw [show path.length - maxDepth = 0 by omega, show path.length + 1 - maxDepth = 0 by omega,
          List.drop_zero, List.drop_zero, Nat.sub_zero, Nat.min_eq_left hlength, Nat.sub_self,
          List.drop_zero]
      · have hone : path.length - (path.length - maxDepth) + 1 -
            min (path.length - (path.length - maxDepth) + 1) maxDepth = 1 := by omega
        rw [hone, show path.length + 1 - maxDepth = path.length - maxDepth + 1 by omega,
          List.drop_succ_cons, List.drop_succ_cons, List.drop_zero]

end

/-! ### Two readings of a text -/

/-- A node, put at the greatest depth if it is deeper. -/
def Item.clampedTo (maxDepth : Nat) (x : Item) : Item := { x with depth := min x.depth maxDepth }

/-- What has been read, had nothing been deeper than `maxDepth`. -/
def Reading.clampedTo (maxDepth : Nat) (whole : Reading) : Reading :=
  { whole with
    items := whole.items.map (·.clampedTo maxDepth)
    path := clipped maxDepth whole.path }

theorem clampedTo_nodeOf (maxDepth depth : Nat) (first : List Char) (p : Option (String × Value)) :
    (nodeOf depth first p).clampedTo maxDepth = nodeOf (min depth maxDepth) first p := by
  cases p <;> rfl

namespace Reading

variable {whole whole' : Reading} {maxDepth limit : Nat} {p : Option (String × Value)}

theorem withNode_clampedTo (indent first : List Char) (h : whole.path.Pairwise (· > ·))
    (hlimit : whole.path.length ≤ limit) :
    (whole.clampedTo maxDepth).withNode maxDepth indent first p =
      (whole.withNode limit indent first p).clampedTo maxDepth := by
  have hwhole : whole.depthFor limit indent = (whole.around indent).length := by
    rw [depthFor, kept_natCast]
    exact Nat.min_eq_left (Nat.le_trans length_around_le hlimit)
  have hdepth : (whole.clampedTo maxDepth).depthFor maxDepth indent =
      min ((whole.clampedTo maxDepth).around indent).length maxDepth := kept_natCast _
  obtain ⟨hlength, hdrop⟩ := around_clipped maxDepth h (width 2 indent)
  have hitem : nodeOf ((whole.clampedTo maxDepth).depthFor maxDepth indent) first p =
      (nodeOf (whole.depthFor limit indent) first p).clampedTo maxDepth := by
    rw [clampedTo_nodeOf, hwhole, hdepth]
    exact congrArg (nodeOf · first p) hlength
  rw [withNode, withNode, hitem, hdepth, hwhole, Nat.sub_self, List.drop_zero]
  exact congrArg (fun path => Reading.mk whole.pageProperties whole.preamble
    (_ :: whole.items.map (·.clampedTo maxDepth)) (width 2 indent :: path)) hdrop

theorem withLine_clampedTo (line : List Char) :
    (whole.clampedTo maxDepth).withLine line p = (whole.withLine line p).clampedTo maxDepth := by
  obtain ⟨pageProperties, preamble, items, path⟩ := whole
  cases items with
  | nil =>
    cases p with
    | some p => rfl
    | none =>
      change ite .. = clampedTo maxDepth (ite ..)
      split <;> rfl
  | cons x rest => cases p <;> rfl

/-- A further line keeps two readings alike. -/
theorem next_clampedTo (maxDepth : Nat) (line : List Char) (p : Option (String × Value))
    (h : whole.Sound) (hlimit : whole.path.length ≤ limit) :
    (whole.clampedTo maxDepth).next maxDepth line p =
      (whole.next limit line p).clampedTo maxDepth := by
  unfold next
  split
  · exact withNode_clampedTo _ _ h.decreasing hlimit
  · exact withLine_clampedTo line

/-- All lines keep two readings alike, when the one of them has room for a node on every line. -/
theorem foldlM_add_clampedTo {lines : List (List Char)}
    (hread : lines.foldlM (add limit) whole = .ok whole') (h : whole.Sound)
    (hlimit : whole.path.length + lines.length ≤ limit) :
    lines.foldlM (add maxDepth) (whole.clampedTo maxDepth) = .ok (whole'.clampedTo maxDepth) := by
  induction lines generalizing whole with
  | nil =>
    cases hread
    rfl
  | cons line lines ih =>
    rw [List.length_cons] at hlimit
    rw [foldlM_add_cons] at hread ⊢
    cases hline : propertyLine (said line) with
    | error fault =>
      rw [hline] at hread
      cases hread
    | ok p =>
      rw [hline] at hread
      have hpath := length_path_next whole limit line p
      change lines.foldlM _ ((whole.clampedTo maxDepth).next maxDepth line p) = _
      rw [next_clampedTo maxDepth line p h (Nat.le_trans (Nat.le_add_right ..) hlimit)]
      exact ih hread h.next (by omega)

theorem allItems_clampedTo :
    (whole.clampedTo maxDepth).allItems = whole.allItems.map (·.clampedTo maxDepth) := by
  unfold allItems clampedTo
  split
  · exact List.map_reverse.symm
  · rw [List.map_cons, List.map_reverse, Item.clampedTo, Nat.zero_min]

theorem rising_allItems (h : whole.Sound) : Rising 0 (whole.allItems.map Item.depth) := by
  unfold allItems
  split
  · exact h.rising
  · exact ⟨Nat.le_refl 0, h.rising.mono (Nat.zero_le _)⟩

end Reading

section

variable {maxDepth : Nat} {items : List Item}

theorem startsWithProperties_clampedTo (h : 1 ≤ maxDepth) (items : List Item) :
    startsWithProperties (items.map (·.clampedTo maxDepth)) = startsWithProperties items := by
  cases items with
  | nil => rfl
  | cons x rest =>
    cases rest with
    | nil => rfl
    | cons y rest =>
      change (_ && (min y.depth maxDepth == 0)) = (_ && (y.depth == 0))
      congr 1
      rw [Bool.eq_iff_iff, beq_iff_eq, beq_iff_eq]
      omega

theorem settled_clampedTo (h : 1 ≤ maxDepth) :
    settled (items.map (·.clampedTo maxDepth)) = (settled items).map (·.clampedTo maxDepth) := by
  rw [settled, settled, startsWithProperties_clampedTo h]
  split
  · exact List.map_tail.symm
  · rfl

theorem settle_fst_clampedTo (h : 1 ≤ maxDepth) (properties : Properties) :
    (settle properties (items.map (·.clampedTo maxDepth))).1 = (settle properties items).1 := by
  cases items with
  | nil => rfl
  | cons x rest =>
    have hstarts := startsWithProperties_clampedTo h (x :: rest)
    rw [List.map_cons] at hstarts ⊢
    dsimp only [settle]
    rw [hstarts]
    split <;> rfl

theorem rising_settled (h : Rising 0 (items.map Item.depth)) :
    Rising 0 ((settled items).map Item.depth) := by
  rw [settled]
  split
  · next hstarts =>
    cases items with
    | nil => trivial
    | cons x rest =>
      refine h.2.of_head fun depth hdepth ↦ ?_
      rw [List.head?_map, Option.map_eq_some_iff] at hdepth
      obtain ⟨y, hy, rfl⟩ := hdepth
      simp only [startsWithProperties, hy, Bool.and_eq_true, Option.map_some, Option.getD_some,
        beq_iff_eq] at hstarts
      exact Nat.le_of_eq hstarts.2
  · exact h

/-! ### Two outlines of a text -/

/-- The traces of nodes put at the greatest depth are the traces that they had, as far as they are not
too deep. -/
theorem traces_clamped {path path' : List Nat} (number : Nat) (depths : List Nat)
    (hpath : path'.take maxDepth = path.take maxDepth) :
    traces path' number (depths.map (min · maxDepth)) =
      (traces path number depths).map (List.take maxDepth) := by
  induction depths generalizing path path' number with
  | nil => rfl
  | cons depth rest ih =>
    have htake : path'.take (min depth maxDepth) = (path.take depth).take maxDepth := by
      rw [← List.take_take, hpath, List.take_take, List.take_take, Nat.min_comm]
    rw [List.map_cons, traces, traces, List.map_cons, htake]
    congr 1
    refine ih (number + 1) ?_
    rw [List.take_append, List.take_append, List.take_take, Nat.min_self, List.length_take]
    congr 2
    omega

/-- What the blocks of an outline say, with their traces, is read off the nodes of which they are
made. -/
theorem listing_blocksUnder (page : String) (h : Rising 0 (items.map Item.depth)) :
    (listing (blocksUnder page none "" 0 items)).map (fun e => (e.1.saying, e.2)) =
      (items.map Item.saying).zip (traces [] 0 (items.map Item.depth)) := by
  have htraces := traces_blocksUnder page none "" 0 items [] 0 h fun _ _ ↦ Nat.zero_le _
  rw [← sayings_blocksUnder page none "" 0 items [] 0, ← htraces, List.zip_map']
  rfl

theorem rising_clamped {depths : List Nat} {limit limit' : Nat} (h : Rising limit depths)
    (hle : min limit maxDepth ≤ limit') : Rising limit' (depths.map (min · maxDepth)) := by
  induction depths generalizing limit limit' with
  | nil => trivial
  | cons depth rest ih =>
    obtain ⟨hdepth, hrest⟩ := h
    have hnext : min (depth + 1) maxDepth ≤ min depth maxDepth + 1 := by omega
    have hhead : min depth maxDepth ≤ limit' := by omega
    exact ⟨hhead, ih hrest hnext⟩

/-- Of nodes put at the greatest depth the same blocks are made, under the first ones of those under
which they would stand. -/
theorem listing_clamped (maxDepth : Nat) (page : String) (h : Rising 0 (items.map Item.depth)) :
    (listing (blocksUnder page none "" 0 (items.map (·.clampedTo maxDepth)))).map
        (fun e => (e.1.saying, e.2)) =
      (listing (blocksUnder page none "" 0 items)).map
        (fun e => (e.1.saying, e.2.take maxDepth)) := by
  have hsayings : (items.map (·.clampedTo maxDepth)).map Item.saying = items.map Item.saying := by
    rw [List.map_map]
    rfl
  have hdepths : (items.map (·.clampedTo maxDepth)).map Item.depth =
      (items.map Item.depth).map (min · maxDepth) := by
    rw [List.map_map, List.map_map]
    rfl
  have hwhole := congrArg (List.map (Prod.map id (List.take maxDepth))) (listing_blocksUnder page h)
  rw [listing_blocksUnder page (by rw [hdepths]; exact rising_clamped h (Nat.zero_min _ ▸ le_rfl)),
    hsayings, hdepths, traces_clamped 0 _ rfl, List.zip_map_right, ← hwhole, List.map_map]
  rfl

/-- A walk that goes as deep as an outline comes to all of its blocks. -/
theorem walk_eq_listing {blocks : List Block}
    (h : ∀ e ∈ listing blocks, e.2.length ≤ maxDepth) :
    walk maxDepth blocks = (listing blocks).map fun e => (e.1, e.2.length) := by
  rw [walk_eq_within (Int.natCast_nonneg maxDepth), within, List.filter_eq_self.2]
  intro e he
  simpa using h e he

theorem visible_eq_listing {blocks : List Block} (e : Evaluator)
    (he : e.settings.maxNestingLevel = maxDepth)
    (h : ∀ e ∈ listing blocks, e.2.length ≤ maxDepth) :
    e.visible blocks = (listing blocks).map (·.1) := by
  rw [Evaluator.visible, nodes, he, walk_eq_listing h, List.map_map]
  rfl

end

/-- An outline read down to a greatest depth, beside the outline of the same text read with room for a
node on every line: both have the same properties of the page and the same blocks in the same order. A
block stands under the first ones, as many as the greatest depth allows, of the blocks that it stands
under in the whole outline. So a walk down to that depth comes to every block of it, and a search with
that depth sees all of them. -/
theorem read_clamped {maxDepth limit : Nat} {text : String} {entries : List (Value × Value)}
    {body : List Char} (page : String) (hdepth : 1 ≤ maxDepth)
    (hbody : frontmatter text.toList = .ok (entries, body))
    (hlines : ∀ line ∈ lines body, ¬Overlong line)
    (hlimit : (lines text.toList).length ≤ limit) :
    ∃ properties blocks whole,
      read maxDepth page text = .ok (properties, blocks) ∧
      read limit page text = .ok (properties, whole) ∧
      (listing blocks).map (fun e => (e.1.saying, e.2)) =
        (listing whole).map (fun e => (e.1.saying, e.2.take maxDepth)) ∧
      walk maxDepth blocks = (listing blocks).map (fun e => (e.1, e.2.length)) ∧
      ∀ e : Evaluator, e.settings.maxNestingLevel = maxDepth →
        e.visible blocks = (listing blocks).map (·.1) := by
  obtain ⟨r, hr, hwhole⟩ := exists_reading limit page hbody hlines
  obtain ⟨r', hr', hclamped⟩ := exists_reading maxDepth page hbody hlines
  have hsound : r.Sound := Reading.sound_of_foldlM hr (Reading.sound_start entries)
  have hsuffix := length_lines_le_of_suffix (suffix_of_frontmatter hbody)
  have hlike : (lines body).foldlM (Reading.add maxDepth) (.start entries) =
      .ok (r.clampedTo maxDepth) :=
    Reading.foldlM_add_clampedTo hr (Reading.sound_start entries)
      (Nat.zero_add _ ▸ Nat.le_trans hsuffix hlimit)
  obtain rfl : r' = r.clampedTo maxDepth := Except.ok.inj (hr'.symm.trans hlike)
  rw [Reading.allItems_clampedTo, settle_fst_clampedTo hdepth, settled_clampedTo hdepth] at hclamped
  have hlisting := listing_clamped maxDepth page
    (rising_settled (Reading.rising_allItems hsound))
  have hdeep : ∀ e ∈ listing (blocksUnder page none "" 0
      ((settled r.allItems).map (·.clampedTo maxDepth))), e.2.length ≤ maxDepth := by
    intro e he
    obtain ⟨e', -, heq⟩ := List.mem_map.1 (hlisting ▸ List.mem_map_of_mem he)
    rw [← (Prod.mk.inj heq).2]
    exact List.length_take_le ..
  exact ⟨_, _, _, hclamped, hwhole, hlisting, walk_eq_listing hdeep,
    fun e he ↦ visible_eq_listing e he hdeep⟩

/-- Nodes down to a fourth level, and behind them one that is indented to between two of them. -/
def stairs : String := "kind:: steps\n- a\n  - b\n    - c\n      - d\n   - e"

theorem frontmatter_stairs : frontmatter stairs.toList = .ok ([], stairs.toList) := rfl

theorem not_overlong_stairs : ∀ line ∈ lines stairs.toList, ¬Overlong line := by
  intro line hline
  rw [← isOk_propertyLine_iff]
  revert line
  decide

theorem stairs_clamped :
    (lines stairs.toList).length ≤ 6 ∧
    ∃ properties blocks whole,
      read (2 : Nat) "stairs" stairs = .ok (properties, blocks) ∧
      read (6 : Nat) "stairs" stairs = .ok (properties, whole) ∧
      (listing blocks).map (fun e => (e.1.saying, e.2)) =
        (listing whole).map (fun e => (e.1.saying, e.2.take 2)) ∧
      walk (2 : Nat) blocks = (listing blocks).map (fun e => (e.1, e.2.length)) ∧
      ∀ e : Evaluator, e.settings.maxNestingLevel = (2 : Nat) →
        e.visible blocks = (listing blocks).map (·.1) :=
  ⟨by decide, read_clamped "stairs" (by decide) frontmatter_stairs not_overlong_stairs (by decide)⟩

end OutlineSearch.Outline
