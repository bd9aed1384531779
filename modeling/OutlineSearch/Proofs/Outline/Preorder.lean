import OutlineSearch.Outline.Walk
import OutlineSearch.Outline.Tree
import Mathlib.Data.List.TakeWhile

/-!
# The blocks of an outline in order

All blocks of an outline in the order of the text, each with its trace: the numbers of the blocks
that it stands under, from the root on, where blocks are numbered in that order. So the length of the
trace is the depth of the block, and its last number is that of the block above it.

A walk comes to the blocks that are not too deep, in this order. The blocks made from the nodes of a
text are the nodes in order, and the depths of the nodes say the traces.
-/

namespace OutlineSearch

open OutlineSearch.Outline

namespace Block

mutual

/-- A block of a number and all blocks under it with their traces. -/
def tracedAt (trace : List Nat) (number : Nat) : Block → List (Block × List Nat)
  | b@(mk _ _ _ _ _ children _ _) => (b, trace) :: traced (trace ++ [number]) (number + 1) children

/-- Some blocks with one trace, numbered from `number` on, and all blocks under them. -/
def traced (trace : List Nat) (number : Nat) : List Block → List (Block × List Nat)
  | [] => []
  | b :: rest => tracedAt trace number b ++ traced trace (number + b.size) rest

end

/-- All blocks of an outline with their traces. -/
def listing (blocks : List Block) : List (Block × List Nat) := traced [] 0 blocks

/-- What a block says itself: its text and its properties. -/
def saying (b : Block) : String × Properties := (b.content, b.properties)

mutual

theorem length_tracedAt (trace : List Nat) (number : Nat) : (b : Block) →
    (tracedAt trace number b).length = b.size
  | mk _ _ _ _ _ children _ _ => by
    rw [tracedAt, size, List.length_cons, length_traced (trace ++ [number]), Nat.add_comm]

theorem length_traced (trace : List Nat) (number : Nat) : (blocks : List Block) →
    (traced trace number blocks).length = sizes blocks
  | [] => rfl
  | b :: rest => by
    rw [traced, sizes, List.length_append, length_tracedAt trace number b,
      length_traced trace _ rest]

end

mutual

theorem le_length_of_mem_tracedAt (trace : List Nat) (number : Nat) : (b : Block) →
    ∀ e ∈ tracedAt trace number b, trace.length ≤ e.2.length
  | mk _ _ _ _ _ children _ _ => by
    intro e h
    rw [tracedAt, List.mem_cons] at h
    rcases h with rfl | h
    · exact Nat.le_refl _
    · have hle := le_length_of_mem_traced (trace ++ [number]) _ children e h
      rw [List.length_append] at hle
      exact Nat.le_of_add_right_le hle

/-- Blocks are no less deep than those with which they are listed. -/
theorem le_length_of_mem_traced (trace : List Nat) (number : Nat) : (blocks : List Block) →
    ∀ e ∈ traced trace number blocks, trace.length ≤ e.2.length
  | [] => by
    intro e h
    cases h
  | b :: rest => by
    intro e h
    rw [traced, List.mem_append] at h
    rcases h with h | h
    · exact le_length_of_mem_tracedAt trace number b e h
    · exact le_length_of_mem_traced trace _ rest e h

end

end Block

namespace Outline

open Block

/-! ### Walks -/

section

variable {maxDepth : Int}

mutual

theorem walkFrom_cons (depth : Nat) (rest : List (Block × Nat)) : (b : Block) →
    walkFrom maxDepth ((b, depth) :: rest) = preorder maxDepth depth b ++ walkFrom maxDepth rest
  | mk _ _ _ _ _ children _ _ => by
    rw [walkFrom, preorder]
    split
    · rfl
    · rw [Block.children, walkFrom_stacked (depth + 1) rest children, List.cons_append]

/-- The blocks on a stack are visited one after the other, each with the blocks under it. -/
theorem walkFrom_stacked (depth : Nat) (rest : List (Block × Nat)) : (blocks : List Block) →
    walkFrom maxDepth (stacked depth blocks ++ rest) =
      preorders maxDepth depth blocks ++ walkFrom maxDepth rest
  | [] => rfl
  | b :: more => by
    rw [preorders, List.append_assoc, ← walkFrom_stacked depth rest more,
      ← walkFrom_cons depth _ b]
    rfl

end

theorem walk_eq_preorders (blocks : List Block) :
    walk maxDepth blocks = preorders maxDepth 0 blocks := by
  have h : walkFrom maxDepth (stacked 0 blocks ++ []) = _ := walkFrom_stacked 0 [] blocks
  rwa [walkFrom, List.append_nil, List.append_nil] at h

/-- The blocks of a listing that are not too deep, with their depths. -/
def within (maxDepth : Int) (listing : List (Block × List Nat)) : List (Block × Nat) :=
  (listing.filter fun e => (e.2.length : Int) ≤ maxDepth).map fun e => (e.1, e.2.length)

theorem within_append (l l' : List (Block × List Nat)) :
    within maxDepth (l ++ l') = within maxDepth l ++ within maxDepth l' := by
  rw [within, List.filter_append, List.map_append]
  rfl

theorem within_traced_of_lt {trace : List Nat} (h : maxDepth < trace.length) (number : Nat)
    (blocks : List Block) : within maxDepth (traced trace number blocks) = [] := by
  rw [within, List.map_eq_nil_iff, List.filter_eq_nil_iff]
  intro e he
  have := le_length_of_mem_traced trace number blocks e he
  simp only [decide_eq_true_eq]
  omega

mutual

theorem preorder_eq_within {trace : List Nat} (h : (trace.length : Int) ≤ maxDepth) (number : Nat) :
    (b : Block) → preorder maxDepth trace.length b = within maxDepth (tracedAt trace number b)
  | mk _ _ _ _ _ children _ _ => by
    have hlength : (trace ++ [number]).length = trace.length + 1 := by simp
    rw [preorder, tracedAt, ← List.singleton_append, ← List.singleton_append (l := traced ..),
      within_append]
    congr 1
    · simp [within, h]
    · split
      · next hdeep => rw [within_traced_of_lt (by rw [hlength]; omega)]
      · next hdeep => rw [← hlength, preorders_eq_within (by rw [hlength]; omega) (number + 1)]

theorem preorders_eq_within {trace : List Nat} (h : (trace.length : Int) ≤ maxDepth)
    (number : Nat) : (blocks : List Block) →
      preorders maxDepth trace.length blocks = within maxDepth (traced trace number blocks)
  | [] => rfl
  | b :: rest => by
    rw [preorders, traced, within_append, preorder_eq_within h number b,
      preorders_eq_within h (number + b.size) rest]

end

/-- A walk comes to the blocks of the outline that are not too deep, in order and with their
depths. -/
theorem walk_eq_within (h : 0 ≤ maxDepth) (blocks : List Block) :
    walk maxDepth blocks = within maxDepth (listing blocks) := by
  rw [walk_eq_preorders]
  exact preorders_eq_within (show (([] : List Nat).length : Int) ≤ maxDepth from h) 0 blocks

/-- The blocks of an outline that are at most so deep, in order. -/
def downTo (maxDepth : Int) (blocks : List Block) : List Block :=
  ((listing blocks).filter fun e => (e.2.length : Int) ≤ maxDepth).map (·.1)

theorem nodes_eq_downTo (h : 0 ≤ maxDepth) (blocks : List Block) :
    nodes maxDepth blocks = downTo maxDepth blocks := by
  rw [nodes, walk_eq_within h, within, List.map_map]
  rfl

/-- The blocks at the top are not too deep for any walk. -/
theorem preorders_of_neg (h : maxDepth < 0) (blocks : List Block) :
    preorders maxDepth 0 blocks = preorders 0 0 blocks := by
  induction blocks with
  | nil => rfl
  | cons b rest ih =>
    obtain ⟨uuid, content, properties, page, parent, children, created, updated⟩ := b
    rw [preorders, preorders, ih, preorder, preorder, if_pos (by omega), if_pos (by omega)]

/-- A search looks at the blocks down to its depth, and always at those at the top. -/
theorem nodes_eq_downTo_max (maxDepth : Int) (blocks : List Block) :
    nodes maxDepth blocks = downTo (max maxDepth 0) blocks := by
  by_cases h : 0 ≤ maxDepth
  · rw [Int.max_eq_left h, nodes_eq_downTo h]
  · have hneg : maxDepth < 0 := by omega
    have hwalk : walk maxDepth blocks = walk 0 blocks := by
      rw [walk_eq_preorders, walk_eq_preorders, preorders_of_neg hneg]
    rw [Int.max_eq_right (Int.le_of_lt hneg), ← nodes_eq_downTo (Int.le_refl 0), nodes, hwalk,
      nodes]

end

/-! ### Blocks made from nodes -/

/-- What a node says itself: its text and its properties, without the one that is its identity. -/
def Item.saying (x : Item) : String × Properties := (x.content, x.properties.filter (·.1 != "id"))

/-- The blocks made from nodes say what the nodes say, in their order. -/
theorem sayings_blocksUnder (page : String) (parent : Option String) (above : String) (index : Nat)
    (items : List Item) (trace : List Nat) (number : Nat) :
    (traced trace number (blocksUnder page parent above index items)).map (·.1.saying) =
      items.map Item.saying := by
  fun_induction blocksUnder page parent above index items generalizing trace number with
  | case1 => rfl
  | case2 parent above index x rest position uuid ihUnder ihRest =>
    rw [traced, tracedAt, List.map_append, List.map_cons, ihUnder, ihRest, List.cons_append,
      ← List.map_append, List.takeWhile_append_dropWhile]
    rfl

theorem sizes_blocksUnder (page : String) (parent : Option String) (above : String) (index : Nat)
    (items : List Item) : sizes (blocksUnder page parent above index items) = items.length := by
  have h := congrArg List.length (sayings_blocksUnder page parent above index items [] 0)
  rwa [List.length_map, List.length_map, length_traced] at h

/-- The traces of nodes of some depths, numbered from `number` on; `path` leads to the node before
them, and that node itself is its last. -/
def traces (path : List Nat) (number : Nat) : List Nat → List (List Nat)
  | [] => []
  | depth :: rest =>
    path.take depth :: traces (path.take depth ++ [number]) (number + 1) rest

/-- The path to the last of some nodes. -/
def pathTo (path : List Nat) (number : Nat) : List Nat → List Nat
  | [] => path
  | depth :: rest => pathTo (path.take depth ++ [number]) (number + 1) rest

/-- No depth is more than one above the depth before it, and the first one is at most `limit`. -/
def Rising (limit : Nat) : List Nat → Prop
  | [] => True
  | depth :: rest => depth ≤ limit ∧ Rising (depth + 1) rest

variable {limit number : Nat} {path path' depths more : List Nat}

theorem Rising.of_head {limit' : Nat} (h : Rising limit depths)
    (hhead : ∀ depth, depths.head? = some depth → depth ≤ limit') : Rising limit' depths := by
  cases depths with
  | nil => trivial
  | cons depth rest => exact ⟨hhead depth rfl, h.2⟩

theorem Rising.mono {limit' : Nat} (h : Rising limit depths) (hle : limit ≤ limit') :
    Rising limit' depths := by
  cases depths with
  | nil => trivial
  | cons depth rest => exact ⟨Nat.le_trans h.1 hle, h.2⟩

theorem rising_append (h : Rising limit (depths ++ more)) :
    Rising limit depths ∧ ∃ limit', Rising limit' more := by
  induction depths generalizing limit with
  | nil => exact ⟨trivial, limit, h⟩
  | cons depth rest ih =>
    obtain ⟨hrest, hmore⟩ := ih h.2
    exact ⟨⟨h.1, hrest⟩, hmore⟩

theorem traces_append (path : List Nat) (number : Nat) (depths more : List Nat) :
    traces path number (depths ++ more) =
      traces path number depths ++ traces (pathTo path number depths) (number + depths.length) more
        := by
  induction depths generalizing path number with
  | nil => rfl
  | cons depth rest ih =>
    rw [List.cons_append, traces, traces, ih, pathTo, List.length_cons, List.cons_append,
      Nat.add_assoc, Nat.add_comm 1]

/-- The first node decides how much of the path before it counts. -/
theorem traces_congr (h : ∀ depth, depths.head? = some depth → path.take depth = path'.take depth) :
    traces path number depths = traces path' number depths := by
  cases depths with
  | nil => rfl
  | cons depth rest => rw [traces, traces, h depth rfl]

/-- Nodes that are no less deep than a path leave it as it is. -/
theorem take_pathTo {depth : Nat} (hrising : Rising path.length depths)
    (hdeep : ∀ d ∈ depths, depth ≤ d) (hpath : depth ≤ path.length) :
    (pathTo path number depths).take depth = path.take depth := by
  induction depths generalizing path number with
  | nil => rfl
  | cons d rest ih =>
    rw [List.forall_mem_cons] at hdeep
    have hlength : (path.take d ++ [number]).length = d + 1 := by
      rw [List.length_append, List.length_take_of_le hrising.1]
      rfl
    rw [pathTo, ih (hlength ▸ hrising.2) hdeep.2 (by omega),
      List.take_append_of_le_length (by rw [List.length_take_of_le hrising.1]; exact hdeep.1),
      List.take_take, Nat.min_eq_left hdeep.1]

/-- The traces of a node that stands where a path leads to, of the nodes under it and of those
behind. -/
theorem traces_node {under beside : List Nat} (hunder : Rising (path.length + 1) under)
    (hdeep : ∀ d ∈ under, path.length < d)
    (hbeside : ∀ d, beside.head? = some d → d ≤ path.length) :
    traces path number (path.length :: (under ++ beside)) =
      path :: (traces (path ++ [number]) (number + 1) under ++
        traces path (number + 1 + under.length) beside) := by
  rw [traces, List.take_length, traces_append]
  congr 2
  refine traces_congr fun d hd ↦ ?_
  have hle := hbeside d hd
  rw [take_pathTo (by simpa using hunder) (fun d' hd' ↦ Nat.le_trans hle (hdeep d' hd').le)
    (by simpa using Nat.le_succ_of_le hle), List.take_append_of_le_length hle]

/-- The nodes under a node are deeper than it. -/
theorem depth_lt_of_mem_takeWhile (depth : Nat) (items : List Item) :
    ∀ y ∈ items.takeWhile (depth < ·.depth), depth < y.depth := by
  intro y hy
  simpa using List.mem_takeWhile_imp hy

/-- The node behind those under a node is no deeper than it. -/
theorem depth_le_of_head?_dropWhile (depth : Nat) (items : List Item) :
    ∀ d, ((items.dropWhile (depth < ·.depth)).map Item.depth).head? = some d → d ≤ depth := by
  intro d hd
  rw [List.head?_map, Option.map_eq_some_iff] at hd
  obtain ⟨y, hy, rfl⟩ := hd
  have hnot := List.head?_dropWhile_not (fun y : Item => decide (depth < y.depth)) items
  rw [hy] at hnot
  simpa using hnot

/-- The blocks made from nodes stand where the depths of the nodes say. -/
theorem traces_blocksUnder (page : String) (parent : Option String) (above : String) (index : Nat)
    (items : List Item) (trace : List Nat) (number : Nat)
    (hrising : Rising trace.length (items.map Item.depth))
    (hdeep : ∀ x ∈ items, trace.length ≤ x.depth) :
    (traced trace number (blocksUnder page parent above index items)).map (·.2) =
      traces trace number (items.map Item.depth) := by
  fun_induction blocksUnder page parent above index items generalizing trace number with
  | case1 => rfl
  | case2 parent above index x rest position uuid =>
    rename_i ihUnder ihRest
    rw [List.forall_mem_cons] at hdeep
    obtain ⟨hle, hrest⟩ := hrising
    have hdepth : x.depth = trace.length := Nat.le_antisymm hle hdeep.1
    have hlength : (trace ++ [number]).length = trace.length + 1 := List.length_append
    have hunder := depth_lt_of_mem_takeWhile x.depth rest
    have hbeside := depth_le_of_head?_dropWhile x.depth rest
    have hsplit := List.takeWhile_append_dropWhile (p := (x.depth < ·.depth)) (l := rest)
    generalize rest.takeWhile (x.depth < ·.depth) = under at *
    generalize rest.dropWhile (x.depth < ·.depth) = beside at *
    obtain rfl := hsplit
    rw [hdepth] at hunder hbeside hrest
    rw [List.map_append] at hrest
    obtain ⟨hrisingUnder, limit, hrisingBeside⟩ := rising_append hrest
    rw [traced, tracedAt, List.map_append, List.map_cons, Block.size, sizes_blocksUnder,
      ihUnder _ _ (by rwa [hlength]) (by rwa [hlength]),
      ihRest _ _ (hrisingBeside.of_head hbeside)
        fun y hy ↦ hdeep.2 y (List.mem_append_right _ hy),
      List.map_cons, List.map_append, hdepth,
      traces_node hrisingUnder (List.forall_mem_map.2 hunder) hbeside, List.length_map,
      List.cons_append, Nat.add_assoc]

end Outline

end OutlineSearch
