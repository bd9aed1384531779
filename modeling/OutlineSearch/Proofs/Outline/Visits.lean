import OutlineSearch.Proofs.Outline.Preorder
import Mathlib.Logic.Function.Iterate

/-!
# What a walk comes to

The address of a block tells the way to it: a number among the blocks at the top, then one among the
blocks under that block, and so on to the number of the block itself. In the order of the document
the addresses are in lexicographic order.

A walk takes one block off its stack at every turn. It comes to the blocks that are not too deep, in
the order of their addresses, and ends behind the last of them.
-/

namespace OutlineSearch

open OutlineSearch.Outline

namespace Block

/-! ### Addresses -/

mutual

/-- A block and all blocks under it with their addresses from the block on, in the order of the
document. -/
def descendants : Block → List (List Nat × Block)
  | b@(mk _ _ _ _ _ children _ _) => ([], b) :: addressed 0 children

/-- Some blocks, numbered from `index` on, and all blocks under them with their addresses. -/
def addressed (index : Nat) : List Block → List (List Nat × Block)
  | [] => []
  | b :: rest => (descendants b).map (fun e => (index :: e.1, e.2)) ++ addressed (index + 1) rest

end

/-- The block at an address from a block on. -/
def descendant? (b : Block) : List Nat → Option Block
  | [] => some b
  | i :: path => b.children[i]?.bind fun c => c.descendant? path

theorem descendants_eq (b : Block) : descendants b = ([], b) :: addressed 0 b.children := by
  cases b
  rfl

/-- Among some blocks stand those that stand under one of them. -/
theorem mem_addressed_iff {index : Nat} {blocks : List Block} {address : List Nat} {x : Block} :
    (address, x) ∈ addressed index blocks ↔ ∃ i path b,
      address = (index + i) :: path ∧ blocks[i]? = some b ∧ (path, x) ∈ descendants b := by
  induction blocks generalizing index with
  | nil => simp [addressed]
  | cons b rest ih =>
    rw [addressed, List.mem_append, List.mem_map, ih]
    constructor
    · rintro (⟨⟨path, y⟩, hmem, heq⟩ | ⟨i, path, c, rfl, hc, hmem⟩)
      · cases heq
        exact ⟨0, path, b, rfl, rfl, hmem⟩
      · exact ⟨i + 1, path, c, by rw [Nat.add_right_comm, Nat.add_assoc], hc, hmem⟩
    · rintro ⟨i, path, c, rfl, hc, hmem⟩
      cases i with
      | zero =>
        cases hc
        exact .inl ⟨(path, x), hmem, rfl⟩
      | succ i => exact .inr ⟨i, path, c, by rw [Nat.add_right_comm, Nat.add_assoc], hc, hmem⟩

theorem cons_mem_addressed_iff {blocks : List Block} {i : Nat} {path : List Nat} {x : Block} :
    (i :: path, x) ∈ addressed 0 blocks ↔ ∃ b, blocks[i]? = some b ∧ (path, x) ∈ descendants b := by
  rw [mem_addressed_iff]
  constructor
  · rintro ⟨j, path', b, heq, hb, hmem⟩
    rw [Nat.zero_add] at heq
    cases heq
    exact ⟨b, hb, hmem⟩
  · rintro ⟨b, hb, hmem⟩
    exact ⟨i, path, b, by rw [Nat.zero_add], hb, hmem⟩

/-- The blocks listed with a block are those at its addresses. -/
theorem mem_descendants_iff {b x : Block} {address : List Nat} :
    (address, x) ∈ descendants b ↔ b.descendant? address = some x := by
  induction address generalizing b with
  | nil =>
    rw [descendants_eq, List.mem_cons, mem_addressed_iff]
    simp [descendant?, eq_comm]
  | cons i path ih =>
    rw [descendants_eq, List.mem_cons, cons_mem_addressed_iff, descendant?, Option.bind_eq_some_iff]
    simp [ih]

mutual

theorem pairwise_descendants : (b : Block) → ((descendants b).map (·.1)).Pairwise (· < ·)
  | mk _ _ _ _ _ children _ _ => by
    rw [descendants, List.map_cons, List.pairwise_cons]
    refine ⟨?_, pairwise_addressed 0 children⟩
    intro address h
    obtain ⟨⟨_, x⟩, hmem, rfl⟩ := List.mem_map.1 h
    obtain ⟨i, path, -, rfl, -⟩ := mem_addressed_iff.1 hmem
    exact List.nil_lt_cons _ _

/-- In the order of the document addresses are in lexicographic order. -/
theorem pairwise_addressed (index : Nat) : (blocks : List Block) →
    ((addressed index blocks).map (·.1)).Pairwise (· < ·)
  | [] => .nil
  | b :: rest => by
    rw [addressed, List.map_append, List.map_map, List.pairwise_append]
    refine ⟨?_, pairwise_addressed (index + 1) rest, ?_⟩
    · have hb := pairwise_descendants b
      rw [List.pairwise_map] at hb ⊢
      exact hb.imp fun hlt ↦ List.cons_lt_cons_iff.2 (.inr ⟨rfl, hlt⟩)
    · intro address h address' h'
      obtain ⟨⟨path, x⟩, -, rfl⟩ := List.mem_map.1 h
      obtain ⟨⟨_, y⟩, hmem, rfl⟩ := List.mem_map.1 h'
      obtain ⟨i, path', -, rfl, -⟩ := mem_addressed_iff.1 hmem
      -- The numbers of the blocks behind are greater.
      exact List.cons_lt_cons_iff.2 (.inl (by omega))

end

mutual

theorem levels_tracedAt (trace : List Nat) (number : Nat) : (b : Block) →
    (tracedAt trace number b).map (fun e => (e.1, e.2.length)) =
      (descendants b).map fun e => (e.2, trace.length + e.1.length)
  | mk _ _ _ _ _ children _ _ => by
    have hunder : ∀ e ∈ addressed 0 children, (trace ++ [number]).length + (e.1.length - 1) =
        trace.length + e.1.length := by
      rintro ⟨address, x⟩ hmem
      obtain ⟨i, path, -, rfl, -⟩ := mem_addressed_iff.1 hmem
      simp only [List.length_append, List.length_cons, List.length_nil]
      omega
    rw [tracedAt, descendants, List.map_cons, List.map_cons,
      levels_traced (trace ++ [number]) (number + 1) 0 children]
    congr 1
    exact List.map_congr_left fun e he ↦ by rw [hunder e he]

/-- The trace of a block is as long as its address without the last number. -/
theorem levels_traced (trace : List Nat) (number index : Nat) : (blocks : List Block) →
    (traced trace number blocks).map (fun e => (e.1, e.2.length)) =
      (addressed index blocks).map fun e => (e.2, trace.length + (e.1.length - 1))
  | [] => rfl
  | b :: rest => by
    rw [traced, addressed, List.map_append, List.map_append, levels_tracedAt trace number b,
      levels_traced trace _ (index + 1) rest, List.map_map]
    rfl

end

end Block

namespace Outline

open Block OutlineSearch.Text

variable {maxDepth : Int}

/-- The block at an address of an outline. -/
def at? (blocks : List Block) : List Nat → Option Block
  | [] => none
  | i :: path => blocks[i]?.bind fun b => b.descendant? path

/-- How deep the block at an address stands; the blocks at the top have depth 0. -/
def depthOf (address : List Nat) : Nat := address.length - 1

/-- The blocks of an outline down to a depth, with their addresses and in the order of the
document. -/
def reached (maxDepth : Int) (blocks : List Block) : List (List Nat × Block) :=
  (addressed 0 blocks).filter fun e => (depthOf e.1 : Int) ≤ maxDepth

theorem mem_reached_iff {blocks : List Block} {address : List Nat} {b : Block} :
    (address, b) ∈ reached maxDepth blocks ↔
      at? blocks address = some b ∧ (depthOf address : Int) ≤ maxDepth := by
  rw [reached, List.mem_filter, decide_eq_true_iff]
  apply and_congr_left'
  cases address with
  | nil => simp [at?, mem_addressed_iff]
  | cons i path =>
    simp only [at?, cons_mem_addressed_iff, mem_descendants_iff, Option.bind_eq_some_iff]

theorem pairwise_reached (maxDepth : Int) (blocks : List Block) :
    ((reached maxDepth blocks).map (·.1)).Pairwise (· < ·) :=
  (pairwise_addressed 0 blocks).sublist (List.filter_sublist.map _)

theorem walk_eq_reached (h : 0 ≤ maxDepth) (blocks : List Block) :
    walk maxDepth blocks = (reached maxDepth blocks).map fun e => (e.2, depthOf e.1) := by
  have hlevels := congrArg (List.filter fun e : Block × Nat => decide ((e.2 : Int) ≤ maxDepth))
    (levels_traced [] 0 0 blocks)
  rw [List.filter_map, List.filter_map] at hlevels
  simp only [List.length_nil, Nat.zero_add] at hlevels
  rw [walk_eq_within h]
  exact hlevels

/-! ### The turns of a walk -/

/-- One turn of a walk: the block on top is taken off the stack, and the blocks under it are put on
it if they are not too deep. -/
def turn (maxDepth : Int) : List (Block × Nat) → List (Block × Nat)
  | [] => []
  | (b, depth) :: rest =>
    if (depth : Int) + 1 > maxDepth then rest else stacked (depth + 1) b.children ++ rest

/-- A walk visits the block on top and goes on from the next turn. -/
theorem walkFrom_eq_cons (node : Block × Nat) (rest : List (Block × Nat)) :
    walkFrom maxDepth (node :: rest) =
      node :: walkFrom maxDepth (turn maxDepth (node :: rest)) := by
  rw [walkFrom, turn]
  split <;> rfl

/-- The block visited at a turn is the one on top of the stack that the turns before have left. -/
theorem getElem?_walkFrom (n : Nat) (stack : List (Block × Nat)) :
    (walkFrom maxDepth stack)[n]? = ((turn maxDepth)^[n] stack).head? := by
  induction n generalizing stack with
  | zero =>
    cases stack with
    | nil =>
      rw [walkFrom]
      rfl
    | cons node rest =>
      rw [walkFrom_eq_cons]
      rfl
  | succ n ih =>
    rw [Function.iterate_succ_apply, ← ih]
    cases stack with
    | nil =>
      rw [turn, walkFrom]
      rfl
    | cons node rest => rw [walkFrom_eq_cons, List.getElem?_cons_succ]

/-- A walk ends: the stack is empty after as many turns as there are blocks to visit. -/
theorem iterate_turn_eq_nil_iff (n : Nat) (stack : List (Block × Nat)) :
    (turn maxDepth)^[n] stack = [] ↔ (walkFrom maxDepth stack).length ≤ n := by
  rw [← List.head?_eq_none_iff, ← getElem?_walkFrom, List.getElem?_eq_none_iff]

/-! ### What is told of the blocks -/

/-- Names are added as they are first met. -/
theorem foldl_addNew (known names : List String) :
    names.foldl addNew known =
      known ++ (names.filter fun name => !known.contains name).eraseDups := by
  induction names generalizing known with
  | nil => simp
  | cons name rest ih =>
    rw [List.foldl_cons, ih, addNew]
    by_cases h : known.contains name = true
    · rw [if_pos h, List.filter_cons_of_neg (by simpa using h)]
    · rw [if_neg h, List.filter_cons_of_pos (by simpa using h), List.eraseDups_cons,
        List.filter_filter, List.append_assoc]
      have hnew (x : String) : (!(known ++ [name]).contains x) =
          (!(x == name) && !known.contains x) := by
        rw [Bool.eq_iff_iff]
        simp [and_comm]
      simp only [hnew]
      rfl

theorem isBlankTree_iff (h : 0 ≤ maxDepth) (blocks : List Block) :
    isBlankTree maxDepth blocks = true ↔
      ∀ e ∈ reached maxDepth blocks, isBlankString e.2.content = true := by
  rw [isBlankTree, List.all_eq_true, nodes, walk_eq_reached h, List.map_map, List.forall_mem_map]
  rfl

theorem placeholders_eq (h : 0 ≤ maxDepth) (blocks : List Block) :
    placeholders maxDepth blocks = ((reached maxDepth blocks).flatMap fun e =>
      findAll placeholder e.2.content.toList).eraseDups := by
  rw [placeholders, nodes, walk_eq_reached h, List.map_map, List.flatMap_map, foldl_addNew,
    List.nil_append]
  exact congrArg List.eraseDups (List.filter_eq_self.2 fun _ _ ↦ rfl)

end Outline

open Outline Text

/-- A walk ends after as many turns as it visits blocks, and at every turn it visits the block on
top of its stack. It visits the blocks that are not too deep, with their depths and in the order of
the document; their addresses are in lexicographic order, so it visits each of them once. Hence an
outline is blank when all of these blocks are, and its placeholders are those of these blocks, each
where it is first met. -/
theorem walk_visits {maxDepth : Int} (h : 0 ≤ maxDepth) (blocks : List Block) :
    (∀ n, (turn maxDepth)^[n] (stacked 0 blocks) = [] ↔ (walk maxDepth blocks).length ≤ n) ∧
    (∀ n, (walk maxDepth blocks)[n]? = ((turn maxDepth)^[n] (stacked 0 blocks)).head?) ∧
    walk maxDepth blocks = (reached maxDepth blocks).map (fun e => (e.2, depthOf e.1)) ∧
    ((reached maxDepth blocks).map (·.1)).Pairwise (· < ·) ∧
    (∀ address b, (address, b) ∈ reached maxDepth blocks ↔
      at? blocks address = some b ∧ (depthOf address : Int) ≤ maxDepth) ∧
    (isBlankTree maxDepth blocks = true ↔ ∀ address b, at? blocks address = some b →
      (depthOf address : Int) ≤ maxDepth → isBlankString b.content = true) ∧
    placeholders maxDepth blocks = ((reached maxDepth blocks).flatMap fun e =>
      findAll placeholder e.2.content.toList).eraseDups := by
  refine ⟨?_, ?_, walk_eq_reached h blocks, pairwise_reached maxDepth blocks, ?_, ?_,
    placeholders_eq h blocks⟩
  · intro n
    exact iterate_turn_eq_nil_iff n (stacked 0 blocks)
  · intro n
    exact getElem?_walkFrom n (stacked 0 blocks)
  · intro address b
    exact mem_reached_iff
  · rw [isBlankTree_iff h, Prod.forall]
    simp only [mem_reached_iff, and_imp]

/-- A block with a text and some blocks under it. -/
def noteOf (content : String) (children : List Block) : Block :=
  .mk content content [] none none children none none

/-- An outline of three levels with one placeholder in two of its blocks. -/
def letter : List Block :=
  [noteOf "To <%name%>, \x7b\x7bdate\x7d\x7d" [noteOf "<%name%>" [noteOf "<%sum%>" []]],
    noteOf " " []]

/-- A walk down to the second level leaves out the block on the third. -/
theorem letter_visits : (0 : Int) ≤ 1 ∧
    (walk 1 letter).map (fun e => (e.1.content, e.2)) =
      [("To <%name%>, \x7b\x7bdate\x7d\x7d", 0), ("<%name%>", 1), (" ", 0)] ∧
    (turn 1)^[3] (stacked 0 letter) = [] ∧
    ¬isBlankTree 1 letter = true ∧
    placeholders 1 letter = ["<%name%>", "\x7b\x7bdate\x7d\x7d"] := by
  have hdepth : (0 : Int) ≤ 1 := by decide
  obtain ⟨hends, -, hwalk, -, -, hblank, hnames⟩ := walk_visits hdepth letter
  refine ⟨hdepth, ?_, ?_, ?_, ?_⟩
  · rw [hwalk]
    rfl
  · rw [hends, hwalk]
    decide
  · rw [hblank]
    intro hall
    exact absurd (hall [0] _ rfl (by decide)) (by decide)
  · rw [hnames]
    decide +kernel

end OutlineSearch
