import OutlineSearch.Block
import OutlineSearch.Text.Find

/-!
# Walking an outline

The nodes of an outline in the order of the document, down to a depth. The walk keeps the nodes
still to be visited on a stack; `preorder` says the same by recursion on the outline.
-/

namespace OutlineSearch

namespace Block

mutual

/-- The number of nodes of a block, itself included. -/
def size : Block → Nat
  | mk _ _ _ _ _ children _ _ => 1 + sizes children

/-- The number of nodes of some blocks. -/
def sizes : List Block → Nat
  | [] => 0
  | b :: rest => b.size + sizes rest

end

theorem size_eq (b : Block) : b.size = 1 + sizes b.children := by
  cases b; rfl

mutual

/-- The nodes of a block at a depth, down to the greatest depth, with their depths. -/
def preorder (maxDepth : Int) (depth : Nat) : Block → List (Block × Nat)
  | b@(mk _ _ _ _ _ children _ _) =>
    (b, depth) ::
      (if (depth : Int) + 1 > maxDepth then [] else preorders maxDepth (depth + 1) children)

/-- The nodes of some blocks at a depth. -/
def preorders (maxDepth : Int) (depth : Nat) : List Block → List (Block × Nat)
  | [] => []
  | b :: rest => preorder maxDepth depth b ++ preorders maxDepth depth rest

end

end Block

namespace Outline

open OutlineSearch.Text

/-- The blocks at one depth, as they are put on the stack. -/
def stacked (depth : Nat) (blocks : List Block) : List (Block × Nat) :=
  blocks.map fun b => (b, depth)

/-- The number of nodes on a stack. -/
def stackSize : List (Block × Nat) → Nat
  | [] => 0
  | (b, _) :: rest => b.size + stackSize rest

theorem stackSize_cons (b : Block) (d : Nat) (rest : List (Block × Nat)) :
    stackSize ((b, d) :: rest) = b.size + stackSize rest := rfl

theorem stackSize_stacked (d : Nat) (blocks : List Block) (rest : List (Block × Nat)) :
    stackSize (stacked d blocks ++ rest) = Block.sizes blocks + stackSize rest := by
  induction blocks with
  | nil => simp [stacked, Block.sizes]
  | cons b more ih =>
    simp only [stacked, List.map_cons, List.cons_append, stackSize_cons, Block.sizes] at ih ⊢
    omega

/-- The nodes that a stack leads to: the node on top is visited, then the nodes under it if they are
not too deep, then the rest of the stack. -/
def walkFrom (maxDepth : Int) (stack : List (Block × Nat)) : List (Block × Nat) :=
  match stack with
  | [] => []
  | (b, depth) :: rest =>
    if (depth : Int) + 1 > maxDepth then (b, depth) :: walkFrom maxDepth rest
    else (b, depth) :: walkFrom maxDepth (stacked (depth + 1) b.children ++ rest)
termination_by stackSize stack
decreasing_by
  · have := b.size_eq
    simp only [stackSize_cons]
    omega
  · have := b.size_eq
    simp only [stackSize_cons, stackSize_stacked]
    omega

/-- The nodes of an outline down to a depth, with their depths. -/
def walk (maxDepth : Int) (blocks : List Block) : List (Block × Nat) :=
  walkFrom maxDepth (stacked 0 blocks)

/-- The nodes of an outline down to a depth. -/
def nodes (maxDepth : Int) (blocks : List Block) : List Block := (walk maxDepth blocks).map (·.1)

/-- Whether no node of an outline has more than blanks in it. -/
def isBlankTree (maxDepth : Int) (blocks : List Block) : Bool :=
  (nodes maxDepth blocks).all fun b => isBlankString b.content

/-- Finds a placeholder of a template with its marks. -/
def placeholder : Reader String := fun s =>
  let found := (enclosed ("\x7b\x7b").toList ("\x7d\x7d").toList s).orElse fun _ =>
    enclosed "<%".toList "%>".toList s
  found.map fun (_, n) => (String.ofList (s.take n), n)

/-- A list with a name added that is not in it yet. -/
def addNew (known : List String) (name : String) : List String :=
  if known.contains name then known else known ++ [name]

/-- The distinct placeholders of an outline in the order in which they are met. -/
def placeholders (maxDepth : Int) (blocks : List Block) : List String :=
  ((nodes maxDepth blocks).flatMap fun b => findAll placeholder b.content.toList).foldl addNew []

end Outline

end OutlineSearch
