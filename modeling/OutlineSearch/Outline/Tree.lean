import OutlineSearch.Outline.Frontmatter
import OutlineSearch.Outline.Property
import OutlineSearch.Digest.Identity
import OutlineSearch.Block

/-!
# Outlines as text

A text is an outline: lines that start with a dash are nodes, their indentation says under which
node they stand, and the lines behind a node belong to it. The properties in front of the first
node, and those of a first node that holds nothing else, are properties of the page.

The text is first read as the list of its nodes with their depths; no depth is more than one above
the depth before it, so that the list says the tree.
-/

namespace OutlineSearch.Outline

open OutlineSearch.Text

/-- A node of an outline in the order of the text. -/
structure Item where
  depth : Nat
  /-- The lines of the node, the last one first. -/
  lines : List (List Char)
  properties : Properties
deriving Repr, Inhabited

/-- The text of a node. -/
def Item.content (x : Item) : String :=
  String.ofList (trim (List.intercalate ['\n'] x.lines.reverse))

/-- Whether the lines of a node are blank. -/
def Item.isBlank (x : Item) : Bool := x.lines.all isAllBlank

/-- The indentation of a line that starts a node, and the text behind its dash. -/
def bullet? (line : List Char) : Option (List Char × List Char) :=
  let indent := line.takeWhile isBlank
  match line.drop indent.length with
  | '-' :: rest =>
    match rest with
    | [] => some (indent, [])
    | c :: _ => if isBlank c then some (indent, trimStart rest) else none
  | _ => none

/-- How much of an outline has been read. The node read last comes first. -/
structure Reading where
  pageProperties : Properties
  /-- The lines in front of the first node, the last one first. -/
  preamble : List (List Char) := []
  items : List Item := []
  /-- The indentations of the nodes from the one read last up to its root. -/
  path : List Nat := []
deriving Inhabited

/-- How many of some nodes a new node may stand under: at most the greatest depth; a negative one
takes away that many. -/
def kept (maxDepth : Int) (count : Nat) : Nat :=
  if 0 ≤ maxDepth then min count maxDepth.toNat else count - maxDepth.natAbs

/-- The reading with a new node. -/
def Reading.addNode (r : Reading) (maxDepth : Int) (indent first : List Char) :
    Outcome Reading := do
  let column := width 2 indent
  let around := r.path.dropWhile (column ≤ ·)
  let depth := kept maxDepth around.length
  let item : Item :=
    match ← propertyLine first with
    | some p => ⟨depth, [], [p]⟩
    | none => ⟨depth, [first], []⟩
  return { r with
    items := item :: r.items
    path := column :: around.drop (around.length - depth) }

/-- The reading with a line that starts no node. -/
def Reading.addLine (r : Reading) (line : List Char) : Outcome Reading := do
  match r.items, ← propertyLine line with
  | [], some (k, v) => return { r with pageProperties := r.pageProperties.putNew k v }
  | [], none =>
    if isAllBlank line then return r
    else return { r with preamble := trim line :: r.preamble }
  | x :: rest, some (k, v) =>
    return { r with items := { x with properties := x.properties.put k v } :: rest }
  | x :: rest, none => return { r with items := { x with lines := trim line :: x.lines } :: rest }

/-- The reading with a further line. -/
def Reading.add (maxDepth : Int) (r : Reading) (line : List Char) : Outcome Reading :=
  match bullet? line with
  | some (indent, first) => r.addNode maxDepth indent first
  | none => r.addLine line

/-- The nodes read, in the order of the text; lines in front of the first one are a node. -/
def Reading.allItems (r : Reading) : List Item :=
  if r.preamble.isEmpty then r.items.reverse else ⟨0, r.preamble, []⟩ :: r.items.reverse

/-- Whether the first node holds properties at most and nothing stands under it. -/
def startsWithProperties : List Item → Bool
  | [] => false
  | x :: rest => x.isBlank && (rest.head?.map fun y => y.depth == 0).getD true

/-- The properties of the page and the nodes: those of a first node that holds nothing else go to
the page. -/
def settle (pageProperties : Properties) (items : List Item) : Properties × List Item :=
  match items with
  | [] => (pageProperties, [])
  | x :: rest =>
    if startsWithProperties (x :: rest) then
      (x.properties.foldl (fun known (k, v) => known.putNew k v) pageProperties, rest)
    else (pageProperties, x :: rest)

/-- The properties of the page and the nodes that a text holds. -/
def items (maxDepth : Int) (text : String) : Outcome (Properties × List Item) := do
  let (entries, body) ← frontmatter text.toList
  let given : Properties :=
    entries.foldl (fun known (k, v) => known.put (lowered k.plainText) v) []
  let r ← (lines body).foldlM (Reading.add maxDepth) { pageProperties := given }
  return settle r.pageProperties r.allItems

/-- The identity of a node: its property of that name if it says anything, and otherwise one made
from the name of the page and the place of the node. -/
def Item.identity (x : Item) (page position : String) : String :=
  match x.properties.get? "id" with
  | some v => if v.isTruthy then v.plainText else Digest.stableId [lowered page, position]
  | none => Digest.stableId [lowered page, position]

/-- The place of a node: the place of the node above it and its index. -/
def place (above : String) (index : Nat) : String :=
  if above.isEmpty then toString index else s!"{above}.{index}"

/-- The blocks of some nodes under a node, numbered from `index` on. -/
def blocksUnder (page : String) (parent : Option String) (above : String) (index : Nat) :
    List Item → List Block
  | [] => []
  | x :: rest =>
    let position := place above index
    let uuid := x.identity page position
    .mk uuid x.content (x.properties.filter (·.1 != "id")) (some page) parent
        (blocksUnder page (some uuid) position 0 (rest.takeWhile (x.depth < ·.depth))) none none ::
      blocksUnder page parent above (index + 1) (rest.dropWhile (x.depth < ·.depth))
termination_by items => items.length
decreasing_by
  · exact Nat.lt_succ_of_le (List.takeWhile_sublist _).length_le
  · exact Nat.lt_succ_of_le (List.dropWhile_sublist _).length_le

/-- The properties of the page of a name, and its blocks, that a text holds. -/
def read (maxDepth : Int) (page text : String) : Outcome (Properties × List Block) := do
  let (properties, items) ← items maxDepth text
  return (properties, blocksUnder page none "" 0 items)

end OutlineSearch.Outline
