import OutlineSearch.Outline.Tree
import OutlineSearch.Outline.FileName
import OutlineSearch.Page
import OutlineSearch.Text.Utf8

/-!
# Graphs of files

A graph is a folder with the page files in `pages` and `journals`. The listing reads them in the
order of their paths; a file that is a folder, or no text, is passed over. The outline of a page is
read from the file that the last listing found for its name.
-/

namespace OutlineSearch

open OutlineSearch.Text OutlineSearch.Outline

/-- What stands at a path. -/
inductive GraphFiles.Node where
  | file (data : List UInt8) (modified : Binary64)
  | folder

/-- A graph of files. -/
structure GraphFiles where
  nodes : List (String × GraphFiles.Node) := []
  maxDepth : Int := 10
  /-- The file and the shown name of a page by its lower-case name, as the last listing has it. -/
  known : List (String × String × String) := []

namespace GraphFiles

/-- The parts of a path. -/
def partsOf (path : String) : List String := (pathParts path.toList).map String.ofList

/-- Whether a path leads to a page file: it lies in the folder and no part of it is hidden. -/
def isPagePath (folder path : String) : Bool :=
  let parts := partsOf path
  parts.head? == some folder && 1 < parts.length &&
    parts.all (fun p => p.toList.head? != some '.') &&
    startsWith ((parts.getLastD "").toList.reverse) ".md".toList.reverse

/-- Whether one path comes before another, part by part. -/
def pathAtMost (a b : String) : Bool := !decide (partsOf b < partsOf a)

/-- The paths of the page files in a folder, in order. -/
def pagePathsIn (g : GraphFiles) (folder : String) : List String :=
  ((g.nodes.map (·.1)).filter (isPagePath folder)).mergeSort pathAtMost

/-- The paths of the page files. -/
def pagePaths (g : GraphFiles) : List String := g.pagePathsIn "pages" ++ g.pagePathsIn "journals"

/-- The path in its shortest form. -/
def shortPath (path : String) : String := "/".intercalate (partsOf path)

/-- What stands at a path. -/
def node? (g : GraphFiles) (path : String) : Option Node :=
  (g.nodes.find? (·.1 == path)).map (·.2)

/-- The text of a file, with line feeds for all line ends, and when it was changed. -/
def readText (g : GraphFiles) (path : String) : Outcome (String × Binary64) :=
  match g.node? path with
  | none => .error (.missingFile s!"[Errno 2] No such file or directory: '{path}'")
  | some .folder => .error (.directory s!"[Errno 21] Is a directory: '{path}'")
  | some (.file data modified) =>
    match decode (data.map (·.toNat)) with
    | .ok s => .ok (String.ofList (unifyLineEnds s), modified)
    | .error e => .error (.undecodable e.message)

/-- The name that the `title` property of a page gives it, if it is no journal page. -/
def titleOf (properties : Properties) (day : Option Int) : Option String :=
  match properties.get? "title", day with
  | some (.text title), none => if isBlankString title then none else some (trimmed title)
  | _, _ => none

/-- The page that a file with a text is. -/
def pageOf (maxDepth : Int) (path text : String) (modified : Binary64) : Outcome Page := do
  let (fileName, day) := pageName path
  let (properties, _) ← Outline.items maxDepth text
  let name := (titleOf properties day).getD fileName
  let millis := ((modified.mul (Binary64.ofInt 1000)).truncate?).getD 0
  return {
    id := Digest.stableId ["page", lowered name]
    name := lowered name
    originalName := some name
    journal := day.isSome
    journalDay := day
    properties
    updatedAt := some (.int millis) }

/-- The page that a file is; one that cannot be read is none. -/
def loadPage (g : GraphFiles) (path : String) : Outcome (Option Page) :=
  match g.readText path with
  | .ok (text, modified) => (pageOf g.maxDepth path text modified).map some
  | .error _ => .ok none

/-- The pages of some files with their paths. -/
def loadPages (g : GraphFiles) : List String → Outcome (List (String × Page))
  | [] => .ok []
  | path :: rest => do
    let page ← g.loadPage path
    let more ← loadPages g rest
    return (page.map fun p => (path, p)).toList ++ more

/-- What is known of pages by name, with one more page in the place of one of the same name. -/
def know (known : List (String × String × String)) (entry : String × Page) :
    List (String × String × String) :=
  (entry.2.name, entry.1, entry.2.displayName) :: known.filter (·.1 != entry.2.name)

/-- The listing of the pages, and the graph with what it has found. -/
def listPages (g : GraphFiles) : Outcome (List Page) × GraphFiles :=
  match g.loadPages g.pagePaths with
  | .error fault => (.error fault, g)
  | .ok found => (.ok (found.map (·.2)), { g with known := found.foldl know [] })

/-- The file and the shown name of a page. -/
def entry? (g : GraphFiles) (name : String) : Option (String × String) :=
  (g.known.find? (·.1 == lowered name)).map (·.2)

/-- The outline that a file with a text holds. -/
def readOutline (g : GraphFiles) (entry : Option (String × String)) : Outcome (List Block) :=
  match entry with
  | none => .ok []
  | some (path, shown) => do
    let (text, _) ← g.readText path
    let (_, blocks) ← Outline.read g.maxDepth shown text
    return blocks

/-- The outline of a page, listing the pages anew when its name is not known. -/
def outline (g : GraphFiles) (name : String) : Outcome (List Block) × GraphFiles :=
  match g.entry? name with
  | some entry => (g.readOutline (some entry), g)
  | none =>
    match g.listPages with
    | (.error fault, g) => (.error fault, g)
    | (.ok _, g) => (g.readOutline (g.entry? name), g)

/-- The graph with a file or a folder put at a path. -/
def write (g : GraphFiles) (path : String) (node : Node) : GraphFiles :=
  let path := shortPath path
  { g with nodes := (g.nodes.filter (·.1 != path)) ++ [(path, node)] }

/-- The graph without the file at a path. -/
def remove (g : GraphFiles) (path : String) : Outcome GraphFiles :=
  let path := shortPath path
  match g.node? path with
  | none => .error (.missingFile s!"[Errno 2] No such file or directory: '{path}'")
  | some .folder => .error (.directory s!"[Errno 21] Is a directory: '{path}'")
  | some (.file _ _) => .ok { g with nodes := g.nodes.filter (·.1 != path) }

end GraphFiles

end OutlineSearch
