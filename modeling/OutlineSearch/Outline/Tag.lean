import OutlineSearch.Text.Find
import OutlineSearch.Text.Order
import OutlineSearch.Text.Case
import OutlineSearch.Value

/-!
# Tags

A tag is written in lower-case, without blanks around it and without hashes in front. The tags of a
page or a block come from the values of its tag properties, and from the hashtags and the references
that look like tags in its text.
-/

namespace OutlineSearch.Outline

open OutlineSearch.Text

/-- The normal form of a tag. -/
def normalTag (s : List Char) : List Char := lower ((trim s).dropWhile (· == '#'))

/-- The normal form of a tag. -/
def normalizeTag (tag : String) : String := String.ofList (normalTag tag.toList)

/-- Whether a character may stand inside a hashtag. -/
def isTagChar (c : Char) : Bool := isWord c || c == '-' || c == '/'

/-- Finds a hashtag: a hash and a run of tag characters from a word character to a word character,
as long as possible. -/
def hashtag : Reader (List Char) := fun s =>
  match s with
  | '#' :: c :: rest =>
    if isWord c then
      let name := dropEndWhile (!isWord ·) ((c :: rest).takeWhile isTagChar)
      some (name, name.length + 1)
    else none
  | _ => none

/-- Finds a reference to a page that a hash makes a tag. -/
def taggedReference : Reader (List Char) := enclosed "#[[".toList "]]".toList

/-- Finds a reference to a page. -/
def pageReference : Reader (List Char) := enclosed "[[".toList "]]".toList

/-- The text without a line feed at its end. -/
def dropLastLineFeed (s : List Char) : List Char :=
  if s.getLast? == some '\n' then s.dropLast else s

/-- Whether a page name looks like a tag: a hash with text behind it, one word of ASCII letters that
starts with a capital, or lower-case words joined by hyphens. -/
def isTagLike (name : List Char) : Bool :=
  let s := dropLastLineFeed name
  match s with
  | [] => false
  | '#' :: rest => !rest.isEmpty && !rest.contains '\n'
  | c :: rest =>
    if c.isUpper then rest.all Char.isAlpha
    else (split ['-'] s).all fun part => !part.isEmpty && part.all Char.isLower

/-- The tags in a text, as they are met. -/
def tagsMet (s : List Char) : List (List Char) :=
  (findAll hashtag s).map normalTag ++ (findAll taggedReference s).map normalTag ++
    ((findAll pageReference s).filter isTagLike).map fun name => normalTag (name.filter (· != '#'))

/-- The words that make a property a tag property. -/
def tagWords : List String :=
  ["tag", "tags", "category", "categories", "label", "labels", "topic", "topics"]

/-- Whether the values of a property are tags. -/
def isTagKey (key : String) : Bool := tagWords.any fun word => Text.contains (lowered key) word

/-- The tags that the value of a tag property names. -/
def tagsOfValue (v : Value) : List String :=
  let items := match v with
    | .list items | .tuple items | .set items => items
    | v => [v]
  items.filterMap fun item =>
    match item with
    | .text s => if isBlankString s then none else some (normalizeTag s)
    | _ => none

/-- The tags in a text. -/
def contentTags (text : String) : List String :=
  sortedNames ((tagsMet text.toList).map String.ofList)

/-- The tags of a page or a block with some properties and a text. -/
def allTags (properties : Properties) (text : String) : List String :=
  sortedNames
    (((properties.filter fun (k, _) => isTagKey k).flatMap fun (_, v) => tagsOfValue v) ++
      (tagsMet text.toList).map String.ofList)

end OutlineSearch.Outline
