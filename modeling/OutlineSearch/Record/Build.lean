import OutlineSearch.Record
import OutlineSearch.Page
import OutlineSearch.Outline.Tag
import OutlineSearch.Outline.Task
import OutlineSearch.Outline.Walk
import OutlineSearch.Outline.Property

/-!
# Records of pages and blocks

What a page or a block becomes when it is found: a page, a block, a task, a template, or one record
for every property.
-/

namespace OutlineSearch.Record

open OutlineSearch.Outline

/-- The record of a page, with the reason for which it was found. -/
def ofPage (p : Page) (reason : Option String) : Record :=
  { id := p.id
    name := p.displayName
    content := p.content
    properties := p.properties
    tags := allTags p.properties p.content
    created := p.createdAt
    updated := p.updatedAt
    detail := .page p.journal p.journalDay reason }

/-- The record of a block of a page. -/
def ofBlock (b : Block) (page : String) : Record :=
  { id := b.uuid
    name := page
    content := b.content
    properties := b.properties
    tags := allTags b.properties b.content
    created := b.createdAt
    updated := b.updatedAt
    detail := .block page b.parent (b.children.map Block.uuid) }

/-- The record of the task that a block of a page is, if it is one. -/
def ofTask? (b : Block) (page : String) : Option Record :=
  (task? b.content).map fun (status, text) =>
    { id := b.uuid
      name := page
      content := text
      properties := b.properties
      tags := allTags b.properties b.content
      created := b.createdAt
      updated := b.updatedAt
      detail := .task page status (scheduled? b.content) (deadline? b.content) }

/-- The text of a template with some blocks: the lines of the blocks that say anything. -/
def templateText (maxDepth : Int) (blocks : List Block) : String :=
  let spoken := (nodes maxDepth blocks).filter fun b => !Text.isBlankString b.content
  "\n".intercalate (spoken.map Block.content)

/-- The record of a page that is a template, with its blocks if they are known. -/
def ofTemplate (maxDepth : Int) (p : Page) (blocks : List Block) : Record :=
  let content := if blocks.isEmpty then p.content else templateText maxDepth blocks
  let templateType := (p.properties.findValue? "template-type").getD .null
  { id := p.id
    name := p.displayName
    content := content
    properties := p.properties
    tags := allTags p.properties content
    created := p.createdAt
    updated := p.updatedAt
    detail :=
      .template (if templateType.isTruthy then templateType.plainText else "page")
        (placeholders maxDepth blocks) }

/-- The owner of some properties. -/
structure Holder where
  id : String
  owner : Owner
  page : String
  created : Option Stamp := none
  updated : Option Stamp := none

/-- The holder that a page is. -/
def Holder.ofPage (p : Page) : Holder := ⟨p.id, .page, p.displayName, p.createdAt, p.updatedAt⟩

/-- The holder that a block of a page is. -/
def Holder.ofBlock (b : Block) (page : String) : Holder :=
  ⟨b.uuid, .block, page, b.createdAt, b.updatedAt⟩

/-- The record of a property. -/
def ofProperty (h : Holder) (key : String) (value : Value) : Record :=
  { id := s!"{h.id}:{key}"
    name := key
    content := value.searchText
    properties := [(key, value)]
    created := h.created
    updated := h.updated
    detail := .property h.owner h.page key value }

/-- The records of some properties. -/
def ofProperties (h : Holder) (properties : Properties) : List Record :=
  properties.map fun (key, value) => ofProperty h key value

/-- The records of the entries of a map, whose keys must be strings. -/
def ofEntries (h : Holder) (entries : List (Value × Value)) : Checked (List Record) :=
  (Schema.entries (entries.take ((entries.takeWhile fun (k, _) => k.isText).length + 1))
    |>.under "properties").map (ofProperties h)

end OutlineSearch.Record
