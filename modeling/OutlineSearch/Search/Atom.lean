import OutlineSearch.Corpus.Script
import OutlineSearch.Record.Build
import OutlineSearch.Search.Request
import OutlineSearch.Search.Portion
import OutlineSearch.Calendar.Period

/-!
# Atomic filters

An atomic filter is recognised by what it starts with; any other text is searched for. A filter that
looks into the outlines of pages looks into a bounded number of them, and a page whose outline
cannot be had is passed over.
-/

namespace OutlineSearch

open OutlineSearch.Text OutlineSearch.Search OutlineSearch.Outline

/-- What a search is evaluated with. -/
structure Evaluator where
  settings : Settings := {}
  today : Date

namespace Evaluator

/-- The words for every page. -/
def wildcards : List String := ["*", "all", "everything"]

/-- The words for pages without text. -/
def emptyMarks : List String := ["empty", "no content", "blank"]

/-- The nodes of an outline that a search looks at. -/
def visible (e : Evaluator) (blocks : List Block) : List Block :=
  nodes e.settings.maxNestingLevel blocks

/-- The pages whose outlines are looked into: those of the scope, or the first ones. -/
def scanPages (e : Evaluator) (scope : Option Scope) : Script (List Page) := do
  let pages ← Script.allPages
  match (scope.bind (·.pageTitles)).getD [] with
  | [] => return upTo e.settings.blockScanPageLimit pages
  | titles =>
    let wanted := titles.map lowered
    return pages.filter fun p =>
      wanted.contains (lowered p.displayName) || wanted.contains (lowered p.name)

/-- The outlines of the pages that are looked into. -/
def scan (e : Evaluator) (scope : Option Scope) : Script (List (Page × List Block)) := do
  Script.outlines (← e.scanPages scope)

/-- The records of all pages. -/
def collectPages : Script (List Record) := do
  return (← Script.allPages).map fun p => Record.ofPage p none

/-- The records of the blocks that say something. -/
def collectBlocks (e : Evaluator) (scope : Option Scope) : Script (List Record) := do
  return (← e.scan scope).flatMap fun (p, blocks) =>
    ((e.visible blocks).filter fun b => !isBlankString b.content).map fun b =>
      Record.ofBlock b p.displayName

/-- The records of the tasks. -/
def collectTasks (e : Evaluator) (scope : Option Scope) : Script (List Record) := do
  return (← e.scan scope).flatMap fun (p, blocks) =>
    (e.visible blocks).filterMap fun b => Record.ofTask? b p.displayName

/-- The record of a template without its outline. -/
def plainTemplate (e : Evaluator) (p : Page) : Record :=
  Record.ofTemplate e.settings.maxNestingLevel p []

/-- The records of the templates. -/
def collectTemplates (e : Evaluator) : Script (List Record) := do
  return (← Script.allTemplates).map e.plainTemplate

/-- The records of the properties of a page. -/
def pageProperties (p : Page) : List Record := Record.ofProperties (.ofPage p) p.properties

/-- The records of the properties of pages and of blocks. -/
def collectProperties (e : Evaluator) (scope : Option Scope) : Script (List Record) := do
  let ofPages := (← Script.allPages).flatMap pageProperties
  let ofBlocks := (← e.scan scope).flatMap fun (p, blocks) =>
    (e.visible blocks).flatMap fun b => Record.ofProperties (.ofBlock b p.displayName) b.properties
  return ofPages ++ ofBlocks

/-- The records of all that a target names. -/
def collectTarget (e : Evaluator) (target : Target) (scope : Option Scope) :
    Script (List Record) :=
  match target with
  | .pages => collectPages
  | .blocks => e.collectBlocks scope
  | .both => do return (← collectPages) ++ (← e.collectBlocks scope)
  | .templates => e.collectTemplates
  | .tasks => e.collectTasks scope
  | .properties => e.collectProperties scope

/-- No records when the provider fails. -/
def nothingFromProvider : Fault → Outcome (List Record)
  | .provider _ => .ok []
  | fault => .error fault

/-- The records of all that a target names, none when the provider fails. -/
def collect (e : Evaluator) (target : Target) (scope : Option Scope) : Script (List Record) :=
  (e.collectTarget target scope).rescue nothingFromProvider

/-- Whether the key or the text of a property record matches. -/
def matchesPropertyRecord (query : String) (r : Record) : Bool :=
  match r.detail with
  | .property _ _ key _ => matchesQuery key query || matchesQuery r.content query
  | _ => matchesQuery r.content query

/-- The records of a target whose text matches. -/
def matchText (e : Evaluator) (text : String) (target : Target) (scope : Option Scope) :
    Script (List Record) :=
  let byName := List.filter fun r : Record => matchesQuery r.name text
  let byContent := List.filter fun r : Record => matchesQuery r.content text
  match target with
  | .pages => do return byName (← collectPages)
  | .blocks => do return byContent (← e.collectBlocks scope)
  | .both => do
    let pages := byName (← collectPages)
    return pages ++ byContent (← e.collectBlocks scope)
  | .templates => do
    return (← e.collectTemplates).filter fun r =>
      matchesQuery r.name text || matchesQuery r.content text
  | .tasks => do return byContent (← e.collectTasks scope)
  | .properties => do
    return (← e.collectProperties scope).filter (matchesPropertyRecord text)

/-- The pages without text. -/
def emptyPages (e : Evaluator) : Script (List Record) := do
  let pages := upTo e.settings.emptyPageScanLimit (← Script.allPages)
  let found ← Script.outlines pages
  return (found.filter fun (_, blocks) => isBlankTree e.settings.maxNestingLevel blocks).map
    fun (p, _) => Record.ofPage p (some "empty page")

/-- The text without double quotes at its ends. -/
def unquoted (s : List Char) : List Char := trimOf (· == '"') s

/-- The pages whose property holds a text; the argument is `KEY=VALUE`. -/
def propertyHolds (argument : List Char) : Script (List Record) := do
  match cutAt? ['='] argument with
  | none => Script.fail (.badQuery "property filter must look like property:KEY=VALUE")
  | some (key, value) =>
    let key := String.ofList (trim key)
    let value := unquoted (trim value)
    if key.isEmpty || value.isEmpty then
      Script.fail (.badQuery "property filter needs both a key and a value")
    else
      let needle := lower value
      let holds (p : Page) : Bool :=
        match p.properties.findValue? key with
        | none | some .null => false
        | some v => occursIn needle (lower v.searchText.toList)
      return ((← Script.allPages).filter holds).map fun p =>
        Record.ofPage p (some s!"property {key}")

/-- Whether a page is called by a name. -/
def isCalled (name : String) (p : Page) : Bool :=
  lowered p.displayName == lowered name || lowered p.name == lowered name

/-- The pages with properties, or the properties of a page. -/
def properties (argument : List Char) : Script (List Record) := do
  let argument := trim argument
  let word := lower argument
  if word = ['*'] ∨ word = "all".toList then
    return ((← Script.allPages).filter fun p => !p.properties.isEmpty).map fun p =>
      Record.ofPage p (some "has properties")
  else if startsWith word "page=".toList then
    let name := String.ofList (trim (unquoted (trim (argument.drop 5))))
    if name.isEmpty then Script.fail (.badQuery "properties:page= requires a page name")
    else return (((← Script.allPages).find? (isCalled name)).map pageProperties).getD []
  else
    Script.fail (.badQuery "properties filter must be properties:* or properties:page=\"NAME\"")

/-- The days that a page is about: that of a journal page and those of its properties. -/
def daysOf (p : Page) : List Date :=
  let ofJournal := if p.journal then (p.journalDay.bind Spelling.journalDay).toList else []
  let ofProperties := p.properties.flatMap fun (_, v) =>
    match v with
    | .list items | .tuple items => items.filterMap Spelling.date?
    | v => (Spelling.date? v).toList
  ofJournal ++ ofProperties

/-- The pages about a day of a period. -/
def datePages (e : Evaluator) (token : String) : Script (List Record) :=
  match Period.ofToken token e.today with
  | .error fault => Script.fail fault
  | .ok none =>
    Script.fail (.badQuery (s!"Unknown date '{token}'. Use today, yesterday, last-week, " ++
      "last-month or YYYY-MM-DD"))
  | .ok (some period) => do
    let pages := upTo e.settings.dateScanLimit (← Script.allPages)
    return (pages.filter fun p => (daysOf p).any period.contains).map fun p =>
      Record.ofPage p (some "date")

/-- The templates. -/
def templateListing (e : Evaluator) (argument : List Char) : Script (List Record) :=
  let word := lower (trim argument)
  if word = ['*'] ∨ word = "all".toList then e.collectTemplates
  else Script.fail (.badQuery "templates filter must be templates:* or templates:all")

/-- The page of a name, or else the first template whose name holds it. -/
def templateNamed? (name : String) (pages : List Page) : Option Page :=
  let wanted := lowered name
  (pages.find? fun p => lowered p.displayName == wanted).or
    (pages.find? fun p => Text.contains (lowered p.displayName) wanted && p.isTemplate)

/-- The template of a name with its outline. -/
def templateByName (e : Evaluator) (name : String) : Script (List Record) := do
  match templateNamed? name (← Script.allPages) with
  | none => return []
  | some p =>
    let blocks ← ((some <$> Script.outline p.name).rescue fun
      | .provider _ => .ok none
      | fault => .error fault)
    return [Record.ofTemplate e.settings.maxNestingLevel p (blocks.getD [])]

/-- The spellings of a link to a page, and to the parts of its name if it has several. -/
def linkSpellings (target : List Char) : List (List Char) :=
  let reference (name : List Char) : List Char := "[[".toList ++ name ++ "]]".toList
  let parts := split ['/'] target
  let ofParts :=
    if parts.length = 1 then []
    else (parts.filter (!·.isEmpty)).flatMap fun part => [reference part, '#' :: part]
  [reference target, '#' :: reference target, '#' :: target] ++ ofParts

/-- Whether a text links to a page, or mentions its name where that counts. -/
def linksTo (target : List Char) (mentions : Bool) (content : String) : Bool :=
  let text := lower content.toList
  (linkSpellings target).any (fun link => occursIn link text) || (mentions && occursIn target text)

/-- The pages with links to a page, or with mentions of its name. -/
def linkingPages (e : Evaluator) (name : String) (mentions : Bool) : Script (List Record) := do
  let target := lower name.toList
  let pages := upTo e.settings.linkScanLimit (← Script.allPages)
  let found ← Script.outlines pages
  let linking := found.filter fun (p, blocks) =>
    lower p.displayName.toList != target &&
      (e.visible blocks).any fun b => linksTo target mentions b.content
  return linking.map fun (p, _) =>
    Record.ofPage p (some (if mentions then "reference" else "backlink"))

/-- The blocks of a page. -/
def pageBlocks (e : Evaluator) (name : String) : Script (List Record) := do
  match (← Script.allPages).find? (isCalled name) with
  | none => return []
  | some p =>
    return (e.visible (← Script.outline p.name)).map fun b => Record.ofBlock b p.displayName

/-- Goes on with the argument in double quotes behind the start of a filter. -/
def withQuoted (start : String) (argument : List Char)
    (next : String → Script (List Record)) : Script (List Record) :=
  let name := ((phrase (trim argument)).map (·.1)).getD []
  if isAllBlank name then
    Script.fail (.badQuery s!"{start} requires a quoted page name, e.g. {start}\"Page\"")
  else next (String.ofList (trim name))

/-- The starts of atomic filters, in the order in which they are tried, with what each does with the
text behind it. -/
def starts (e : Evaluator) : List (String × (List Char → Script (List Record))) :=
  [("property:", propertyHolds), ("properties:", properties),
    ("date:", fun s => e.datePages (String.ofList s)), ("templates:", e.templateListing),
    ("template:", fun s => withQuoted "template:" s e.templateByName),
    ("backlinks:", fun s => withQuoted "backlinks:" s fun name => e.linkingPages name false),
    ("references:", fun s => withQuoted "references:" s fun name => e.linkingPages name true),
    ("page:", fun s => withQuoted "page:" s e.pageBlocks)]

/-- The records of an atomic filter whose text is trimmed. -/
def dispatch (e : Evaluator) (text : String) (target : Target) (scope : Option Scope) :
    Script (List Record) :=
  let word := lowered text
  if wildcards.contains word then collectPages
  else if emptyMarks.any (Text.contains word) then e.emptyPages
  else
    match e.starts.find? fun (start, _) => startsWith word.toList start.toList with
    | some (start, records) => records (text.toList.drop start.length)
    | none => e.matchText text target scope

/-- No records when the provider fails, and none for a malformed filter unless it is to be told. -/
def nothingFromAtom (strict : Bool) : Fault → Outcome (List Record)
  | .provider _ => .ok []
  | .badQuery message => if strict then .error (.badQuery message) else .ok []
  | fault => .error fault

/-- The records of an atomic filter. -/
def atom (e : Evaluator) (target : Target) (scope : Option Scope) (strict : Bool) (text : String) :
    Script (List Record) :=
  if isBlankString text then pure []
  else (e.dispatch (trimmed text) target scope).rescue (nothingFromAtom strict)

end Evaluator

end OutlineSearch
