import OutlineSearch.Schema.Read
import OutlineSearch.Text.Case

/-!
# Settings

The settings come from the caller or from environment variables, whose names are those of the fields
behind a common start; the caller counts more. A field that nobody sets has its default.
-/

namespace OutlineSearch

open OutlineSearch.Schema

/-- Where a graph is read from. -/
inductive Source where
  | api
  | files
deriving DecidableEq, Repr, Inhabited

namespace Source

/-- The sources by their names. -/
def named : List (String × Source) := [("api", api), ("files", files)]

/-- The name of a source. -/
def name : Source → String
  | api => "api"
  | files => "files"

end Source

/-- The settings of an engine. Lifetimes are in seconds; a scan limit is the number of pages that
one filter looks into. -/
structure Settings where
  source : Source := .api
  apiUrl : String := "http://127.0.0.1:12315"
  apiToken : String := ""
  graphPath : Option String := none
  requestTimeout : Binary64 := Binary64.ofInt 10
  pagesLifetime : Binary64 := Binary64.ofInt 300
  blocksLifetime : Binary64 := Binary64.ofInt 180
  resultsLifetime : Binary64 := Binary64.ofInt 60
  templatesLifetime : Binary64 := Binary64.ofInt 600
  defaultLimit : Int := 20
  maxLimit : Int := 100
  emptyPageScanLimit : Int := 50
  dateScanLimit : Int := 100
  linkScanLimit : Int := 100
  blockScanPageLimit : Int := 100
  maxNestingLevel : Int := 10
  logLevel : String := "INFO"
deriving Repr, Inhabited

namespace Settings

/-- The names of the fields. -/
def fieldNames : List String :=
  ["provider", "api_url", "api_token", "graph_path", "request_timeout", "all_pages_ttl",
    "page_blocks_ttl", "search_results_ttl", "templates_ttl", "default_limit", "max_limit",
    "empty_page_scan_limit", "date_scan_limit", "link_scan_limit", "block_scan_page_limit",
    "max_nesting_level", "log_level"]

/-- What the names of all environment variables start with, in lower-case. -/
def variableStart : String := "logseq_search_"

/-- The value of a field given by the environment variables; of several the last counts. -/
def fromEnvironment? (environment : List (String × String)) (fieldName : String) : Option Value :=
  let given := environment.filter fun (name, _) => Text.lowered name == variableStart ++ fieldName
  given.getLast?.map fun (_, value) => .text value

/-- The path in its shortest form: without empty parts and parts that mean the folder itself. -/
def shortPath (path : String) : String :=
  let s := path.toList
  let slashes := (s.takeWhile (· == '/')).length
  let root := if slashes = 0 then "" else if slashes = 2 then "//" else "/"
  let parts := (Text.split ['/'] s).filter fun part => !part.isEmpty && part != ['.']
  let rest := "/".intercalate (parts.map String.ofList)
  if root.isEmpty && rest.isEmpty then "." else root ++ rest

/-- Reads a path. -/
def path : Value → Checked String
  | .text s => .valid (shortPath s)
  | _ => .refuse "Input is not a valid path for <class 'pathlib.Path'>"

/-- The issues of the names that are no fields. -/
def strangers (given : List (Value × Value)) : Checked Unit :=
  let names := (given.map fun (k, _) => k.plainText).filter fun name => !fieldNames.contains name
  if names.isEmpty then .valid ()
  else .invalid (names.map fun name => ⟨[name], "Extra inputs are not permitted"⟩)

/-- Reads the settings given by the caller and by environment variables. -/
def read (given : List (Value × Value)) (environment : List (String × String)) : Checked Settings :=
  let fromVariables := fieldNames.filterMap fun name =>
    if (Value.lookup name given).isSome then none
    else (fromEnvironment? environment name).map fun v => (Value.text name, v)
  let es := given ++ fromVariables
  let defaults : Settings := {}
  (fun settings (_ : Unit) => settings) <$>
    (mk <$> field es ["provider"] defaults.source (choice Source.named)
      <*> field es ["api_url"] defaults.apiUrl string
      <*> field es ["api_token"] defaults.apiToken string
      <*> field es ["graph_path"] none (fun v => (path v).map some)
      <*> field es ["request_timeout"] defaults.requestTimeout real
      <*> field es ["all_pages_ttl"] defaults.pagesLifetime real
      <*> field es ["page_blocks_ttl"] defaults.blocksLifetime real
      <*> field es ["search_results_ttl"] defaults.resultsLifetime real
      <*> field es ["templates_ttl"] defaults.templatesLifetime real
      <*> field es ["default_limit"] defaults.defaultLimit integer
      <*> field es ["max_limit"] defaults.maxLimit integer
      <*> field es ["empty_page_scan_limit"] defaults.emptyPageScanLimit integer
      <*> field es ["date_scan_limit"] defaults.dateScanLimit integer
      <*> field es ["link_scan_limit"] defaults.linkScanLimit integer
      <*> field es ["block_scan_page_limit"] defaults.blockScanPageLimit integer
      <*> field es ["max_nesting_level"] defaults.maxNestingLevel integer
      <*> field es ["log_level"] defaults.logLevel string)
    <*> strangers given

/-- The fields as a document; the path of the graph is left out unless it is set. -/
def document (s : Settings) : List (String × Value) :=
  [("provider", .text s.source.name), ("api_url", .text s.apiUrl),
      ("api_token", .text s.apiToken)] ++
    (s.graphPath.map fun p => ("graph_path", Value.text p)).toList ++
    [("request_timeout", .float s.requestTimeout), ("all_pages_ttl", .float s.pagesLifetime),
      ("page_blocks_ttl", .float s.blocksLifetime),
      ("search_results_ttl", .float s.resultsLifetime),
      ("templates_ttl", .float s.templatesLifetime), ("default_limit", .int s.defaultLimit),
      ("max_limit", .int s.maxLimit), ("empty_page_scan_limit", .int s.emptyPageScanLimit),
      ("date_scan_limit", .int s.dateScanLimit), ("link_scan_limit", .int s.linkScanLimit),
      ("block_scan_page_limit", .int s.blockScanPageLimit),
      ("max_nesting_level", .int s.maxNestingLevel), ("log_level", .text s.logLevel)]

end Settings

/-- The source of a graph as the settings choose it. -/
inductive Connection where
  | files (path : Option String) (maxDepth : Int)
  | api (url : String) (authorization : Option String) (timeout : Binary64)
deriving Repr

namespace Connection

/-- The address of the server without slashes at its end. -/
def address (url : String) : String :=
  String.ofList (Text.dropEndWhile (· == '/') url.toList)

/-- The header that shows a token, if there is one. -/
def authorization? (token : String) : Option String :=
  if token.isEmpty then none else some s!"Bearer {token}"

/-- The source that the settings choose. -/
def ofSettings (s : Settings) : Connection :=
  match s.source with
  | .files => files s.graphPath s.maxNestingLevel
  | .api => api (address s.apiUrl) (authorization? s.apiToken) s.requestTimeout

end Connection

/-- The numbers of the levels of messages by their names. -/
def levelNumbers : List (String × Nat) :=
  [("CRITICAL", 50), ("FATAL", 50), ("ERROR", 40), ("WARNING", 30), ("WARN", 30), ("INFO", 20),
    ("DEBUG", 10), ("NOTSET", 0)]

/-- The level in force for a name in any case; without a known name it is that of information. -/
def levelNumber (level : Option String) : Nat :=
  let name := (level.filter (!·.isEmpty)).getD "INFO"
  let capital := String.ofList (name.toList.map Text.latinCapital)
  ((levelNumbers.find? fun (n, _) => n == capital).map (·.2)).getD 20

end OutlineSearch
