import OutlineSearch.Json
import OutlineSearch.Search.Request

/-!
# Tools

The tools that the engine offers to its callers, with the schemas of their arguments, and the
resource that tells what the cache keeps.
-/

namespace OutlineSearch.Engine

/-- A tool that callers may use. -/
structure Tool where
  name : String
  description : String
  schema : Json

/-- A resource that callers may read. -/
structure Resource where
  uri : String
  name : String
  description : String
  mimeType : String

/-- The schema of a string. -/
def stringSchema (more : List (String × Json)) : Json := .object (("type", .text "string") :: more)

/-- A described string. -/
def described (text : String) : Json := stringSchema [("description", .text text)]

/-- Names as a list. -/
def names (items : List String) : Json := .list (items.map .text)

/-- The schema of an object. -/
def objectSchema (fields : List (String × Json)) (more : List (String × Json)) : Json :=
  .object ([("type", .text "object"), ("properties", .object fields)] ++ more)

/-- The schema of a scope. -/
def scopeSchema : Json :=
  .object
    [("type", .text "object"),
      ("description", .text "Restrict by namespace, journal flag, page_titles or tag"),
      ("properties", .object
        [("namespace", stringSchema []), ("journal", .object [("type", .text "boolean")]),
          ("page_titles", .object [("type", .text "array"), ("items", stringSchema [])]),
          ("tag", stringSchema [])])]

/-- The tool that searches. -/
def searchTool : Tool where
  name := "search"
  description :=
    "Search the Logseq graph. Queries combine atomic filters with AND/OR " ++
    "(OR binds loosest, no parentheses). Filters: *, empty, property:KEY=VALUE, " ++
    "properties:*, properties:page=\"X\", " ++
    "date:today|yesterday|last-week|last-month|YYYY-MM-DD, " ++
    "templates:*, template:\"X\", backlinks:\"X\", references:\"X\", page:\"X\", or free text " ++
    "(use \"quoted phrases\" for exact matches)."
  schema :=
    objectSchema
      [("query", described "Query expression; empty returns every record of the target"),
        ("target", stringSchema
          [("enum", names (Target.named.map (·.1))),
            ("description", .text "Kind of records to search (default: both)"),
            ("default", .text "both")]),
        ("scope", scopeSchema),
        ("filter", .object
          [("type", .text "object"),
            ("description", .text
              ("Attribute filters: lengthMin, lengthMax, properties_any, properties_all, " ++
                "tags_any, tags_all, createdAfter, createdBefore, updatedAfter, updatedBefore, " ++
                "contains, exclude, todoState, scheduledOn, deadlinedOn"))]),
        ("sort", stringSchema
          [("enum", names (SortKey.named.map (·.1))), ("default", .text "relevance")]),
        ("order", stringSchema
          [("enum", names (SortOrder.named.map (·.1))), ("default", .text "desc")]),
        ("limit", .object
          [("type", .text "integer"), ("description", .text "Page size, 1-100 (default: 20)"),
            ("default", .int 20)]),
        ("cursor", described "next_cursor from a previous response"),
        ("strict", .object
          [("type", .text "boolean"),
            ("description", .text "Fail on a malformed filter instead of matching nothing"),
            ("default", .bool false)])]
      []

/-- The tool that makes the cache forget. -/
def forgetTool : Tool where
  name := "invalidate_cache"
  description := "Drop cached graph data after an edit so the next search sees it."
  schema :=
    objectSchema
      [("kind", stringSchema
          [("enum", names ["page", "block", "all"]), ("description", .text "What changed")]),
        ("identifier", described "Page name (for a block change: the owning page)")]
      [("required", names ["kind"])]

/-- The tools. -/
def tools : List Tool := [searchTool, forgetTool]

/-- The resource that tells what the cache keeps. -/
def statistics : Resource :=
  ⟨"cache://stats", "Cache Statistics", "Entry counts of the page, block and query caches",
    "application/json"⟩

/-- The resources. -/
def resources : List Resource := [statistics]

end OutlineSearch.Engine
