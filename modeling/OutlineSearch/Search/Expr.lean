import OutlineSearch.Text.Split
import OutlineSearch.Text.Blank
import OutlineSearch.Json
import OutlineSearch.Schema.Read

/-!
# Query expressions

A query joins atomic filters by `AND` and `OR`, of which `OR` binds less tightly. There are no
parentheses, and an empty operand is an atomic filter with an empty text.
-/

namespace OutlineSearch

open OutlineSearch.Text

/-- A query expression. -/
inductive Expr where
  | atom (text : String)
  | all (operands : List Expr)
  | any (operands : List Expr)
deriving Repr, Inhabited

namespace Expr

/-- The mark between the operands of a conjunction. -/
def andMark : List Char := " AND ".toList

/-- The mark between the operands of a disjunction. -/
def orMark : List Char := " OR ".toList

/-- The atomic filter of a text. -/
def ofText (s : List Char) : Expr := atom (String.ofList (trim s))

/-- The conjunction that a text without `OR` is, or the atomic filter. -/
def conjunction (s : List Char) : Expr :=
  if occursIn andMark s then all ((split andMark s).map ofText) else ofText s

/-- The expression of a query. -/
def parse (query : String) : Expr :=
  let s := query.toList
  if occursIn orMark s then any ((split orMark s).map fun part => conjunction (trim part))
  else conjunction (trim s)

/-- Whether the expression is an atomic filter. -/
def isAtom : Expr → Bool
  | atom _ => true
  | _ => false

mutual

/-- The document of an expression. -/
def document : Expr → Json
  | atom s => .object [("kind", .text "filter"), ("text", .text s)]
  | all operands => .object [("kind", .text "and"), ("operands", .list (documents operands))]
  | any operands => .object [("kind", .text "or"), ("operands", .list (documents operands))]

/-- The documents of some expressions. -/
def documents : List Expr → List Json
  | [] => []
  | e :: rest => document e :: documents rest

end

/-- The issue of a value that is no object. -/
def noObject : Checked Expr :=
  .refuse "Input should be a valid dictionary or object to extract fields from"

mutual

/-- Reads an expression; its kind says what it is. -/
def read : Value → Checked Expr
  | .map es =>
    match Value.lookup "kind" es with
    | none => .refuse "Unable to extract tag using discriminator 'kind'"
    | some (.text "filter") =>
      (Checked.map atom (Schema.required es ["text"] Schema.string)).under "filter"
    | some (.text "and") => (Checked.map all ((readOperands es).under "operands")).under "and"
    | some (.text "or") => (Checked.map any ((readOperands es).under "operands")).under "or"
    | some kind =>
      .refuse (s!"Input tag '{kind.plainText}' found using 'kind' does not match any of the " ++
        "expected tags: 'filter', 'and', 'or'")
  | _ => noObject

/-- Reads the operands among the fields of an expression; without any it has none. -/
def readOperands : List (Value × Value) → Checked (List Expr)
  | [] => .valid []
  | (.text "operands", v) :: _ => readItems v
  | _ :: rest => readOperands rest

/-- Reads the expressions in a list. -/
def readItems : Value → Checked (List Expr)
  | .list items => readAll 0 items
  | .tuple items => readAll 0 items
  | .set items => readAll 0 items
  | _ => .refuse "Input should be a valid list"

/-- Reads the expressions of some values, numbering them from `index` on. -/
def readAll (index : Nat) : List Value → Checked (List Expr)
  | [] => .valid []
  | v :: rest =>
    Checked.apply (Checked.map List.cons ((read v).under (toString index)))
      (readAll (index + 1) rest)

end

end Expr

end OutlineSearch
