/-!
# Faults

Everything that can go wrong. The four search faults are what a caller of the engine is told; an
invalid value lists every place where it breaks its schema; the remaining faults are failures of a
single operation and are named by their cause.
-/

namespace OutlineSearch

/-- One place where a value breaks its schema. -/
structure Issue where
  path : List String
  message : String
deriving DecidableEq, Repr, Inhabited

/-- The path of an issue joined by dots, and its message. -/
def Issue.line (whole : String) (i : Issue) : String :=
  let path := ".".intercalate i.path
  s!"{if path.isEmpty then whole else path}: {i.message}"

/-- Why an operation failed. -/
inductive Fault where
  /-- The request breaks its schema or names something unknown. -/
  | invalidArgument (message : String)
  /-- An atomic filter cannot be read. -/
  | badQuery (message : String)
  /-- The provider of the graph failed. -/
  | provider (message : String)
  /-- A search failed for a reason of its own. -/
  | internal (message : String)
  /-- A value breaks its schema. -/
  | invalid (issues : List Issue)
  /-- A result is out of range. -/
  | overflow (text : String)
  /-- A value has the right type but cannot be used. -/
  | badValue (text : String)
  /-- A value has the wrong type. -/
  | wrongType (text : String)
  /-- A name is not among those known. -/
  | unknownName (text : String)
  /-- A text is too short. -/
  | tooShort (text : String)
  /-- A text has no parts of the kind wanted. -/
  | noParts (text : String)
  /-- Bytes are not a text. -/
  | undecodable (text : String)
  /-- A value has no JSON form. -/
  | unwritable (text : String)
  /-- The connection to the provider broke. -/
  | connection (text : String)
  /-- A file is not there. -/
  | missingFile (text : String)
  /-- A directory is not a file. -/
  | directory (text : String)
deriving DecidableEq, Repr, Inhabited

namespace Fault

/-- The fault in words. -/
def text : Fault → String
  | invalidArgument t | badQuery t | provider t | internal t | overflow t | badValue t
  | wrongType t | unknownName t | tooShort t | noParts t | undecodable t | unwritable t
  | connection t | missingFile t | directory t => t
  | invalid issues => "; ".intercalate (issues.map (Issue.line ""))

/-- Whether the fault is one that callers of the engine are told as such. -/
def isSearchFault : Fault → Bool
  | invalidArgument _ | badQuery _ | provider _ | internal _ => true
  | _ => false

/-- The code under which a search fault is reported. -/
def code : Fault → String
  | invalidArgument _ => "INVALID_ARGUMENT"
  | badQuery _ => "BAD_QUERY"
  | provider _ => "PROVIDER_ERROR"
  | _ => "INTERNAL"

end Fault

/-- The outcome of an operation that may fail. -/
abbrev Outcome (α : Type) := Except Fault α

namespace Outcome

/-- Whether all answers are yes; the first one that is not decides. -/
def all : List (Outcome Bool) → Outcome Bool
  | [] => .ok true
  | .ok true :: rest => all rest
  | other :: _ => other

/-- Whether one of the answers is yes; the first one that is not no decides. -/
def any : List (Outcome Bool) → Outcome Bool
  | [] => .ok false
  | .ok false :: rest => any rest
  | other :: _ => other

/-- The members of a list that a test keeps; the first fault of the test is that of the whole. -/
def filter {α : Type} (test : α → Outcome Bool) : List α → Outcome (List α)
  | [] => .ok []
  | a :: rest => do
    let keep ← test a
    let more ← filter test rest
    return if keep then a :: more else more

end Outcome

end OutlineSearch
