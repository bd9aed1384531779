import OutlineSearch.Search.Atom
import OutlineSearch.Search.Algebra
import OutlineSearch.Search.Expr

/-!
# Evaluating expressions

A conjunction keeps what all its operands find, a disjunction what one of them finds. The operands
are evaluated side by side. Below the root a malformed filter finds nothing.
-/

namespace OutlineSearch.Evaluator

open OutlineSearch.Search

/-- Records as the end of a job. -/
def finishRecords (r : Outcome (List Record)) : EngineJob := .finish (r.map .records)

/-- The record sets of the members of a group, or the fault that ended it. -/
def recordSets : Except (Outcome Reply) (List (Outcome Reply)) → Outcome (List (List Record))
  | .ok replies => replies.mapM Corpus.toRecords
  | .error (.error fault) => .error fault
  | .error (.ok _) => .ok []

mutual

/-- What an expression finds in a graph that stands still. -/
def run (e : Evaluator) (g : Graph) (target : Target) (scope : Option Scope) (strict : Bool) :
    Expr → Outcome (List Record)
  | .atom text => (e.atom target scope strict text).run g
  | .all operands => (runAll e g target scope operands).map intersect
  | .any operands => (runAll e g target scope operands).map union

/-- What some operands find in a graph that stands still. -/
def runAll (e : Evaluator) (g : Graph) (target : Target) (scope : Option Scope) :
    List Expr → Outcome (List (List Record))
  | [] => .ok []
  | operand :: rest => do
    let first ← run e g target scope false operand
    let others ← runAll e g target scope rest
    return first :: others

end

mutual

/-- The job that evaluates an expression. -/
def job (e : Evaluator) (target : Target) (scope : Option Scope) (strict : Bool)
    (next : Outcome (List Record) → EngineJob) : Expr → EngineJob
  | .atom text => (e.atom target scope strict text).job next
  | .all operands =>
    .fork (jobs e target scope operands) fun r => next ((recordSets r).map intersect)
  | .any operands =>
    .fork (jobs e target scope operands) fun r => next ((recordSets r).map union)

/-- The jobs that evaluate some operands. -/
def jobs (e : Evaluator) (target : Target) (scope : Option Scope) : List Expr → List EngineJob
  | [] => []
  | operand :: rest => job e target scope false finishRecords operand :: jobs e target scope rest

end

/-- The job that evaluates a whole expression: only a root that is an atomic filter is strict. -/
def evaluate (e : Evaluator) (expr : Expr) (target : Target) (strict : Bool) (scope : Option Scope)
    (next : Outcome (List Record) → EngineJob) : EngineJob :=
  e.job target scope strict next expr

end OutlineSearch.Evaluator
