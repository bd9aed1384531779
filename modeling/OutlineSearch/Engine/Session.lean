import OutlineSearch.Engine.Answer

/-!
# Sessions

A session is a world with the jobs that are still under way in it. Its operations are the ways in
which a corpus is read, searched and edited; several may run at the same time.
-/

namespace OutlineSearch.Engine

/-- What can be done in a session. -/
inductive Operation where
  /-- Searches with the arguments of a caller. -/
  | search (arguments : Value)
  /-- Searches with a request that has been read before. -/
  | searchRequest (request : SearchRequest)
  /-- Searches and tells the answer as a text. -/
  | searchTool (arguments : Value)
  /-- Makes the cache forget and tells so as a text. -/
  | forgetTool (arguments : List (Value × Value))
  /-- Calls a tool by its name. -/
  | callTool (name : String) (arguments : Value)
  /-- Reads a resource. -/
  | readResource (uri : String)
  /-- Makes the cache forget. -/
  | forget (kind identifier : Value)
  /-- Evaluates an expression. -/
  | evaluate (expr : Expr) (target : Target) (strict : Bool) (scope : Option Scope)
  /-- Evaluates an atomic filter. -/
  | atom (text : String) (target : Target) (strict : Bool) (scope : Option Scope)
  /-- Collects the records of a target. -/
  | collect (target : Target) (scope : Option Scope)
  /-- Reads the listing of all pages. -/
  | pages
  /-- Reads the listing of the templates. -/
  | templates
  /-- Reads the outline of a page. -/
  | blocks (page : String)
  /-- Asks the provider itself. -/
  | ask (query : Query)
  /-- Calls a method of the server. -/
  | call (c : ApiCall)
  /-- Moves the clock. -/
  | advance (seconds : Binary64)
  /-- Edits the graph. -/
  | edit (change : Provider → Outcome Provider)
  /-- Tells a value. -/
  | tell (v : Value)
  /-- Fails. -/
  | fail (fault : Fault)
  /-- Does several things at the same time. -/
  | together (operations : List Operation)

instance : Inhabited Operation := ⟨.pages⟩

/-- The job that asks the provider itself. -/
def askJob (q : Query) (next : Outcome Reply → EngineJob) : EngineJob :=
  .change (·.start q) <|
    .look fun w =>
      .pauses (.touch (·.answer q) fun r => next (r.map Corpus.replyOf)) w.provider.turns

/-- The world after a call of a method of its server, if it has one. -/
def callServer (c : ApiCall) (w : World) : Outcome Value × World :=
  match w.provider with
  | .api g =>
    let (r, g) := g.call c
    (r, w.withProvider (.api g))
  | _ => (.ok .null, w)

/-- The world with its graph edited. -/
def editGraph (change : Provider → Outcome Provider) (w : World) : Outcome Reply × World :=
  match change w.provider with
  | .ok p => (.ok .nothing, w.withProvider p)
  | .error fault => (.error fault, w)

/-- The contents of an answer with one text. -/
def contents (text : String) : Reply := .value (.list [.text text])

/-- What the members of a group of operations have ended with. -/
def gathered : Except (Outcome Reply) (List (Outcome Reply)) → Outcome Reply
  | .ok replies =>
    .ok (.outcomes (replies.flatMap fun
      | .ok (.outcomes items) => items
      | _ => []))
  | .error r => r

namespace Operation

mutual

/-- The job of an operation. -/
def job (next : Outcome Reply → EngineJob) : Operation → EngineJob
  | search arguments => Search.execute arguments fun r => next (r.map .result)
  | searchRequest request => Search.executeRequest request fun r => next (r.map .result)
  | searchTool arguments => searchJob arguments fun r => next (r.map .text)
  | forgetTool arguments => forgetToolJob arguments fun r => next (r.map .text)
  | callTool name arguments => toolJob name arguments fun r => next (r.map contents)
  | readResource uri => .look fun w => next (.ok (contents (resourceText w uri)))
  | forget kind identifier => forgetJob kind identifier fun r => next (r.map fun () => .nothing)
  | evaluate expr target strict scope =>
    .look fun w => w.evaluator.evaluate expr target strict scope fun r => next (r.map .records)
  | atom text target strict scope =>
    .look fun w => (w.evaluator.atom target scope strict text).job fun r => next (r.map .records)
  | collect target scope =>
    .look fun w => (w.evaluator.collect target scope).job fun r => next (r.map .records)
  | pages => Corpus.pages fun r => next (r.map .pages)
  | templates => Corpus.templates fun r => next (r.map .pages)
  | blocks page => Corpus.blocks page fun r => next (r.map .blocks)
  | ask query => askJob query next
  | call c => .touch (callServer c) fun r => next (r.map .value)
  | advance seconds =>
    .change (fun w => { w with clock := w.clock.add seconds }) (next (.ok .nothing))
  | edit change => .touch (editGraph change) next
  | tell v => next (.ok (.value v))
  | fail fault => next (.error fault)
  | together operations => .fork (memberJobs operations) fun r => next (gathered r)

/-- The jobs of operations that are done at the same time; each ends well with its own outcome. -/
def memberJobs : List Operation → List EngineJob
  | [] => []
  | operation :: rest =>
    job (fun r => .finish (.ok (.outcomes [r]))) operation :: memberJobs rest

end

end Operation

/-- A session. -/
abbrev Session := EngineLoop

namespace Session

/-- The session in a world in which nothing is under way. -/
def start (w : World) : Session := { state := w }

/-- The outcome of an operation, and the session behind it. -/
def perform (s : Session) (operation : Operation) : Outcome Reply × Session :=
  match Task.Loop.run failed s (operation.job .finish) with
  | (some r, s) => (r, s)
  | (none, s) => (.error (.internal "The operation did not end."), s)

end Session

end OutlineSearch.Engine
