import OutlineSearch.Task.Job

/-!
# The loop that runs jobs

The loop keeps the jobs that are due in a queue and gives each its turn in the order of the queue. A
job that waits for a flight is due two turns after the flight has settled, and one that waits for
members of its own one turn after the last of them has reported, or the first that failed.
-/

namespace OutlineSearch.Task

variable {σ κ ρ : Type}

/-- Whom the result of a job goes to. -/
inductive Owner where
  /-- A client of the loop, who has a number. -/
  | client (number : Nat)
  /-- A group of jobs, in which the job has a place. -/
  | member (group place : Nat)
deriving DecidableEq, Repr

/-- What is due. -/
inductive Turn (σ κ ρ : Type) where
  /-- A job goes on. -/
  | run (owner : Owner) (job : Job σ κ ρ)
  /-- A flight that a job waits for has settled. -/
  | arrive (owner : Owner) (job : Job σ κ ρ)
  /-- A member of a group has ended. -/
  | report (group place : Nat) (result : ρ)

/-- A job that waits for a flight. -/
structure Waiter (σ κ ρ : Type) where
  flight : κ
  owner : Owner
  next : ρ → Job σ κ ρ

/-- Jobs that run side by side for another one. -/
structure Group (σ κ ρ : Type) where
  id : Nat
  /-- The results so far by place. -/
  results : List (Option ρ)
  owner : Owner
  next : Except ρ (List ρ) → Job σ κ ρ

/-- A loop. -/
structure Loop (σ κ ρ : Type) where
  state : σ
  queue : List (Turn σ κ ρ) := []
  waiters : List (Waiter σ κ ρ) := []
  groups : List (Group σ κ ρ) := []
  nextGroup : Nat := 0
  /-- The results that have gone to clients by their numbers, the last one first. -/
  answers : List (Nat × ρ) := []

namespace Loop

/-- The loop with something more that is due. -/
def enqueue (l : Loop σ κ ρ) (turn : Turn σ κ ρ) : Loop σ κ ρ :=
  { l with queue := l.queue ++ [turn] }

/-- The loop after a job has ended. -/
def close (l : Loop σ κ ρ) (owner : Owner) (result : ρ) : Loop σ κ ρ :=
  match owner with
  | .client number => { l with answers := (number, result) :: l.answers }
  | .member group place => l.enqueue (.report group place result)

/-- The last result that has gone to a client. -/
def answer? (l : Loop σ κ ρ) (client : Nat) : Option ρ :=
  (l.answers.find? fun a => a.1 == client).map (·.2)

variable [DecidableEq κ]

/-- The loop after a flight has settled: those who wait for it hear of it in the order in which they
came. -/
def land (l : Loop σ κ ρ) (flight : κ) (result : ρ) : Loop σ κ ρ :=
  let heard := l.waiters.filter fun w => w.flight = flight
  { l with
    queue := l.queue ++ heard.map fun w => .arrive w.owner (w.next result)
    waiters := l.waiters.filter fun w => w.flight ≠ flight }

/-- The members of a group as they are due, numbered from `place` on. -/
def memberTurns (group place : Nat) : List (Job σ κ ρ) → List (Turn σ κ ρ)
  | [] => []
  | job :: rest => .run (.member group place) job :: memberTurns group (place + 1) rest

/-- Runs a job up to its end or to where it has to wait. -/
def perform (owner : Owner) : Job σ κ ρ → Loop σ κ ρ → Loop σ κ ρ
  | .finish result, l => l.close owner result
  | .look next, l => perform owner (next l.state) l
  | .change f next, l => perform owner next { l with state := f l.state }
  | .pause next, l => l.enqueue (.run owner next)
  | .await flight next, l => { l with waiters := l.waiters ++ [⟨flight, owner, next⟩] }
  | .settle flight result next, l => perform owner next (l.land flight result)
  | .fork [] next, l => perform owner (next (.ok [])) l
  | .fork (job :: rest) next, l =>
    let members := job :: rest
    { l with
      queue := l.queue ++ memberTurns l.nextGroup 0 members
      groups := ⟨l.nextGroup, members.map fun _ => none, owner, next⟩ :: l.groups
      nextGroup := l.nextGroup + 1 }

/-- The results of a group if all are there. -/
def allResults? : List (Option ρ) → Option (List ρ)
  | [] => some []
  | none :: _ => none
  | some r :: rest => (allResults? rest).map (r :: ·)

/-- The loop after a member of a group has reported: a failure, or the last result, makes the job
that the group runs for due. -/
def hear (fails : ρ → Bool) (l : Loop σ κ ρ) (group place : Nat) (result : ρ) : Loop σ κ ρ :=
  match l.groups.find? fun g => g.id = group with
  | none => l
  | some g =>
    let others := l.groups.filter fun g => g.id ≠ group
    let results := g.results.set place (some result)
    if fails result then
      { l with groups := others }.enqueue (.run g.owner (g.next (.error result)))
    else
      match allResults? results with
      | some all => { l with groups := others }.enqueue (.run g.owner (g.next (.ok all)))
      | none => { l with groups := { g with results } :: others }

/-- The loop after something that was due has had its turn. -/
def give (fails : ρ → Bool) (l : Loop σ κ ρ) : Turn σ κ ρ → Loop σ κ ρ
  | .run owner job => perform owner job l
  | .arrive owner job => l.enqueue (.run owner job)
  | .report group place result => l.hear fails group place result

/-- Gives the first thing that is due its turn. -/
def advance (fails : ρ → Bool) (l : Loop σ κ ρ) : Option (Loop σ κ ρ) :=
  match l.queue with
  | [] => none
  | turn :: queue => some ({ l with queue }.give fails turn)

/-- The client for whom a loop runs a job. -/
def runner : Nat := 0

/-- Gives turns until a result has gone to the runner, at most as many as the fuel allows. -/
def runTurns (fails : ρ → Bool) : (fuel : Nat) → Loop σ κ ρ → Loop σ κ ρ
  | 0, l => l
  | fuel + 1, l =>
    if (l.answer? runner).isSome then l
    else
      match l.advance fails with
      | none => l
      | some l => runTurns fails fuel l

/-- More turns than any session of the engine takes. -/
def turnLimit : Nat := Nat.pow 2 62

/-- Runs a job for the runner; what is then still due stays in the queue. -/
def run (fails : ρ → Bool) (l : Loop σ κ ρ) (job : Job σ κ ρ) : Option ρ × Loop σ κ ρ :=
  let l := runTurns fails turnLimit (perform (.client runner) job { l with answers := [] })
  (l.answer? runner, l)

end Loop

end OutlineSearch.Task
