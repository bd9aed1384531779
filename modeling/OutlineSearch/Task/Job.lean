/-!
# Jobs

A job is a computation on a shared state that can be suspended: it waits for one turn, for a flight
that another job is on, or for jobs of its own that run side by side. Between two suspensions it
runs without anybody else seeing the state.
-/

namespace OutlineSearch.Task

/-- A job on a state `σ` with flights named by `κ`; what it ends with, and what a flight brings, is
a result. -/
inductive Job (σ κ ρ : Type) where
  /-- Ends with a result. -/
  | finish (result : ρ)
  /-- Goes on with the state. -/
  | look (next : σ → Job σ κ ρ)
  /-- Changes the state. -/
  | change (f : σ → σ) (next : Job σ κ ρ)
  /-- Lets the jobs that are due have a turn. -/
  | pause (next : Job σ κ ρ)
  /-- Waits for what a flight brings. -/
  | await (flight : κ) (next : ρ → Job σ κ ρ)
  /-- Says what a flight has brought. -/
  | settle (flight : κ) (result : ρ) (next : Job σ κ ρ)
  /-- Runs jobs side by side and goes on with their results, or with the first failure. -/
  | fork (members : List (Job σ κ ρ)) (next : Except ρ (List ρ) → Job σ κ ρ)

namespace Job

variable {σ κ ρ : Type}

/-- Lets the jobs that are due have some turns. -/
def pauses (next : Job σ κ ρ) : Nat → Job σ κ ρ
  | 0 => next
  | n + 1 => pause (pauses next n)

/-- Goes on with what a change of the state yields. -/
def touch {α : Type} (f : σ → α × σ) (next : α → Job σ κ ρ) : Job σ κ ρ :=
  look fun s => change (fun _ => (f s).2) (next (f s).1)

end Job

end OutlineSearch.Task
