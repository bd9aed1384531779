import OutlineSearch.Proofs.Task.Schedule
import Mathlib.Data.List.Chain

/-!
# Trails

The state of a loop changes while a job is in hand, and more than once. The trail of a schedule lists
all the states that it goes through, so that what happens within one turn can be told, too.
-/

namespace OutlineSearch.Task

variable {σ κ ρ : Type}

/-- The states that a job in hand goes through up to its end or to where it has to wait. -/
def Job.states : Job σ κ ρ → σ → List σ
  | .finish _, _ => []
  | .look next, s => (next s).states s
  | .change f next, s => f s :: next.states (f s)
  | .pause _, _ => []
  | .await _ _, _ => []
  | .settle _ _ next, s => next.states s
  | .fork [] next, s => (next (.ok [])).states s
  | .fork (_ :: _) _, _ => []

/-- The states that a turn goes through. -/
def Turn.states : Turn σ κ ρ → σ → List σ
  | .run _ job, s => job.states s
  | _, _ => []

namespace Loop

/-- The states that a move goes through. -/
def moveStates (l : Loop σ κ ρ) : Move σ κ ρ → List σ
  | .ask _ job => job.states l.state
  | .turn place => ((l.queue[place]?).map fun turn => turn.states l.state).getD []

variable [DecidableEq κ]

/-- The states that a schedule goes through. -/
def trail (fails : ρ → Bool) (l : Loop σ κ ρ) : List (Move σ κ ρ) → List σ
  | [] => []
  | m :: ms => l.moveStates m ++ (l.move fails m).trail fails ms

@[simp]
theorem trail_nil (fails : ρ → Bool) (l : Loop σ κ ρ) : l.trail fails [] = [] := rfl

theorem trail_cons (fails : ρ → Bool) (l : Loop σ κ ρ) (m : Move σ κ ρ) (ms : List (Move σ κ ρ)) :
    l.trail fails (m :: ms) = l.moveStates m ++ (l.move fails m).trail fails ms := rfl

/-- A job leaves the loop in the last of the states that it goes through. -/
theorem getLast_states (owner : Owner) (job : Job σ κ ρ) (l : Loop σ κ ρ) :
    (l.state :: job.states l.state).getLast? = some (perform owner job l).state := by
  fun_induction perform owner job l with
  | case1 result l => cases owner <;> rfl
  | case2 next l ih => exact ih
  | case3 f next l ih =>
    rw [Job.states, List.getLast?_cons_cons]
    exact ih
  | case4 next l => rfl
  | case5 flight next l => rfl
  | case6 flight result next l ih => exact ih
  | case7 next l ih => exact ih
  | case8 job rest next l members => rfl

omit [DecidableEq κ] in
theorem state_hear (fails : ρ → Bool) (l : Loop σ κ ρ) (group place : Nat) (r : ρ) :
    (l.hear fails group place r).state = l.state := by
  unfold hear
  split
  · rfl
  · dsimp only
    split
    · rfl
    · split <;> rfl

theorem getLast_moveStates (fails : ρ → Bool) (l : Loop σ κ ρ) (m : Move σ κ ρ) :
    (l.state :: l.moveStates m).getLast? = some (l.move fails m).state := by
  cases m with
  | ask client job => exact getLast_states (.client client) job l
  | turn place =>
    rw [moveStates, move, turnAt]
    cases l.queue[place]? with
    | none => rfl
    | some turn =>
      cases turn with
      | run owner job =>
        exact getLast_states owner job { l with queue := l.queue.eraseIdx place }
      | arrive owner job => rfl
      | report group i r =>
        exact congrArg some
          (state_hear fails { l with queue := l.queue.eraseIdx place } group i r).symm

/-- A schedule leaves the loop in the last of the states that it goes through. -/
theorem getLast_trail (fails : ρ → Bool) (l : Loop σ κ ρ) (ms : List (Move σ κ ρ)) :
    (l.state :: l.trail fails ms).getLast? = some (l.play fails ms).state := by
  induction ms generalizing l with
  | nil => rfl
  | cons m ms ih =>
    rw [trail_cons, play_cons, ← ih, ← List.cons_append, List.getLast?_append,
      getLast_moveStates fails l m, List.getLast?_cons]
    cases ((l.move fails m).trail fails ms).getLast? <;> rfl

/-- A schedule makes the changes of its first move and then those of the others. -/
theorem isChain_trail_cons {R : σ → σ → Prop} (fails : ρ → Bool) (l : Loop σ κ ρ)
    (m : Move σ κ ρ) (ms : List (Move σ κ ρ)) :
    (l.state :: l.trail fails (m :: ms)).IsChain R ↔ (l.state :: l.moveStates m).IsChain R ∧
      ((l.move fails m).state :: (l.move fails m).trail fails ms).IsChain R := by
  obtain ⟨front, hfront⟩ := List.getLast?_eq_some_iff.1 (getLast_moveStates fails l m)
  rw [trail_cons, ← List.cons_append, hfront, List.append_assoc, List.singleton_append,
    List.isChain_split]

end Loop

end OutlineSearch.Task
