import OutlineSearch.Proofs.Task.Schedule
import Mathlib.Data.Multiset.DershowitzManna
import Mathlib.Data.Prod.Lex
import Mathlib.SetTheory.Ordinal.Rank
import Mathlib.Tactic.Abel

/-!
# Every schedule comes to rest

A turn replaces something that is due by finitely many smaller things, so a loop whom nobody asks
comes to rest, whatever turn comes next. How big a thing is says the rank of the job that it goes on
with, as a job may go on in infinitely many ways.
-/

namespace OutlineSearch.Task

variable {σ κ ρ : Type}

namespace Job

/-- A job comes next for another one. A job that has forked without members comes next for one that
has forked with some. -/
inductive Next : Job σ κ ρ → Job σ κ ρ → Prop where
  | look (next : σ → Job σ κ ρ) (s : σ) : Next (next s) (.look next)
  | change (f : σ → σ) (next : Job σ κ ρ) : Next next (.change f next)
  | pause (next : Job σ κ ρ) : Next next (.pause next)
  | await (flight : κ) (next : ρ → Job σ κ ρ) (r : ρ) : Next (next r) (.await flight next)
  | settle (flight : κ) (r : ρ) (next : Job σ κ ρ) : Next next (.settle flight r next)
  | member {members : List (Job σ κ ρ)} (next : Except ρ (List ρ) → Job σ κ ρ) {m : Job σ κ ρ}
    (hm : m ∈ members) : Next m (.fork members next)
  | resume (members : List (Job σ κ ρ)) (next : Except ρ (List ρ) → Job σ κ ρ)
    (r : Except ρ (List ρ)) : Next (next r) (.fork members next)
  | forked (m : Job σ κ ρ) (ms : List (Job σ κ ρ)) (next : Except ρ (List ρ) → Job σ κ ρ) :
    Next (.fork [] next) (.fork (m :: ms) next)

private theorem acc_look {next : σ → Job σ κ ρ} (h : ∀ s, Acc Next (next s)) :
    Acc Next (.look next) :=
  ⟨_, fun _ hj ↦ by cases hj with | look _ s => exact h s⟩

private theorem acc_change {f : σ → σ} {next : Job σ κ ρ} (h : Acc Next next) :
    Acc Next (.change f next) :=
  ⟨_, fun _ hj ↦ by cases hj; exact h⟩

private theorem acc_pause {next : Job σ κ ρ} (h : Acc Next next) : Acc Next (.pause next) :=
  ⟨_, fun _ hj ↦ by cases hj; exact h⟩

private theorem acc_await {flight : κ} {next : ρ → Job σ κ ρ} (h : ∀ r, Acc Next (next r)) :
    Acc Next (.await flight next) :=
  ⟨_, fun _ hj ↦ by cases hj with | await _ _ r => exact h r⟩

private theorem acc_settle {flight : κ} {r : ρ} {next : Job σ κ ρ} (h : Acc Next next) :
    Acc Next (.settle flight r next) :=
  ⟨_, fun _ hj ↦ by cases hj; exact h⟩

private theorem acc_fork {members : List (Job σ κ ρ)} {next : Except ρ (List ρ) → Job σ κ ρ}
    (hmembers : ∀ m ∈ members, Acc Next m) (hnext : ∀ r, Acc Next (next r)) :
    Acc Next (.fork members next) := by
  have hnil : Acc Next (.fork [] next) := by
    refine ⟨_, fun j hj ↦ ?_⟩
    cases hj with
    | member _ hm => cases hm
    | resume _ _ r => exact hnext r
  refine ⟨_, fun j hj ↦ ?_⟩
  cases hj with
  | member _ hm => exact hmembers j hm
  | resume _ _ r => exact hnext r
  | forked => exact hnil

mutual

/-- No job comes next for another one without end. -/
theorem acc_next : (job : Job σ κ ρ) → Acc Next job
  | .finish _ => ⟨_, fun _ h ↦ nomatch h⟩
  | .look next => acc_look fun s ↦ acc_next (next s)
  | .change _ next => acc_change (acc_next next)
  | .pause next => acc_pause (acc_next next)
  | .await _ next => acc_await fun r ↦ acc_next (next r)
  | .settle _ _ next => acc_settle (acc_next next)
  | .fork members next => acc_fork (acc_members members) fun r ↦ acc_next (next r)

theorem acc_members : (members : List (Job σ κ ρ)) → ∀ m ∈ members, Acc Next m
  | [] => List.forall_mem_nil _
  | m :: ms => List.forall_mem_cons.2 ⟨acc_next m, acc_members ms⟩

end

instance : IsWellFounded (Job σ κ ρ) Next := ⟨⟨acc_next⟩⟩

/-- How much may come next for a job. -/
noncomputable def rank (job : Job σ κ ρ) : Ordinal := IsWellFounded.rank Next job

theorem Next.rank_lt {a b : Job σ κ ρ} (h : Next a b) : a.rank < b.rank :=
  IsWellFounded.rank_lt_of_rel h

end Job

/-! ### Loads -/

/-- What a thing under way weighs: the rank of the job that it goes on with, and how far it is from
going on. -/
abbrev Weight := Ordinal ×ₗ Nat

theorem weight_lt_of_rank {a b : Ordinal} (h : a < b) (m n : Nat) :
    (toLex (a, m) : Weight) < toLex (b, n) :=
  Prod.Lex.toLex_lt_toLex.2 (.inl h)

theorem weight_lt_of_count (a : Ordinal) {m n : Nat} (h : m < n) :
    (toLex (a, m) : Weight) < toLex (a, n) :=
  Prod.Lex.toLex_lt_toLex.2 (.inr ⟨rfl, h⟩)

noncomputable def Turn.weight : Turn σ κ ρ → Weight
  | .run _ job => toLex (job.rank, 1)
  | .arrive _ job => toLex (job.rank, 2)
  | .report _ _ _ => toLex (0, 0)

noncomputable def Waiter.weight (w : Waiter σ κ ρ) : Weight :=
  toLex ((Job.await (σ := σ) w.flight w.next).rank, 0)

noncomputable def Group.weight (g : Group σ κ ρ) : Weight :=
  toLex ((Job.fork (σ := σ) (κ := κ) [] g.next).rank, 0)

namespace Loop

open Multiset

/-- The weights of all that is under way. -/
noncomputable def load (l : Loop σ κ ρ) : Multiset Weight :=
  (l.queue.map Turn.weight : Multiset Weight) + (l.waiters.map Waiter.weight : Multiset Weight) +
    (l.groups.map Group.weight : Multiset Weight)

theorem load_enqueue (l : Loop σ κ ρ) (turn : Turn σ κ ρ) :
    (l.enqueue turn).load = turn.weight ::ₘ l.load := by
  simp only [load, enqueue, List.map_append, List.map_cons, List.map_nil, ← coe_add]
  rw [← singleton_add, ← coe_singleton]
  abel

theorem load_takeOut {l : Loop σ κ ρ} {queue : List (Turn σ κ ρ)} {turn : Turn σ κ ρ}
    (h : l.queue.Perm (turn :: queue)) :
    l.load = turn.weight ::ₘ ({ l with queue }).load := by
  simp only [load]
  rw [coe_eq_coe.2 (h.map Turn.weight), List.map_cons, ← cons_coe, cons_add, cons_add]

/-- One thing is replaced by smaller ones. -/
theorem lighter_of_replace {rest new : Multiset Weight} {w : Weight} (h : ∀ v ∈ new, v < w) :
    IsDershowitzMannaLT (new + rest) (w ::ₘ rest) := by
  refine ⟨rest, new, {w}, singleton_ne_zero w, add_comm _ _, ?_, fun v hv ↦ ?_⟩
  · rw [← singleton_add, add_comm]
  · exact ⟨w, mem_singleton_self w, h v hv⟩

/-- What hears of a flight is replaced by something smaller, each by one thing. -/
theorem load_land [DecidableEq κ] (l : Loop σ κ ρ) (flight : κ) (r : ρ) :
    ∃ rest heard due : Multiset Weight, l.load = heard + rest ∧
      (l.land flight r).load = due + rest ∧ ∀ v ∈ due, ∃ u ∈ heard, v < u := by
  let hears (w : Waiter σ κ ρ) : Bool := w.flight = flight
  let arrival (w : Waiter σ κ ρ) : Turn σ κ ρ := .arrive w.owner (w.next r)
  have hsplit : (l.waiters.filter hears ++ l.waiters.filter fun w => !hears w).Perm l.waiters :=
    List.filter_append_perm hears l.waiters
  refine ⟨(l.queue.map Turn.weight : Multiset Weight) +
      ((l.waiters.filter fun w => !hears w).map Waiter.weight : Multiset Weight) +
      (l.groups.map Group.weight : Multiset Weight),
    ((l.waiters.filter hears).map Waiter.weight : Multiset Weight),
    ((l.waiters.filter hears).map (Turn.weight ∘ arrival) : Multiset Weight), ?_, ?_, ?_⟩
  · rw [load, ← coe_eq_coe.2 (hsplit.map Waiter.weight), List.map_append, ← coe_add]
    abel
  · have hothers : (l.waiters.filter fun w => w.flight ≠ flight) =
        l.waiters.filter fun w => !hears w := by
      simp [hears]
    simp only [load, land, List.map_append, List.map_map, ← coe_add, hothers]
    abel
  · intro v hv
    obtain ⟨w, hw, rfl⟩ := List.mem_map.1 (mem_coe.1 hv)
    exact ⟨w.weight, mem_coe.2 (List.mem_map_of_mem hw),
      weight_lt_of_rank (Job.Next.await w.flight w.next r).rank_lt _ _⟩

theorem lighter_cons {rest : Multiset Weight} {v w : Weight} (h : v < w) :
    IsDershowitzMannaLT (v ::ₘ rest) (w ::ₘ rest) := by
  rw [← singleton_add]
  refine lighter_of_replace fun u hu ↦ ?_
  rwa [mem_singleton.1 hu]

/-- What comes next weighs less than the job, however far it is from going on. -/
theorem weight_next_lt {a b : Job σ κ ρ} (h : Job.Next a b) {w : Weight}
    (hw : toLex (b.rank, 1) ≤ w) (n : Nat) : toLex (a.rank, n) < w :=
  (weight_lt_of_rank h.rank_lt n 1).trans_le hw

/-- A job that runs leaves less under way than there was with it. -/
theorem lighter_perform [DecidableEq κ] (owner : Owner) (job : Job σ κ ρ) (l : Loop σ κ ρ)
    (w : Weight) (hw : toLex (job.rank, 1) ≤ w) :
    IsDershowitzMannaLT (perform owner job l).load (w ::ₘ l.load) := by
  fun_induction perform owner job l generalizing w with
  | case1 r l =>
    cases owner with
    | client n =>
      have : IsDershowitzMannaLT (0 + l.load) (w ::ₘ l.load) := lighter_of_replace (by simp)
      rwa [zero_add] at this
    | member group place =>
      rw [close, load_enqueue]
      refine lighter_cons (lt_of_lt_of_le (Prod.Lex.toLex_lt_toLex'.2 ⟨?_, fun _ ↦ ?_⟩) hw)
      · exact bot_le
      · exact Nat.zero_lt_one
  | case2 next l ih => exact ih w (weight_next_lt (.look next l.state) hw 1).le
  | case3 f next l ih => exact ih w (weight_next_lt (.change f next) hw 1).le
  | case4 next l =>
    rw [load_enqueue]
    exact lighter_cons (weight_next_lt (.pause next) hw 1)
  | case5 flight next l =>
    have hload : (Loop.load { l with waiters := l.waiters ++ [⟨flight, owner, next⟩] }) =
        toLex ((Job.await flight next).rank, 0) ::ₘ l.load := by
      simp only [load, List.map_append, List.map_cons, List.map_nil, ← coe_add, ← singleton_add,
        ← coe_singleton, Waiter.weight]
      abel
    rw [hload]
    exact lighter_cons ((weight_lt_of_count _ Nat.zero_lt_one).trans_le hw)
  | case6 flight r next l ih =>
    refine (ih _ le_rfl).trans ?_
    obtain ⟨rest, heard, due, hl, hland, hdue⟩ := load_land l flight r
    rw [hl, hland]
    refine ⟨rest, toLex (next.rank, 1) ::ₘ due, w ::ₘ heard, cons_ne_zero, ?_, ?_, ?_⟩
    · rw [add_cons, add_comm]
    · rw [add_cons, add_comm]
    · intro v hv
      rcases mem_cons.1 hv with rfl | hv
      · exact ⟨w, mem_cons_self w heard, weight_next_lt (.settle flight r next) hw 1⟩
      · obtain ⟨u, hu, hvu⟩ := hdue v hv
        exact ⟨u, mem_cons_of_mem hu, hvu⟩
  | case7 next l ih => exact ih w (weight_next_lt (.resume [] next (.ok [])) hw 1).le
  | case8 job rest next l members =>
    have hload : (Loop.load { l with
        queue := l.queue ++ memberTurns l.nextGroup 0 members
        groups := ⟨l.nextGroup, members.map fun _ => none, owner, next⟩ :: l.groups
        nextGroup := l.nextGroup + 1 }) = toLex ((Job.fork [] next).rank, 0) ::ₘ
          ((memberTurns l.nextGroup 0 members).map Turn.weight : Multiset Weight) + l.load := by
      simp only [load, List.map_append, List.map_cons, ← coe_add, ← cons_coe, add_cons, cons_add,
        Group.weight]
      congr 1
      abel
    rw [hload]
    refine lighter_of_replace fun v hv ↦ ?_
    rcases mem_cons.1 hv with rfl | hv
    · exact weight_next_lt (.forked job rest next) hw 0
    · obtain ⟨turn, hturn, rfl⟩ := List.mem_map.1 (mem_coe.1 hv)
      obtain ⟨i, m, hm, rfl⟩ := mem_memberTurns hturn
      exact weight_next_lt (.member next (List.mem_of_getElem? hm)) hw 1

/-- The load of a loop is that of a group, of all that is not of its number, and of a rest. -/
theorem load_of_group (l : Loop σ κ ρ) {g : Group σ κ ρ} (hg : g ∈ l.groups) :
    ∃ rest : Multiset Weight, l.load =
      g.weight ::ₘ ((l.dropping g).load + rest) := by
  have hsub : List.Sublist (l.groups.filter fun g' => g'.id ≠ g.id) l.groups := List.filter_sublist
  obtain ⟨others, hperm⟩ := hsub.exists_perm_append
  have hmem : g ∈ others := by
    refine (List.mem_append.1 (hperm.mem_iff.1 hg)).resolve_left fun hmem ↦ ?_
    simp at hmem
  obtain ⟨front, back, rfl⟩ := List.append_of_mem hmem
  refine ⟨((front ++ back).map Group.weight : Multiset Weight), ?_⟩
  rw [load, load, dropping, coe_eq_coe.2 (hperm.map Group.weight)]
  simp only [List.map_append, List.map_cons, ← coe_add, ← cons_coe, add_cons]
  congr 1
  abel

/-- A report is replaced by nothing or, with its group, by the job that the group runs for. -/
theorem lighter_hear (fails : ρ → Bool) (l : Loop σ κ ρ) (group place : Nat) (r : ρ) (w : Weight) :
    IsDershowitzMannaLT (l.hear fails group place r).load (w ::ₘ l.load) := by
  have heard := heard_hear fails l group place r
  generalize l.hear fails group place r = l' at heard
  have hclosing (g : Group σ κ ρ) (hg : g ∈ l.groups) (reply : Except ρ (List ρ)) :
      IsDershowitzMannaLT (l.closing g reply).load (w ::ₘ l.load) := by
    obtain ⟨rest, hload⟩ := load_of_group l hg
    rw [hload, closing, load_enqueue]
    refine ⟨(l.dropping g).load, {(Turn.run g.owner (g.next reply)).weight},
      w ::ₘ g.weight ::ₘ rest, cons_ne_zero, ?_, ?_, fun v hv ↦ ?_⟩
    · rw [add_comm, singleton_add]
    · rw [add_cons, add_cons]
    · refine ⟨g.weight, by simp, ?_⟩
      rw [mem_singleton.1 hv]
      exact weight_lt_of_rank (Job.Next.resume [] g.next reply).rank_lt _ _
  cases heard with
  | unknown => exact ⟨l.load, 0, {w}, singleton_ne_zero w, by simp, by simp [add_comm], by simp⟩
  | failure g hg => exact hclosing g hg _
  | complete g hg => exact hclosing g hg _
  | waiting g hg =>
    obtain ⟨rest, hload⟩ := load_of_group l hg
    have hfilling : (l.filling g (g.results.set place (some r))).load =
        g.weight ::ₘ (l.dropping g).load := by
      simp only [filling, dropping, load, List.map_cons, ← cons_coe, add_cons]
      rfl
    refine ⟨g.weight ::ₘ (l.dropping g).load, 0, w ::ₘ rest, cons_ne_zero, ?_, ?_, by simp⟩
    · rw [add_zero, hfilling]
    · rw [hload, add_cons, cons_add]

/-- A turn leaves less under way. -/
theorem lighter_turnAt [DecidableEq κ] (fails : ρ → Bool) (l : Loop σ κ ρ) {place : Nat}
    (hplace : place < l.queue.length) :
    IsDershowitzMannaLT (l.turnAt fails place).load l.load := by
  have hqueue := (List.getElem_cons_eraseIdx_perm hplace).symm
  rw [turnAt, List.getElem?_eq_getElem hplace, load_takeOut hqueue]
  cases hturn : l.queue[place] with
  | run owner job => exact lighter_perform owner job _ _ le_rfl
  | arrive owner job =>
    change IsDershowitzMannaLT (enqueue _ (.run owner job)).load _
    rw [load_enqueue]
    exact lighter_cons (weight_lt_of_count _ (Nat.lt_succ_self 1))
  | report group i r => exact lighter_hear fails _ group i r _

/-- Whatever turn comes next, in the end nothing is due and something holds. -/
inductive Settles [DecidableEq κ] (fails : ρ → Bool) (p : Loop σ κ ρ → Prop) :
    Loop σ κ ρ → Prop where
  | rest {l : Loop σ κ ρ} (h : l.AtRest) (hp : p l) : Settles fails p l
  | turn {l : Loop σ κ ρ} (h : ¬l.AtRest)
    (hnext : ∀ place < l.queue.length, Settles fails p (l.turnAt fails place)) : Settles fails p l

/-- Every loop comes to rest. What holds in the end has to hold whenever nothing is due. -/
theorem settles [DecidableEq κ] (fails : ρ → Bool) (p : Loop σ κ ρ → Prop) (l : Loop σ κ ρ)
    (h : ∀ places : List Nat, (l.play fails (places.map .turn)).AtRest →
      p (l.play fails (places.map .turn))) : l.Settles fails p := by
  have hwf : WellFounded (IsDershowitzMannaLT (α := Weight)) := wellFounded_isDershowitzMannaLT
  generalize hload : l.load = load
  induction load using hwf.induction generalizing l with
  | _ load ih =>
    subst hload
    by_cases hrest : l.AtRest
    · exact .rest hrest (h [] hrest)
    · refine .turn hrest fun place hplace ↦ ih _ (lighter_turnAt fails l hplace) _ ?_ rfl
      exact fun places ↦ h (place :: places)

section Settles

variable [DecidableEq κ] {fails : ρ → Bool} {p : Loop σ κ ρ → Prop} {l : Loop σ κ ρ}

/-- Where no place is due a turn changes nothing. -/
theorem turnAt_of_length_le {place : Nat} (h : l.queue.length ≤ place) :
    l.turnAt fails place = l := by
  rw [turnAt, List.getElem?_eq_none h]

/-- What holds in the end holds wherever the turns end. -/
theorem Settles.of_play (h : l.Settles fails p) (places : List Nat)
    (hrest : (l.play fails (places.map .turn)).AtRest) :
    p (l.play fails (places.map .turn)) := by
  induction places generalizing l with
  | nil =>
    cases h with
    | rest _ hp => exact hp
    | turn h => exact absurd hrest h
  | cons place places ih =>
    by_cases hplace : place < l.queue.length
    · cases h with
      | rest h => simp [show l.queue = [] from h] at hplace
      | turn _ hnext => exact ih (hnext place hplace) hrest
    · refine ih ?_ hrest
      rw [move, turnAt_of_length_le (Nat.le_of_not_lt hplace)]
      exact h

/-- Some turns lead to the end. -/
theorem Settles.exists_play (h : l.Settles fails p) :
    ∃ places : List Nat, (l.play fails (places.map .turn)).AtRest := by
  induction h with
  | rest h => exact ⟨[], h⟩
  | @turn l h _ ih =>
    obtain ⟨places, hplaces⟩ := ih 0 (List.length_pos_iff.2 h)
    exact ⟨0 :: places, hplaces⟩

theorem Settles.mono {q : Loop σ κ ρ → Prop} (h : l.Settles fails p) (hpq : ∀ l, p l → q l) :
    l.Settles fails q := by
  induction h with
  | rest h hp => exact .rest h (hpq _ hp)
  | turn h _ ih => exact .turn h ih

end Settles

end Loop

end OutlineSearch.Task
