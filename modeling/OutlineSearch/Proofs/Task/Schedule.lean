import OutlineSearch.Task.Loop
import Mathlib.Data.List.Nodup
import Mathlib.Data.List.Perm.Basic

/-!
# Schedules

A schedule says when clients ask a loop and which of the things that are due has its turn next, in
any order. The loop itself always takes the first one, which is one of these schedules.

Nobody is forgotten: whoever has asked has an answer or is tended, which means that something is
under way for him, and so is every open place of a group.
-/

namespace OutlineSearch.Task

variable {σ κ ρ : Type} [DecidableEq κ]

/-- What happens to a loop next. -/
inductive Move (σ κ ρ : Type) where
  /-- A client asks for a job, which runs up to where it has to wait. -/
  | ask (client : Nat) (job : Job σ κ ρ)
  /-- What is due at a place of the queue has its turn. -/
  | turn (place : Nat)

/-- The client of a move, if one asks. -/
def Move.client? : Move σ κ ρ → Option Nat
  | .ask client _ => some client
  | .turn _ => none

/-- Whom a turn is for. -/
def Turn.owner : Turn σ κ ρ → Owner
  | .run owner _ | .arrive owner _ => owner
  | .report group place _ => .member group place

namespace Loop

/-- The loop after what is due at a place has had its turn. -/
def turnAt (fails : ρ → Bool) (l : Loop σ κ ρ) (place : Nat) : Loop σ κ ρ :=
  match l.queue[place]? with
  | none => l
  | some turn => { l with queue := l.queue.eraseIdx place }.give fails turn

/-- The loop after a move. -/
def move (fails : ρ → Bool) (l : Loop σ κ ρ) : Move σ κ ρ → Loop σ κ ρ
  | .ask client job => perform (.client client) job l
  | .turn place => l.turnAt fails place

/-- The loop after some moves. -/
def play (fails : ρ → Bool) (l : Loop σ κ ρ) (moves : List (Move σ κ ρ)) : Loop σ κ ρ :=
  moves.foldl (move fails) l

@[simp]
theorem play_nil (fails : ρ → Bool) (l : Loop σ κ ρ) : l.play fails [] = l := rfl

@[simp]
theorem play_cons (fails : ρ → Bool) (l : Loop σ κ ρ) (m : Move σ κ ρ) (ms : List (Move σ κ ρ)) :
    l.play fails (m :: ms) = (l.move fails m).play fails ms := rfl

theorem play_append (fails : ρ → Bool) (l : Loop σ κ ρ) (ms ms' : List (Move σ κ ρ)) :
    l.play fails (ms ++ ms') = (l.play fails ms).play fails ms' := by
  simp only [play, List.foldl_append]

/-- Nothing is due. -/
def AtRest (l : Loop σ κ ρ) : Prop := l.queue = []

/-- A turn that the loop gives by itself is the turn at the head of its queue. -/
theorem advance_eq_turnAt (fails : ρ → Bool) (l next : Loop σ κ ρ) (h : l.advance fails = some next) :
    next = l.turnAt fails 0 := by
  unfold advance at h
  unfold turnAt
  cases hq : l.queue with
  | nil => simp [hq] at h
  | cons turn queue =>
    simp only [hq, Option.some.injEq] at h
    simp only [List.getElem?_cons_zero, List.eraseIdx_zero, List.tail_cons]
    exact h.symm

/-- The turns that the loop gives by itself are a schedule. -/
theorem runTurns_eq_play (fails : ρ → Bool) (fuel : Nat) (l : Loop σ κ ρ) :
    ∃ count, runTurns fails fuel l = l.play fails (List.replicate count (.turn 0)) := by
  induction fuel generalizing l with
  | zero => exact ⟨0, rfl⟩
  | succ fuel ih =>
    unfold runTurns
    by_cases answered : (l.answer? runner).isSome
    · exact ⟨0, by simp [answered]⟩
    · cases hadvance : l.advance fails with
      | none => exact ⟨0, by simp [answered]⟩
      | some next =>
        obtain ⟨count, hcount⟩ := ih next
        refine ⟨count + 1, ?_⟩
        rw [List.replicate_succ, play_cons, move, ← advance_eq_turnAt fails l next hadvance]
        simp only [answered, Bool.false_eq_true, if_false]
        exact hcount

/-! ### Whom things are under way for -/

/-- The owners of all that is under way. -/
def owners (l : Loop σ κ ρ) : List Owner :=
  l.queue.map Turn.owner ++ (l.waiters.map Waiter.owner ++ l.groups.map Group.owner)

/-- Something is under way for an owner, or the job in hand is his. -/
def Tends (l : Loop σ κ ρ) (hand : Option Owner) (owner : Owner) : Prop :=
  hand = some owner ∨ owner ∈ l.owners

/-- The groups are numbered in the order in which they were opened, and a group is opened for an
earlier one. -/
structure Numbered (hand : Option Owner) (l : Loop σ κ ρ) : Prop where
  distinct : (l.groups.map Group.id).Nodup
  opened : ∀ g ∈ l.groups, g.id < l.nextGroup
  nested : ∀ g ∈ l.groups, ∀ id place, g.owner = .member id place → id < g.id
  known : ∀ id place, l.Tends hand (.member id place) → id < l.nextGroup

/-- Nobody is forgotten. -/
structure Accounted (asked : List Nat) (hand : Option Owner) (l : Loop σ κ ρ) : Prop where
  clients : ∀ n ∈ asked, (∃ r, (n, r) ∈ l.answers) ∨ l.Tends hand (.client n)
  places : ∀ g ∈ l.groups, ∀ place, g.results[place]? = some none →
    l.Tends hand (.member g.id place)
  unfinished : ∀ g ∈ l.groups, ∃ place : Nat, g.results[place]? = some none

omit [DecidableEq κ] in
theorem mem_owners (l : Loop σ κ ρ) (o : Owner) :
    o ∈ l.owners ↔ (∃ t ∈ l.queue, t.owner = o) ∨ (∃ w ∈ l.waiters, w.owner = o) ∨
      ∃ g ∈ l.groups, g.owner = o := by
  simp only [owners, List.mem_append, List.mem_map]

omit [DecidableEq κ] in
/-- What is due for the members of a group is there for each of its places. -/
theorem map_owner_memberTurns (group first : Nat) (jobs : List (Job σ κ ρ)) :
    (memberTurns group first jobs).map Turn.owner =
      (List.range' first jobs.length).map (Owner.member group) := by
  induction jobs generalizing first with
  | nil => rfl
  | cons job rest ih =>
    rw [memberTurns, List.map_cons, ih, List.length_cons, List.range'_succ, List.map_cons]
    rfl

omit [DecidableEq κ] in
theorem mem_memberTurns {group first : Nat} {jobs : List (Job σ κ ρ)} {turn : Turn σ κ ρ}
    (h : turn ∈ memberTurns group first jobs) :
    ∃ i m, jobs[i]? = some m ∧ turn = .run (.member group (first + i)) m := by
  induction jobs generalizing first with
  | nil => cases h
  | cons job rest ih =>
    rcases List.mem_cons.1 h with rfl | h
    · exact ⟨0, job, rfl, rfl⟩
    · obtain ⟨i, m, hm, rfl⟩ := ih h
      exact ⟨i + 1, m, hm, by rw [Nat.add_assoc, Nat.add_comm 1 i]⟩

/-- A settled flight makes due what waited for it, so everybody stays tended. -/
theorem owners_land (l : Loop σ κ ρ) (flight : κ) (result : ρ) (o : Owner) :
    o ∈ (l.land flight result).owners ↔ o ∈ l.owners := by
  simp only [mem_owners, land, List.mem_append, List.mem_map, List.mem_filter]
  constructor
  · rintro (⟨t, ht | ⟨w, ⟨hw, -⟩, rfl⟩, rfl⟩ | ⟨w, ⟨hw, -⟩, rfl⟩ | hg)
    · exact .inl ⟨t, ht, rfl⟩
    · exact .inr (.inl ⟨w, hw, rfl⟩)
    · exact .inr (.inl ⟨w, hw, rfl⟩)
    · exact .inr (.inr hg)
  · rintro (⟨t, ht, rfl⟩ | ⟨w, hw, rfl⟩ | hg)
    · exact .inl ⟨t, .inl ht, rfl⟩
    · by_cases hf : w.flight = flight
      · exact .inl ⟨_, .inr ⟨w, ⟨hw, by simpa using hf⟩, rfl⟩, rfl⟩
      · exact .inr (.inl ⟨w, ⟨hw, by simpa using hf⟩, rfl⟩)
    · exact .inr (.inr hg)

/-! ### A job in hand -/

section Tends

omit [DecidableEq κ]

variable {l l' : Loop σ κ ρ} {hand hand' : Option Owner} {asked : List Nat}

/-- Numbering looks at the groups and at who is tended. -/
theorem Numbered.of_tends (h : Numbered hand l) (hgroups : l'.groups = l.groups)
    (hnext : l'.nextGroup = l.nextGroup)
    (htends : ∀ id place, l'.Tends hand' (.member id place) → l.Tends hand (.member id place)) :
    Numbered hand' l' where
  distinct := by rw [hgroups]; exact h.distinct
  opened := by rw [hgroups, hnext]; exact h.opened
  nested := by rw [hgroups]; exact h.nested
  known := fun id place ht ↦ by rw [hnext]; exact h.known id place (htends id place ht)

/-- An owner who was tended is tended or has an answer. -/
theorem Accounted.of_tends (h : Accounted asked hand l) (hgroups : l'.groups = l.groups)
    (hanswers : ∀ a ∈ l.answers, a ∈ l'.answers)
    (hclient : ∀ n, l.Tends hand (.client n) →
      (∃ r, (n, r) ∈ l'.answers) ∨ l'.Tends hand' (.client n))
    (hmember : ∀ id place, l.Tends hand (.member id place) → l'.Tends hand' (.member id place)) :
    Accounted asked hand' l' where
  clients := fun n hn ↦ by
    rcases h.clients n hn with ⟨r, hr⟩ | ht
    · exact .inl ⟨r, hanswers _ hr⟩
    · exact hclient n ht
  places := by
    rw [hgroups]
    exact fun g hg place hplace ↦ hmember _ _ (h.places g hg place hplace)
  unfinished := by rw [hgroups]; exact h.unfinished

theorem tends_enqueue (turn : Turn σ κ ρ) (o : Owner) :
    (l.enqueue turn).Tends none o ↔ l.Tends (some turn.owner) o := by
  simp only [Tends, mem_owners, enqueue, List.mem_append, List.mem_singleton, or_and_right,
    exists_or, exists_eq_left, Option.some.injEq, reduceCtorEq, false_or]
  grind

theorem tends_await (w : Waiter σ κ ρ) (o : Owner) :
    ({ l with waiters := l.waiters ++ [w] }).Tends none o ↔ l.Tends (some w.owner) o := by
  simp only [Tends, mem_owners, List.mem_append, List.mem_singleton, or_and_right,
    exists_or, exists_eq_left, Option.some.injEq, reduceCtorEq, false_or]
  grind

end Tends

/-- A job that forks is tended by its group, and the members by what is due for them. -/
theorem tends_fork (l : Loop σ κ ρ) (owner : Owner) (job : Job σ κ ρ) (rest : List (Job σ κ ρ))
    (next : Except ρ (List ρ) → Job σ κ ρ) (o : Owner) :
    (perform owner (.fork (job :: rest) next) l).Tends none o ↔
      l.Tends (some owner) o ∨ ∃ i < (job :: rest).length, o = .member l.nextGroup i := by
  have hmembers : (∃ t ∈ memberTurns l.nextGroup 0 (job :: rest), t.owner = o) ↔
      ∃ i < (job :: rest).length, o = .member l.nextGroup i := by
    rw [← List.mem_map, map_owner_memberTurns]
    simp only [List.mem_map, List.mem_range'_1, Nat.zero_add, Nat.zero_le, true_and, eq_comm]
  rw [← hmembers]
  simp only [perform, Tends, mem_owners, List.mem_append, List.mem_cons, or_and_right, exists_or,
    exists_eq_left, Option.some.injEq, reduceCtorEq, false_or]
  grind

/-- Running a job that is in hand keeps the groups numbered. -/
theorem Numbered.perform (owner : Owner) (job : Job σ κ ρ) (l : Loop σ κ ρ)
    (h : Numbered (some owner) l) : Numbered none (perform owner job l) := by
  fun_induction Loop.perform owner job l with
  | case1 result l =>
    cases owner with
    | client n =>
      refine h.of_tends rfl rfl fun id place ht ↦ ?_
      exact .inr (ht.resolve_left (by simp))
    | member group place =>
      exact h.of_tends rfl rfl fun id i ht ↦ (tends_enqueue (.report group place result) _).1 ht
  | case2 next l ih => exact ih h
  | case3 f next l ih => exact ih ⟨h.distinct, h.opened, h.nested, h.known⟩
  | case4 next l =>
    exact h.of_tends rfl rfl fun id place ht ↦ (tends_enqueue (.run owner next) _).1 ht
  | case5 flight next l =>
    exact h.of_tends rfl rfl fun id place ht ↦ (tends_await ⟨flight, owner, next⟩ _).1 ht
  | case6 flight result next l ih =>
    refine ih (h.of_tends rfl rfl fun id place ht ↦ ?_)
    exact ht.imp_right (owners_land l flight result _).1
  | case7 next l ih => exact ih h
  | case8 job rest next l members =>
    have hknown (id place : Nat) (ht : l.Tends (some owner) (.member id place) ∨
        ∃ i < (job :: rest).length, Owner.member id place = .member l.nextGroup i) :
        id < l.nextGroup + 1 := by
      rcases ht with ht | ⟨i, -, hi⟩
      · exact Nat.lt_succ_of_lt (h.known id place ht)
      · cases hi
        exact Nat.lt_succ_self _
    refine ⟨?_, ?_, ?_, fun id place ht ↦ hknown id place ((tends_fork ..).1 ht)⟩
    · rw [List.map_cons, List.nodup_cons]
      refine ⟨fun hmem ↦ ?_, h.distinct⟩
      obtain ⟨g, hg, hid⟩ := List.mem_map.1 hmem
      exact absurd hid (Nat.ne_of_lt (h.opened g hg))
    · intro g hg
      rcases List.mem_cons.1 hg with rfl | hg
      · exact Nat.lt_succ_self _
      · exact Nat.lt_succ_of_lt (h.opened g hg)
    · intro g hg id place howner
      rcases List.mem_cons.1 hg with rfl | hg
      · exact h.known id place (.inl (congrArg some howner))
      · exact h.nested g hg id place howner

/-- Running a job that is in hand forgets nobody. -/
theorem Accounted.perform {asked : List Nat} (owner : Owner) (job : Job σ κ ρ) (l : Loop σ κ ρ)
    (h : Accounted asked (some owner) l) : Accounted asked none (perform owner job l) := by
  fun_induction Loop.perform owner job l with
  | case1 result l =>
    cases owner with
    | client n =>
      refine h.of_tends rfl (fun a ha ↦ List.mem_cons_of_mem _ ha) (fun m hm ↦ ?_) ?_
      · rcases hm with hm | hm
        · cases hm
          exact .inl ⟨result, List.mem_cons_self⟩
        · exact .inr (.inr hm)
      · rintro id place (hm | hm)
        · cases hm
        · exact .inr hm
    | member group place =>
      exact h.of_tends rfl (fun a ha ↦ ha)
        (fun n ht ↦ .inr ((tends_enqueue (.report group place result) _).2 ht))
        (fun id i ht ↦ (tends_enqueue (.report group place result) _).2 ht)
  | case2 next l ih => exact ih h
  | case3 f next l ih => exact ih ⟨h.clients, h.places, h.unfinished⟩
  | case4 next l =>
    exact h.of_tends rfl (fun a ha ↦ ha)
      (fun n ht ↦ .inr ((tends_enqueue (.run owner next) _).2 ht))
      (fun id i ht ↦ (tends_enqueue (.run owner next) _).2 ht)
  | case5 flight next l =>
    exact h.of_tends rfl (fun a ha ↦ ha)
      (fun n ht ↦ .inr ((tends_await ⟨flight, owner, next⟩ _).2 ht))
      (fun id i ht ↦ (tends_await ⟨flight, owner, next⟩ _).2 ht)
  | case6 flight result next l ih =>
    exact ih (h.of_tends rfl (fun a ha ↦ ha)
      (fun n ht ↦ .inr (ht.imp_right (owners_land l flight result _).2))
      (fun id i ht ↦ ht.imp_right (owners_land l flight result _).2))
  | case7 next l ih => exact ih h
  | case8 job rest next l members =>
    have htends (o : Owner) (ht : l.Tends (some owner) o) := (tends_fork l owner job rest next o).2
      (.inl ht)
    refine ⟨fun n hn ↦ (h.clients n hn).imp_right (htends _), fun g hg place hplace ↦ ?_,
      fun g hg ↦ ?_⟩
    · rcases List.mem_cons.1 hg with rfl | hg
      · refine (tends_fork l owner job rest next _).2 (.inr ⟨place, ?_, rfl⟩)
        have := (List.getElem?_eq_some_iff.1 hplace).1
        simpa [members] using this
      · exact htends _ (h.places g hg place hplace)
    · rcases List.mem_cons.1 hg with rfl | hg
      · exact ⟨0, rfl⟩
      · exact h.unfinished g hg

/-! ### Reports -/

section Groups

omit [DecidableEq κ]

variable {l : Loop σ κ ρ} {hand : Option Owner} {g : Group σ κ ρ}

/-- The loop without the groups of a number. -/
def dropping (l : Loop σ κ ρ) (g : Group σ κ ρ) : Loop σ κ ρ :=
  { l with groups := l.groups.filter fun g' => g'.id ≠ g.id }

/-- The loop after a group has been closed with a reply. -/
def closing (l : Loop σ κ ρ) (g : Group σ κ ρ) (reply : Except ρ (List ρ)) : Loop σ κ ρ :=
  (l.dropping g).enqueue (.run g.owner (g.next reply))

/-- The loop with the results of a group replaced. -/
def filling (l : Loop σ κ ρ) (g : Group σ κ ρ) (results : List (Option ρ)) : Loop σ κ ρ :=
  { l with groups := { g with results } :: l.groups.filter fun g' => g'.id ≠ g.id }

/-- What a report does: nobody waits for it, its group closes, or its group goes on waiting. -/
inductive Heard (fails : ρ → Bool) (l : Loop σ κ ρ) (place : Nat) (result : ρ) :
    Nat → Loop σ κ ρ → Prop where
  | unknown (group : Nat) (h : ∀ g ∈ l.groups, g.id ≠ group) : Heard fails l place result group l
  | failure (g : Group σ κ ρ) (hg : g ∈ l.groups) (h : fails result = true) :
    Heard fails l place result g.id (l.closing g (.error result))
  | complete (g : Group σ κ ρ) (hg : g ∈ l.groups) (h : fails result = false) (all : List ρ)
    (hall : g.results.set place (some result) = all.map some) :
    Heard fails l place result g.id (l.closing g (.ok all))
  | waiting (g : Group σ κ ρ) (hg : g ∈ l.groups) (h : fails result = false) (i : Nat)
    (hopen : (g.results.set place (some result))[i]? = some none) :
    Heard fails l place result g.id (l.filling g (g.results.set place (some result)))

theorem Numbered.eq_of_id (h : Numbered hand l) (hg : g ∈ l.groups) {g' : Group σ κ ρ}
    (hg' : g' ∈ l.groups) (hid : g'.id = g.id) : g' = g :=
  List.inj_on_of_nodup_map h.distinct hg' hg hid

/-- A group that is closed leaves its owner with a job that is due. -/
theorem Numbered.tends_closing (h : Numbered hand l) (hg : g ∈ l.groups)
    (reply : Except ρ (List ρ)) (o : Owner) : (l.closing g reply).Tends none o ↔ l.Tends none o := by
  rw [closing, tends_enqueue]
  simp only [dropping, Tends, mem_owners, Turn.owner, List.mem_filter, decide_eq_true_eq,
    Option.some.injEq, reduceCtorEq, false_or]
  constructor
  · rintro (ho | ht | hw | ⟨g', ⟨hg', -⟩, ho⟩)
    · exact .inr (.inr ⟨g, hg, ho⟩)
    · exact .inl ht
    · exact .inr (.inl hw)
    · exact .inr (.inr ⟨g', hg', ho⟩)
  · rintro (ht | hw | ⟨g', hg', ho⟩)
    · exact .inr (.inl ht)
    · exact .inr (.inr (.inl hw))
    · by_cases hid : g'.id = g.id
      · rw [h.eq_of_id hg hg' hid] at ho
        exact .inl ho
      · exact .inr (.inr (.inr ⟨g', ⟨hg', hid⟩, ho⟩))

/-- A group with one more result is tended like before. -/
theorem Numbered.tends_filling (h : Numbered hand l) (hg : g ∈ l.groups)
    (results : List (Option ρ)) (o : Owner) :
    (l.filling g results).Tends none o ↔ l.Tends none o := by
  simp only [filling, Tends, mem_owners, List.mem_cons, List.mem_filter, decide_eq_true_eq,
    reduceCtorEq, false_or, exists_eq_or_imp]
  constructor
  · rintro (ht | hw | ho | ⟨g', ⟨hg', -⟩, ho⟩)
    · exact .inl ht
    · exact .inr (.inl hw)
    · exact .inr (.inr ⟨g, hg, ho⟩)
    · exact .inr (.inr ⟨g', hg', ho⟩)
  · rintro (ht | hw | ⟨g', hg', ho⟩)
    · exact .inl ht
    · exact .inr (.inl hw)
    · by_cases hid : g'.id = g.id
      · rw [h.eq_of_id hg hg' hid] at ho
        exact .inr (.inr (.inl ho))
      · exact .inr (.inr (.inr ⟨g', ⟨hg', hid⟩, ho⟩))

/-- The results of a group are not all there as long as a place is open. -/
theorem allResults?_eq_none_iff (results : List (Option ρ)) :
    allResults? results = none ↔ ∃ place : Nat, results[place]? = some none := by
  induction results with
  | nil => simp [allResults?]
  | cons r rest ih =>
    cases r with
    | none => exact ⟨fun _ ↦ ⟨0, rfl⟩, fun _ ↦ rfl⟩
    | some r =>
      rw [allResults?, Option.map_eq_none_iff, ih]
      constructor
      · rintro ⟨place, h⟩
        exact ⟨place + 1, h⟩
      · rintro ⟨place, h⟩
        cases place with
        | zero => cases h
        | succ place => exact ⟨place, h⟩

/-- The results of a group that are all there are those of its places. -/
theorem allResults?_eq_some_iff (results : List (Option ρ)) (all : List ρ) :
    allResults? results = some all ↔ results = all.map some := by
  induction results generalizing all with
  | nil => cases all <;> simp [allResults?]
  | cons r rest ih =>
    cases r with
    | none => cases all <;> simp [allResults?]
    | some r =>
      rw [allResults?, Option.map_eq_some_iff]
      cases all with
      | nil => simp
      | cons a all => simp [ih, and_comm]

/-- A group that is opened has no results. -/
theorem getElem?_noResults (jobs : List (Job σ κ ρ)) (i : Nat) (r : ρ) :
    (jobs.map fun _ => (none : Option ρ))[i]? ≠ some (some r) := by
  intro h
  obtain ⟨_, -, hnone⟩ := Option.map_eq_some_iff.1 (List.getElem?_map.symm.trans h)
  cases hnone

section

variable {results : List (Option ρ)} {P : Nat → ρ → Prop} {place : Nat} {r : ρ}

/-- What is so of the results of a group stays so with one more result of which it is so. -/
theorem forall_set_results (h : ∀ i r', results[i]? = some (some r') → P i r') (hr : P place r) :
    ∀ i r', (results.set place (some r))[i]? = some (some r') → P i r' := by
  intro i r' hi
  rw [List.getElem?_set] at hi
  by_cases hplace : place = i
  · rw [if_pos hplace] at hi
    split at hi
    · obtain rfl : r = r' := by simpa using hi
      exact hplace ▸ hr
    · cases hi
  · rw [if_neg hplace] at hi
    exact h i r' hi

/-- What is so of the results of a group and of the last one is so of all of them. -/
theorem forall_all_results {all : List ρ} (hall : results.set place (some r) = all.map some)
    (h : ∀ i r', results[i]? = some (some r') → P i r') (hr : P place r) :
    all.length = results.length ∧ ∀ i r', all[i]? = some r' → P i r' := by
  refine ⟨by simpa using (congrArg List.length hall).symm, fun i r' hi ↦ ?_⟩
  refine forall_set_results h hr i r' ?_
  rw [hall, List.getElem?_map, hi]
  rfl

end

theorem heard_hear (fails : ρ → Bool) (l : Loop σ κ ρ) (group place : Nat) (result : ρ) :
    Heard fails l place result group (l.hear fails group place result) := by
  unfold hear
  cases hfind : l.groups.find? fun g => g.id = group with
  | none =>
    refine .unknown group fun g hg hid ↦ ?_
    simpa [hid] using List.find?_eq_none.1 hfind g hg
  | some g =>
    have hg := List.mem_of_find?_eq_some hfind
    obtain rfl : g.id = group := by simpa using List.find?_some hfind
    cases hfails : fails result with
    | true =>
      simp only [if_true]
      exact .failure g hg hfails
    | false =>
      cases hall : allResults? (g.results.set place (some result)) with
      | some all =>
        have := (allResults?_eq_some_iff _ _).1 hall
        simp only [hall, Bool.false_eq_true, if_false]
        exact .complete g hg hfails all this
      | none =>
        obtain ⟨i, hi⟩ := (allResults?_eq_none_iff _).1 hall
        simp only [hall, Bool.false_eq_true, if_false]
        exact .waiting g hg hfails i hi

end Groups

/-! ### One move and many -/

section Moves

variable {fails : ρ → Bool} {l : Loop σ κ ρ}

omit [DecidableEq κ] in
theorem Numbered.closing {hand : Option Owner} (h : Numbered hand l) {g : Group σ κ ρ}
    (hg : g ∈ l.groups) (reply : Except ρ (List ρ)) : Numbered none (l.closing g reply) where
  distinct := h.distinct.sublist (List.filter_sublist.map _)
  opened := fun g' hg' ↦ h.opened g' (List.mem_of_mem_filter hg')
  nested := fun g' hg' ↦ h.nested g' (List.mem_of_mem_filter hg')
  known := fun id place ht ↦
    h.known id place (.inr (((h.tends_closing hg reply _).1 ht).resolve_left (by simp)))

omit [DecidableEq κ] in
theorem Numbered.filling {hand : Option Owner} (h : Numbered hand l) {g : Group σ κ ρ}
    (hg : g ∈ l.groups) (results : List (Option ρ)) : Numbered none (l.filling g results) where
  distinct := by
    refine List.nodup_cons.2 ⟨fun hmem ↦ ?_, h.distinct.sublist (List.filter_sublist.map _)⟩
    obtain ⟨g', hg', hid⟩ := List.mem_map.1 hmem
    simp [hid] at hg'
  opened := by
    intro g' hg'
    rcases List.mem_cons.1 hg' with rfl | hg'
    · exact h.opened g hg
    · exact h.opened g' (List.mem_of_mem_filter hg')
  nested := by
    intro g' hg'
    rcases List.mem_cons.1 hg' with rfl | hg'
    · exact h.nested g hg
    · exact h.nested g' (List.mem_of_mem_filter hg')
  known := fun id place ht ↦
    h.known id place (.inr (((h.tends_filling hg results _).1 ht).resolve_left (by simp)))

omit [DecidableEq κ] in
theorem Numbered.hear {group place : Nat} (result : ρ)
    (h : Numbered (some (.member group place)) l) :
    Numbered none (l.hear fails group place result) := by
  have heard := heard_hear fails l group place result
  generalize l.hear fails group place result = l' at heard
  cases heard with
  | unknown => exact h.of_tends rfl rfl fun id i ht ↦ .inr (ht.resolve_left (by simp))
  | failure g hg => exact h.closing hg _
  | complete g hg => exact h.closing hg _
  | waiting g hg => exact h.filling hg _

omit [DecidableEq κ] in
theorem Accounted.hear {asked : List Nat} {group place : Nat} (result : ρ)
    (hn : Numbered (some (.member group place)) l)
    (h : Accounted asked (some (.member group place)) l) :
    Accounted asked none (l.hear fails group place result) := by
  have hclient (n : Nat) (hm : n ∈ asked) :
      (∃ r, (n, r) ∈ l.answers) ∨ l.Tends none (.client n) := by
    refine (h.clients n hm).imp_right fun ht ↦ .inr (ht.resolve_left (by simp))
  have hplaces (g : Group σ κ ρ) (hg : g ∈ l.groups) (i : Nat) (hi : g.results[i]? = some none)
      (hne : ¬(g.id = group ∧ i = place)) : l.Tends none (.member g.id i) := by
    refine .inr ((h.places g hg i hi).resolve_left fun he ↦ hne ?_)
    cases he
    exact ⟨rfl, rfl⟩
  have heard := heard_hear fails l group place result
  generalize l.hear fails group place result = l' at heard
  have hclosing (g : Group σ κ ρ) (hg : g ∈ l.groups) (hid : g.id = group)
      (reply : Except ρ (List ρ)) : Accounted asked none (l.closing g reply) := by
    have hmem {g' : Group σ κ ρ} (hg' : g' ∈ (l.closing g reply).groups) :
        g' ∈ l.groups ∧ g'.id ≠ g.id := by simpa using List.mem_filter.1 hg'
    refine ⟨fun n hm ↦ ?_, fun g' hg' i hi ↦ ?_, fun g' hg' ↦ h.unfinished g' (hmem hg').1⟩
    · exact (hclient n hm).imp_right (hn.tends_closing hg reply _).2
    · refine (hn.tends_closing hg reply _).2 (hplaces g' (hmem hg').1 i hi fun he ↦ ?_)
      exact (hmem hg').2 (he.1.trans hid.symm)
  cases heard with
  | unknown _ hnone =>
    exact ⟨hclient, fun g hg i hi ↦ hplaces g hg i hi fun he ↦ hnone g hg he.1, h.unfinished⟩
  | failure g hg => exact hclosing g hg rfl _
  | complete g hg => exact hclosing g hg rfl _
  | waiting g hg _ i hopen =>
    refine ⟨fun n hm ↦ ?_, fun g' hg' j hj ↦ ?_, fun g' hg' ↦ ?_⟩
    · exact (hclient n hm).imp_right (hn.tends_filling hg _ _).2
    · refine (hn.tends_filling hg _ _).2 ?_
      rcases List.mem_cons.1 hg' with rfl | hg'
      · rw [List.getElem?_set] at hj
        by_cases hplace : place = j
        · rw [if_pos hplace] at hj
          split at hj <;> cases hj
        · rw [if_neg hplace] at hj
          exact hplaces g hg j hj fun he ↦ hplace he.2.symm
      · obtain ⟨hg', hid⟩ : g' ∈ l.groups ∧ g'.id ≠ g.id := by simpa using List.mem_filter.1 hg'
        exact hplaces g' hg' j hj fun he ↦ hid he.1
    · rcases List.mem_cons.1 hg' with rfl | hg'
      · exact ⟨i, hopen⟩
      · exact h.unfinished g' (List.mem_of_mem_filter hg')

/-- A turn is given to something that has been taken out of the queue, unless nothing is there. -/
theorem turnAt_cases (fails : ρ → Bool) (l : Loop σ κ ρ) (place : Nat) :
    l.turnAt fails place = l ∨ ∃ turn queue, l.queue.Perm (turn :: queue) ∧
      l.turnAt fails place = { l with queue }.give fails turn := by
  unfold turnAt
  cases hturn : l.queue[place]? with
  | none => exact .inl rfl
  | some turn =>
    obtain ⟨hlt, rfl⟩ := List.getElem?_eq_some_iff.1 hturn
    exact .inr ⟨_, _, (List.getElem_cons_eraseIdx_perm hlt).symm, rfl⟩

omit [DecidableEq κ] in
theorem tends_takeOut {queue : List (Turn σ κ ρ)} {turn : Turn σ κ ρ}
    (h : l.queue.Perm (turn :: queue)) (o : Owner) :
    ({ l with queue }).Tends (some turn.owner) o ↔ l.Tends none o := by
  simp only [Tends, mem_owners, h.mem_iff, List.mem_cons, or_and_right, exists_or, exists_eq_left,
    Option.some.injEq, reduceCtorEq, false_or, or_assoc]

theorem Numbered.give {turn : Turn σ κ ρ} (h : Numbered (some turn.owner) l) :
    Numbered none (l.give fails turn) := by
  cases turn with
  | run owner job => exact h.perform owner job l
  | arrive owner job =>
    exact h.of_tends rfl rfl fun id i ht ↦ (tends_enqueue (.run owner job) _).1 ht
  | report group place result => exact h.hear result

theorem Accounted.give {asked : List Nat} {turn : Turn σ κ ρ}
    (hn : Numbered (some turn.owner) l) (h : Accounted asked (some turn.owner) l) :
    Accounted asked none (l.give fails turn) := by
  cases turn with
  | run owner job => exact h.perform owner job l
  | arrive owner job =>
    exact h.of_tends rfl (fun a ha ↦ ha)
      (fun n ht ↦ .inr ((tends_enqueue (.run owner job) _).2 ht))
      (fun id i ht ↦ (tends_enqueue (.run owner job) _).2 ht)
  | report group place result => exact h.hear result hn

/-- The clients who ask in a schedule. -/
def askers (moves : List (Move σ κ ρ)) : List Nat := moves.filterMap Move.client?

/-- A move keeps the groups numbered. -/
theorem Numbered.move (fails : ρ → Bool) (h : Numbered none l) (m : Move σ κ ρ) :
    Numbered none (l.move fails m) := by
  cases m with
  | ask client job =>
    refine (h.of_tends rfl rfl fun id place ht ↦ ?_ : Numbered (some (.client client)) l).perform ..
    exact .inr (ht.resolve_left (by simp))
  | turn place =>
    rcases turnAt_cases fails l place with heq | ⟨turn, queue, hqueue, heq⟩
    · rw [Loop.move, heq]
      exact h
    · rw [Loop.move, heq]
      exact .give (h.of_tends rfl rfl fun id i ht ↦ (tends_takeOut hqueue _).1 ht)

/-- A move forgets nobody. -/
theorem Accounted.move (fails : ρ → Bool) {asked : List Nat} (hn : Numbered none l)
    (h : Accounted asked none l) (m : Move σ κ ρ) :
    Accounted (asked ++ m.client?.toList) none (l.move fails m) := by
  cases m with
  | ask client job =>
    refine Accounted.perform (.client client) job l ⟨fun n hm ↦ ?_, ?_, h.unfinished⟩
    · rcases List.mem_append.1 hm with hm | hm
      · exact (h.clients n hm).imp_right fun ht ↦ .inr (ht.resolve_left (by simp))
      · obtain rfl : n = client := by simpa [Move.client?] using hm
        exact .inr (.inl rfl)
    · exact fun g hg i hi ↦ .inr ((h.places g hg i hi).resolve_left (by simp))
  | turn place =>
    rw [Move.client?, Option.toList_none, List.append_nil]
    rcases turnAt_cases fails l place with heq | ⟨turn, queue, hqueue, heq⟩
    · rw [Loop.move, heq]
      exact h
    · rw [Loop.move, heq]
      refine .give (hn.of_tends rfl rfl fun id i ht ↦ (tends_takeOut hqueue _).1 ht) ?_
      exact h.of_tends rfl (fun a ha ↦ ha) (fun n ht ↦ .inr ((tends_takeOut hqueue _).2 ht))
        (fun id i ht ↦ (tends_takeOut hqueue _).2 ht)

/-- A schedule keeps the groups numbered and forgets nobody. -/
theorem Accounted.play (fails : ρ → Bool) {asked : List Nat} (hn : Numbered none l)
    (h : Accounted asked none l) (moves : List (Move σ κ ρ)) :
    Numbered none (l.play fails moves) ∧
      Accounted (asked ++ askers moves) none (l.play fails moves) := by
  induction moves generalizing l asked with
  | nil => exact ⟨hn, by rwa [askers, List.filterMap_nil, List.append_nil]⟩
  | cons m moves ih =>
    have hrest := ih (hn.move fails m) (h.move fails hn m)
    have haskers : askers (m :: moves) = m.client?.toList ++ askers moves := by
      rw [askers, List.filterMap_cons]
      cases m.client? <;> rfl
    rwa [haskers, ← List.append_assoc]

omit [DecidableEq κ] in
/-- When nothing is due and nobody waits for a flight, no group is open and all have answers. -/
theorem Accounted.settled {asked : List Nat} (hn : Numbered none l) (h : Accounted asked none l)
    (hrest : l.AtRest) (hwaiters : l.waiters = []) :
    l.groups = [] ∧ ∀ n ∈ asked, ∃ r, (n, r) ∈ l.answers := by
  have htends (o : Owner) (ht : l.Tends none o) : ∃ g ∈ l.groups, g.owner = o := by
    have := ht.resolve_left (by simp)
    rw [mem_owners, hrest, hwaiters] at this
    simpa using this
  -- an open place of the newest group would be tended by a newer one
  have hnone (bound : Nat) : ∀ g ∈ l.groups, l.nextGroup ≤ g.id + bound → False := by
    induction bound with
    | zero => exact fun g hg hle ↦ absurd (hn.opened g hg) (by omega)
    | succ bound ih =>
      intro g hg hle
      obtain ⟨place, hplace⟩ := h.unfinished g hg
      obtain ⟨g', hg', howner⟩ := htends _ (h.places g hg place hplace)
      have := hn.nested g' hg' _ _ howner
      exact ih g' hg' (by omega)
  have hgroups : l.groups = [] :=
    List.eq_nil_iff_forall_not_mem.2 fun g hg ↦ hnone l.nextGroup g hg (by omega)
  refine ⟨hgroups, fun n hm ↦ (h.clients n hm).resolve_right fun ht ↦ ?_⟩
  obtain ⟨g, hg, -⟩ := htends _ ht
  rw [hgroups] at hg
  cases hg

end Moves

end Loop

end OutlineSearch.Task
