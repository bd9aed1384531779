import OutlineSearch.Proofs.Corpus.Passages

/-!
# Aboard a flight

A reader is aboard a flight from when he begins it or joins it until it lands. Until then nothing that
happens takes him off; when it lands he hears what it has brought, and goes on with that reply and no
other one.
-/

namespace OutlineSearch

open OutlineSearch.Task OutlineSearch.Engine

/-! ### What a job in hand leaves alone -/

namespace Task.Loop

variable {σ κ ρ : Type} [DecidableEq κ] {l : Loop σ κ ρ}

/-- A job in hand takes nothing out of the queue. -/
theorem mem_queue_perform (owner : Owner) (job : Job σ κ ρ) {t : Turn σ κ ρ} (h : t ∈ l.queue) :
    t ∈ (perform owner job l).queue := by
  fun_induction perform owner job l with
  | case1 r l =>
    cases owner with
    | client n => exact h
    | member group place => exact List.mem_append_left _ h
  | case2 next l ih => exact ih h
  | case3 f next l ih => exact ih h
  | case4 next l => exact List.mem_append_left _ h
  | case5 flight next l => exact h
  | case6 flight r next l ih => exact ih (List.mem_append_left _ h)
  | case7 next l ih => exact ih h
  | case8 job rest next l members => exact List.mem_append_left _ h

/-- A job in hand takes back no answer. -/
theorem mem_answers_perform (owner : Owner) (job : Job σ κ ρ) {a : Nat × ρ} (h : a ∈ l.answers) :
    a ∈ (perform owner job l).answers := by
  fun_induction perform owner job l with
  | case1 r l =>
    cases owner with
    | client n => exact List.mem_cons_of_mem _ h
    | member group place => exact h
  | case2 next l ih => exact ih h
  | case3 f next l ih => exact ih h
  | case4 next l => exact h
  | case5 flight next l => exact h
  | case6 flight r next l ih => exact ih h
  | case7 next l ih => exact ih h
  | case8 job rest next l members => exact h

theorem trail_append (fails : ρ → Bool) (l : Loop σ κ ρ) (ms ms' : List (Move σ κ ρ)) :
    l.trail fails (ms ++ ms') = l.trail fails ms ++ (l.play fails ms).trail fails ms' := by
  induction ms generalizing l with
  | nil => rfl
  | cons m ms ih => rw [List.cons_append, trail_cons, trail_cons, play_cons, ih, List.append_assoc]

/-- A move claims no more for a client than he asks for in it. -/
theorem claims_move (fails : ρ → Bool) (l : Loop σ κ ρ) (n : Nat) (m : Move σ κ ρ) :
    (l.move fails m).claims n none ≤ l.claims n none + m.client?.toList.count n := by
  cases m with
  | ask client job =>
    have hclient : (Owner.client client == Owner.client n) = (client == n) := by
      by_cases h : client = n <;> simp [h]
    rw [move, claims_perform, claims_some]
    simp only [Move.client?, Option.toList_some, List.count_cons, List.count_nil, hclient]
    omega
  | turn place =>
    rw [move]
    rcases turnAt_cases fails l place with heq | ⟨turn, queue, hqueue, heq⟩
    · rw [heq]
      exact Nat.le_add_right _ _
    · rw [heq, ← claims_takeOut hqueue]
      refine Nat.le_trans ?_ (Nat.le_add_right _ _)
      cases turn with
      | run owner job => exact Nat.le_of_eq (claims_perform owner job _)
      | arrive owner job => exact Nat.le_of_eq (claims_enqueue (.run owner job))
      | report group i r =>
        refine Nat.le_trans (claims_hear fails group i r) ?_
        rw [claims_some]
        exact Nat.le_add_left _ _

end Task.Loop

/-- A job in hand lands no flight of a key. -/
def Task.Job.Spares (key : String) : EngineJob → World → Prop
  | .finish _, _ => True
  | .pause _, _ => True
  | .await _ _, _ => True
  | .look next, w => (next w).Spares key w
  | .change f next, w => key ∈ (f w).flights ∧ next.Spares key (f w)
  | .settle flight _ next, w => flight ≠ key ∧ next.Spares key w
  | .fork [] next, w => (next (.ok [])).Spares key w
  | .fork (_ :: _) _, _ => True

namespace Task.Job.Spares

variable {key : String} {job : EngineJob} {w : World} {l : Session}

theorem states (h : job.Spares key w) : ∀ v ∈ job.states w, key ∈ v.flights := by
  fun_induction Job.states job w with
  | case1 | case4 | case5 | case8 => exact List.forall_mem_nil _
  | case2 next w ih => exact ih h
  | case3 f next w ih => exact List.forall_mem_cons.2 ⟨h.1, ih h.2⟩
  | case6 flight reply next w ih => exact ih h.2
  | case7 next w ih => exact ih h

/-- Who waits for the flight goes on waiting. -/
theorem mem_waiters (owner : Owner) (h : job.Spares key l.state)
    {waiter : Waiter World String (Outcome Reply)} (hwaiter : waiter ∈ l.waiters)
    (hkey : waiter.flight = key) : waiter ∈ (Loop.perform owner job l).waiters := by
  fun_induction Loop.perform owner job l with
  | case1 reply l => cases owner <;> exact hwaiter
  | case2 next l ih => exact ih h hwaiter
  | case3 f next l ih => exact ih h.2 hwaiter
  | case4 next l => exact hwaiter
  | case5 flight next l => exact List.mem_append_left _ hwaiter
  | case6 flight reply next l ih =>
    refine ih h.2 (List.mem_filter.2 ⟨hwaiter, ?_⟩)
    rw [hkey]
    exact decide_eq_true h.1.symm
  | case7 next l ih => exact ih h hwaiter
  | case8 job rest next l members => exact hwaiter

end Task.Job.Spares

namespace Read

variable {key : String} {w : World}

theorem spares_next (rd : Read) (reply : Outcome Reply) (h : key ∈ w.flights) :
    (rd.next reply).Spares key w := by
  cases rd with
  | pages => trivial
  | blocks page => trivial
  | templates =>
    rw [next]
    cases Corpus.toPages reply with
    | error fault => trivial
    | ok items => exact ⟨h, trivial⟩

/-- A call lands its own flight only. -/
theorem spares_fly (rd : Read) (turns : Nat) (h : key ∈ w.flights) (hne : Corpus.keyOf rd.query ≠ key) :
    (Job.pauses (Corpus.land rd.query rd.next) turns).Spares key w := by
  cases turns with
  | succ turns => trivial
  | zero =>
    have hlanded : key ∈ (Corpus.landed rd.query w).flights :=
      Corpus.mem_flights_landed.2 ⟨h, hne.symm⟩
    refine ⟨?_, hlanded, hne, rd.spares_next _ hlanded⟩
    change key ∈ (Corpus.receive rd.query w).2.flights
    rwa [Lore.flights_receive]

/-- A read that finds a flight under way begins another one only. -/
theorem spares_fetching (rd : Read) (h : key ∈ w.flights) : rd.fetching.Spares key w := by
  have hcached : key ∈ (Corpus.cached rd.query w).2.flights := by rwa [Lore.flights_cached]
  refine ⟨hcached, ?_⟩
  cases (Corpus.cached rd.query w).1 with
  | some found => exact rd.spares_next _ hcached
  | none =>
    generalize (Corpus.cached rd.query w).2 = w' at hcached
    change Job.Spares key (if w'.isInFlight (Corpus.keyOf rd.query) then _ else _) w'
    split
    · trivial
    · next hout =>
      have hbegun : key ∈ ((w'.takeOff (Corpus.keyOf rd.query)).start rd.query).flights :=
        List.mem_cons_of_mem _ hcached
      refine ⟨hbegun, rd.spares_fly _ hbegun ?_⟩
      rintro rfl
      exact hout (Corpus.isInFlight_iff.2 hcached)

theorem spares_job (rd : Read) (h : key ∈ w.flights) :
    (rd.operation.job .finish).Spares key w := by
  cases rd with
  | pages => exact Read.pages.spares_fetching h
  | blocks page => exact (Read.blocks page).spares_fetching h
  | templates =>
    rw [job_templates]
    refine ⟨h, ?_⟩
    cases (w.cachedPages Cache.templatesKey).1 with
    | some items => trivial
    | none => exact Read.templates.spares_fetching (w := (w.cachedPages Cache.templatesKey).2) h

end Read

/-- Who asks for something lands no flight that is under way. -/
theorem Event.OfReading.spares {client : Nat} {operation : Operation} {key : String} {w : World}
    (he : Event.OfReading (.ask client operation)) (h : key ∈ w.flights) :
    (operation.job .finish).Spares key w := by
  cases he with
  | read client rd => exact rd.spares_job h
  | forget client kind identifier =>
    rw [Operation.job, forgetJob]
    cases Cache.Change.told kind identifier with
    | error fault => trivial
    | ok change => exact ⟨h, trivial⟩
  | edit client change =>
    refine ⟨?_, trivial⟩
    unfold editGraph
    cases change w.provider <;> exact h
  | advance client seconds => exact ⟨h, trivial⟩

/-! ### Calls that are the same -/

namespace Corpus

variable {q q' : Query} {next next' : Outcome Reply → EngineJob}

/-- How a call goes on tells its flight, and what it brings. -/
theorem land_inj (h : land q next = land q' next') (w : World) :
    keyOf q = keyOf q' ∧ (receive q w).1 = (receive q' w).1 := by
  have hchange := congrFun (Job.look.inj h) w
  have hdown := (Job.change.inj hchange).2
  have hsettle := (Job.change.inj hdown).2
  obtain ⟨hkey, hreply, -⟩ := Job.settle.inj hsettle
  exact ⟨hkey, hreply⟩

/-- A call that is under way tells the turns that it still takes. -/
theorem pauses_land_inj {n m : Nat} (h : Job.pauses (land q next) n = Job.pauses (land q' next') m) :
    n = m ∧ land q next = land q' next' := by
  induction n generalizing m with
  | zero =>
    cases m with
    | zero => exact ⟨rfl, h⟩
    | succ m => cases h
  | succ n ih =>
    cases m with
    | zero => cases h
    | succ m =>
      obtain ⟨rfl, hland⟩ := ih (Job.pause.inj h)
      exact ⟨rfl, hland⟩

end Corpus

/-! ### Who is aboard -/

namespace Reader

variable {r : Reader} {l : Session} {reply : Outcome Reply} {t : Turn World String (Outcome Reply)}
  {queue : List (Turn World String (Outcome Reply))}

/-- A reader waits for his flight, or the call is his. -/
def Aboard (r : Reader) (l : Session) : Prop :=
  r.waiter ∈ l.waiters ∨ ∃ turns, (Errand.fly r turns).turn ∈ l.queue

/-- A reader hears of a reply, goes on with it, or has been answered with it. -/
def Told (r : Reader) (reply : Outcome Reply) (l : Session) : Prop :=
  (Errand.hear r reply).turn ∈ l.queue ∨ (Errand.go r reply).turn ∈ l.queue ∨
    (r.client, r.read.outcome reply) ∈ l.answers

/-- A reader who goes on with a reply is answered with it. -/
theorem mem_answers_next (r : Reader) (reply : Outcome Reply) (l : Session) :
    (r.client, r.read.outcome reply) ∈
      (Loop.perform (.client r.client) (r.read.next reply) l).answers := by
  obtain ⟨client, rd⟩ := r
  cases rd with
  | pages => exact List.mem_cons_self
  | blocks page => exact List.mem_cons_self
  | templates =>
    rw [Read.next, Read.outcome]
    cases Corpus.toPages reply with
    | error fault => exact List.mem_cons_self
    | ok items => exact List.mem_cons_self

theorem Told.perform (h : r.Told reply l) (owner : Task.Owner) (job : EngineJob) :
    r.Told reply (Loop.perform owner job l) :=
  h.imp (Loop.mem_queue_perform owner job)
    (Or.imp (Loop.mem_queue_perform owner job) (Loop.mem_answers_perform owner job))

theorem Told.enqueue (h : r.Told reply l) : r.Told reply (l.enqueue t) :=
  h.imp (List.mem_append_left _) (Or.imp_left (List.mem_append_left _))

/-- Who is aboard stays aboard while a job in hand lands other flights only. -/
theorem Aboard.perform (h : r.Aboard l) (owner : Task.Owner) {job : EngineJob}
    (hjob : job.Spares r.flight l.state) : r.Aboard (Loop.perform owner job l) :=
  h.imp (fun hwaits ↦ hjob.mem_waiters owner hwaits rfl)
    fun ⟨turns, hflies⟩ ↦ ⟨turns, Loop.mem_queue_perform owner job hflies⟩

/-- Who is told stays told when something is taken out of the queue, unless it is what he is told. -/
theorem Told.takeOut (h : r.Told reply l) (hqueue : l.queue.Perm (t :: queue)) :
    r.Told reply { l with queue } ∨ t = (Errand.hear r reply).turn ∨ t = (Errand.go r reply).turn := by
  rcases h with hhears | hgoes | hanswer
  · rcases List.mem_cons.1 (hqueue.mem_iff.1 hhears) with heq | hmem
    · exact .inr (.inl heq.symm)
    · exact .inl (.inl hmem)
  · rcases List.mem_cons.1 (hqueue.mem_iff.1 hgoes) with heq | hmem
    · exact .inr (.inr heq.symm)
    · exact .inl (.inr (.inl hmem))
  · exact .inl (.inr (.inr hanswer))

/-- Who is aboard stays aboard when something is taken out of the queue, unless it is his call. -/
theorem Aboard.takeOut (h : r.Aboard l) (hqueue : l.queue.Perm (t :: queue)) :
    r.Aboard { l with queue } ∨ ∃ turns, t = (Errand.fly r turns).turn := by
  rcases h with hwaits | ⟨turns, hflies⟩
  · exact .inl (.inl hwaits)
  · rcases List.mem_cons.1 (hqueue.mem_iff.1 hflies) with heq | hmem
    · exact .inr ⟨turns, heq.symm⟩
    · exact .inl (.inr ⟨turns, hmem⟩)

theorem Aboard.enqueue (h : r.Aboard l) : r.Aboard (l.enqueue t) :=
  h.imp_right fun ⟨turns, hflies⟩ ↦ ⟨turns, List.mem_append_left _ hflies⟩

/-- Who waits for a flight hears of it when it lands. -/
theorem told_land (h : r.waiter ∈ l.waiters) (w : World) (reply : Outcome Reply) :
    r.Told reply (({ l with state := w } : Session).land r.flight reply) :=
  .inl (List.mem_append_right _ (List.mem_map.2
    ⟨r.waiter, List.mem_filter.2 ⟨h, decide_eq_true rfl⟩, rfl⟩))

end Reader

namespace Errand

variable {e : Errand} {r : Reader} {turns : Nat}

/-- A call is no turn of a reader who goes on with a reply. -/
theorem next_ne_pauses (rd : Read) (reply : Outcome Reply) (q : Query)
    (next : Outcome Reply → EngineJob) (turns : Nat) :
    rd.next reply ≠ Job.pauses (Corpus.land q next) turns := by
  intro h
  cases rd with
  | pages => cases turns <;> cases h
  | blocks page => cases turns <;> cases h
  | templates =>
    rw [Read.next] at h
    cases hlisting : Corpus.toPages reply <;> rw [hlisting] at h <;> cases turns <;> cases h

/-- What has the turn of a call is a call of the same reader for the same flight. -/
theorem eq_fly (h : e.turn = (fly r turns).turn) (w : World) :
    ∃ r', e = .fly r' turns ∧ r'.flight = r.flight ∧
      (Corpus.receive r'.read.query w).1 = (Corpus.receive r.read.query w).1 ∧
      ∀ turns, (fly r' turns).turn = (fly r turns).turn := by
  cases e with
  | hear r' reply => cases h
  | go r' reply =>
    obtain ⟨-, hjob⟩ := Turn.run.inj h
    exact absurd hjob (next_ne_pauses _ _ _ _ _)
  | fly r' turns' =>
    obtain ⟨hclient, hjob⟩ := Turn.run.inj h
    obtain ⟨rfl, hland⟩ := Corpus.pauses_land_inj hjob
    obtain ⟨hkey, hreply⟩ := Corpus.land_inj hland w
    refine ⟨r', rfl, hkey, hreply, fun turns ↦ ?_⟩
    rw [turn, turn, hclient, hland]

end Errand

namespace Focus

variable {F : Focus} {trail : List World} {errands : List Errand} {waiting : List Reader}
  {l : Session} {e : Event} {r r' : Reader} {key : String}

/-- A call that has its turn is the only one for its flight. -/
theorem Holds.not_fly (h : F.Holds trail (some (.fly r' 0)) errands waiting l)
    (hflight : r'.flight = r.flight) (turns : Nat) : (Errand.fly r turns).turn ∉ l.queue := by
  intro hmem
  obtain ⟨e, he, hturn⟩ := List.mem_map.1 (h.queue.mem_iff.1 hmem)
  obtain ⟨r'', rfl, hflight', -⟩ := Errand.eq_fly hturn l.state
  have hnodup : (r'.flight :: errands.filterMap Errand.flight?).Nodup := h.owed.nodup_iff.2 h.nodup
  refine (List.nodup_cons.1 hnodup).1 (List.mem_filterMap.2 ⟨_, he, ?_⟩)
  exact congrArg some (hflight'.trans hflight.symm)

/-- A call that lands tells all who are aboard what it has brought. -/
theorem Holds.told (h : F.Holds trail (some (.fly r' 0)) errands waiting l)
    (hflight : r'.flight = r.flight)
    (haboard : r.Aboard l ∨ ∃ turns, (Errand.fly r' 0).turn = (Errand.fly r turns).turn) :
    r.Told (Corpus.receive r'.read.query l.state).1 (l.give failed (Errand.fly r' 0).turn) := by
  rcases haboard with (hwaits | ⟨turns, hflies⟩) | ⟨turns, hturn⟩
  · have htold := r.told_land hwaits (Corpus.landed r'.read.query l.state)
      (Corpus.receive r'.read.query l.state).1
    rw [← hflight] at htold
    exact htold.perform (.client r'.client) _
  · exact absurd hflies (h.not_fly hflight turns)
  · obtain ⟨_, heq, -, hreply, -⟩ := Errand.eq_fly hturn l.state
    obtain ⟨rfl, rfl⟩ := Errand.fly.inj heq
    rw [hturn, hreply]
    exact .inr (.inr (r.mem_answers_next _ _))

/-- A turn lands the flight of a key, and all who are aboard are told what it has brought, or it lands
other flights only, and they stay aboard. -/
theorem Upholds.turn_flies_or_lands (h : F.Upholds trail l) (place : Nat)
    (hkey : key ∈ l.state.flights) {aboard : Reader → Prop}
    (haboard : ∀ r, aboard r → r.flight = key ∧ r.Aboard l) :
    ((∀ v ∈ l.moveStates (.turn place), key ∈ v.flights) ∧
        ∀ r, aboard r → r.Aboard (l.turnAt failed place)) ∨
      ∃ q, Corpus.keyOf q = key ∧
        (∃ back, l.moveStates (.turn place) =
          (Corpus.receive q l.state).2 :: Corpus.landed q l.state :: back) ∧
        ∀ r, aboard r → r.Told (Corpus.receive q l.state).1 (l.turnAt failed place) := by
  obtain ⟨errands, waiting, h⟩ := h
  rw [Loop.moveStates, Loop.turnAt]
  cases hturn : l.queue[place]? with
  | none => exact .inl ⟨List.forall_mem_nil _, fun r hr ↦ (haboard r hr).2⟩
  | some turn =>
    obtain ⟨hlt, rfl⟩ := List.getElem?_eq_some_iff.1 hturn
    have hqueue := (List.getElem_cons_eraseIdx_perm hlt).symm
    obtain ⟨e, rest, he, h⟩ := h.takeOut hqueue
    rw [← he] at hqueue
    have hstays (r : Reader) (hr : aboard r) := (haboard r hr).2.takeOut hqueue
    rw [Option.map_some, Option.getD_some, ← he]
    cases e with
    | hear r' reply =>
      refine .inl ⟨List.forall_mem_nil _, fun r hr ↦ ?_⟩
      rcases hstays r hr with hr | ⟨turns, heq⟩
      · exact hr.enqueue
      · cases heq
    | go r' reply =>
      have hspares := r'.read.spares_next reply hkey
      refine .inl ⟨hspares.states, fun r hr ↦ ?_⟩
      obtain ⟨rfl, -⟩ := haboard r hr
      rcases hstays r hr with hr | ⟨turns, heq⟩
      · exact hr.perform (.client r'.client) hspares
      · exact absurd (Turn.run.inj heq).2 (Errand.next_ne_pauses _ _ _ _ _)
    | fly r' turns =>
      cases turns with
      | succ turns =>
        refine .inl ⟨List.forall_mem_nil _, fun r hr ↦ ?_⟩
        rcases hstays r hr with hr | ⟨turns', heq⟩
        · exact hr.enqueue
        · obtain ⟨_, hfly, -, -, hturns⟩ := Errand.eq_fly heq l.state
          obtain ⟨rfl, rfl⟩ := Errand.fly.inj hfly
          refine .inr ⟨turns, List.mem_append_right _ (List.mem_singleton.2 ?_)⟩
          exact (hturns turns).symm
      | zero =>
        by_cases hflight : r'.flight = key
        · refine .inr ⟨r'.read.query, hflight, ⟨_, rfl⟩, fun r hr ↦ ?_⟩
          exact h.told (hflight.trans (haboard r hr).1.symm) (hstays r hr)
        · have hspares := r'.read.spares_fly 0 hkey hflight
          refine .inl ⟨hspares.states, fun r hr ↦ ?_⟩
          obtain ⟨rfl, -⟩ := haboard r hr
          rcases hstays r hr with hr | ⟨turns', heq⟩
          · exact hr.perform (.client r'.client) hspares
          · obtain ⟨_, hfly, hsame, -⟩ := Errand.eq_fly heq l.state
            obtain ⟨rfl, -⟩ := Errand.fly.inj hfly
            exact absurd hsame hflight

/-- Every event lands the flight of a key, and all who are aboard are told what it has brought, or it
lands other flights only, and they stay aboard. -/
theorem Upholds.flies_or_lands (h : F.Upholds trail l) (he : e.OfReading)
    (hkey : key ∈ l.state.flights) {aboard : Reader → Prop}
    (haboard : ∀ r, aboard r → r.flight = key ∧ r.Aboard l) :
    ((∀ v ∈ l.moveStates e.move, key ∈ v.flights) ∧
        ∀ r, aboard r → r.Aboard (l.move failed e.move)) ∨
      ∃ q, Corpus.keyOf q = key ∧
        (∃ back, l.moveStates e.move =
          (Corpus.receive q l.state).2 :: Corpus.landed q l.state :: back) ∧
        ∀ r, aboard r → r.Told (Corpus.receive q l.state).1 (l.move failed e.move) := by
  cases e with
  | turn place => exact h.turn_flies_or_lands place hkey haboard
  | ask client operation =>
    have hspares := he.spares hkey
    refine .inl ⟨hspares.states, fun r hr ↦ ?_⟩
    obtain ⟨rfl, hr⟩ := haboard r hr
    exact hr.perform (.client client) hspares

/-- Who is told stays told, whatever happens. -/
theorem Upholds.told_move (h : F.Upholds trail l) {reply : Outcome Reply} (hr : r.Told reply l)
    (e : Event) : r.Told reply (l.move failed e.move) := by
  cases e with
  | ask client operation => exact hr.perform (.client client) _
  | turn place =>
    obtain ⟨errands, waiting, h⟩ := h
    rw [Event.move, Loop.move, Loop.turnAt]
    cases hturn : l.queue[place]? with
    | none => exact hr
    | some turn =>
      obtain ⟨hlt, rfl⟩ := List.getElem?_eq_some_iff.1 hturn
      have hqueue := (List.getElem_cons_eraseIdx_perm hlt).symm
      obtain ⟨e, rest, he, h⟩ := h.takeOut hqueue
      rw [← he] at hqueue ⊢
      rcases hr.takeOut hqueue with hr | heq | heq
      · cases e with
        | hear r' reply' => exact hr.enqueue
        | go r' reply' => exact hr.perform (.client r'.client) _
        | fly r' turns => exact hr.perform (.client r'.client) _
      · rw [heq]
        exact .inr (.inl (List.mem_append_right _ List.mem_cons_self))
      · rw [heq]
        exact .inr (.inr (r.mem_answers_next reply _))

end Focus

/-! ### Along a run -/

/-- A call that is under way from the beginning of a row of states on lands in it. -/
def Query.LandsFirst (q : Query) (w : World) (states : List World) : Prop :=
  ∃ front back, states = front ++ w :: (Corpus.receive q w).2 :: Corpus.landed q w :: back ∧
    ∀ v ∈ front ++ [w], Corpus.keyOf q ∈ v.flights

theorem Query.LandsFirst.append {q : Query} {w : World} {states : List World}
    (h : q.LandsFirst w states) (more : List World) : q.LandsFirst w (states ++ more) := by
  obtain ⟨front, back, rfl, hflying⟩ := h
  exact ⟨front, back ++ more, by simp, hflying⟩

section

variable {w : World} {past rest events : List Event} {key : String} {r : Reader} {l : Session}
  {reply answer : Outcome Reply}

theorem World.after_concat (w : World) (past : List Event) (e : Event) :
    w.after (past ++ [e]) = (w.after past).move failed e.move := by
  rw [after_append]
  rfl

theorem World.trailAfter_concat (w : World) (past rest : List Event) (e : Event) :
    w.trailAfter past (rest ++ [e]) =
      w.trailAfter past rest ++ (w.after (past ++ rest)).moveStates e.move := by
  rw [trailAfter, List.map_append, Loop.trail_append, List.map_singleton, Loop.trail_cons,
    Loop.trail_nil, List.append_nil, World.after_append]
  rfl

theorem World.getLast_trailAfter (w : World) (past rest : List Event) :
    (w.trailAfter past rest).getLast? = some (w.after (past ++ rest)).state := by
  rw [World.after_append]
  exact Loop.getLast_trail failed (w.after past) (rest.map Event.move)

/-- A flight that is under way stays under way with all who are aboard, or the first landing of it
tells them what it has brought. -/
theorem aboard_or_told (hflights : w.flights = []) (hevents : ∀ e ∈ past ++ rest, e.OfReading)
    (hkey : key ∈ (w.after past).state.flights) :
    ((∀ v ∈ w.trailAfter past rest, key ∈ v.flights) ∧
        ∀ r : Reader, r.flight = key ∧ r.Aboard (w.after past) → r.Aboard (w.after (past ++ rest))) ∨
      ∃ q v, Corpus.keyOf q = key ∧ q.LandsFirst v (w.trailAfter past rest) ∧
        ∀ r : Reader, r.flight = key ∧ r.Aboard (w.after past) →
          r.Told (Corpus.receive q v).1 (w.after (past ++ rest)) := by
  induction rest using List.reverseRecOn with
  | nil =>
    rw [List.append_nil]
    exact .inl ⟨List.forall_mem_singleton.2 hkey, fun r hr ↦ hr.2⟩
  | append_singleton rest e ih =>
    rw [← List.append_assoc] at hevents ⊢
    rw [List.forall_mem_append] at hevents
    obtain ⟨front, hfront⟩ := List.getLast?_eq_some_iff.1 (w.getLast_trailAfter past rest)
    have hupholds := upholds_blurred hflights hevents.1
    rw [World.trailAfter_concat, World.after_concat]
    rcases ih hevents.1 with ⟨hflying, haboard⟩ | ⟨q, v, hq, hlands, htold⟩
    · have hnow : key ∈ (w.after (past ++ rest)).state.flights := hflying _ (by simp [hfront])
      rcases hupholds.flies_or_lands (hevents.2 e List.mem_cons_self) hnow
        fun r hr ↦ ⟨hr.1, haboard r hr⟩ with ⟨hmore, hstay⟩ | ⟨q, rfl, ⟨back, hback⟩, htold⟩
      · exact .inl ⟨List.forall_mem_append.2 ⟨hflying, hmore⟩, hstay⟩
      · rw [hfront] at hflying
        refine .inr ⟨q, _, rfl, ⟨front, back, ?_, hflying⟩, htold⟩
        rw [hfront, hback, List.append_assoc]
        rfl
    · exact .inr ⟨q, v, hq, hlands.append _, fun r hr ↦ hupholds.told_move (htold r hr) e⟩

/-- All that a client has claimed he has asked for. -/
theorem claims_after (w : World) (events : List Event) (n : Nat) :
    (w.after events).claims n none ≤ (events.filterMap Event.client?).count n := by
  induction events using List.reverseRecOn with
  | nil => exact Nat.le_refl 0
  | append_singleton events e ih =>
    rw [World.after_concat, List.filterMap_append, List.count_append]
    refine Nat.le_trans (Loop.claims_move failed _ n e.move) (Nat.add_le_add ih ?_)
    cases e <;> exact Nat.le_refl _

/-- Who has one answer at most has none while he is aboard. -/
theorem Reader.Aboard.not_mem_answers (h : r.Aboard l) (hclaims : l.claims r.client none ≤ 1) :
    (r.client, answer) ∉ l.answers := by
  intro hanswer
  have howner : Owner.client r.client ∈ l.owners := by
    rw [Loop.mem_owners]
    rcases h with hwaits | ⟨turns, hflies⟩
    · exact .inr (.inl ⟨_, hwaits, rfl⟩)
    · exact .inl ⟨_, hflies, rfl⟩
  have hone := List.count_pos_iff.2 howner
  have htwo : 0 < (l.answers.map Prod.fst).count r.client :=
    List.count_pos_iff.2 (List.mem_map_of_mem hanswer)
  simp only [Loop.claims, Option.toList_none, List.nil_append] at hclaims
  omega

/-- Who has one answer at most and is told of a reply is answered with it. -/
theorem Reader.Told.answer_eq (h : r.Told reply l) (hclaims : l.claims r.client none ≤ 1)
    (hanswer : (r.client, answer) ∈ l.answers) : answer = r.read.outcome reply := by
  have hone : 0 < (l.answers.map Prod.fst).count r.client :=
    List.count_pos_iff.2 (List.mem_map_of_mem hanswer)
  simp only [Loop.claims, Option.toList_none, List.nil_append] at hclaims
  have howner (h : Owner.client r.client ∈ l.owners) : False := by
    have htwo := List.count_pos_iff.2 h
    omega
  rcases h with hhears | hgoes | htold
  · exact (howner ((Loop.mem_owners ..).2 (.inl ⟨_, hhears, rfl⟩))).elim
  · exact (howner ((Loop.mem_owners ..).2 (.inl ⟨_, hgoes, rfl⟩))).elim
  · obtain ⟨front, back, heq⟩ := List.append_of_mem hanswer
    have hother (hmem : (r.client, r.read.outcome reply) ∈ front ++ back) : False := by
      have htwo : 0 < ((front ++ back).map Prod.fst).count r.client :=
        List.count_pos_iff.2 (List.mem_map_of_mem hmem)
      rw [heq] at hclaims
      simp only [List.map_append, List.map_cons, List.count_append, List.count_cons_self] at hclaims htwo
      omega
    rw [heq] at htold
    rcases List.mem_append.1 htold with hfront | hback
    · exact (hother (List.mem_append_left _ hfront)).elim
    · rcases List.mem_cons.1 hback with hsame | hback
      · exact (Prod.mk.inj hsame).2.symm
      · exact (hother (List.mem_append_right _ hback)).elim

end

end OutlineSearch
