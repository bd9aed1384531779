import OutlineSearch.Proofs.Corpus.Aboard

/-!
# Single flight

Clients read one corpus side by side while its graph is edited, the cache is made to forget and time
passes. At any time at most one call for a key is pending, and the table of flights names just these
calls; whoever joins a call is answered with what it brings. A failure is not kept. After a success
the answer is kept up to date through every passage, so that no call begins for it until it has been
forgotten or its time has passed.
-/

namespace OutlineSearch

open OutlineSearch.Task OutlineSearch.Engine

namespace Focus.Upholds

variable {F : Focus} {trail : List World} {l : Session} {e : Event} {q : Query}
  {time life : Binary64}

/-- What a passage preserves, and what a call to forget, an edit and the passing of time preserve,
every event preserves. -/
theorem state_move {I : World → Prop} (h : F.Upholds trail l) (he : e.OfReading)
    (hstep : ∀ {w w'}, World.Step w w' → I w → I w')
    (hland : ∀ {w} q, Corpus.keyOf q ∈ w.flights → I w → I (Corpus.landed q w))
    (hforget : ∀ client kind identifier change, e = .ask client (.forget kind identifier) →
      Cache.Change.told kind identifier = .ok change → I l.state → I (l.state.forget change))
    (hedit : ∀ provider, I l.state → I (l.state.withProvider provider))
    (hadvance : ∀ clock, (l.move failed e.move).state = { l.state with clock } → I l.state →
      I { l.state with clock }) (hl : I l.state) : I (l.move failed e.move).state := by
  have hlast := Loop.getLast_moveStates failed l e.move
  cases he with
  | read client rd => exact (rd.passes_job l.state).getLast hstep hland hl hlast
  | turn place => exact (h.passes_turn place).getLast hstep hland hl hlast
  | forget client kind identifier =>
    rw [Event.move, Loop.move, Operation.job, forgetJob]
    cases htold : Cache.Change.told kind identifier with
    | error fault => exact hl
    | ok change => exact hforget client kind identifier change rfl htold hl
  | edit client change =>
    change I (editGraph change l.state).2
    unfold editGraph
    cases change l.state.provider with
    | error fault => exact hl
    | ok provider => exact hedit provider hl
  | advance client seconds => exact hadvance _ rfl hl

theorem unkept_move (h : F.Upholds trail l) (he : e.OfReading) (hl : l.state.Unkept) :
    (l.move failed e.move).state.Unkept :=
  h.state_move he World.Step.unkept (fun q _ hw ↦ hw.landed q)
    (fun _ _ _ change _ _ hw q hq ↦ Query.stamp_forget_none (hw q hq) change)
    (fun _ hw ↦ hw) (fun _ _ hw ↦ hw) hl

/-- An answer that is kept stays while no call to forget concerns it and its time has not passed. -/
theorem keeping_move (h : F.Upholds trail l) (he : e.OfReading) (hl : l.state.Keeping q time life)
    (hforget : ∀ client kind identifier change, e = .ask client (.forget kind identifier) →
      Cache.Change.told kind identifier = .ok change → ¬change.Covers q.read)
    (hfresh : (l.move failed e.move).state.clock.atMost (time.add life) = true) :
    (l.move failed e.move).state.Keeping q time life := by
  refine h.state_move he World.Step.keeping (fun q hq hw ↦ hw.of_landed hq)
    (fun client kind identifier change heq htold hw ↦ ?_) (fun _ hw ↦ ⟨hw.kept, hw.landed, hw.fresh⟩)
    (fun clock hclock hw ↦ ⟨hw.kept, hw.landed, ?_⟩) hl
  · have hcovers := hforget client kind identifier change heq htold
    exact ⟨(Query.stamp_forget_of_not_covers hcovers).trans hw.kept, hw.landed, hw.fresh⟩
  · rw [hclock] at hfresh
    exact hfresh

/-- An event takes the world through a passage, or through one more state with the same flights. -/
theorem passes_or_single (h : F.Upholds trail l) (he : e.OfReading) :
    l.state.Passes (l.moveStates e.move) ∨
      ∃ w, l.moveStates e.move = [w] ∧ w.flights = l.state.flights := by
  cases he with
  | read client rd => exact .inl (rd.passes_job l.state)
  | turn place => exact .inl (h.passes_turn place)
  | forget client kind identifier =>
    rw [Event.move, Loop.moveStates, Operation.job, forgetJob]
    cases Cache.Change.told kind identifier with
    | error fault => exact .inl (.done _)
    | ok change => exact .inr ⟨_, rfl, rfl⟩
  | edit client change =>
    refine .inr ⟨(editGraph change l.state).2, rfl, ?_⟩
    unfold editGraph
    cases change l.state.provider <;> rfl
  | advance client seconds => exact .inr ⟨_, rfl, rfl⟩

/-- Where a call begins or lands, the world goes through a passage. -/
theorem passes_of_startsIn (h : F.Upholds trail l) (he : e.OfReading) {v : World}
    (hstarts : q.StartsIn v (l.state :: l.moveStates e.move)) :
    l.state.Passes (l.moveStates e.move) := by
  refine (h.passes_or_single he).resolve_right ?_
  rintro ⟨w, hsingle, hflights⟩
  obtain ⟨front, back, heq⟩ := hstarts
  rw [hsingle] at heq
  match front with
  | [] =>
    obtain ⟨rfl, heq⟩ := List.cons.inj heq
    rw [(List.cons.inj heq).1] at hflights
    exact List.cons_ne_self _ _ hflights
  | first :: front =>
    have hlength := congrArg List.length heq
    simp only [List.length_cons, List.length_append, List.length_nil] at hlength
    omega

theorem passes_of_landsIn (h : F.Upholds trail l) (he : e.OfReading) {v : World}
    (hlands : q.LandsIn v (l.state :: l.moveStates e.move)) :
    l.state.Passes (l.moveStates e.move) := by
  refine (h.passes_or_single he).resolve_right ?_
  rintro ⟨w, hsingle, -⟩
  obtain ⟨-, front, back, heq⟩ := hlands
  rw [hsingle] at heq
  have hlength := congrArg List.length heq
  simp only [List.length_cons, List.length_append, List.length_nil] at hlength
  omega

/-- While the answer to a call is kept and up to date, no event begins a call for it. -/
theorem not_startsIn_move (h : F.Upholds trail l) (he : e.OfReading)
    (hl : l.state.Keeping q time life) {q' : Query} (hkey : Corpus.keyOf q' = Corpus.keyOf q)
    (v : World) : ¬q'.StartsIn v (l.state :: l.moveStates e.move) := fun hstarts ↦
  (h.passes_of_startsIn he hstarts).not_startsIn hl hkey hstarts

end Focus.Upholds

/-! ### What is kept along a run -/

section

variable {w v : World} {past middle events : List Event} {e e' : Event} {q q' : Query}
  {time life : Binary64}

/-- Some of the events make the cache forget the answer to a call. -/
def Query.ForgottenIn (q : Query) (events : List Event) : Prop :=
  ∃ client kind identifier change, .ask client (.forget kind identifier) ∈ events ∧
    Cache.Change.told kind identifier = .ok change ∧ change.Covers q.read

theorem World.trailAfter_singleton (w : World) (past : List Event) (e : Event) :
    w.trailAfter past [e] = (w.after past).state :: (w.after past).moveStates e.move := by
  rw [trailAfter, List.map_singleton, Loop.trail_cons, Loop.trail_nil, List.append_nil]

theorem unkept_after (hflights : w.flights = []) (hevents : ∀ e ∈ events, e.OfReading) :
    (w.after events).state.Unkept := by
  induction events using List.reverseRecOn with
  | nil =>
    intro q hq
    change _ ∈ w.flights at hq
    rw [hflights] at hq
    cases hq
  | append_singleton events e ih =>
    rw [List.forall_mem_append] at hevents
    rw [World.after_concat]
    exact (upholds_blurred hflights hevents.1).unkept_move (hevents.2 e List.mem_cons_self)
      (ih hevents.1)

/-- An answer that is kept after some events is kept after more of them, as long as none of these
makes the cache forget it and its time does not pass. -/
theorem keeping_after (hflights : w.flights = [])
    (hevents : ∀ e ∈ past ++ middle, e.OfReading)
    (hpast : (w.after past).state.Keeping q time life) (hforgotten : ¬q.ForgottenIn middle)
    (hfresh : ∀ front back, middle = front ++ back →
      (w.after (past ++ front)).state.clock.atMost (time.add life) = true) :
    (w.after (past ++ middle)).state.Keeping q time life := by
  induction middle using List.reverseRecOn with
  | nil => rwa [List.append_nil]
  | append_singleton middle e ih =>
    have hfront : ∀ e ∈ past ++ middle, e.OfReading := fun e he ↦
      hevents e (List.append_assoc .. ▸ List.mem_append_left _ he)
    have hnow := hfresh (middle ++ [e]) [] (List.append_nil _).symm
    have hkept := ih hfront
      (fun ⟨client, kind, identifier, change, hmem, h⟩ ↦
        hforgotten ⟨client, kind, identifier, change, List.mem_append_left _ hmem, h⟩)
      (fun front back heq ↦ hfresh front (back ++ [e]) (by rw [heq, List.append_assoc]))
    rw [← List.append_assoc, World.after_concat] at hnow ⊢
    refine (upholds_blurred hflights hfront).keeping_move (hevents e (by simp)) hkept
      (fun client kind identifier change heq htold hcovers ↦ hforgotten ?_) hnow
    exact ⟨client, kind, identifier, change, by simp [heq], htold, hcovers⟩

/-- A call that fails leaves nothing in the cache. -/
theorem stamp_landed_of_error (hflights : w.flights = []) (hpast : ∀ e ∈ past, e.OfReading)
    (he : e.OfReading) (hlands : q.LandsIn v (w.trailAfter past [e])) {fault : Fault}
    (hfault : (Corpus.receive q v).1 = .error fault) :
    q.stamp (Corpus.landed q v).cache = none := by
  rw [World.trailAfter_singleton] at hlands
  have hpasses := (upholds_blurred hflights hpast).passes_of_landsIn he hlands
  obtain ⟨hflying, front, back, heq⟩ := hlands
  have hunkept := (hpasses.of_landsIn World.Step.unkept (fun q _ hw ↦ hw.landed q)
    (unkept_after hflights hpast) heq hflying).1
  rcases Query.stamp_receive_self q v with ⟨-, -, hcache⟩ | ⟨reply, hreply, -⟩
  · change q.stamp (Corpus.receive q v).2.cache = none
    rw [hcache]
    exact hunkept q hflying
  · rw [hfault] at hreply
    cases hreply

/-- A call that succeeds leaves an answer that is kept, if its time has not passed at once. -/
theorem keeping_of_landsIn (hflights : w.flights = []) (hpast : ∀ e ∈ past, e.OfReading)
    (he : e.OfReading) (hlands : q.LandsIn v (w.trailAfter past [e])) {reply : Reply}
    (hreply : (Corpus.receive q v).1 = .ok reply)
    (hfresh : (w.after (past ++ [e])).state.clock.atMost (v.clock.add (q.lifetime v.settings)) =
      true) :
    (w.after (past ++ [e])).state.Keeping q v.clock (q.lifetime v.settings) := by
  rw [World.trailAfter_singleton] at hlands
  rw [World.after_concat] at hfresh ⊢
  have hpasses := (upholds_blurred hflights hpast).passes_of_landsIn he hlands
  obtain ⟨hflying, front, back, heq⟩ := hlands
  obtain ⟨-, hback⟩ := hpasses.of_landsIn (I := fun _ ↦ True) (fun _ _ ↦ trivial)
    (fun _ _ _ ↦ trivial) trivial heq hflying
  have hlast := Loop.getLast_moveStates failed (w.after past) e.move
  rw [heq, List.getLast?_append, List.getLast?_cons_cons, List.getLast?_cons_cons,
    Option.or_of_isSome (by simp)] at hlast
  have hclock := hback.getLast (I := fun u ↦ u.clock = v.clock)
    (fun h hu ↦ h.clock_eq.trans hu) (fun q _ hu ↦ (Corpus.clock_landed q _).trans hu)
    (Corpus.clock_landed q v) hlast
  rw [hclock] at hfresh
  rcases Query.stamp_receive_self q v with ⟨fault, hfault, -⟩ | ⟨-, -, hstamp⟩
  · rw [hfault] at hreply
    cases hreply
  · refine hback.getLast World.Step.keeping (fun q hq hu ↦ hu.of_landed hq) ⟨hstamp, ?_, ?_⟩ hlast
    · exact fun hmem ↦ (Corpus.mem_flights_landed.1 hmem).2 rfl
    · rwa [Corpus.clock_landed]

/-- After a call has succeeded no call for the same answer begins before the cache is made to forget
it or its time has passed. -/
theorem forgotten_or_passed (hflights : w.flights = [])
    (hevents : ∀ x ∈ past ++ e :: (middle ++ [e']), x.OfReading)
    (hlands : q.LandsIn v (w.trailAfter past [e])) {reply : Reply}
    (hreply : (Corpus.receive q v).1 = .ok reply) (hkey : Corpus.keyOf q' = Corpus.keyOf q)
    {v' : World} (hstarts : q'.StartsIn v' (w.trailAfter (past ++ e :: middle) [e'])) :
    q.ForgottenIn middle ∨ ∃ front back, middle = front ++ back ∧
      ¬(w.after (past ++ e :: front)).state.clock.atMost
        (v.clock.add (q.lifetime v.settings)) = true := by
  by_contra hneither
  push Not at hneither
  obtain ⟨hforgotten, hfresh⟩ := hneither
  have hcons (es : List Event) : past ++ e :: es = past ++ [e] ++ es := by simp
  have hready : ∀ x ∈ past ++ [e] ++ middle, x.OfReading := fun x hx ↦ hevents x (by
    simp only [List.mem_append, List.mem_cons] at hx ⊢
    tauto)
  have hsent := hevents e' (by simp)
  have hpast : ∀ e ∈ past, e.OfReading := fun e he ↦ hready e (by simp [he])
  have hlanding : e.OfReading := hready e (by simp)
  -- the answer is kept when the call has landed, and still when the next one is said to begin
  have hkept := keeping_of_landsIn hflights hpast hlanding hlands hreply
    (hfresh [] middle rfl)
  have hkept := keeping_after hflights hready hkept hforgotten fun front back heq ↦ by
    rw [← hcons]
    exact hfresh front back heq
  rw [hcons, World.trailAfter_singleton] at hstarts
  exact (upholds_blurred hflights hready).not_startsIn_move hsent hkept hkey v' hstarts

/-- No call begins while one for the same key is under way. -/
theorem notMem_flights_of_startsIn (hflights : w.flights = []) (hpast : ∀ e ∈ past, e.OfReading)
    (he : e.OfReading) (hstarts : q.StartsIn v (w.trailAfter past [e])) :
    Corpus.keyOf q ∉ v.flights := by
  rw [World.trailAfter_singleton] at hstarts
  have hpasses := (upholds_blurred hflights hpast).passes_of_startsIn he hstarts
  exact (hpasses.of_startsIn (I := fun _ ↦ True) (fun _ _ ↦ trivial) (fun _ _ _ ↦ trivial) trivial
    hstarts).2.1

end

/-! ### Calls that are pending -/

/-- A call takes some more turns, or lands, when something has its turn. -/
def Query.CallsIn (q : Query) (t : Turn World String (Outcome Reply)) : Prop :=
  ∃ owner next turns, t = .run owner (.pauses (Corpus.land q next) turns)

namespace Errand

variable {e : Errand} {q : Query} {key : String}

theorem flight?_of_callsIn (h : q.CallsIn e.turn) (w : World) :
    e.flight? = some (Corpus.keyOf q) := by
  obtain ⟨owner, next, turns, h⟩ := h
  cases e with
  | hear r reply => cases h
  | go r reply => exact absurd (Turn.run.inj h).2 (next_ne_pauses _ _ _ _ _)
  | fly r turns' =>
    obtain ⟨-, hland⟩ := Corpus.pauses_land_inj (Turn.run.inj h).2
    exact congrArg some (Corpus.land_inj hland w).1

theorem exists_callsIn (h : e.flight? = some key) : ∃ q, Corpus.keyOf q = key ∧ q.CallsIn e.turn := by
  cases e with
  | hear r reply => cases h
  | go r reply => cases h
  | fly r turns => exact ⟨r.read.query, Option.some.inj h, _, _, _, rfl⟩

end Errand

namespace Focus.Upholds

variable {F : Focus} {trail : List World} {l : Session} {key : String}

/-- At most one call for a key is pending. -/
theorem pairwise_callsIn (h : F.Upholds trail l) :
    l.queue.Pairwise fun t t' =>
      ∀ q q' : Query, q.CallsIn t → q'.CallsIn t' → Corpus.keyOf q ≠ Corpus.keyOf q' := by
  obtain ⟨errands, waiting, h⟩ := h
  have hnodup : (errands.filterMap Errand.flight?).Nodup := h.owed.nodup_iff.2 h.nodup
  rw [h.queue.pairwise_iff fun hne q q' hq hq' ↦ (hne q' q hq' hq).symm, List.pairwise_map]
  refine (List.pairwise_filterMap.1 hnodup).imp fun hne q q' hq hq' ↦ ?_
  exact hne _ (Errand.flight?_of_callsIn hq l.state) _ (Errand.flight?_of_callsIn hq' l.state)

/-- The keys that are in flight are those of the calls that are pending. -/
theorem mem_flights_iff (h : F.Upholds trail l) :
    key ∈ l.state.flights ↔ ∃ t ∈ l.queue, ∃ q : Query, Corpus.keyOf q = key ∧ q.CallsIn t := by
  obtain ⟨errands, waiting, h⟩ := h
  have howed : key ∈ l.state.flights ↔ ∃ e ∈ errands, e.flight? = some key := by
    rw [← h.owed.mem_iff, List.mem_filterMap]
    rfl
  rw [howed]
  constructor
  · rintro ⟨e, he, hkey⟩
    exact ⟨e.turn, h.queue.mem_iff.2 (List.mem_map_of_mem he), Errand.exists_callsIn hkey⟩
  · rintro ⟨t, ht, q, rfl, hcalls⟩
    obtain ⟨e, he, rfl⟩ := List.mem_map.1 (h.queue.mem_iff.1 ht)
    exact ⟨e, he, Errand.flight?_of_callsIn hcalls l.state⟩

end Focus.Upholds

/-! ### Single flight -/

section

variable {w : World} {events : List Event}

/-- Whoever has asked is answered in the end. -/
theorem settles_reader (hflights : w.flights = []) (hevents : ∀ e ∈ events, e.OfReading) {r : Reader}
    (hasks : r.AsksIn events) :
    (w.after events).Settles failed fun l => ∃ answer, l.answer? r.client = some answer := by
  refine Loop.settles failed _ _ fun places hrest ↦ ?_
  have hturns : (w.after events).play failed (places.map .turn) =
      w.after (events ++ places.map Event.turn) := by
    rw [World.after_append, Session.after, List.map_map]
    rfl
  have hreads : ∀ e ∈ events ++ places.map Event.turn, e.OfReading := by
    refine List.forall_mem_append.2 ⟨hevents, fun e he ↦ ?_⟩
    obtain ⟨place, -, rfl⟩ := List.mem_map.1 he
    exact .turn place
  rw [hturns] at hrest ⊢
  have hwaiters := (upholds_blurred hflights hreads).waiters_of_rest hrest
  have hidle : ({ state := w } : Session).Idle := ⟨rfl, rfl, rfl, rfl⟩
  obtain ⟨hnumbered, haccounted⟩ := hidle.accounted.play failed hidle.numbered
    ((events ++ places.map Event.turn).map Event.move)
  obtain ⟨-, hanswered⟩ := haccounted.settled hnumbered hrest hwaiters
  obtain ⟨answer, hanswer⟩ := hanswered r.client
    (List.mem_append_right _ (mem_askers (List.mem_append_left _ hasks)))
  obtain ⟨answer, hanswer, -⟩ := Loop.exists_answer? hanswer
  exact ⟨answer, hanswer⟩

/-- What is promised to those who read side by side. -/
structure SingleFlight (w : World) (events : List Event) : Prop where
  /-- At most one call for a key is pending. -/
  single : (w.after events).queue.Pairwise fun t t' =>
    ∀ q q' : Query, q.CallsIn t → q'.CallsIn t' → Corpus.keyOf q ≠ Corpus.keyOf q'
  /-- What is in flight is pending, so that nothing is in flight when no call is pending. -/
  table : ∀ key, key ∈ (w.after events).state.flights ↔
    ∃ t ∈ (w.after events).queue, ∃ q : Query, Corpus.keyOf q = key ∧ q.CallsIn t
  /-- A call begins only where none for its key is under way. -/
  begun : ∀ past e rest, events = past ++ e :: rest → ∀ (q : Query) v,
    q.StartsIn v (w.trailAfter past [e]) → Corpus.keyOf q ∉ v.flights
  /-- Whoever is aboard a flight is answered with what its next landing brings, and with nothing
  else. -/
  joined : ∀ past rest key, events = past ++ rest → key ∈ (w.after past).state.flights →
    (∀ v ∈ w.trailAfter past rest, key ∈ v.flights) ∧
        (∀ r : Reader, r.flight = key → r.Aboard (w.after past) →
          ∀ answer, (r.client, answer) ∉ (w.after events).answers) ∨
      ∃ q v, Corpus.keyOf q = key ∧ q.LandsFirst v (w.trailAfter past rest) ∧
        ∀ r : Reader, r.flight = key → r.Aboard (w.after past) →
          ∀ answer, (r.client, answer) ∈ (w.after events).answers →
            answer = r.read.outcome (Corpus.receive q v).1
  /-- Whoever asks is answered in the end. -/
  answered : ∀ r : Reader, r.AsksIn events →
    (w.after events).Settles failed fun l => ∃ answer, l.answer? r.client = some answer
  /-- A call that fails leaves nothing in the cache. -/
  unkept : ∀ past e rest, events = past ++ e :: rest → ∀ (q : Query) v fault,
    q.LandsIn v (w.trailAfter past [e]) → (Corpus.receive q v).1 = .error fault →
      q.stamp (Corpus.landed q v).cache = none
  /-- After a call that succeeds none for its key begins until the cache has been made to forget the
  answer or its time has passed. -/
  spaced : ∀ past e middle e' rest, events = past ++ e :: (middle ++ e' :: rest) →
    ∀ (q q' : Query) v v' reply, q.LandsIn v (w.trailAfter past [e]) →
      (Corpus.receive q v).1 = .ok reply → Corpus.keyOf q' = Corpus.keyOf q →
      q'.StartsIn v' (w.trailAfter (past ++ e :: middle) [e']) →
        q.ForgottenIn middle ∨ ∃ front back, middle = front ++ back ∧
          ¬(w.after (past ++ e :: front)).state.clock.atMost
            (v.clock.add (q.lifetime v.settings)) = true

/-- Reads of one corpus that happen side by side share their calls of the provider, in whichever
order they have their turns, whatever the provider answers, and whatever is edited and forgotten
meanwhile. -/
theorem single_flight (hflights : w.flights = []) (hevents : ∀ e ∈ events, e.OfReading)
    (hclients : (events.filterMap Event.client?).Nodup) : SingleFlight w events where
  single := (upholds_blurred hflights hevents).pairwise_callsIn
  table key := (upholds_blurred hflights hevents).mem_flights_iff
  begun past e rest heq q v hstarts := by
    rw [heq, List.forall_mem_append, List.forall_mem_cons] at hevents
    exact notMem_flights_of_startsIn hflights hevents.1 hevents.2.1 hstarts
  joined past rest key heq hkey := by
    have hone (r : Reader) : (w.after events).claims r.client none ≤ 1 :=
      (claims_after w events r.client).trans (List.nodup_iff_count_le_one.1 hclients r.client)
    subst heq
    rcases aboard_or_told hflights hevents hkey with ⟨hflying, haboard⟩ | ⟨q, v, hq, hlands, htold⟩
    · refine .inl ⟨hflying, fun r hr hr' answer ↦ ?_⟩
      exact (haboard r ⟨hr, hr'⟩).not_mem_answers (hone r)
    · refine .inr ⟨q, v, hq, hlands, fun r hr hr' answer ↦ ?_⟩
      exact (htold r ⟨hr, hr'⟩).answer_eq (hone r)
  answered r hasks := settles_reader hflights hevents hasks
  unkept past e rest heq q v fault hlands := by
    rw [heq, List.forall_mem_append, List.forall_mem_cons] at hevents
    exact stamp_landed_of_error hflights hevents.1 hevents.2.1 hlands
  spaced past e middle e' rest heq q q' v v' reply hlands hreply hkey hstarts := by
    refine forgotten_or_passed hflights (fun x hx ↦ hevents x ?_) hlands hreply hkey hstarts
    rw [heq]
    simp only [List.mem_append, List.mem_cons, List.not_mem_nil, or_false] at hx ⊢
    tauto

end

/-- Three clients ask for the listing and the templates of a graph whose calls take some turns. -/
def readersTogether : List Event := [.ask 0 .pages, .ask 1 .pages, .ask 2 .templates]

/-- The one call that is made answers all who ask meanwhile. -/
theorem lonePage_single_flight :
    SingleFlight (slowWorld 3) (readersTogether ++ List.replicate 12 (.turn 0)) ∧
      (∀ r ∈ [⟨0, .pages⟩, ⟨1, .pages⟩, (⟨2, .templates⟩ : Reader)],
        r.Aboard ((slowWorld 3).after readersTogether)) ∧
      ((slowWorld 3).after (readersTogether ++ List.replicate 12 (.turn 0))).answers =
        [(2, .ok (.pages [])), (1, .ok (.pages [lonePage])), (0, .ok (.pages [lonePage]))] ∧
      ((slowWorld 3).after (readersTogether ++ List.replicate 12 (.turn 0))).state.listings = 1 := by
  refine ⟨single_flight rfl ?_ (by decide), ?_, rfl, rfl⟩
  · refine List.forall_mem_append.2 ⟨?_, fun e he ↦ ?_⟩
    · exact List.forall_mem_cons.2 ⟨.read 0 .pages, List.forall_mem_cons.2 ⟨.read 1 .pages,
        List.forall_mem_singleton.2 (.read 2 .templates)⟩⟩
    · rw [(List.mem_replicate.1 he).2]
      exact .turn 0
  · refine List.forall_mem_cons.2 ⟨.inr ⟨2, .head _⟩, List.forall_mem_cons.2 ⟨.inl (.head _), ?_⟩⟩
    exact List.forall_mem_singleton.2 (.inl (.tail _ (.head _)))

end OutlineSearch
