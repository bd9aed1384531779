import OutlineSearch.Proofs.Corpus.Forgetting
import OutlineSearch.Proofs.Search.Lasting

/-!
# What a turn does to the world

While somebody reads, a turn takes the world through a passage of states: the cache is asked, a call
begins where the cache has nothing and no call is under way, templates are kept, or a call lands. A
landing is two states, since the answer is stored before the key touches down.
-/

namespace OutlineSearch

open OutlineSearch.Task OutlineSearch.Engine

namespace Store

variable {α : Type} {s : Store α} {now : Binary64} {key : String}

theorem find?_erase_self (s : Store α) (key : String) : (s.erase key).find? key = none :=
  List.find?_eq_none.2 fun _ he ↦ by simpa using key_ne_of_mem_erase he

/-- Where nothing is found, nothing is kept. -/
theorem find?_get_of_none (h : (s.get now key).1 = none) : (s.get now key).2.find? key = none := by
  unfold get at h ⊢
  split
  · next hnone => exact hnone
  · next e he =>
    simp only [he] at h
    split at h
    · cases h
    · next hstale =>
      rw [if_neg hstale]
      exact find?_erase_self s key

/-- An entry that is up to date stays, whatever is asked for. -/
theorem find?_get_of_fresh {e : StoreEntry α} (h : s.find? key = some e)
    (hfresh : e.isFresh now = true) (key' : String) : (s.get now key').2.find? key = some e := by
  by_cases hkey : key' = key
  · rw [hkey, get_of_fresh h hfresh]
    exact h
  · rw [find?_get hkey, h]

end Store

/-! ### Answers in the cache -/

namespace Query

/-- When the answer to a call was put into a cache, and for how long, if it is there. -/
def stamp (q : Query) (c : Cache) : Option (Binary64 × Binary64) :=
  match q with
  | .pages => (c.pages.find? Cache.allPagesKey).map fun e => (e.writtenAt, e.lifetime)
  | .blocks page => (c.blocks.find? (Cache.blocksKey page)).map fun e => (e.writtenAt, e.lifetime)

/-- For how long the answer to a call is kept. -/
def lifetime : Query → Settings → Binary64
  | .pages, settings => settings.pagesLifetime
  | .blocks _, settings => settings.blocksLifetime

theorem eq_or_blocks_of_key {q q' : Query} (h : Corpus.keyOf q = Corpus.keyOf q') :
    q = q' ∨ ∃ a b, q = .blocks a ∧ q' = .blocks b ∧ Cache.blocksKey a = Cache.blocksKey b := by
  cases q' with
  | pages => exact .inl (eq_pages h)
  | blocks b =>
    cases q with
    | pages => exact absurd h.symm (Cache.blocksKey_ne_allPagesKey b)
    | blocks a => exact .inr ⟨a, b, rfl, rfl, h⟩

theorem stamp_congr {q q' : Query} (h : Corpus.keyOf q = Corpus.keyOf q') (c : Cache) :
    q.stamp c = q'.stamp c := by
  rcases eq_or_blocks_of_key h with rfl | ⟨a, b, rfl, rfl, hkey⟩
  · rfl
  · rw [stamp, stamp, hkey]

variable {q q' : Query} {w : World}

/-- Where the cache has nothing to tell, it keeps nothing. -/
theorem stamp_cached_of_none (h : (Corpus.cached q w).1 = none) :
    q.stamp (Corpus.cached q w).2.cache = none := by
  cases q with
  | pages =>
    exact Option.map_eq_none_iff.2 (Store.find?_get_of_none (Option.map_eq_none_iff.1 h))
  | blocks page =>
    exact Option.map_eq_none_iff.2 (Store.find?_get_of_none (Option.map_eq_none_iff.1 h))

/-- An answer that is up to date stays when the cache is asked for a listing. -/
theorem stamp_cachedPages_of_fresh {time life : Binary64} (h : q.stamp w.cache = some (time, life))
    (hfresh : w.clock.atMost (time.add life) = true) (key : String) :
    q.stamp (w.cachedPages key).2.cache = some (time, life) := by
  cases q with
  | pages =>
    obtain ⟨e, he, heq⟩ := Option.map_eq_some_iff.1 h
    obtain ⟨rfl, rfl⟩ := Prod.mk.inj heq
    exact Option.map_eq_some_iff.2 ⟨e, Store.find?_get_of_fresh he hfresh key, rfl⟩
  | blocks page => exact h

/-- An answer that is up to date stays when the cache is asked. -/
theorem stamp_cached_of_fresh {time life : Binary64} (h : q.stamp w.cache = some (time, life))
    (hfresh : w.clock.atMost (time.add life) = true) (q' : Query) :
    q.stamp (Corpus.cached q' w).2.cache = some (time, life) := by
  cases q' with
  | pages => exact stamp_cachedPages_of_fresh h hfresh _
  | blocks page =>
    cases q with
    | pages => exact h
    | blocks page' =>
      obtain ⟨e, he, heq⟩ := Option.map_eq_some_iff.1 h
      obtain ⟨rfl, rfl⟩ := Prod.mk.inj heq
      exact Option.map_eq_some_iff.2 ⟨e, Store.find?_get_of_fresh he hfresh _, rfl⟩

/-- A cache that keeps less keeps no answer that was not kept. -/
theorem stamp_none_of_subset {c c' : Cache} (h : q.stamp c = none)
    (hpages : ∀ e ∈ c'.pages.entries, e ∈ c.pages.entries)
    (hblocks : ∀ e ∈ c'.blocks.entries, e ∈ c.blocks.entries) : q.stamp c' = none := by
  cases q with
  | pages =>
    refine Option.map_eq_none_iff.2 (List.find?_eq_none.2 fun e he ↦ ?_)
    exact List.find?_eq_none.1 (Option.map_eq_none_iff.1 h) e (hpages e he)
  | blocks page =>
    refine Option.map_eq_none_iff.2 (List.find?_eq_none.2 fun e he ↦ ?_)
    exact List.find?_eq_none.1 (Option.map_eq_none_iff.1 h) e (hblocks e he)

theorem stamp_cached_none (h : q.stamp w.cache = none) (q' : Query) :
    q.stamp (Corpus.cached q' w).2.cache = none := by
  cases q' with
  | pages => exact stamp_none_of_subset h (fun _ ↦ Store.mem_of_mem_get) fun _ he ↦ he
  | blocks page => exact stamp_none_of_subset h (fun _ he ↦ he) fun _ ↦ Store.mem_of_mem_get

theorem stamp_keepTemplates (q : Query) (w : World) (items : List Page) :
    q.stamp (w.keepTemplates items).cache = q.stamp w.cache := by
  cases q with
  | pages =>
    exact congrArg (Option.map _) (Store.find?_put Cache.allPagesKey_ne_templatesKey.symm _ _ _)
  | blocks page => rfl

/-- What is received is stamped with the time if it is an answer; a failure leaves the cache alone. -/
theorem stamp_receive_self (q : Query) (w : World) :
    (∃ fault, (Corpus.receive q w).1 = .error fault ∧ (Corpus.receive q w).2.cache = w.cache) ∨
      ∃ reply, (Corpus.receive q w).1 = .ok reply ∧
        q.stamp (Corpus.receive q w).2.cache = some (w.clock, q.lifetime w.settings) := by
  rcases receive_cases q w with ⟨fault, hfault⟩ | hitems
  · exact .inl ⟨fault, by rw [hfault], by rw [hfault]; rfl⟩
  · refine .inr ?_
    cases q with
    | pages =>
      obtain ⟨items, hitems⟩ := hitems
      refine ⟨.pages items, by rw [hitems], ?_⟩
      rw [hitems, stamp]
      dsimp only [World.keepPages]
      rw [Store.find?_put_self]
      rfl
    | blocks page =>
      obtain ⟨items, hitems⟩ := hitems
      refine ⟨.blocks items, by rw [hitems], ?_⟩
      rw [hitems, stamp]
      dsimp only [World.keepBlocks]
      rw [Store.find?_put_self]
      rfl

/-- What is received for one query leaves alone what is kept for another one. -/
theorem stamp_receive_of_ne (h : Corpus.keyOf q' ≠ Corpus.keyOf q) :
    q.stamp (Corpus.receive q' w).2.cache = q.stamp w.cache := by
  rcases receive_cases q' w with ⟨fault, hfault⟩ | hitems
  · rw [hfault]
    rfl
  · cases q' with
    | pages =>
      obtain ⟨items, hitems⟩ := hitems
      rw [hitems]
      cases q with
      | pages => exact absurd rfl h
      | blocks page => rfl
    | blocks page =>
      obtain ⟨items, hitems⟩ := hitems
      rw [hitems]
      cases q with
      | pages => rfl
      | blocks page' => exact congrArg (Option.map _) (Store.find?_put h _ _ _)

end Query

/-! ### Passages -/

namespace Corpus

/-- The world after a call has landed. -/
def landed (q : Query) (w : World) : World := (receive q w).2.touchDown (keyOf q)

theorem clock_cached (q : Query) (w : World) : (cached q w).2.clock = w.clock := by
  cases q <;> rfl

theorem clock_landed (q : Query) (w : World) : (landed q w).clock = w.clock := by
  rcases Query.receive_cases q w with ⟨fault, hfault⟩ | hitems
  · rw [landed, hfault]
    rfl
  · cases q <;> obtain ⟨items, hitems⟩ := hitems <;> rw [landed, hitems] <;> rfl

theorem isInFlight_iff {w : World} {key : String} : w.isInFlight key = true ↔ key ∈ w.flights :=
  List.contains_iff_mem

theorem mem_flights_landed {q : Query} {w : World} {key : String} :
    key ∈ (landed q w).flights ↔ key ∈ w.flights ∧ key ≠ keyOf q := by
  rw [← Lore.flights_receive q w]
  simp [landed, World.touchDown]

end Corpus

namespace World

/-- What a turn does to the world without ending a call. -/
inductive Step (w : World) : World → Prop where
  /-- The cache is asked. -/
  | ask (q : Query) : Step w (Corpus.cached q w).2
  | askTemplates : Step w (w.cachedPages Cache.templatesKey).2
  /-- A call begins. -/
  | begin (q : Query) (hnew : Corpus.keyOf q ∉ w.flights) (hnone : q.stamp w.cache = none) :
    Step w ((w.takeOff (Corpus.keyOf q)).start q)
  /-- Templates are kept. -/
  | derive (items : List Page) : Step w (w.keepTemplates items)

/-- The states that a turn takes the world through. -/
inductive Passes : World → List World → Prop where
  | done (w : World) : Passes w []
  | step {w w' : World} {rest : List World} (h : Step w w') (hrest : Passes w' rest) :
    Passes w (w' :: rest)
  /-- A call lands. -/
  | land {w : World} {rest : List World} (q : Query) (h : Corpus.keyOf q ∈ w.flights)
    (hrest : Passes (Corpus.landed q w) rest) :
    Passes w ((Corpus.receive q w).2 :: Corpus.landed q w :: rest)

end World

/-! ### What a passage preserves -/

namespace World

variable {w w' v : World} {states : List World} {q : Query} {time life : Binary64}

/-- No answer is kept to a call that is under way. -/
def Unkept (w : World) : Prop := ∀ q, Corpus.keyOf q ∈ w.flights → q.stamp w.cache = none

/-- The answer to a call is kept and up to date, and no call for it is under way. -/
structure Keeping (w : World) (q : Query) (time life : Binary64) : Prop where
  kept : q.stamp w.cache = some (time, life)
  landed : Corpus.keyOf q ∉ w.flights
  fresh : w.clock.atMost (time.add life) = true

theorem Step.mem_flights (h : Step w w') {key : String} (hkey : key ∈ w.flights) :
    key ∈ w'.flights := by
  cases h with
  | ask q' => rwa [Lore.flights_cached]
  | askTemplates => exact hkey
  | begin q' => exact List.mem_cons_of_mem _ hkey
  | derive items => exact hkey

theorem Step.clock_eq (h : Step w w') : w'.clock = w.clock := by
  cases h with
  | ask q' => exact Corpus.clock_cached q' w
  | askTemplates | begin | derive => rfl

theorem Step.unkept (h : Step w w') (hw : w.Unkept) : w'.Unkept := by
  intro q hq
  cases h with
  | ask q' =>
    rw [Lore.flights_cached] at hq
    exact Query.stamp_cached_none (hw q hq) q'
  | askTemplates =>
    exact Query.stamp_none_of_subset (hw q hq) (fun _ ↦ Store.mem_of_mem_get) fun _ he ↦ he
  | begin q' hnew hnone =>
    rcases List.mem_cons.1 hq with hkey | hq
    · exact (Query.stamp_congr hkey w.cache).trans hnone
    · exact hw q hq
  | derive items => exact (Query.stamp_keepTemplates q w items).trans (hw q hq)

theorem Unkept.landed (hw : w.Unkept) (q : Query) : (Corpus.landed q w).Unkept := by
  intro q' hq'
  obtain ⟨hflying, hne⟩ := Corpus.mem_flights_landed.1 hq'
  exact (Query.stamp_receive_of_ne hne.symm).trans (hw q' hflying)

theorem Step.keeping (h : Step w w') (hw : w.Keeping q time life) : w'.Keeping q time life := by
  obtain ⟨hkept, hlanded, hfresh⟩ := hw
  cases h with
  | ask q' =>
    refine ⟨Query.stamp_cached_of_fresh hkept hfresh q', ?_, ?_⟩
    · rwa [Lore.flights_cached]
    · rwa [Corpus.clock_cached]
  | askTemplates => exact ⟨Query.stamp_cachedPages_of_fresh hkept hfresh _, hlanded, hfresh⟩
  | begin q' hnew hnone =>
    -- a call begins for other answers only
    have hne : Corpus.keyOf q ≠ Corpus.keyOf q' := by
      intro hkey
      rw [Query.stamp_congr hkey, hnone] at hkept
      cases hkept
    exact ⟨hkept, fun hmem ↦ (List.mem_cons.1 hmem).elim hne hlanded, hfresh⟩
  | derive items => exact ⟨(Query.stamp_keepTemplates q w items).trans hkept, hlanded, hfresh⟩

theorem Keeping.of_landed (hw : w.Keeping q time life) {q' : Query}
    (hflying : Corpus.keyOf q' ∈ w.flights) : (Corpus.landed q' w).Keeping q time life := by
  have hne : Corpus.keyOf q' ≠ Corpus.keyOf q := fun heq ↦ hw.landed (heq ▸ hflying)
  refine ⟨(Query.stamp_receive_of_ne hne).trans hw.kept,
    fun hmem ↦ hw.landed (Corpus.mem_flights_landed.1 hmem).1, ?_⟩
  rw [Corpus.clock_landed]
  exact hw.fresh

/-- What the single steps and the landings of a passage preserve holds in the end. -/
theorem Passes.getLast {I : World → Prop} (h : w.Passes states)
    (hstep : ∀ {w w'}, Step w w' → I w → I w')
    (hland : ∀ {w} q, Corpus.keyOf q ∈ w.flights → I w → I (Corpus.landed q w)) (hw : I w)
    (hlast : (w :: states).getLast? = some w') : I w' := by
  induction h with
  | done w =>
    obtain rfl := Option.some.inj hlast
    exact hw
  | step h hrest ih =>
    rw [List.getLast?_cons_cons] at hlast
    exact ih (hstep h hw) hlast
  | land q h hrest ih =>
    rw [List.getLast?_cons_cons, List.getLast?_cons_cons] at hlast
    exact ih (hland q h hw) hlast

end World

/-! ### Calls that begin and land -/

namespace Query

open World

/-- A call begins in a row of states. -/
def StartsIn (q : Query) (w : World) (states : List World) : Prop :=
  ∃ front back, states = front ++ w :: (w.takeOff (Corpus.keyOf q)).start q :: back

/-- A call that is under way lands in a row of states. -/
def LandsIn (q : Query) (w : World) (states : List World) : Prop :=
  Corpus.keyOf q ∈ w.flights ∧
    ∃ front back, states = front ++ w :: (Corpus.receive q w).2 :: Corpus.landed q w :: back

end Query

namespace World

variable {w w' v : World} {states : List World} {q : Query} {time life : Binary64}

theorem Step.flights_eq (h : Step w w') : w'.flights = w.flights ∨
    ∃ q, w'.flights = Corpus.keyOf q :: w.flights ∧ Corpus.keyOf q ∉ w.flights ∧
      q.stamp w.cache = none := by
  cases h with
  | ask q' => exact .inl (Lore.flights_cached q' w)
  | askTemplates | derive => exact .inl rfl
  | begin q' hnew hnone => exact .inr ⟨q', rfl, hnew, hnone⟩

/-- Where a call begins, none for its key is under way, its answer is not kept, and what the single
steps and the landings of a passage preserve holds. -/
theorem Passes.of_startsIn {I : World → Prop} (h : w.Passes states)
    (hstep : ∀ {w w'}, Step w w' → I w → I w')
    (hland : ∀ {w} q, Corpus.keyOf q ∈ w.flights → I w → I (Corpus.landed q w)) (hw : I w)
    (hstarts : q.StartsIn v (w :: states)) :
    I v ∧ Corpus.keyOf q ∉ v.flights ∧ q.stamp v.cache = none := by
  obtain ⟨front, back, heq⟩ := hstarts
  have htakeOff : ((v.takeOff (Corpus.keyOf q)).start q).flights = Corpus.keyOf q :: v.flights := rfl
  induction h generalizing front back with
  | done w =>
    have hlength := congrArg List.length heq
    simp only [List.length_cons, List.length_append, List.length_nil] at hlength
    omega
  | @step w w' rest h hrest ih =>
    cases front with
    | cons first front => exact ih (hstep h hw) front back (List.cons.inj heq).2
    | nil =>
      obtain ⟨rfl, heq⟩ := List.cons.inj heq
      obtain ⟨rfl, -⟩ := List.cons.inj heq
      rcases h.flights_eq with hsame | ⟨q', hbegins, hnew, hnone⟩
      · exact absurd (htakeOff.symm.trans hsame) (List.cons_ne_self _ _)
      · have hkey := (List.cons.inj (htakeOff.symm.trans hbegins)).1
        rw [← hkey] at hnew
        exact ⟨hw, hnew, (Query.stamp_congr hkey w.cache).trans hnone⟩
  | @land w rest q' h hrest ih =>
    match front with
    | first :: second :: front =>
      exact ih (hland q' h hw) front back (List.cons.inj (List.cons.inj heq).2).2
    | [first] =>
      -- a landing is no call that begins
      obtain ⟨hreceive, heq⟩ := List.cons.inj (List.cons.inj heq).2
      have hdown := congrArg World.flights (List.cons.inj heq).1
      rw [htakeOff, ← hreceive] at hdown
      have hlength := congrArg List.length hdown
      have hle := List.length_filter_le (· != Corpus.keyOf q') (Corpus.receive q' w).2.flights
      change (List.filter _ _).length = _ at hlength
      rw [List.length_cons] at hlength
      omega
    | [] =>
      obtain ⟨rfl, heq⟩ := List.cons.inj heq
      have hflights := congrArg World.flights (List.cons.inj heq).1
      rw [htakeOff, Lore.flights_receive] at hflights
      exact absurd hflights.symm (List.cons_ne_self _ _)

/-- While the answer to a call is kept and up to date, no call for it begins. -/
theorem Passes.not_startsIn (h : w.Passes states) (hw : w.Keeping q time life) {q' : Query}
    (hkey : Corpus.keyOf q' = Corpus.keyOf q) : ¬q'.StartsIn v (w :: states) := by
  intro hstarts
  obtain ⟨hkeeping, -, hnone⟩ :=
    h.of_startsIn Step.keeping (fun q hq hw ↦ hw.of_landed hq) hw hstarts
  have hkept := hkeeping.kept
  rw [← Query.stamp_congr hkey, hnone] at hkept
  cases hkept

/-- A passage starts with a state in which all that is under way still is. -/
theorem Passes.head_mem_flights {rest : List World} (h : w.Passes (w' :: rest)) {key : String}
    (hkey : key ∈ w.flights) : key ∈ w'.flights := by
  generalize hstates : w' :: rest = states at h
  cases h with
  | done => cases hstates
  | step h =>
    rw [(List.cons.inj hstates).1]
    exact h.mem_flights hkey
  | land q =>
    rw [(List.cons.inj hstates).1, Lore.flights_receive]
    exact hkey

/-- Where a call lands, what the single steps and the landings of a passage preserve holds, and the
passage goes on. -/
theorem Passes.of_landsIn {I : World → Prop} (h : w.Passes states)
    (hstep : ∀ {w w'}, Step w w' → I w → I w')
    (hland : ∀ {w} q, Corpus.keyOf q ∈ w.flights → I w → I (Corpus.landed q w)) (hw : I w)
    {front back : List World}
    (heq : w :: states = front ++ v :: (Corpus.receive q v).2 :: Corpus.landed q v :: back)
    (hflying : Corpus.keyOf q ∈ v.flights) : I v ∧ (Corpus.landed q v).Passes back := by
  have hdown : Corpus.keyOf q ∉ (Corpus.landed q v).flights := fun hmem ↦
    (Corpus.mem_flights_landed.1 hmem).2 rfl
  have hup : Corpus.keyOf q ∈ (Corpus.receive q v).2.flights := by rwa [Lore.flights_receive]
  induction h generalizing front with
  | done w =>
    have hlength := congrArg List.length heq
    simp only [List.length_cons, List.length_append, List.length_nil] at hlength
    omega
  | @step w w' rest h hrest ih =>
    cases front with
    | cons first front => exact ih (hstep h hw) (List.cons.inj heq).2
    | nil =>
      obtain ⟨rfl, rfl⟩ := List.cons.inj (List.cons.inj heq).2
      exact absurd (hrest.head_mem_flights hup) hdown
  | @land w rest q' h hrest ih =>
    match front with
    | first :: second :: front =>
      exact ih (hland q' h hw) (List.cons.inj (List.cons.inj heq).2).2
    | [first] =>
      obtain ⟨hreceive, rfl⟩ := List.cons.inj (List.cons.inj (List.cons.inj heq).2).2
      rw [← hreceive] at hup
      exact absurd (hrest.head_mem_flights hup) hdown
    | [] =>
      obtain ⟨rfl, heq⟩ := List.cons.inj heq
      obtain ⟨hreceive, heq⟩ := List.cons.inj heq
      obtain ⟨hlanded, rfl⟩ := List.cons.inj heq
      rw [← hlanded]
      exact ⟨hw, hrest⟩

end World

/-! ### The passages of reads -/

namespace Read

open World

variable {w : World}

theorem passes_next (rd : Read) (reply : Outcome Reply) (w : World) :
    Passes w ((rd.next reply).states w) := by
  cases rd with
  | pages => exact .done w
  | blocks page => exact .done w
  | templates =>
    rw [next]
    cases Corpus.toPages reply with
    | error fault => exact .done w
    | ok items => exact .step (.derive _) (.done _)

/-- A call takes more turns or lands. -/
theorem passes_fly (rd : Read) (turns : Nat) (h : Corpus.keyOf rd.query ∈ w.flights) :
    Passes w ((Job.pauses (Corpus.land rd.query rd.next) turns).states w) := by
  cases turns with
  | zero => exact .land rd.query h (rd.passes_next _ _)
  | succ turns => exact .done w

theorem passes_fetching (rd : Read) (w : World) : Passes w (rd.fetching.states w) := by
  rw [fetching, Corpus.read, Job.touch, Job.states, Job.states]
  refine .step (.ask rd.query) ?_
  cases hfound : (Corpus.cached rd.query w).1 with
  | some found => exact rd.passes_next _ _
  | none =>
    have hnone := Query.stamp_cached_of_none hfound
    generalize (Corpus.cached rd.query w).2 = w' at hnone
    rw [Job.states]
    by_cases hflight : Corpus.keyOf rd.query ∈ w'.flights
    · rw [if_pos (Corpus.isInFlight_iff.2 hflight)]
      exact .done w'
    · rw [if_neg fun hin ↦ hflight (Corpus.isInFlight_iff.1 hin)]
      exact .step (.begin rd.query hflight hnone) (rd.passes_fly _ List.mem_cons_self)

theorem passes_job (rd : Read) (w : World) :
    Passes w ((rd.operation.job .finish).states w) := by
  cases rd with
  | pages => exact Read.pages.passes_fetching w
  | blocks page => exact (Read.blocks page).passes_fetching w
  | templates =>
    rw [job_templates, Job.touch, Job.states, Job.states]
    refine .step .askTemplates ?_
    cases (w.cachedPages Cache.templatesKey).1 with
    | some items => exact .done _
    | none => exact Read.templates.passes_fetching _

end Read

/-- A turn takes the world through a passage when everything under way is for readers. -/
theorem Focus.Upholds.passes_turn {F : Focus} {trail : List World} {l : Session}
    (h : F.Upholds trail l) (place : Nat) : l.state.Passes (l.moveStates (.turn place)) := by
  obtain ⟨errands, waiting, h⟩ := h
  rw [Loop.moveStates]
  cases hturn : l.queue[place]? with
  | none => exact .done _
  | some turn =>
    obtain ⟨hlt, rfl⟩ := List.getElem?_eq_some_iff.1 hturn
    obtain ⟨e, rest, he, h⟩ := h.takeOut (List.getElem_cons_eraseIdx_perm hlt).symm
    rw [Option.map_some, Option.getD_some, ← he]
    cases e with
    | fly r turns => exact r.read.passes_fly turns (h.mem_flights (.head _) rfl)
    | hear r reply => exact .done _
    | go r reply => exact r.read.passes_next reply _

/-! ### Changes that are told -/

/-- The read whose answer is kept for a query. -/
def Query.read : Query → Read
  | .pages => .pages
  | .blocks page => .blocks page

namespace Query

variable {q : Query} {c : Cache}

theorem stamp_forget_none (h : q.stamp c = none) (change : Cache.Change) :
    q.stamp (c.forget change) = none :=
  stamp_none_of_subset h (fun _ ↦ Cache.mem_of_mem_forget_pages) fun _ ↦
    Cache.mem_of_mem_forget_blocks

/-- A call to forget what does not concern an answer leaves it in the cache. -/
theorem stamp_forget_of_not_covers {change : Cache.Change} (h : ¬change.Covers q.read) :
    q.stamp (c.forget change) = q.stamp c := by
  have hkey {p n : String} (hne : ¬Text.lowered p = Text.lowered n) :
      Cache.blocksKey n ≠ Cache.blocksKey p := fun heq ↦ hne ((Cache.blocksKey_eq_iff ..).1 heq).symm
  cases change with
  | everything => exact absurd trivial h
  | page name =>
    cases q with
    | pages => exact absurd trivial h
    | blocks p =>
      cases name with
      | none => rfl
      | some n =>
        exact congrArg (Option.map _) (Store.find?_erase (hkey fun heq ↦ h ⟨n, rfl, heq⟩))
  | block name =>
    cases q with
    | pages => cases name <;> rfl
    | blocks p =>
      cases name with
      | none => exact absurd trivial h
      | some n => exact congrArg (Option.map _) (Store.find?_erase (hkey h))

end Query

end OutlineSearch
