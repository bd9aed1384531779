import OutlineSearch.Proofs.Search.Alike
import OutlineSearch.Proofs.Search.Listing

/-!
# The cache does not show

While the provider serves one graph, whatever the cache has kept is what the graph holds, and what it
has kept for a search is what each request under its key finds on the graph. So in every schedule of
searches, reads, calls to forget and advances of the clock, a search answers like the same search by
itself on a fresh corpus.
-/

namespace OutlineSearch

open OutlineSearch.Task OutlineSearch.Search OutlineSearch.Engine

/-- The events that leave the graph as it is: searches, reads of the corpus, calls to forget, advances
of the clock, and turns. -/
inductive Event.Still : Event → Prop where
  | search (client : Nat) (arguments : Value) : Still (.ask client (.search arguments))
  | pages (client : Nat) : Still (.ask client .pages)
  | templates (client : Nat) : Still (.ask client .templates)
  | blocks (client : Nat) (page : String) : Still (.ask client (.blocks page))
  | forget (client : Nat) (kind identifier : Value) : Still (.ask client (.forget kind identifier))
  | advance (client : Nat) (seconds : Binary64) : Still (.ask client (.advance seconds))
  | turn (place : Nat) : Still (.turn place)

/-- The arguments of the searches that are asked for are plain, their requests can be answered on the
graph without a comparison that fails, and the digest tells the texts of their shapes apart. -/
structure Orderly (s : Settings) (today : Date) (g : Graph) (asked : Value → Prop) : Prop where
  plain : ∀ a, asked a → SearchRequest.PlainArguments (.ofSettings s) a
  comparable : ∀ a r, asked a → SearchRequest.ofArguments (.ofSettings s) a = .ok r →
    r.Comparable ⟨s, today⟩ g.told
  digest : ∀ a a' r r' t t', asked a → asked a' →
    SearchRequest.ofArguments (.ofSettings s) a = .ok r →
    SearchRequest.ofArguments (.ofSettings s) a' = .ok r' →
    r.shapeText = .ok t → r'.shapeText = .ok t' →
    SearchRequest.digest t = SearchRequest.digest t' → t = t'

theorem prepared_eq_ok {o : Outcome SearchRequest} {r : SearchRequest} {offset : Nat} {key : String}
    (h : prepared o = .ok (r, offset, key)) : o = .ok r ∧ r.cacheKey = .ok key := by
  cases o with
  | error fault => cases h
  | ok q =>
    change (q.offset.bind fun offset => q.cacheKey.map fun key => (q, offset, key)) = _ at h
    cases hoffset : q.offset with
    | error fault =>
      rw [hoffset] at h
      cases h
    | ok m =>
      cases hkey : q.cacheKey with
      | error fault =>
        rw [hoffset, hkey] at h
        cases h
      | ok k =>
        rw [hoffset, hkey] at h
        cases h
        exact ⟨rfl, hkey⟩

section

variable {s : Settings} {today : Date} {g : Graph} {asked : Value → Prop}

/-- Requests under one key find the same on the graph. -/
theorem Orderly.runRecords_eq (h : Orderly s today g asked) {a a' : Value} (ha : asked a)
    (ha' : asked a') {r r' : SearchRequest} {offset offset' : Nat} {key : String}
    (hr : prepared (SearchRequest.ofArguments (.ofSettings s) a) = .ok (r, offset, key))
    (hr' : prepared (SearchRequest.ofArguments (.ofSettings s) a') = .ok (r', offset', key)) :
    r.runRecords ⟨s, today⟩ g.told = r'.runRecords ⟨s, today⟩ g.told := by
  obtain ⟨hread, hkey⟩ := prepared_eq_ok hr
  obtain ⟨hread', hkey'⟩ := prepared_eq_ok hr'
  have halike : r.Alike r' := SearchRequest.alike_of_cacheKey hkey hkey'
    (SearchRequest.plain_filter (h.plain a ha) hread)
    (SearchRequest.plain_filter (h.plain a' ha') hread')
    fun t t' ht ht' ↦ h.digest a a' r r' t t' ha ha' hread hread' ht ht'
  exact halike.runRecords_eq (h.comparable a r ha hread) (h.comparable a' r' ha' hread')

/-- What may be said of a graph that stands still while some searches are asked for: only what it
holds, and for each of these searches only what it finds there. -/
def Lore.still (g : Graph) (asked : Value → Prop) (p : Provider) (s : Settings) (today : Date) :
    Lore :=
  .exactly g (fun key records ↦ ∀ a r offset, asked a →
    prepared (SearchRequest.ofArguments (.ofSettings s) a) = .ok (r, offset, key) →
    r.runRecords ⟨s, today⟩ g.told = .ok records) p s today

variable {p : Provider} {w : World} {arguments : Value}

/-- What a search answers in such a world is what it answers on the graph. -/
theorem Answers.agree_onGraph (hw : (Lore.still g asked p s today).Holds w)
    (ha : asked arguments) {reply : Outcome Reply} (h : Answers g.told w arguments reply) :
    reply.Agree ((onGraph s today g.told arguments).map .result) := by
  have hsettings : w.settings = s := hw.settings
  have htoday : w.today = today := hw.today
  rw [Answers, hsettings, htoday] at h
  cases hprepared : prepared (SearchRequest.ofArguments (.ofSettings s) arguments) with
  | error fault => rwa [keptPage?_of_fault (by rwa [hsettings])] at h
  | ok found =>
    obtain ⟨r, offset, key⟩ := found
    rw [keptPage?_of_prepared (by rwa [hsettings])] at h
    cases hrecords : (w.cachedResults key).1 with
    | none => rwa [hrecords, Option.map_none] at h
    | some records =>
      rw [hrecords, Option.map_some] at h
      obtain ⟨e, he, hkey, hvalue⟩ := Store.mem_of_get hrecords
      have hkept := hw.results e he arguments r offset ha (by rw [hprepared, hkey])
      have hgraph : onGraph s today g.told arguments =
          .ok (SearchResult.ofRecords records offset r.limit) := by
        rw [onGraph_of_prepared hprepared, hkept, hvalue]
        rfl
      rw [h, hgraph]
      exact .ok _

end

/-- A corpus that is fresh at some time, with a provider of the graph. -/
def World.freshWith (w : World) (p : Provider) (clock : Binary64) : World :=
  { w with provider := p, clock, cache := {}, flights := [] }

/-- A search by itself on a fresh corpus ends, and answers what it answers on the graph. -/
theorem agree_of_fresh {g : Graph} (hg : g.Regular) {w : World} {p : Provider} (hp : p.Serves g)
    (clock : Binary64) (arguments : Value) :
    Returns (w.freshWith p clock) (.search arguments) ∧
      ∀ r, MayReturn (w.freshWith p clock) (.search arguments) r →
        r.Agree ((onGraph w.settings w.today g.told arguments).map .result) := by
  have hholds : ((w.freshWith p clock).lore g).Holds (w.freshWith p clock) :=
    (w.freshWith p clock).holds_fresh g
  have hsettles := settles_asked hholds rfl (sound_search (Lore.fair_exactly hg hp)
    (Lore.exact_exactly ..) arguments (fun _ _ _ _ _ _ ↦ trivial) hholds)
  refine ⟨hsettles.mono fun l ⟨r, hr, _⟩ ↦ ⟨r, hr⟩, fun r hr ↦ ?_⟩
  have hanswer := MayReturn.of_settles hsettles hr
  unfold Answers at hanswer
  rwa [show (w.freshWith p clock).keptPage? arguments = none from
    (w.freshWith p clock).keptPage?_fresh arguments] at hanswer

section

variable {g : Graph} {w : World} {events : List Event}

/-- The arguments of the searches that are asked for. -/
def Asked (events : List Event) (arguments : Value) : Prop :=
  ∃ client, .ask client (.search arguments) ∈ events

/-- What a client is answered. -/
def Wanted (g : Graph) (w : World) (events : List Event) (client : Nat) (reply : Outcome Reply) :
    Prop :=
  ∀ arguments, .ask client (.search arguments) ∈ events →
    reply.Agree ((onGraph w.settings w.today g.told arguments).map .result)

/-- A client who asks for something else than a search wants nothing of the answer. -/
theorem wanted_of_other (hclients : (events.filterMap Event.client?).Nodup) {client : Nat}
    {operation : Operation} (hmem : .ask client operation ∈ events)
    (hother : ∀ arguments, operation ≠ .search arguments) (reply : Outcome Reply) :
    Wanted g w events client reply :=
  fun arguments hsearch ↦ absurd (operation_eq hclients hmem hsearch) (hother arguments)

/-- A search among some others keeps to what may be said of the graph, and answers like on it. -/
theorem safe_searchStill (hg : g.Regular) (hp : w.provider.Serves g)
    (hclients : (events.filterMap Event.client?).Nodup)
    (hasked : Orderly w.settings w.today g (Asked events)) {client : Nat} {arguments : Value}
    (hmem : .ask client (.search arguments) ∈ events) :
    (Lore.still g (Asked events) w.provider w.settings w.today).Safe (Wanted g w events client)
      ((Operation.search arguments).job .finish) := by
  intro w' hw'
  have hthis : Asked events arguments := ⟨client, hmem⟩
  have hL : (Lore.still g (Asked events) w.provider w.settings w.today).Fair :=
    Lore.fair_exactly hg hp
  refine (sound_search hL (Lore.exact_exactly ..) arguments ?_ hw').mono ?_
  · intro r offset key records hr hrecords a r' offset' ha hr'
    rw [← hrecords]
    exact hasked.runRecords_eq ha hthis hr' hr
  · intro reply hreply arguments' hmem'
    obtain rfl : arguments = arguments' := by simpa using operation_eq hclients hmem hmem'
    exact Answers.agree_onGraph hw' hthis hreply

/-- Where searches keep to what may be said, so does a schedule of events that leave the graph as it
is. -/
theorem works_of_safe {L : Lore} (hL : L.Fair) (hholds : L.Holds w) (hflights : w.flights = [])
    (hevents : ∀ e ∈ events, e.Still) {wanted : Nat → Outcome Reply → Prop}
    (hsearch : ∀ client arguments, .ask client (.search arguments) ∈ events →
      L.Safe (wanted client) ((Operation.search arguments).job .finish))
    (hother : ∀ client operation reply, .ask client operation ∈ events →
      (∀ arguments, operation ≠ .search arguments) → wanted client reply) :
    Loop.Works L.contract failed wanted (Loop.askers (events.map Event.move)) (w.after events) := by
  have hidle : ({ state := w } : Session).Idle := ⟨rfl, rfl, rfl, rfl⟩
  have hworks : Loop.Works L.contract failed wanted [] ({ state := w } : Session) :=
    hidle.works hholds hflights
  refine hworks.play fun client job hjob w' hw' ↦ ?_
  obtain ⟨e, he, hmove⟩ := List.mem_map.1 hjob
  cases hevents e he with
  | search n arguments =>
    cases hmove
    exact hsearch _ arguments he w' hw'
  | pages n =>
    cases hmove
    exact (Lore.safe_pagesOperation hL w' hw').mono fun reply _ ↦ hother _ .pages reply he (by simp)
  | templates n =>
    cases hmove
    exact (Lore.safe_templatesOperation hL w' hw').mono fun reply _ ↦
      hother _ .templates reply he (by simp)
  | blocks n page =>
    cases hmove
    exact (Lore.safe_blocksOperation hL page w' hw').mono fun reply _ ↦
      hother _ (.blocks page) reply he (by simp)
  | forget n kind identifier =>
    cases hmove
    exact (Lore.safe_forget kind identifier w' hw').mono fun reply _ ↦
      hother _ (.forget kind identifier) reply he (by simp)
  | advance n seconds =>
    cases hmove
    exact (Lore.safe_advance seconds w' hw').mono fun reply _ ↦
      hother _ (.advance seconds) reply he (by simp)
  | turn place => cases hmove

/-- On a fresh corpus nothing is kept that may not be said. -/
theorem Lore.holds_exactly (hcache : w.cache = {}) (results : String → List Record → Prop) :
    (Lore.exactly g results w.provider w.settings w.today).Holds w := by
  refine ⟨.refl, rfl, rfl, ?_, ?_, ?_, ?_⟩ <;> rw [hcache] <;> intro e he <;> cases he

/-- A schedule of events that leave the graph as it is keeps to what may be said of it. -/
theorem works_still (hg : g.Regular) (hcache : w.cache = {}) (hflights : w.flights = [])
    (hp : w.provider.Serves g) (hevents : ∀ e ∈ events, e.Still)
    (hclients : (events.filterMap Event.client?).Nodup)
    (hasked : Orderly w.settings w.today g (Asked events)) :
    Loop.Works (Lore.still g (Asked events) w.provider w.settings w.today).contract failed
      (Wanted g w events) (Loop.askers (events.map Event.move)) (w.after events) :=
  works_of_safe (Lore.fair_exactly hg hp) (Lore.holds_exactly hcache _) hflights hevents
    (fun _ _ hmem ↦ safe_searchStill hg hp hclients hasked hmem)
    fun _ _ reply hmem hother ↦ wanted_of_other hclients hmem hother reply

/-- While the graph stands still, whatever is asked for on a fresh corpus and whatever turns are
taken: in the end every search has an answer, and it is the answer of the same search by itself on a
fresh corpus, at whatever time. -/
theorem search_like_fresh (hg : g.Regular) (hcache : w.cache = {}) (hflights : w.flights = [])
    (hp : w.provider.Serves g) (hevents : ∀ e ∈ events, e.Still)
    (hclients : (events.filterMap Event.client?).Nodup)
    (hasked : Orderly w.settings w.today g (Asked events)) :
    (w.after events).Settles failed fun l =>
      ∀ client arguments, .ask client (.search arguments) ∈ events →
        ∃ r, l.answer? client = some r ∧ ∀ p clock, p.Serves g →
          Returns (w.freshWith p clock) (.search arguments) ∧
          ∀ r₀, MayReturn (w.freshWith p clock) (.search arguments) r₀ → r.Agree r₀ := by
  refine (works_still hg hcache hflights hp hevents hclients hasked).settles.mono
    fun l hl client arguments hmem ↦ ?_
  obtain ⟨r, hr⟩ := hl.answered client (mem_askers hmem)
  obtain ⟨r', hr', hanswer⟩ := Loop.exists_answer? hr
  have hagree : r'.Agree ((onGraph w.settings w.today g.told arguments).map .result) :=
    hl.wanted _ hanswer arguments hmem
  refine ⟨r', hr', fun p clock hserves ↦ ?_⟩
  obtain ⟨hreturns, hfresh⟩ := agree_of_fresh hg hserves clock arguments
  exact ⟨hreturns, fun r₀ hr₀ ↦ hagree.trans (hfresh r₀ hr₀).symm⟩

end

/-! ### Two searches with a call to forget between them -/

theorem SearchRequest.plainArguments_allPages {s : Settings}
    (h : Limits.ofSettings s = { default := some 20 }) :
    PlainArguments (.ofSettings s) allPagesArguments := by
  intro es settled hes hsettled
  cases hes
  rw [h] at hsettled
  have heq : settle { default := some 20 } [(.text "target", .text "pages")] =
      .valid [(.text "target", .text "pages"), (.text "limit", .int 20)] := by
    simp [settle, limitOf, cursorOf, Value.get, Value.lookup, Value.putText, Value.put,
      Value.text_equals_text, unwrapWithin, unwrap, Checked.map, Value.isNull]
  refine ⟨[("target", .text "pages"), ("limit", .int 20)], ⟨by simp [Json.Finite, Json.FiniteMembers],
    by simp [Json.Distinct, Json.DistinctMembers]⟩, ?_⟩
  exact (Checked.valid.inj (heq.symm.trans hsettled)).symm

/-- Searches for all pages of a graph with one page are orderly. -/
theorem orderly_allPages {s : Settings} (h : Limits.ofSettings s = { default := some 20 })
    (today : Date) (p : Page) {asked : Value → Prop}
    (hasked : ∀ a, asked a → a = SearchRequest.allPagesArguments) :
    Orderly s today (.ofPage p) asked where
  plain a ha := by
    rw [hasked a ha]
    exact SearchRequest.plainArguments_allPages h
  comparable a r ha hr := by
    rw [hasked a ha, SearchRequest.ofArguments_allPages s h] at hr
    cases hr
    intro records hrecords
    have hfound : SearchRequest.allPages.found ⟨s, today⟩ (Graph.ofPage p).told =
        .ok [Record.ofPage p none] := rfl
    obtain rfl := Except.ok.inj (hfound.symm.trans hrecords)
    have harranged := SearchRequest.arranged_allPages_singleton (Record.ofPage p none)
    change (SearchRequest.allPages.arrange [Record.ofPage p none]).mapError _ = _ at harranged
    cases harrange : SearchRequest.allPages.arrange [Record.ofPage p none] with
    | ok arranged => exact ⟨arranged, rfl⟩
    | error fault =>
      rw [harrange] at harranged
      cases harranged
  digest a a' r r' t t' ha ha' hr hr' ht ht' _ := by
    rw [hasked a ha, SearchRequest.ofArguments_allPages s h] at hr
    rw [hasked a' ha', SearchRequest.ofArguments_allPages s h] at hr'
    cases hr
    cases hr'
    exact Except.ok.inj (ht.symm.trans ht')

/-- Two clients search for all pages; between their searches a third one tells of an edit of the
page. -/
def twoSearches : List Event :=
  [.ask 0 (.search SearchRequest.allPagesArguments), .turn 0,
    .ask 1 (.forget (.text "page") (.text "a")), .ask 2 (.search SearchRequest.allPagesArguments)]

theorem still_twoSearches : ∀ e ∈ twoSearches, e.Still := by
  rw [twoSearches]
  simp only [List.forall_mem_cons]
  exact ⟨.search .., .turn _, .forget .., .search .., List.forall_mem_nil _⟩

theorem asked_twoSearches (a : Value) (h : Asked twoSearches a) :
    a = SearchRequest.allPagesArguments := by
  obtain ⟨client, hmem⟩ := h
  simp [twoSearches] at hmem
  rcases hmem with ⟨-, rfl⟩ | ⟨-, rfl⟩ <;> rfl

theorem twoSearches_like_fresh :
    ((World.around (.ofPage lonePage) (.ofInt 1000) someDay).after twoSearches).Settles failed
      fun l => ∀ client arguments, .ask client (.search arguments) ∈ twoSearches →
        ∃ r, l.answer? client = some r ∧ ∀ p clock, p.Serves (.ofPage lonePage) →
          Returns ((World.around (.ofPage lonePage) (.ofInt 1000) someDay).freshWith p clock)
            (.search arguments) ∧
          ∀ r₀, MayReturn ((World.around (.ofPage lonePage) (.ofInt 1000) someDay).freshWith p clock)
            (.search arguments) r₀ → r.Agree r₀ :=
  search_like_fresh (Graph.regular_ofPage lonePage) rfl rfl (Provider.serves_ofPage lonePage)
    still_twoSearches (by decide) (orderly_allPages rfl someDay lonePage asked_twoSearches)

end OutlineSearch
