import OutlineSearch.Proofs.Search.Listing

/-!
# Searching after the provider has failed

While the provider fails, searches go on with what they can get. What the cache then keeps of
listings and outlines is what the graph holds, but it also keeps the results that have been found
with parts of the graph missing. So once the provider has recovered, a search answers like on a fresh
corpus unless such results are kept for it.
-/

namespace OutlineSearch

open OutlineSearch.Task OutlineSearch.Search OutlineSearch.Engine

/-- What happens while the provider falters on a graph: searches, and changes of what fails. -/
inductive Troubled (g : Graph) : Move World String (Outcome Reply) → Prop where
  | search (client : Nat) (arguments : Value) :
    Troubled g (.ask client ((Operation.search arguments).job .finish))
  | change (client : Nat) (change : Provider → Outcome Provider)
    (h : ∀ p p', change p = .ok p' → p'.Falters g) :
    Troubled g (.ask client ((Operation.edit change).job .finish))
  | advance (client : Nat) (seconds : Binary64) :
    Troubled g (.ask client ((Operation.advance seconds).job .finish))
  | turn (place : Nat) : Troubled g (.turn place)

/-- The world with another provider at another time. -/
def World.recover (w : World) (p : Provider) (clock : Binary64) : World :=
  { w with provider := p, clock }

namespace Lore

variable {L : Lore}

/-- An edit keeps to the lore if the edited provider is one that it knows. -/
theorem safe_edit {change : Provider → Outcome Provider}
    (h : ∀ p p', change p = .ok p' → L.provider p') :
    L.Safe (fun _ ↦ True) ((Operation.edit change).job .finish) := by
  refine safe_touch (fun w hw ↦ ?_) fun _ _ ↦ safe_finish trivial
  unfold editGraph
  cases hchange : change w.provider with
  | ok p =>
    exact ⟨⟨h _ p hchange, hw.settings, hw.today, hw.pages, hw.templates, hw.blocks, hw.results⟩,
      rfl⟩
  | error fault => exact ⟨hw, rfl⟩

/-- What has been kept while the provider faltered is what the graph holds. -/
theorem Holds.recover {g : Graph} {s : Settings} {today : Date} {w : World}
    (hw : (Lore.faltering g (fun _ _ ↦ True) s today).Holds w) (p : Provider) (clock : Binary64) :
    ((w.recover p clock).lore g).Holds (w.recover p clock) where
  provider := .refl
  settings := rfl
  today := rfl
  pages e he hkey := (hw.pages e he hkey).resolve_right (by simp)
  templates e he hkey := by
    obtain ⟨items, hitems, hvalue⟩ := hw.templates e he hkey
    exact ⟨items, hitems.resolve_right (by simp), hvalue⟩
  blocks e he page hkey := (hw.blocks e he page hkey).resolve_right (by simp)
  results _ _ := trivial

end Lore

/-- A schedule of troubled moves on a fresh corpus. -/
theorem works_troubled {g : Graph} (hg : g.Regular) {w : World} (hw : w.cache = {})
    (hflights : w.flights = []) (hp : w.provider.Falters g)
    {moves : List (Move World String (Outcome Reply))} (hmoves : ∀ m ∈ moves, Troubled g m) :
    Loop.Works (Lore.faltering g (fun _ _ ↦ True) w.settings w.today).contract failed
      (fun _ _ ↦ True) (Loop.askers moves) (({ state := w } : Session).play failed moves) := by
  have hL : (Lore.faltering g (fun _ _ ↦ True) w.settings w.today).Fair := Lore.fair_faltering hg
  have hholds : (Lore.faltering g (fun _ _ ↦ True) w.settings w.today).Holds w := by
    refine ⟨hp, rfl, rfl, ?_, ?_, ?_, ?_⟩ <;> rw [hw] <;> intro e he <;> cases he
  have hidle : ({ state := w } : Session).Idle := ⟨rfl, rfl, rfl, rfl⟩
  have hworks : Loop.Works (Lore.faltering g (fun _ _ ↦ True) w.settings w.today).contract failed
      (fun _ _ ↦ True) [] ({ state := w } : Session) := hidle.works hholds hflights
  refine hworks.play fun client job hmem ↦ ?_
  generalize hm : Move.ask client job = m at hmem
  cases hmoves m hmem with
  | search client' arguments =>
    cases hm
    exact Lore.safe_search hL (fun _ _ ↦ trivial) arguments
  | change client' change h =>
    cases hm
    exact Lore.safe_edit h
  | advance client' seconds =>
    cases hm
    exact Lore.safe_advance seconds
  | turn place => cases hm

/-- After searches during which any calls have failed, and once the provider serves its graph again,
at any time: a search ends, and its answer is that of a fresh corpus unless the cache keeps a page of
results for it that is another one. -/
theorem answer_after_recovery {g : Graph} (hg : g.Regular) {w : World} (hw : w.cache = {})
    (hflights : w.flights = []) (hp : w.provider.Falters g)
    {moves : List (Move World String (Outcome Reply))} (hmoves : ∀ m ∈ moves, Troubled g m)
    (hrest : (({ state := w } : Session).play failed moves).AtRest) {p : Provider}
    (hserves : p.Serves g) (clock : Binary64) (arguments : Value) :
    let recovered := (({ state := w } : Session).play failed moves).state.recover p clock
    Returns recovered (.search arguments) ∧ Returns recovered.fresh (.search arguments) ∧
      ∀ r r₀, MayReturn recovered (.search arguments) r →
        MayReturn recovered.fresh (.search arguments) r₀ →
        (r.Agree r₀ ↔
          ∀ page, recovered.keptPage? arguments = some page → r₀ = .ok (.result page)) := by
  have hserved := (works_troubled hg hw hflights hp hmoves).served hrest
  exact agree_fresh_iff hg hserves (hserved.inv.recover p clock) hserved.flights arguments

/-! ### A listing that fails once -/

/-- The graph while its listing fails. -/
def silentPage : MemoryGraph :=
  { MemoryGraph.ofPage lonePage with pagesFault := some (.connection "down") }

theorem silentPage_falters : (Provider.memory silentPage).Falters (.ofPage lonePage) := by
  intro p hp
  obtain ⟨n, calls, rfl⟩ := Provider.memory_becomes hp
  exact ⟨.inr ⟨.connection "down", .inr rfl, rfl⟩, fun page ↦ .inl rfl⟩

/-- The world in which the listing fails. -/
def silentWorld : World := .around silentPage (.ofInt 1000) someDay

/-- An operation that somebody asks for as a move. -/
def asking (operation : Operation) : Move World String (Outcome Reply) :=
  .ask Loop.runner (operation.job .finish)

theorem play_asking (w : World) (operation : Operation) :
    ({ state := w } : Session).play failed [asking operation] = asked w operation := rfl

theorem recover_keepResults (g g' : MemoryGraph) (clock : Binary64) (today : Date) (key : String)
    (records : List Record) :
    ((World.around g clock today).keepResults key records).recover (.memory g') clock =
      (World.around g' clock today).keepResults key records := rfl

theorem fresh_keepResults (g : MemoryGraph) (clock : Binary64) (today : Date) (key : String)
    (records : List Record) :
    ((World.around g clock today).keepResults key records).fresh = .around g clock today := rfl

theorem asked_silentWorld {key : String} (hkey : SearchRequest.allPages.cacheKey = .ok key) :
    asked silentWorld (.search SearchRequest.allPagesArguments) =
      answering ((World.around silentPage.countPages (.ofInt 1000) someDay).keepResults key [])
        (.ok (.result (.ofRecords [] 0 20))) := by
  have hfails : silentPage.listPages = .error (.connection "down") := rfl
  exact asked_allPages_failing hkey rfl hfails rfl

theorem rest_silentWorld : (asked silentWorld (.search SearchRequest.allPagesArguments)).AtRest := by
  obtain ⟨key, hkey⟩ := SearchRequest.cacheKey_allPages
  rw [asked_silentWorld hkey]
  rfl

theorem lonePage_after_recovery :
    let recovered := (({ state := silentWorld } : Session).play failed
      [asking (.search SearchRequest.allPagesArguments)]).state.recover (.memory (.ofPage lonePage))
        (.ofInt 1010)
    Returns recovered (.search SearchRequest.allPagesArguments) ∧
      Returns recovered.fresh (.search SearchRequest.allPagesArguments) ∧
      ∀ r r₀, MayReturn recovered (.search SearchRequest.allPagesArguments) r →
        MayReturn recovered.fresh (.search SearchRequest.allPagesArguments) r₀ →
        (r.Agree r₀ ↔ ∀ page, recovered.keptPage? SearchRequest.allPagesArguments = some page →
          r₀ = .ok (.result page)) := by
  refine answer_after_recovery (Graph.regular_ofPage lonePage) rfl rfl silentPage_falters (fun m hm ↦ ?_)
    (by rw [play_asking]; exact rest_silentWorld) (Provider.serves_ofPage lonePage) _ _
  obtain rfl := List.mem_singleton.1 hm
  exact .search _ _

/-- A search that is repeated after the provider has recovered need not answer like on a fresh
corpus: it finds again what it could not find before. -/
theorem not_agree_after_recovery :
    ¬ ∀ (g : Graph) (w : World) (p : Provider) (clock : Binary64) (arguments : Value),
      g.Regular → w.cache = {} → w.flights = [] → w.provider.Falters g → p.Serves g →
      (asked w (.search arguments)).AtRest → ∀ r r₀,
        MayReturn ((asked w (.search arguments)).state.recover p clock) (.search arguments) r →
        MayReturn ((asked w (.search arguments)).state.recover p clock).fresh
          (.search arguments) r₀ →
        r.Agree r₀ := by
  intro h
  obtain ⟨key, hkey⟩ := SearchRequest.cacheKey_allPages
  have hagree := h (.ofPage lonePage) silentWorld (.memory (.ofPage lonePage)) (.ofInt 1000)
    SearchRequest.allPagesArguments (Graph.regular_ofPage lonePage) rfl rfl silentPage_falters
    (Provider.serves_ofPage lonePage) rest_silentWorld (.ok (.result (.ofRecords [] 0 20)))
    (.ok (.result (.ofRecords [(Record.ofPage lonePage none).scored ""] 0 20)))
  have hrecovered : (asked silentWorld (.search SearchRequest.allPagesArguments)).state.recover
      (.memory (.ofPage lonePage)) (.ofInt 1000) =
        (World.around (.ofPage lonePage) (.ofInt 1000) someDay).keepResults key [] := by
    rw [asked_silentWorld hkey]
    exact recover_keepResults ..
  have hkept : (((World.around (.ofPage lonePage) (.ofInt 1000) someDay).keepResults key []).cachedResults
      key).1 = some [] := World.cachedResults_keepResults _ _ _ (by decide +kernel)
  have hlisting : (MemoryGraph.ofPage lonePage).listPages = .ok [lonePage] := rfl
  rw [hrecovered, fresh_keepResults] at hagree
  have hagree := hagree (mayReturn_of_answering (asked_allPages_kept rfl hkey hkept))
    (mayReturn_of_answering (asked_allPages_serving hkey hlisting rfl))
  cases hagree

end OutlineSearch
