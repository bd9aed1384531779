import OutlineSearch.Proofs.Corpus.Serving
import OutlineSearch.Proofs.Engine.Asking
import OutlineSearch.Proofs.Search.Steady

/-!
# What a search answers

A search that is asked for where the cache keeps to what the graph holds answers with a page of the
records that the cache has for it, or else with what a search on the graph itself answers.
-/

namespace OutlineSearch

open OutlineSearch.Task OutlineSearch.Search OutlineSearch.Engine

/-- The page of the records that the cache has for a search. -/
def World.keptPage? (w : World) (arguments : Value) : Option SearchResult :=
  match prepared (SearchRequest.ofArguments (.ofSettings w.settings) arguments) with
  | .error _ => none
  | .ok (r, offset, key) =>
    (w.cachedResults key).1.map fun records => SearchResult.ofRecords records offset r.limit

/-- What a search answers on a graph that stands still. -/
def Search.onGraph (s : Settings) (today : Date) (g : Graph) (arguments : Value) :
    Outcome SearchResult :=
  (prepared (SearchRequest.ofArguments (.ofSettings s) arguments)).bind fun (r, offset, _) =>
    (r.runRecords ⟨s, today⟩ g).map fun records => SearchResult.ofRecords records offset r.limit

namespace Search

/-- What a search in a world answers: a page that the cache has, or what it answers on the graph. -/
def Answers (g : Graph) (w : World) (arguments : Value) (reply : Outcome Reply) : Prop :=
  match w.keptPage? arguments with
  | some page => reply = .ok (.result page)
  | none => reply.Agree ((onGraph w.settings w.today g arguments).map .result)

section

variable {g : Graph} {w : World} {arguments : Value} {r : SearchRequest} {offset : Nat}
  {key : String}

theorem keptPage?_of_prepared
    (h : prepared (SearchRequest.ofArguments (.ofSettings w.settings) arguments) =
      .ok (r, offset, key)) :
    w.keptPage? arguments =
      (w.cachedResults key).1.map fun records => SearchResult.ofRecords records offset r.limit := by
  rw [World.keptPage?, h]

theorem keptPage?_of_fault {fault : Fault}
    (h : prepared (SearchRequest.ofArguments (.ofSettings w.settings) arguments) = .error fault) :
    w.keptPage? arguments = none := by
  rw [World.keptPage?, h]

theorem onGraph_of_prepared {s : Settings} {today : Date}
    (h : prepared (SearchRequest.ofArguments (.ofSettings s) arguments) = .ok (r, offset, key)) :
    onGraph s today g arguments =
      (r.runRecords ⟨s, today⟩ g).map fun records => SearchResult.ofRecords records offset r.limit := by
  rw [onGraph, h]
  rfl

/-- A request whose results the cache has is answered with a page of them. -/
theorem answers_of_kept
    (h : prepared (SearchRequest.ofArguments (.ofSettings w.settings) arguments) =
      .ok (r, offset, key)) {records : List Record}
    (hrecords : (w.cachedResults key).1 = some records) :
    Answers g w arguments (.ok (.result (.ofRecords records offset r.limit))) := by
  have hpage : w.keptPage? arguments = some (.ofRecords records offset r.limit) := by
    rw [keptPage?_of_prepared h, hrecords, Option.map_some]
  rw [Answers, hpage]

/-- A request whose results the cache does not have is answered like on the graph. -/
theorem answers_of_found
    (h : prepared (SearchRequest.ofArguments (.ofSettings w.settings) arguments) =
      .ok (r, offset, key)) (hnone : (w.cachedResults key).1 = none)
    {o : Outcome (List Record)} (ho : o.Agree (r.runRecords w.evaluator g)) :
    Answers g w arguments
      ((o.map fun records => SearchResult.ofRecords records offset r.limit).map .result) := by
  have hpage : w.keptPage? arguments = none := by
    rw [keptPage?_of_prepared h, hnone, Option.map_none]
  rw [Answers, hpage]
  dsimp only
  rw [onGraph_of_prepared h]
  exact (ho.map _).map _

/-- Arguments that are no request are answered with their fault. -/
theorem answers_of_fault {fault : Fault}
    (h : prepared (SearchRequest.ofArguments (.ofSettings w.settings) arguments) = .error fault) :
    Answers g w arguments (.error fault) := by
  have hgraph : onGraph w.settings w.today g arguments = .error fault := by
    rw [onGraph, h]
    rfl
  rw [Answers, keptPage?_of_fault h]
  dsimp only
  rw [hgraph]
  exact .refl _

/-- A search whose request can be answered is the answer to that request. -/
theorem asked_search_of_prepared
    (h : prepared (SearchRequest.ofArguments (.ofSettings w.settings) arguments) =
      .ok (r, offset, key)) :
    asked w (.search arguments) =
      Loop.perform (.client Loop.runner) (answer r offset key fun r => .finish (r.map .result))
        { state := w } := by
  rw [asked, Operation.job, execute, Loop.perform, executeRead_eq, h]

theorem asked_search_of_fault {fault : Fault}
    (h : prepared (SearchRequest.ofArguments (.ofSettings w.settings) arguments) = .error fault) :
    asked w (.search arguments) = answering w (.error fault) := by
  rw [asked, Operation.job, execute, Loop.perform, executeRead_eq, h]
  rfl

/-- A search that something is kept for is answered with it at once. -/
theorem asked_search_of_kept
    (h : prepared (SearchRequest.ofArguments (.ofSettings w.settings) arguments) =
      .ok (r, offset, key)) {records : List Record}
    (hrecords : (w.cachedResults key).1 = some records) :
    asked w (.search arguments) =
      answering (w.cachedResults key).2 (.ok (.result (.ofRecords records offset r.limit))) := by
  rw [asked_search_of_prepared h, answer, Job.touch, Loop.perform, Loop.perform]
  simp only [hrecords]
  rfl

/-- A search that nothing is kept for finds its records and keeps them. -/
theorem asked_search_of_none
    (h : prepared (SearchRequest.ofArguments (.ofSettings w.settings) arguments) =
      .ok (r, offset, key)) (hnone : (w.cachedResults key).1 = none) :
    asked w (.search arguments) =
      Loop.perform (.client Loop.runner)
        (r.recordsJob (w.cachedResults key).2.evaluator fun
          | .error fault => .finish (.error fault)
          | .ok records =>
            .change (·.keepResults key records)
              (handOut offset r.limit (fun r => .finish (r.map .result)) records))
        { state := (w.cachedResults key).2 } := by
  rw [asked_search_of_prepared h, answer, Job.touch, Loop.perform, Loop.perform]
  simp only [hnone, Loop.perform]
  rfl

end

/-- In a world that keeps to what the graph holds, a search answers what it should, if what it finds
on the graph may be kept for it. -/
theorem sound_search {L : Lore} {g : Graph} (hL : L.Fair) (hg : L.Exact g) (arguments : Value)
    (hresults : ∀ r offset key records,
      prepared (SearchRequest.ofArguments (.ofSettings L.settings) arguments) = .ok (r, offset, key) →
      r.runRecords L.evaluator g = .ok records → L.results key records)
    {w : World} (hw : L.Holds w) :
    Sound L.contract failed (Answers g w arguments) .none
      ((Engine.Operation.search arguments).job .finish) w := by
  refine sound_execute hw ?_
  rw [← hw.settings] at hresults ⊢
  cases hprepared : prepared (SearchRequest.ofArguments (.ofSettings w.settings) arguments) with
  | error fault => exact .finish hw (answers_of_fault hprepared)
  | ok p =>
    obtain ⟨r, offset, key⟩ := p
    refine sound_answer hL hw
      (fun records hrecords ↦ Lore.safe_finish (answers_of_kept hprepared hrecords))
      fun hnone found hfound ↦ ?_
    have hagree := SearchRequest.arranged_agree hL hg hfound
    rw [← hw.evaluator] at hagree hresults
    have hanswers := answers_of_found hprepared hnone hagree
    cases harranged : r.arranged found with
    | ok records =>
      rw [harranged] at hanswers hagree
      exact ⟨hresults r offset key records hprepared hagree.eq_ok, Lore.safe_finish hanswers⟩
    | error fault =>
      rw [harranged] at hanswers
      exact Lore.safe_finish hanswers

end Search

/-- A search keeps to a lore in which anything may be kept for searches. -/
theorem Lore.safe_search {L : Lore} (hL : L.Fair) (hresults : ∀ key records, L.results key records)
    (arguments : Value) :
    L.Safe (fun _ ↦ True) ((Engine.Operation.search arguments).job .finish) := by
  intro w hw
  refine Search.sound_execute hw ?_
  cases hprepared : prepared (SearchRequest.ofArguments (.ofSettings L.settings) arguments) with
  | error fault => exact .finish hw trivial
  | ok p =>
    obtain ⟨r, offset, key⟩ := p
    refine sound_answer hL hw (fun records _ ↦ safe_finish trivial) fun _ found _ ↦ ?_
    cases r.arranged found with
    | ok records => exact ⟨hresults key records, safe_finish trivial⟩
    | error fault => exact safe_finish trivial

/-! ### Against a fresh corpus -/

/-- The world with a fresh corpus: nothing is cached and nothing is on its way. -/
def World.fresh (w : World) : World := { w with cache := {}, flights := [] }

theorem Lore.exact_exactly (g : Graph) (results : String → List Record → Prop) (p : Provider)
    (s : Settings) (today : Date) : (Lore.exactly g results p s today).Exact g.told :=
  ⟨fun _ ↦ Iff.rfl, fun _ _ ↦ Iff.rfl⟩

/-- What may be said in a world whose provider serves a graph, anything being kept for a search. -/
def World.lore (w : World) (g : Graph) : Lore :=
  .exactly g (fun _ _ ↦ True) w.provider w.settings w.today

theorem World.holds_fresh (w : World) (g : Graph) : (w.lore g).Holds w.fresh := by
  refine ⟨.refl, rfl, rfl, fun e he ↦ ?_, fun e he ↦ ?_, fun e he ↦ ?_, fun e he ↦ ?_⟩ <;> cases he

theorem World.keptPage?_fresh (w : World) (arguments : Value) :
    w.fresh.keptPage? arguments = none := by
  unfold World.keptPage?
  split
  · rfl
  · rfl

namespace Search

open Engine

variable {g : Graph} {w : World}

/-- In a world that keeps to what the graph holds a search ends, and so does it on a fresh corpus.
The answers agree unless a page of results is kept for the search that is another one. -/
theorem agree_fresh_iff (hg : g.Regular) (hp : w.provider.Serves g) (hw : (w.lore g).Holds w)
    (hflights : w.flights = []) (arguments : Value) :
    Returns w (.search arguments) ∧ Returns w.fresh (.search arguments) ∧
      ∀ r r₀, MayReturn w (.search arguments) r → MayReturn w.fresh (.search arguments) r₀ →
        (r.Agree r₀ ↔ ∀ page, w.keptPage? arguments = some page → r₀ = .ok (.result page)) := by
  have hL : (w.lore g).Fair := Lore.fair_exactly hg hp
  have hexact : (w.lore g).Exact g.told := Lore.exact_exactly ..
  have hsettles := settles_asked hw hflights
    (sound_search hL hexact arguments (fun _ _ _ _ _ _ ↦ trivial) hw)
  have hsettlesFresh := settles_asked (w.holds_fresh g) rfl
    (sound_search hL hexact arguments (fun _ _ _ _ _ _ ↦ trivial) (w.holds_fresh g))
  refine ⟨hsettles.mono fun l ⟨r, hr, _⟩ ↦ ⟨r, hr⟩, hsettlesFresh.mono fun l ⟨r, hr, _⟩ ↦ ⟨r, hr⟩,
    fun r r₀ hr hr₀ ↦ ?_⟩
  have hanswer := MayReturn.of_settles hsettles hr
  have hanswerFresh := MayReturn.of_settles hsettlesFresh hr₀
  unfold Answers at hanswer hanswerFresh
  rw [w.keptPage?_fresh arguments] at hanswerFresh
  change r₀.Agree ((onGraph w.settings w.today g.told arguments).map .result) at hanswerFresh
  cases hpage : w.keptPage? arguments with
  | none =>
    rw [hpage] at hanswer
    constructor
    · intro _ page hpage'
      cases hpage'
    · exact fun _ ↦ hanswer.trans hanswerFresh.symm
  | some page =>
    rw [hpage] at hanswer
    obtain rfl := hanswer
    constructor
    · intro hagree page' hpage'
      cases hpage'
      cases hagree with
      | ok => rfl
    · intro heq
      rw [heq page rfl]

end Search

end OutlineSearch
