import OutlineSearch.Proofs.Engine.Asking
import OutlineSearch.Proofs.Search.Finding
import OutlineSearch.Proofs.Task.Trail

/-!
# Ordinary operations

What somebody does who uses a corpus: read, search, edit the graph, make the cache forget, wait. Such an
operation comes to an end in whichever order turns are taken, whatever the provider answers and the
cache keeps: a job that waits for a flight is never left alone, since the flight is owed by a job that
is due.
-/

namespace OutlineSearch

open OutlineSearch.Task OutlineSearch.Search OutlineSearch.Engine

namespace Engine

/-- An operation of somebody who uses a corpus: a read, a search, an edit of the graph or of what fails
in it, a call to forget, or a wait. -/
inductive Operation.Ordinary : Operation → Prop where
  | pages : Ordinary .pages
  | templates : Ordinary .templates
  | blocks (page : String) : Ordinary (.blocks page)
  | search (arguments : Value) : Ordinary (.search arguments)
  | searchRequest (request : SearchRequest) : Ordinary (.searchRequest request)
  | edit (change : Provider → Outcome Provider) : Ordinary (.edit change)
  | forget (kind identifier : Value) : Ordinary (.forget kind identifier)
  | advance (seconds : Binary64) (h : (Binary64.finite 0).atMost seconds = true) :
    Ordinary (.advance seconds)

end Engine

/-! ### Jobs that bring their flights to an end -/

/-- The contract that asks nothing but that flights come to an end. -/
def landing : Contract World String (Outcome Reply) where
  inv _ := True
  told _ _ := True
  flights := World.flights

/-- A job without debts that brings its flights to an end wherever it begins. -/
def Lands (job : EngineJob) : Prop := ∀ w, Sound landing failed (fun _ ↦ True) .none job w

namespace Lands

theorem finish (r : Outcome Reply) : Lands (.finish r) := fun _ ↦ .finish trivial trivial

theorem look {next : World → EngineJob} (h : ∀ w, Lands (next w)) : Lands (.look next) :=
  fun w ↦ .look (h w w)

theorem change {f : World → World} {next : EngineJob} (hf : ∀ w, (f w).flights = w.flights)
    (h : Lands next) : Lands (.change f next) :=
  fun w ↦ .change (hf w) (h _)

theorem touch {α : Type} {f : World → α × World} {next : α → EngineJob}
    (hf : ∀ w, (f w).2.flights = w.flights) (h : ∀ a, Lands (next a)) : Lands (.touch f next) :=
  fun w ↦ .look (.change (hf w) (h _ _))

theorem fork {members : List EngineJob}
    {next : Except (Outcome Reply) (List (Outcome Reply)) → EngineJob}
    (hmembers : ∀ m ∈ members, Lands m) (h : ∀ r, Lands (next r)) : Lands (.fork members next) :=
  fun _ ↦ .fork trivial (fun _ _ ↦ True)
    (fun _ m hm w _ ↦ hmembers m (List.mem_of_getElem? hm) w) (fun _ _ _ w _ ↦ h _ w)
    fun _ _ _ _ w _ ↦ h _ w

/-- A fetch owes its landing, for as many turns as it takes. -/
theorem sound_flying {q : Query} {next : Outcome Reply → EngineJob} (h : ∀ r, Lands (next r))
    (turns : Nat) {w : World} (hkey : Corpus.keyOf q ∈ w.flights) :
    Sound landing failed (fun _ ↦ True) (.flying (Corpus.keyOf q))
      (.pauses (Corpus.land q next) turns) w := by
  induction turns generalizing w with
  | zero =>
    refine .look (.change (Lore.flights_receive q w) (.touchDown ?_ (.settle trivial (h _ _))))
    exact Lore.perm_touchDown (by rwa [Lore.flights_receive])
  | succ turns ih => exact .pause trivial (by simp) fun w' _ hflying ↦ ih (hflying _ rfl)

theorem read {q : Query} {next : Outcome Reply → EngineJob} (h : ∀ r, Lands (next r)) :
    Lands (Corpus.read q next) := by
  refine touch (Lore.flights_cached q) fun found ↦ ?_
  cases found with
  | some found => exact h _
  | none =>
    intro w
    by_cases hflight : Corpus.keyOf q ∈ w.flights
    · refine .look ?_
      rw [World.isInFlight, if_pos (List.contains_iff_mem.2 hflight)]
      exact .await trivial hflight fun r _ w _ ↦ h r w
    · refine .look ?_
      rw [World.isInFlight, if_neg fun hmem ↦ hflight (List.contains_iff_mem.1 hmem)]
      exact .takeOff hflight rfl (.look (sound_flying h _ List.mem_cons_self))

theorem pages {next : Outcome (List Page) → EngineJob} (h : ∀ r, Lands (next r)) :
    Lands (Corpus.pages next) :=
  read fun _ ↦ h _

theorem blocks {page : String} {next : Outcome (List Block) → EngineJob}
    (h : ∀ r, Lands (next r)) : Lands (Corpus.blocks page next) :=
  read fun _ ↦ h _

theorem templates {next : Outcome (List Page) → EngineJob} (h : ∀ r, Lands (next r)) :
    Lands (Corpus.templates next) := by
  refine touch (fun _ ↦ rfl) fun found ↦ ?_
  cases found with
  | some items => exact h _
  | none =>
    refine pages fun listing ↦ ?_
    cases listing with
    | error fault => exact h _
    | ok items => exact change (fun _ ↦ rfl) (h _)

theorem trees {names : List String} {next : Outcome (List (Option (List Block))) → EngineJob}
    (h : ∀ r, Lands (next r)) : Lands (Corpus.trees names next) := by
  refine fork (fun m hm ↦ ?_) fun r ↦ ?_
  · obtain ⟨name, -, rfl⟩ := List.mem_map.1 hm
    exact blocks fun r ↦ finish _
  · rcases r with (_ | _) | _ <;> exact h _

theorem script {α : Type} {next : Outcome α → EngineJob} (h : ∀ r, Lands (next r)) (s : Script α) :
    Lands (s.job next) := by
  induction s with
  | done r => exact h r
  | pages step ih => exact pages ih
  | templates step ih => exact templates ih
  | blocks page step ih => exact blocks ih
  | trees names step ih => exact trees ih

mutual

theorem expression (e : Evaluator) (target : Target) (scope : Option Scope) :
    (expr : Expr) → (strict : Bool) → {next : Outcome (List Record) → EngineJob} →
    (∀ r, Lands (next r)) → Lands (e.job target scope strict next expr)
  | .atom _, _, _, h => script h _
  | .all operands, _, _, h => by
    rw [Evaluator.job]
    exact fork (operands_land e target scope operands) fun _ ↦ h _
  | .any operands, _, _, h => by
    rw [Evaluator.job]
    exact fork (operands_land e target scope operands) fun _ ↦ h _

theorem operands_land (e : Evaluator) (target : Target) (scope : Option Scope) :
    (operands : List Expr) → ∀ m ∈ e.jobs target scope operands, Lands m
  | [] => List.forall_mem_nil _
  | operand :: rest => List.forall_mem_cons.2
    ⟨expression e target scope operand false fun _ ↦ finish _, operands_land e target scope rest⟩

end

theorem recordsJob (e : Evaluator) (r : SearchRequest) {next : Outcome (List Record) → EngineJob}
    (h : ∀ r, Lands (next r)) : Lands (r.recordsJob e next) := by
  unfold SearchRequest.recordsJob
  split
  · exact script (fun _ ↦ h _) _
  · exact expression _ _ _ _ _ fun _ ↦ h _

theorem executeRead {next : Outcome SearchResult → EngineJob} (h : ∀ r, Lands (next r))
    (request : Outcome SearchRequest) : Lands (Search.executeRead next request) := by
  rw [executeRead_eq]
  split
  · exact h _
  · refine touch (fun _ ↦ rfl) fun found ↦ ?_
    cases found with
    | some records => exact h _
    | none =>
      refine look fun w ↦ recordsJob _ _ fun found ↦ ?_
      cases found with
      | error fault => exact h _
      | ok records => exact change (fun _ ↦ rfl) (h _)

/-- An ordinary operation brings its flights to an end. -/
theorem operation {operation : Operation} (ho : operation.Ordinary) :
    Lands (operation.job .finish) := by
  cases ho with
  | pages => exact pages fun _ ↦ finish _
  | templates => exact templates fun _ ↦ finish _
  | blocks page => exact blocks fun _ ↦ finish _
  | search arguments => exact look fun w ↦ executeRead (fun _ ↦ finish _) _
  | searchRequest request => exact look fun w ↦ executeRead (fun _ ↦ finish _) _
  | edit change =>
    refine touch (fun w ↦ ?_) fun _ ↦ finish _
    unfold editGraph
    cases change w.provider <;> rfl
  | forget kind identifier =>
    rw [Operation.job, forgetJob]
    split
    · exact finish _
    · exact change (fun _ ↦ rfl) (finish _)
  | advance seconds => exact change (fun _ ↦ rfl) (finish _)

end Lands

namespace Engine

variable {w : World} {operation : Operation}

/-- An ordinary operation that is asked for by itself ends with a result, and with no flight under
way. -/
theorem Operation.Ordinary.settles (ho : operation.Ordinary) (hflights : w.flights = []) :
    (asked w operation).Settles failed fun l =>
      (∃ r, l.answer? Loop.runner = some r) ∧ l.state.flights = [] := by
  have hidle : ({ state := w } : Session).Idle := ⟨rfl, rfl, rfl, rfl⟩
  have hworks : Loop.Works landing failed (fun _ _ ↦ True) [] { state := w } :=
    hidle.works trivial hflights
  have hasked : Loop.Works landing failed (fun _ _ ↦ True) [Loop.runner] (asked w operation) :=
    hworks.ask (Lands.operation ho w)
  refine hasked.settles.mono fun l hl ↦ ?_
  obtain ⟨r, hr⟩ := hl.answered Loop.runner (by simp)
  obtain ⟨r, hr, -⟩ := Loop.exists_answer? hr
  exact ⟨⟨r, hr⟩, hl.flights⟩

/-! ### One operation after the other -/

/-- An operation that is asked for by itself, and the turns that are taken then, as moves. -/
def moves (operation : Operation) (places : List Nat) : List (Move World String (Outcome Reply)) :=
  .ask Loop.runner (operation.job .finish) :: places.map .turn

/-- The session after an operation has been asked for by itself and some turns have been taken. -/
def played (w : World) (operation : Operation) (places : List Nat) : Session :=
  ({ state := w } : Session).play failed (moves operation places)

/-- The states that the world meanwhile goes through. -/
def passage (w : World) (operation : Operation) (places : List Nat) : List World :=
  ({ state := w } : Session).trail failed (moves operation places)

end Engine

/-- The runs of somebody who uses a corpus: the states that the world has gone through since the
start, and the one in which it is. -/
inductive World.Lives (start : World) : List World → World → Prop where
  | start : Lives start [start] start
  | operation {run : List World} {w : World} (h : Lives start run w) {operation : Operation}
    (ho : operation.Ordinary) (places : List Nat) (hrest : (played w operation places).AtRest) :
    Lives start (run ++ passage w operation places) (played w operation places).state

namespace World.Lives

variable {start w : World} {run : List World}

theorem getLast_eq (h : start.Lives run w) : run.getLast? = some w := by
  induction h with
  | start => rfl
  | @operation run w h operation ho places hrest ih =>
    obtain ⟨front, rfl⟩ := List.getLast?_eq_some_iff.1 ih
    have hlast : (w :: passage w operation places).getLast? =
        some (played w operation places).state :=
      Loop.getLast_trail failed ({ state := w } : Session) (moves operation places)
    rw [List.append_assoc, List.singleton_append, List.getLast?_append, hlast, Option.some_or]

/-- What an operation makes of a run begins where the run has ended. -/
theorem passage_isInfix (h : start.Lives run w) (operation : Operation) (places : List Nat) :
    w :: passage w operation places <:+: run ++ passage w operation places := by
  obtain ⟨front, rfl⟩ := List.getLast?_eq_some_iff.1 h.getLast_eq
  rw [List.append_assoc, List.singleton_append]
  exact (List.suffix_append front _).isInfix

/-- After each operation of a run no flight is under way. -/
theorem flights_eq (hflights : start.flights = []) (h : start.Lives run w) : w.flights = [] := by
  induction h with
  | start => exact hflights
  | operation h ho places hrest ih => exact ((ho.settles ih).of_play places hrest).2

/-- Every operation in a run returns. -/
theorem returns (hflights : start.flights = []) (h : start.Lives run w) {operation : Operation}
    (ho : operation.Ordinary) : Returns w operation :=
  (ho.settles (h.flights_eq hflights)).mono fun _ hl ↦ hl.1

end World.Lives

end OutlineSearch
