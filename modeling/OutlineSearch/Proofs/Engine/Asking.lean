import OutlineSearch.Engine.Session
import OutlineSearch.Proofs.Corpus.Reading
import OutlineSearch.Proofs.Task.View

/-!
# Asking for operations

An operation is asked for by itself, or by one of many clients between whom turns are taken in any
order. By itself it may return what it returns in some order of the turns, and comes to an end with
that result and leaves a world behind. One that is answered at once has one end only.
-/

namespace OutlineSearch

open OutlineSearch.Task

namespace Task.Loop

variable {σ κ ρ : Type}

theorem exists_answer? {l : Loop σ κ ρ} {n : Nat} {r : ρ} (h : (n, r) ∈ l.answers) :
    ∃ r', l.answer? n = some r' ∧ (n, r') ∈ l.answers := by
  unfold answer?
  cases hfind : l.answers.find? fun a => a.1 == n with
  | none => simpa using List.find?_eq_none.1 hfind _ h
  | some a =>
    obtain ⟨m, r'⟩ := a
    obtain rfl : m = n := by simpa using List.find?_some hfind
    exact ⟨r', rfl, List.mem_of_find?_eq_some hfind⟩

end Task.Loop

namespace Engine

/-- The session in a world in which an operation is asked for by itself. -/
def asked (w : World) (operation : Operation) : Session :=
  Loop.perform (.client Loop.runner) (operation.job .finish) { state := w }

/-- An operation that is asked for by itself may end with a result, in some order of the turns. -/
def MayReturn (w : World) (operation : Operation) (r : Outcome Reply) : Prop :=
  ∃ places : List Nat, ((asked w operation).play failed (places.map .turn)).AtRest ∧
    ((asked w operation).play failed (places.map .turn)).answer? Loop.runner = some r

/-- An operation that is asked for by itself may leave a world behind, in some order of the turns. -/
def MayLeave (w : World) (operation : Operation) (w' : World) : Prop :=
  ∃ places : List Nat, ((asked w operation).play failed (places.map .turn)).AtRest ∧
    ((asked w operation).play failed (places.map .turn)).state = w'

/-- Whatever turn comes next, an operation that is asked for by itself ends, with some result. -/
def Returns (w : World) (operation : Operation) : Prop :=
  (asked w operation).Settles failed fun l => ∃ r, l.answer? Loop.runner = some r

/-- An operation that keeps to the contract from a world on is served. -/
theorem served_asked {L : Lore} {w : World} (hw : L.Holds w) (hflights : w.flights = [])
    {operation : Operation} {post : Outcome Reply → Prop}
    (h : Sound L.contract failed post .none (operation.job .finish) w) :
    (asked w operation).Settles failed
      (Loop.Served L.contract (fun _ ↦ post) [Loop.runner]) := by
  have hidle : ({ state := w } : Session).Idle := ⟨rfl, rfl, rfl, rfl⟩
  have hworks : Loop.Works L.contract failed (fun _ ↦ post) [] { state := w } :=
    hidle.works hw hflights
  have hasked : Loop.Works L.contract failed (fun _ ↦ post) [Loop.runner] (asked w operation) :=
    hworks.ask h
  exact hasked.settles

/-- An operation that keeps to the contract from a world on ends, with a result as wanted. -/
theorem settles_asked {L : Lore} {w : World} (hw : L.Holds w) (hflights : w.flights = [])
    {operation : Operation} {post : Outcome Reply → Prop}
    (h : Sound L.contract failed post .none (operation.job .finish) w) :
    (asked w operation).Settles failed fun l => ∃ r, l.answer? Loop.runner = some r ∧ post r := by
  refine (served_asked hw hflights h).mono fun l hl ↦ ?_
  obtain ⟨r, hr⟩ := hl.answered Loop.runner (by simp)
  obtain ⟨r', hr', hmem⟩ := Loop.exists_answer? hr
  exact ⟨r', hr', hl.wanted _ hmem⟩

/-- An operation that keeps to the contract leaves worlds that do. -/
theorem MayLeave.holds {L : Lore} {w w' : World} (hw : L.Holds w) (hflights : w.flights = [])
    {operation : Operation} {post : Outcome Reply → Prop}
    (h : Sound L.contract failed post .none (operation.job .finish) w)
    (hleave : MayLeave w operation w') : L.Holds w' ∧ w'.flights = [] := by
  obtain ⟨places, hrest, rfl⟩ := hleave
  have hserved := (served_asked hw hflights h).of_play places hrest
  exact ⟨hserved.inv, hserved.flights⟩

/-- The session in which the runner has been answered, and nothing is under way. -/
def answering (w : World) (reply : Outcome Reply) : Session :=
  { state := w, answers := [(Loop.runner, reply)] }

section

variable {w w' w'' : World} {operation : Operation} {reply : Outcome Reply}

theorem mayReturn_of_answering (h : asked w operation = answering w' reply) :
    MayReturn w operation reply := by
  refine ⟨[], ?_, ?_⟩
  · rw [h]
    rfl
  · rw [h]
    rfl

theorem mayLeave_of_answering (h : asked w operation = answering w' reply) :
    MayLeave w operation w' := by
  refine ⟨[], ?_, ?_⟩
  · rw [h]
    rfl
  · rw [h]
    rfl

/-- An operation that ends at once leaves one world only. -/
theorem MayLeave.eq_of_answering (hleave : MayLeave w operation w'')
    (h : asked w operation = answering w' reply) : w'' = w' := by
  obtain ⟨places, hplaces, rfl⟩ := hleave
  have hrest : (asked w operation).AtRest := by
    rw [h]
    rfl
  have hsettles : (asked w operation).Settles failed (· = asked w operation) := .rest hrest rfl
  rw [hsettles.of_play places hplaces, h]
  rfl

end

/-- What an operation may return is what it returns whatever turn comes next. -/
theorem MayReturn.of_settles {w : World} {operation : Operation} {post : Outcome Reply → Prop}
    (h : (asked w operation).Settles failed fun l =>
      ∃ r, l.answer? Loop.runner = some r ∧ post r)
    {r : Outcome Reply} (hr : MayReturn w operation r) : post r := by
  obtain ⟨places, hrest, hanswer⟩ := hr
  obtain ⟨r', hr', hpost⟩ := h.of_play places hrest
  obtain rfl := Option.some.inj (hanswer.symm.trans hr')
  exact hpost

/-- What returns may return something. -/
theorem Returns.exists {w : World} {operation : Operation} (h : Returns w operation) :
    ∃ r, MayReturn w operation r := by
  obtain ⟨places, hrest⟩ := h.exists_play
  obtain ⟨r, hr⟩ := h.of_play places hrest
  exact ⟨r, places, hrest, hr⟩

/-- An operation that keeps to the contract returns, and only what is wanted. -/
theorem returns_asked {L : Lore} {w : World} (hw : L.Holds w) (hflights : w.flights = [])
    {operation : Operation} {post : Outcome Reply → Prop}
    (h : Sound L.contract failed post .none (operation.job .finish) w) :
    Returns w operation ∧ ∀ r, MayReturn w operation r → post r := by
  have hsettles := settles_asked hw hflights h
  refine ⟨hsettles.mono fun l hl ↦ ?_, fun r hr ↦ MayReturn.of_settles hsettles hr⟩
  obtain ⟨r, hr, -⟩ := hl
  exact ⟨r, hr⟩

end Engine

/-! ### Other operations -/

namespace Lore

variable {L : Lore}

theorem safe_pagesOperation (hL : L.Fair) :
    L.Safe (fun _ ↦ True) (Engine.Operation.pages.job .finish) :=
  safe_pages hL fun _ _ ↦ safe_finish trivial

theorem safe_templatesOperation (hL : L.Fair) :
    L.Safe (fun _ ↦ True) (Engine.Operation.templates.job .finish) := by
  change L.Safe _ (Corpus.templates fun r => .finish (r.map .pages))
  exact safe_templates hL fun _ _ ↦ safe_finish trivial

theorem safe_blocksOperation (hL : L.Fair) (page : String) :
    L.Safe (fun _ ↦ True) ((Engine.Operation.blocks page).job .finish) :=
  safe_blocks hL fun _ _ ↦ safe_finish trivial

theorem safe_forget (kind identifier : Value) :
    L.Safe (fun _ ↦ True) ((Engine.Operation.forget kind identifier).job .finish) := by
  rw [Engine.Operation.job, Engine.forgetJob]
  split
  · exact safe_finish trivial
  · exact safe_change (fun _ hw ↦ ⟨hw.forget _, rfl⟩) (safe_finish trivial)

theorem safe_advance (seconds : Binary64) :
    L.Safe (fun _ ↦ True) ((Engine.Operation.advance seconds).job .finish) :=
  safe_change (fun _ hw ↦ ⟨hw.advance seconds, rfl⟩) (safe_finish trivial)

end Lore

/-! ### Many clients -/

open Engine

/-- What happens on a corpus: a client asks for an operation, or a turn is taken. -/
inductive Event where
  | ask (client : Nat) (operation : Operation)
  | turn (place : Nat)

namespace Event

/-- The move of the loop for an event. -/
def move : Event → Move World String (Outcome Reply)
  | ask client operation => .ask client (operation.job .finish)
  | turn place => .turn place

/-- The client who asks. -/
def client? : Event → Option Nat
  | ask client _ => some client
  | turn _ => none

end Event

/-- The session after some more events. -/
def Engine.Session.after (l : Session) (events : List Event) : Session :=
  Loop.play failed l (events.map Event.move)

/-- The session after some events on a corpus. -/
def World.after (w : World) (events : List Event) : Session := Session.after { state := w } events

/-- A client with a number of its own has asked for one operation only. -/
theorem operation_eq {events : List Event} (h : (events.filterMap Event.client?).Nodup)
    {client : Nat} {a b : Operation} (ha : .ask client a ∈ events) (hb : .ask client b ∈ events) :
    a = b := by
  induction events with
  | nil => cases ha
  | cons e events ih =>
    have hmem {o : Operation} (ho : .ask client o ∈ events) :
        client ∈ events.filterMap Event.client? := List.mem_filterMap.2 ⟨_, ho, rfl⟩
    cases e with
    | turn place =>
      exact ih h ((List.mem_cons.1 ha).resolve_left (by simp))
        ((List.mem_cons.1 hb).resolve_left (by simp))
    | ask n o =>
      change (n :: events.filterMap Event.client?).Nodup at h
      rw [List.nodup_cons] at h
      rcases List.mem_cons.1 ha with ha' | ha'
      · rcases List.mem_cons.1 hb with hb' | hb'
        · cases ha'
          cases hb'
          rfl
        · cases ha'
          exact absurd (hmem hb') h.1
      · rcases List.mem_cons.1 hb with hb' | hb'
        · cases hb'
          exact absurd (hmem ha') h.1
        · exact ih h.2 ha' hb'

theorem mem_askers {events : List Event} {client : Nat} {operation : Operation}
    (h : .ask client operation ∈ events) :
    client ∈ Loop.askers (events.map Event.move) :=
  List.mem_filterMap.2 ⟨_, List.mem_map_of_mem h, rfl⟩

end OutlineSearch

/-! ### Operations that come to an end -/

namespace OutlineSearch.Engine

open OutlineSearch.Task

variable {w w' w'' : World} {operation : Operation} {reply reply' : Outcome Reply}

/-- An operation that is asked for by itself may end with a result and leave a world behind, in some
order of the turns. -/
def MayEnd (w : World) (operation : Operation) (reply : Outcome Reply) (w' : World) : Prop :=
  ∃ places : List Nat, ((asked w operation).play failed (places.map .turn)).AtRest ∧
    ((asked w operation).play failed (places.map .turn)).answer? Loop.runner = some reply ∧
    ((asked w operation).play failed (places.map .turn)).state = w'

theorem MayEnd.mayReturn (h : MayEnd w operation reply w') : MayReturn w operation reply :=
  let ⟨places, hrest, hreply, _⟩ := h
  ⟨places, hrest, hreply⟩

theorem MayEnd.mayLeave (h : MayEnd w operation reply w') : MayLeave w operation w' :=
  let ⟨places, hrest, _, hstate⟩ := h
  ⟨places, hrest, hstate⟩

/-- An operation whose job minds a view of its own leaves it as wanted. -/
theorem MayEnd.wanted {α : Type} {φ : World → α} {wanted : Outcome Reply → α → Prop}
    (h : MayEnd w operation reply w') {job : EngineJob}
    (hasked : asked w operation = Loop.perform (.client Loop.runner) job { state := w })
    (hjob : job.Minds φ wanted true (φ w)) : wanted reply (φ w') := by
  obtain ⟨places, -, hreply, rfl⟩ := h
  rw [hasked] at hreply ⊢
  have hidle : ({ state := w } : Session).Idle := ⟨rfl, rfl, rfl, rfl⟩
  obtain ⟨hminds, hclaims⟩ := Loop.Minds.of_idle hidle
  exact ((hminds.ask hclaims hjob).play fun n job hmem ↦ by simp at hmem).answer hreply

theorem mayEnd_of_answering (h : asked w operation = answering w' reply) :
    MayEnd w operation reply w' := by
  refine ⟨[], ?_, ?_, ?_⟩
  all_goals
    rw [h]
    rfl

theorem settles_of_answering (h : asked w operation = answering w' reply) :
    (asked w operation).Settles failed (· = answering w' reply) := by
  rw [h]
  exact .rest rfl rfl

theorem returns_of_answering (h : asked w operation = answering w' reply) : Returns w operation :=
  (settles_of_answering h).mono fun _ hl ↦ ⟨reply, hl ▸ rfl⟩

theorem MayReturn.eq_of_answering (hreply : MayReturn w operation reply')
    (h : asked w operation = answering w' reply) : reply' = reply := by
  have hsettles : (asked w operation).Settles failed fun l =>
      ∃ r, l.answer? Loop.runner = some r ∧ r = reply :=
    (settles_of_answering h).mono fun _ hl ↦ ⟨reply, hl ▸ rfl, rfl⟩
  exact hreply.of_settles hsettles

end OutlineSearch.Engine
