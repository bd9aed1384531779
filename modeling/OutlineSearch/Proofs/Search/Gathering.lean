import OutlineSearch.Proofs.Corpus.Reading
import OutlineSearch.Proofs.Search.Finding
import OutlineSearch.Proofs.Task.Course

/-!
# Searching sources

What a script may end with when its reads draw on sources: the listing, the templates and the
outlines need not be of one graph, nor of one time, and a read may fail with any fault. So may what
an expression finds, and what a search answers, when the reads of its atomic filters draw on
sources.
-/

namespace OutlineSearch

open OutlineSearch.Task OutlineSearch.Search

/-! ### Sources of a script -/

/-- What the reads of a corpus may be told. -/
structure Sources where
  pages : Outcome (List Page) → Prop
  templates : Outcome (List Page) → Prop
  blocks : String → Outcome (List Block) → Prop

namespace Sources

/-- What a search may make of the outline of a page: nothing when the provider fails on it. -/
def tree (S : Sources) (page : String) : Option (List Block) → Prop
  | some items => S.blocks page (.ok items)
  | none => ∃ message, S.blocks page (.error (.provider message))

/-- What the member of a group that reads an outline may report. -/
def TreeReports (S : Sources) (page : String) (reply : Outcome Reply) : Prop :=
  (∃ tree, S.tree page tree ∧ reply = Lore.treeReply tree) ∨
    ∃ fault, S.blocks page (.error fault) ∧ (∀ message, fault ≠ .provider message) ∧
      reply = .error fault

variable {S : Sources} {page : String} {reply : Outcome Reply}

theorem treeReports_outlineOrNothing {r : Outcome (List Block)} (hr : S.blocks page r) :
    S.TreeReports page (Corpus.outlineOrNothing r) := by
  cases r with
  | ok items => exact .inl ⟨some items, hr, rfl⟩
  | error fault =>
    cases fault with
    | provider message => exact .inl ⟨none, ⟨message, hr⟩, rfl⟩
    | _ => exact .inr ⟨_, hr, by simp, rfl⟩

theorem TreeReports.of_not_failed (h : S.TreeReports page reply) (hfailed : failed reply = false) :
    S.tree page (Corpus.outline? reply) := by
  obtain ⟨tree, htree, rfl⟩ | ⟨fault, -, -, rfl⟩ := h
  · rwa [Lore.outline_treeReply]
  · cases hfailed

theorem TreeReports.of_failed (h : S.TreeReports page reply) (hfailed : failed reply = true) :
    ∃ fault, S.blocks page (.error fault) ∧ (∀ message, fault ≠ .provider message) ∧
      reply = .error fault := by
  obtain ⟨tree, -, rfl⟩ | h := h
  · cases hfailed
  · exact h

end Sources

/-- What a script may end with that draws on sources. -/
inductive Script.Draws (S : Sources) {α : Type} : Script α → Outcome α → Prop where
  | done (r : Outcome α) : Draws S (.done r) r
  | pages {next : Outcome (List Page) → Script α} {r : Outcome (List Page)} {o : Outcome α}
    (hr : S.pages r) (h : Draws S (next r) o) : Draws S (.pages next) o
  | templates {next : Outcome (List Page) → Script α} {r : Outcome (List Page)} {o : Outcome α}
    (hr : S.templates r) (h : Draws S (next r) o) : Draws S (.templates next) o
  | blocks {page : String} {next : Outcome (List Block) → Script α} {r : Outcome (List Block)}
    {o : Outcome α} (hr : S.blocks page r) (h : Draws S (next r) o) : Draws S (.blocks page next) o
  | trees {names : List String} {next : Outcome (List (Option (List Block))) → Script α}
    {found : List (Option (List Block))} {o : Outcome α} (hr : List.Forall₂ S.tree names found)
    (h : Draws S (next (.ok found)) o) : Draws S (.trees names next) o
  /-- One of the outlines could not be read for another reason than a failure of the provider. -/
  | treesFault {names : List String} {next : Outcome (List (Option (List Block))) → Script α}
    {page : String} {fault : Fault} {o : Outcome α} (hpage : page ∈ names)
    (hr : S.blocks page (.error fault)) (hfault : ∀ message, fault ≠ .provider message)
    (h : Draws S (next (.error fault)) o) : Draws S (.trees names next) o

namespace Task.Course

variable {C : Course World String (Outcome Reply)} {post : Outcome Reply → Prop}

/-- The reads of a run are told what its sources have. -/
structure Serves (C : Course World String (Outcome Reply)) (S : Sources) : Prop where
  pages : ∀ post next, (∀ r, S.pages r → C.Ready failed post (next r)) →
    C.Ready failed post (Corpus.pages next)
  templates : ∀ post next, (∀ r, S.templates r → C.Ready failed post (next r)) →
    C.Ready failed post (Corpus.templates next)
  blocks : ∀ post page next, (∀ r, S.blocks page r → C.Ready failed post (next r)) →
    C.Ready failed post (Corpus.blocks page next)

theorem ready_finish {r : Outcome Reply} (hr : post r) : C.Ready failed post (.finish r) :=
  fun _ hs ↦ .finish hs hr

variable {S : Sources}

namespace Serves

/-- A read of outlines side by side goes on with one tree for every page, or with a fault. -/
theorem ready_trees (hS : C.Serves S) {names : List String}
    {next : Outcome (List (Option (List Block))) → EngineJob}
    (h : ∀ found, List.Forall₂ S.tree names found → C.Ready failed post (next (.ok found)))
    (hfault : ∀ page ∈ names, ∀ fault, S.blocks page (.error fault) →
      (∀ message, fault ≠ .provider message) → C.Ready failed post (next (.error fault))) :
    C.Ready failed post (Corpus.trees names next) := by
  intro w hw
  refine .fork hw (fun i reply ↦ ∃ name, names[i]? = some name ∧ S.TreeReports name reply) ?_ ?_ ?_
  · intro i m hm
    rw [List.getElem?_map, Option.map_eq_some_iff] at hm
    obtain ⟨name, hname, rfl⟩ := hm
    exact hS.blocks _ name _ fun r hr ↦
      ready_finish ⟨name, hname, Sources.treeReports_outlineOrNothing hr⟩
  · intro replies hlength hreplies
    refine h _ (List.forall₂_iff_get.2 ⟨by simpa using hlength.symm, fun i hi hi' ↦ ?_⟩)
    have hi'' : i < replies.length := by simpa using hi'
    obtain ⟨⟨name, hname, hreports⟩, hfailed⟩ :=
      hreplies i replies[i] (List.getElem?_eq_getElem hi'')
    rw [List.getElem?_eq_getElem hi, Option.some.injEq] at hname
    simp only [List.get_eq_getElem, List.getElem_map, hname]
    exact hreports.of_not_failed hfailed
  · rintro i reply ⟨name, hname, hreports⟩ hfailed
    obtain ⟨fault, hblocks, hother, rfl⟩ := hreports.of_failed hfailed
    exact hfault name (List.mem_of_getElem? hname) fault hblocks hother

/-- The job of a script goes on with something that the script may end with. -/
theorem ready_script (hS : C.Serves S) {α : Type} {next : Outcome α → EngineJob} {s : Script α}
    (h : ∀ o, s.Draws S o → C.Ready failed post (next o)) : C.Ready failed post (s.job next) := by
  induction s with
  | done r => exact h r (.done r)
  | pages step ih => exact hS.pages _ _ fun r hr ↦ ih r fun o ho ↦ h o (.pages hr ho)
  | templates step ih => exact hS.templates _ _ fun r hr ↦ ih r fun o ho ↦ h o (.templates hr ho)
  | blocks page step ih => exact hS.blocks _ page _ fun r hr ↦ ih r fun o ho ↦ h o (.blocks hr ho)
  | trees names step ih =>
    refine hS.ready_trees (fun found hr ↦ ih _ fun o ho ↦ h o (.trees hr ho)) ?_
    exact fun page hpage fault hr hfault ↦ ih _ fun o ho ↦ h o (.treesFault hpage hr hfault ho)

end Serves

end Task.Course

/-! ### Searches -/

namespace Evaluator

/-- What an expression may find. The fault of a conjunction or a disjunction is that of the operand
that was the first to fail, which may be any of them. -/
inductive Gathers (S : Sources) (e : Evaluator) (target : Target) (scope : Option Scope) :
    Bool → Expr → Outcome (List Record) → Prop where
  | atom {strict : Bool} {text : String} {o : Outcome (List Record)}
    (h : (e.atom target scope strict text).Draws S o) :
    Gathers S e target scope strict (.atom text) o
  | all {strict : Bool} {operands : List Expr} {sets : List (List Record)}
    (h : List.Forall₂ (fun operand records =>
      Gathers S e target scope false operand (.ok records)) operands sets) :
    Gathers S e target scope strict (.all operands) (.ok (intersect sets))
  | any {strict : Bool} {operands : List Expr} {sets : List (List Record)}
    (h : List.Forall₂ (fun operand records =>
      Gathers S e target scope false operand (.ok records)) operands sets) :
    Gathers S e target scope strict (.any operands) (.ok (union sets))
  | allFault {strict : Bool} {operands : List Expr} {operand : Expr} {fault : Fault}
    (hmem : operand ∈ operands) (h : Gathers S e target scope false operand (.error fault)) :
    Gathers S e target scope strict (.all operands) (.error fault)
  | anyFault {strict : Bool} {operands : List Expr} {operand : Expr} {fault : Fault}
    (hmem : operand ∈ operands) (h : Gathers S e target scope false operand (.error fault)) :
    Gathers S e target scope strict (.any operands) (.error fault)

/-- What the member of a group for an operand may report. -/
def GatherReports (S : Sources) (e : Evaluator) (target : Target) (scope : Option Scope)
    (operand : Expr) (reply : Outcome Reply) : Prop :=
  ∃ o, Gathers S e target scope false operand o ∧ reply = o.map .records

/-- The replies of members that have not failed are the record sets of the operands. -/
theorem recordSets_of_gatherReports {S : Sources} {e : Evaluator} {target : Target}
    {scope : Option Scope} {operands : List Expr} {replies : List (Outcome Reply)}
    (h : List.Forall₂ (fun operand reply =>
      GatherReports S e target scope operand reply ∧ failed reply = false) operands replies) :
    ∃ sets, recordSets (.ok replies) = .ok sets ∧ List.Forall₂ (fun operand records =>
      Gathers S e target scope false operand (.ok records)) operands sets := by
  induction h with
  | nil => exact ⟨[], rfl, .nil⟩
  | @cons operand reply operands replies hfirst _ ih =>
    obtain ⟨⟨o, ho, rfl⟩, hfailed⟩ := hfirst
    obtain ⟨sets, hsets, hgathers⟩ := ih
    cases o with
    | error fault => cases hfailed
    | ok records =>
      refine ⟨records :: sets, ?_, .cons ho hgathers⟩
      simp only [recordSets, List.mapM_cons] at hsets ⊢
      rw [hsets]
      rfl

section

variable {C : Course World String (Outcome Reply)} {S : Sources} {post : Outcome Reply → Prop}
  {e : Evaluator} {target : Target} {scope : Option Scope}

/-- Members for operands that report what the operands may find make a group that goes on with the
record sets of all, or with the fault of one. -/
theorem ready_fork {operands : List Expr} {combine : List (List Record) → List Record}
    {next : Outcome (List Record) → EngineJob}
    (hmembers : ∀ operand ∈ operands, C.Ready failed (GatherReports S e target scope operand)
      (job e target scope false finishRecords operand))
    (hok : ∀ sets, List.Forall₂ (fun operand records =>
      Gathers S e target scope false operand (.ok records)) operands sets →
      C.Ready failed post (next (.ok (combine sets))))
    (herror : ∀ operand ∈ operands, ∀ fault, Gathers S e target scope false operand (.error fault) →
      C.Ready failed post (next (.error fault))) :
    C.Ready failed post (.fork (jobs e target scope operands) fun r =>
      next ((recordSets r).map combine)) := by
  intro w hw
  rw [jobs_eq_map]
  refine .fork hw (fun i reply ↦ ∃ operand, operands[i]? = some operand ∧
    GatherReports S e target scope operand reply) ?_ ?_ ?_
  · intro i m hm w' hw'
    rw [List.getElem?_map, Option.map_eq_some_iff] at hm
    obtain ⟨operand, hoperand, rfl⟩ := hm
    have hmember := hmembers operand (List.mem_of_getElem? hoperand) w' hw'
    exact hmember.mono fun reply hreply ↦ ⟨operand, hoperand, hreply⟩
  · intro replies hlength hreplies
    have hreports : List.Forall₂ (fun operand reply =>
        GatherReports S e target scope operand reply ∧ failed reply = false) operands replies := by
      refine List.forall₂_iff_get.2 ⟨by simpa using hlength.symm, fun i hi hi' ↦ ?_⟩
      obtain ⟨⟨operand, hoperand, hreports⟩, hfailed⟩ :=
        hreplies i replies[i] (List.getElem?_eq_getElem hi')
      rw [List.getElem?_eq_getElem hi, Option.some.injEq] at hoperand
      simp only [List.get_eq_getElem, hoperand]
      exact ⟨hreports, hfailed⟩
    obtain ⟨sets, hsets, hgathers⟩ := recordSets_of_gatherReports hreports
    rw [hsets]
    exact hok sets hgathers
  · rintro i reply ⟨operand, hoperand, o, ho, rfl⟩ hfailed
    cases o with
    | ok records => cases hfailed
    | error fault => exact herror operand (List.mem_of_getElem? hoperand) fault ho

mutual

/-- The job of an expression goes on with something that the expression may find. -/
theorem ready_job (hS : C.Serves S) (e : Evaluator) (target : Target) (scope : Option Scope) :
    (expr : Expr) → (strict : Bool) → {post : Outcome Reply → Prop} →
    {next : Outcome (List Record) → EngineJob} →
    (∀ o, Gathers S e target scope strict expr o → C.Ready failed post (next o)) →
    C.Ready failed post (e.job target scope strict next expr)
  | .atom _, _, _, _, h => hS.ready_script fun o ho ↦ h o (.atom ho)
  | .all operands, _, _, _, h => by
    rw [job]
    refine ready_fork (ready_operands hS e target scope operands) ?_ ?_
    · exact fun sets hsets ↦ h _ (.all hsets)
    · exact fun operand hmem fault hfault ↦ h _ (.allFault hmem hfault)
  | .any operands, _, _, _, h => by
    rw [job]
    refine ready_fork (ready_operands hS e target scope operands) ?_ ?_
    · exact fun sets hsets ↦ h _ (.any hsets)
    · exact fun operand hmem fault hfault ↦ h _ (.anyFault hmem hfault)

theorem ready_operands (hS : C.Serves S) (e : Evaluator) (target : Target) (scope : Option Scope) :
    (operands : List Expr) → ∀ operand ∈ operands,
      C.Ready failed (GatherReports S e target scope operand)
        (job e target scope false finishRecords operand)
  | [] => List.forall_mem_nil _
  | operand :: rest => List.forall_mem_cons.2
    ⟨ready_job hS e target scope operand false fun o ho ↦ Course.ready_finish ⟨o, ho, rfl⟩,
      ready_operands hS e target scope rest⟩

end

end

end Evaluator

namespace SearchRequest

/-- What a request may find before it is arranged. -/
@[irreducible] def Gathers (S : Sources) (e : Evaluator) (r : SearchRequest) (found : Outcome (List Record)) :
    Prop :=
  if r.trimmedQuery.isEmpty then (e.collect r.target r.scope).Draws S found
  else e.Gathers S r.target r.scope r.strict (Expr.parse r.trimmedQuery) found

/-- What the job that finds the records of a request goes on with. -/
theorem ready_recordsJob {C : Course World String (Outcome Reply)} {S : Sources} (hS : C.Serves S)
    {post : Outcome Reply → Prop} (r : SearchRequest) {e : Evaluator}
    {next : Outcome (List Record) → EngineJob}
    (h : ∀ found, r.Gathers S e found → C.Ready failed post (next (r.arranged found))) :
    C.Ready failed post (r.recordsJob e next) := by
  unfold recordsJob
  by_cases hempty : r.trimmedQuery.isEmpty
  · rw [if_pos hempty]
    refine hS.ready_script fun found hfound ↦ h found ?_
    rwa [Gathers, if_pos hempty]
  · rw [if_neg hempty]
    refine Evaluator.ready_job hS _ _ _ _ _ fun found hfound ↦ h found ?_
    rwa [Gathers, if_neg hempty]

end SearchRequest

end OutlineSearch
