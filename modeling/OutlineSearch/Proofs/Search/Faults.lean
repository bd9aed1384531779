import OutlineSearch.Proofs.Search.Finding
import Mathlib.Tactic.SplitIfs

/-!
# Faults of atomic filters

The faults of a script are those of its reads and its own. An atomic filter fails in three ways: the
provider fails, the filter is malformed, or something happens that is no search fault. Below the
root only the last of these is left.
-/

namespace OutlineSearch

/-- The faults that an atomic filter may end with before they are told. -/
inductive Fault.Usual : Fault → Prop where
  | provider (message : String) : Usual (.provider message)
  | badQuery (message : String) : Usual (.badQuery message)
  | other {fault : Fault} (h : fault.isSearchFault = false) : Usual fault

namespace Script

variable {α β : Type} {L : Lore}

/-- What a script that goes on with another one may end with. -/
theorem Yields.of_bind {s : Script α} {f : α → Script β} {o : Outcome β}
    (h : (s >>= f).Yields L o) :
    (∃ a, s.Yields L (.ok a) ∧ (f a).Yields L o) ∨
      ∃ fault, s.Yields L (.error fault) ∧ o = .error fault := by
  change (s.bind f).Yields L o at h
  induction s with
  | done r =>
    cases r with
    | ok a => exact .inl ⟨a, .done _, h⟩
    | error fault =>
      cases h
      exact .inr ⟨fault, .done _, rfl⟩
  | pages next ih =>
    cases h with
    | pages hr h =>
      exact (ih _ h).imp (fun ⟨a, ha, hf⟩ ↦ ⟨a, .pages hr ha, hf⟩)
        fun ⟨fault, hfault, ho⟩ ↦ ⟨fault, .pages hr hfault, ho⟩
  | templates next ih =>
    cases h with
    | templates hr h =>
      exact (ih _ h).imp (fun ⟨a, ha, hf⟩ ↦ ⟨a, .templates hr ha, hf⟩)
        fun ⟨fault, hfault, ho⟩ ↦ ⟨fault, .templates hr hfault, ho⟩
  | blocks page next ih =>
    cases h with
    | blocks hr h =>
      exact (ih _ h).imp (fun ⟨a, ha, hf⟩ ↦ ⟨a, .blocks hr ha, hf⟩)
        fun ⟨fault, hfault, ho⟩ ↦ ⟨fault, .blocks hr hfault, ho⟩
  | trees names next ih =>
    cases h with
    | trees hr h =>
      exact (ih _ h).imp (fun ⟨a, ha, hf⟩ ↦ ⟨a, .trees hr ha, hf⟩)
        fun ⟨fault, hfault, ho⟩ ↦ ⟨fault, .trees hr hfault, ho⟩

/-- What a script whose faults a handler ends may end with. -/
theorem Yields.of_rescue {s : Script α} {handler : Fault → Outcome α} {o : Outcome α}
    (h : (s.rescue handler).Yields L o) :
    (∃ a, s.Yields L (.ok a) ∧ o = .ok a) ∨
      ∃ fault, s.Yields L (.error fault) ∧ o = handler fault := by
  induction s with
  | done r =>
    cases r <;> cases h
    · exact .inr ⟨_, .done _, rfl⟩
    · exact .inl ⟨_, .done _, rfl⟩
  | pages next ih =>
    cases h with
    | pages hr h =>
      exact (ih _ h).imp (fun ⟨a, ha, ho⟩ ↦ ⟨a, .pages hr ha, ho⟩)
        fun ⟨fault, hfault, ho⟩ ↦ ⟨fault, .pages hr hfault, ho⟩
  | templates next ih =>
    cases h with
    | templates hr h =>
      exact (ih _ h).imp (fun ⟨a, ha, ho⟩ ↦ ⟨a, .templates hr ha, ho⟩)
        fun ⟨fault, hfault, ho⟩ ↦ ⟨fault, .templates hr hfault, ho⟩
  | blocks page next ih =>
    cases h with
    | blocks hr h =>
      exact (ih _ h).imp (fun ⟨a, ha, ho⟩ ↦ ⟨a, .blocks hr ha, ho⟩)
        fun ⟨fault, hfault, ho⟩ ↦ ⟨fault, .blocks hr hfault, ho⟩
  | trees names next ih =>
    cases h with
    | trees hr h =>
      exact (ih _ h).imp (fun ⟨a, ha, ho⟩ ↦ ⟨a, .trees hr ha, ho⟩)
        fun ⟨fault, hfault, ho⟩ ↦ ⟨fault, .trees hr hfault, ho⟩

/-- A script fails only with faults of a kind. -/
def FailsOnly (P : Fault → Prop) (L : Lore) (s : Script α) : Prop :=
  ∀ fault, s.Yields L (.error fault) → P fault

/-- A script fails only in the usual ways. -/
abbrev Usual (L : Lore) (s : Script α) : Prop := s.FailsOnly Fault.Usual L

variable {P : Fault → Prop}

theorem failsOnly_pure (a : α) : (pure a : Script α).FailsOnly P L := fun _ h ↦ nomatch h

theorem failsOnly_fail {fault : Fault} (h : P fault) : (fail fault : Script α).FailsOnly P L := by
  intro fault' hfault
  cases hfault
  exact h

theorem failsOnly_bind {s : Script α} {f : α → Script β} (hs : s.FailsOnly P L)
    (hf : ∀ a, (f a).FailsOnly P L) : (s >>= f).FailsOnly P L := by
  intro fault h
  rcases Yields.of_bind h with ⟨a, -, h⟩ | ⟨fault', h, heq⟩
  · exact hf a fault h
  · cases heq
    exact hs fault h

theorem failsOnly_map {s : Script α} {f : α → β} (hs : s.FailsOnly P L) : (f <$> s).FailsOnly P L :=
  failsOnly_bind hs fun a ↦ failsOnly_pure (f a)

/-! ### Reads fail with the faults of the provider -/

variable (hL : L.Fair) (hP : ∀ message, P (.provider message))

include hL hP

theorem failsOnly_allPages : allPages.FailsOnly P L := by
  intro fault h
  cases h with
  | pages hr h =>
    cases h
    obtain ⟨message, rfl⟩ := hL.pagesFault fault hr
    exact hP message

theorem failsOnly_allTemplates : allTemplates.FailsOnly P L := by
  intro fault h
  generalize ho : (Except.error fault : Outcome (List Page)) = o at h
  cases h with
  | @templates _ r _ hr h =>
    cases h
    cases r with
    | ok items => cases ho
    | error fault' =>
      cases ho
      obtain ⟨message, rfl⟩ := hL.pagesFault fault hr
      exact hP message

theorem failsOnly_outline (page : String) : (outline page).FailsOnly P L := by
  intro fault h
  cases h with
  | blocks hr h =>
    cases h
    obtain ⟨message, rfl⟩ := hL.blocksFault page fault hr
    exact hP message

omit hL hP in
theorem failsOnly_outlines (items : List Page) : (outlines items).FailsOnly P L := by
  intro fault h
  generalize ho : (Except.error fault : Outcome (List (Page × List Block))) = o at h
  cases h with
  | trees hr h =>
    cases h
    cases ho

end Script

/-- A token that names no period fails for a reason of the calendar. -/
theorem Period.usual_ofToken {token : String} {today : Date} {fault : Fault}
    (h : Period.ofToken token today = .error fault) : fault.Usual := by
  have hdays {n : Nat} {f : Date → Option Period}
      (h : (Period.daysBack today n).map f = .error fault) : fault.Usual := by
    unfold Period.daysBack at h
    split at h <;> cases h
    exact .other rfl
  have hmonths {n : Int} {f : Date → Option Period}
      (h : (Period.monthsBack today n).map f = .error fault) : fault.Usual := by
    unfold Period.monthsBack at h
    split at h <;> cases h
    · exact .other rfl
    · exact .other rfl
  unfold Period.ofToken at h
  simp only at h
  split_ifs at h
  · exact hdays h
  · exact hdays h
  · exact hmonths h

namespace Evaluator

open Script

section

variable {L : Lore} {P : Fault → Prop} (hL : L.Fair) (hP : ∀ message, P (.provider message))
  (e : Evaluator)

include hL hP

theorem failsOnly_scanPages (scope : Option Scope) : (e.scanPages scope).FailsOnly P L := by
  refine failsOnly_bind (failsOnly_allPages hL hP) fun pages ↦ ?_
  split <;> exact failsOnly_pure _

theorem failsOnly_scan (scope : Option Scope) : (e.scan scope).FailsOnly P L :=
  failsOnly_bind (failsOnly_scanPages hL hP e scope) fun pages ↦ failsOnly_outlines pages

theorem failsOnly_collectPages : collectPages.FailsOnly P L :=
  failsOnly_bind (failsOnly_allPages hL hP) fun _ ↦ failsOnly_pure _

theorem failsOnly_collectBlocks (scope : Option Scope) : (e.collectBlocks scope).FailsOnly P L :=
  failsOnly_bind (failsOnly_scan hL hP e scope) fun _ ↦ failsOnly_pure _

theorem failsOnly_collectTasks (scope : Option Scope) : (e.collectTasks scope).FailsOnly P L :=
  failsOnly_bind (failsOnly_scan hL hP e scope) fun _ ↦ failsOnly_pure _

theorem failsOnly_collectTemplates : e.collectTemplates.FailsOnly P L :=
  failsOnly_bind (failsOnly_allTemplates hL hP) fun _ ↦ failsOnly_pure _

theorem failsOnly_collectProperties (scope : Option Scope) :
    (e.collectProperties scope).FailsOnly P L :=
  failsOnly_bind (failsOnly_allPages hL hP) fun _ ↦
    failsOnly_bind (failsOnly_scan hL hP e scope) fun _ ↦ failsOnly_pure _

theorem failsOnly_collectTarget (target : Target) (scope : Option Scope) :
    (e.collectTarget target scope).FailsOnly P L := by
  cases target with
  | pages => exact failsOnly_collectPages hL hP
  | blocks => exact failsOnly_collectBlocks hL hP e scope
  | both =>
    exact failsOnly_bind (failsOnly_collectPages hL hP) fun _ ↦
      failsOnly_bind (failsOnly_collectBlocks hL hP e scope) fun _ ↦ failsOnly_pure _
  | templates => exact failsOnly_collectTemplates hL hP e
  | tasks => exact failsOnly_collectTasks hL hP e scope
  | properties => exact failsOnly_collectProperties hL hP e scope

theorem failsOnly_matchText (text : String) (target : Target) (scope : Option Scope) :
    (e.matchText text target scope).FailsOnly P L := by
  cases target with
  | pages => exact failsOnly_bind (failsOnly_collectPages hL hP) fun _ ↦ failsOnly_pure _
  | blocks => exact failsOnly_bind (failsOnly_collectBlocks hL hP e scope) fun _ ↦ failsOnly_pure _
  | both =>
    exact failsOnly_bind (failsOnly_collectPages hL hP) fun _ ↦
      failsOnly_bind (failsOnly_collectBlocks hL hP e scope) fun _ ↦ failsOnly_pure _
  | templates => exact failsOnly_bind (failsOnly_collectTemplates hL hP e) fun _ ↦ failsOnly_pure _
  | tasks => exact failsOnly_bind (failsOnly_collectTasks hL hP e scope) fun _ ↦ failsOnly_pure _
  | properties =>
    exact failsOnly_bind (failsOnly_collectProperties hL hP e scope) fun _ ↦ failsOnly_pure _

theorem failsOnly_emptyPages : e.emptyPages.FailsOnly P L :=
  failsOnly_bind (failsOnly_allPages hL hP) fun _ ↦
    failsOnly_bind (failsOnly_outlines _) fun _ ↦ failsOnly_pure _

theorem failsOnly_linkingPages (name : String) (mentions : Bool) :
    (e.linkingPages name mentions).FailsOnly P L :=
  failsOnly_bind (failsOnly_allPages hL hP) fun _ ↦
    failsOnly_bind (failsOnly_outlines _) fun _ ↦ failsOnly_pure _

theorem failsOnly_pageBlocks (name : String) : (e.pageBlocks name).FailsOnly P L := by
  refine failsOnly_bind (failsOnly_allPages hL hP) fun pages ↦ ?_
  split
  · exact failsOnly_pure _
  · exact failsOnly_bind (failsOnly_outline hL hP _) fun _ ↦ failsOnly_pure _

end

/-! ### Atomic filters fail in the usual ways -/

section

variable {L : Lore} (hL : L.Fair) (e : Evaluator)

include hL

theorem usual_propertyHolds (argument : List Char) : (propertyHolds argument).Usual L := by
  unfold propertyHolds
  split
  · exact failsOnly_fail (.badQuery _)
  · dsimp only
    split_ifs
    · exact failsOnly_fail (.badQuery _)
    · exact failsOnly_bind (failsOnly_allPages hL Fault.Usual.provider) fun _ ↦ failsOnly_pure _

theorem usual_properties (argument : List Char) : (properties argument).Usual L := by
  unfold properties
  dsimp only
  split_ifs
  · exact failsOnly_bind (failsOnly_allPages hL Fault.Usual.provider) fun _ ↦ failsOnly_pure _
  · exact failsOnly_fail (.badQuery _)
  · exact failsOnly_bind (failsOnly_allPages hL Fault.Usual.provider) fun _ ↦ failsOnly_pure _
  · exact failsOnly_fail (.badQuery _)

theorem usual_datePages (token : String) : (e.datePages token).Usual L := by
  unfold datePages
  split
  · next h => exact failsOnly_fail (Period.usual_ofToken h)
  · exact failsOnly_fail (.badQuery _)
  · exact failsOnly_bind (failsOnly_allPages hL Fault.Usual.provider) fun _ ↦ failsOnly_pure _

theorem usual_templateListing (argument : List Char) : (e.templateListing argument).Usual L := by
  unfold templateListing
  dsimp only
  split_ifs
  · exact failsOnly_collectTemplates hL Fault.Usual.provider e
  · exact failsOnly_fail (.badQuery _)

theorem usual_templateByName (name : String) : (e.templateByName name).Usual L := by
  refine failsOnly_bind (failsOnly_allPages hL Fault.Usual.provider) fun pages ↦ ?_
  split
  · exact failsOnly_pure _
  · next p _ =>
    refine failsOnly_bind (fun fault h ↦ ?_) fun _ ↦ failsOnly_pure _
    rcases Yields.of_rescue h with ⟨_, -, ho⟩ | ⟨fault', hfault, ho⟩
    · cases ho
    · have husual := failsOnly_map (failsOnly_outline hL Fault.Usual.provider p.name) fault' hfault
      split at ho <;> cases ho
      exact husual

omit hL in
theorem usual_withQuoted {start : String} {argument : List Char}
    {next : String → Script (List Record)} (h : ∀ name, (next name).Usual L) :
    (withQuoted start argument next).Usual L := by
  unfold withQuoted
  dsimp only
  split_ifs
  · exact failsOnly_fail (.badQuery _)
  · exact h _

/-- What is behind the start of a filter fails in the usual ways. -/
theorem usual_starts {start : String} {records : List Char → Script (List Record)}
    (h : (start, records) ∈ e.starts) (argument : List Char) : (records argument).Usual L := by
  simp only [starts, List.mem_cons, Prod.mk.injEq, List.not_mem_nil, or_false] at h
  rcases h with ⟨-, rfl⟩ | ⟨-, rfl⟩ | ⟨-, rfl⟩ | ⟨-, rfl⟩ | ⟨-, rfl⟩ | ⟨-, rfl⟩ | ⟨-, rfl⟩ | ⟨-, rfl⟩
  · exact usual_propertyHolds hL argument
  · exact usual_properties hL argument
  · exact usual_datePages hL e _
  · exact usual_templateListing hL e argument
  · exact usual_withQuoted (usual_templateByName hL e)
  · exact usual_withQuoted fun name ↦ failsOnly_linkingPages hL Fault.Usual.provider e name false
  · exact usual_withQuoted fun name ↦ failsOnly_linkingPages hL Fault.Usual.provider e name true
  · exact usual_withQuoted (failsOnly_pageBlocks hL Fault.Usual.provider e)

theorem usual_dispatch (text : String) (target : Target) (scope : Option Scope) :
    (e.dispatch text target scope).Usual L := by
  unfold dispatch
  dsimp only
  split_ifs
  · exact failsOnly_collectPages hL Fault.Usual.provider
  · exact failsOnly_emptyPages hL Fault.Usual.provider e
  · split
    · next h => exact usual_starts hL e (List.mem_of_find?_eq_some h) _
    · exact failsOnly_matchText hL Fault.Usual.provider e text target scope

/-- An atomic filter tells that it is malformed if it is strict, or fails with no search fault. -/
theorem told_atom {target : Target} {scope : Option Scope} {strict : Bool} {text : String}
    {fault : Fault} (h : (e.atom target scope strict text).Yields L (.error fault)) :
    (strict = true ∧ ∃ message, fault = .badQuery message) ∨ fault.isSearchFault = false := by
  unfold atom at h
  split_ifs at h
  · cases h
  · rcases Yields.of_rescue h with ⟨_, -, ho⟩ | ⟨fault', hfault, ho⟩
    · cases ho
    · cases usual_dispatch hL e _ target scope fault' hfault with
      | provider message => cases ho
      | badQuery message =>
        rw [nothingFromAtom] at ho
        split_ifs at ho with hstrict
        cases ho
        exact .inl ⟨hstrict, message, rfl⟩
      | other hother =>
        cases fault' with
        | provider | badQuery => cases hother
        | _ =>
          cases ho
          exact .inr hother

/-- Below the root an atomic filter fails with no search fault. -/
theorem not_searchFault_atom {target : Target} {scope : Option Scope} {text : String}
    {fault : Fault} (h : (e.atom target scope false text).Yields L (.error fault)) :
    fault.isSearchFault = false :=
  (told_atom hL e h).resolve_left fun hstrict ↦ nomatch hstrict.1

/-- To collect the records of a target does not fail. -/
theorem not_yields_collect (target : Target) (scope : Option Scope) (fault : Fault) :
    ¬(e.collect target scope).Yields L (.error fault) := by
  intro h
  rcases Yields.of_rescue h with ⟨_, -, ho⟩ | ⟨fault', hfault, ho⟩
  · cases ho
  · have hprovider := failsOnly_collectTarget (P := fun fault ↦ ∃ message, fault = .provider message)
      hL (fun message ↦ ⟨message, rfl⟩) e target scope fault' hfault
    obtain ⟨message, rfl⟩ := hprovider
    cases ho

/-- Below the root an expression fails with no search fault. -/
theorem Finds.not_searchFault {target : Target} {scope : Option Scope} {strict : Bool}
    {expr : Expr} {o : Outcome (List Record)} (h : Finds L e target scope strict expr o)
    (hstrict : strict = false ∨ expr.isAtom = false) {fault : Fault} (ho : o = .error fault) :
    fault.isSearchFault = false := by
  induction h with
  | atom h =>
    subst ho
    obtain rfl := hstrict.resolve_right (by simp [Expr.isAtom])
    exact not_searchFault_atom hL e h
  | all | any => cases ho
  | allFault _ _ ih => exact ih (.inl rfl) ho
  | anyFault _ _ ih => exact ih (.inl rfl) ho

end

end Evaluator

end OutlineSearch
