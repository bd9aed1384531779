import OutlineSearch.Search.Execute
import OutlineSearch.Proofs.Corpus.Reading

/-!
# Searching keeps to the lore

What an expression may find when the reads of its atomic filters are told what may be said, and what
a search may answer: a page of records that have been kept, or of records that it finds and then
keeps.
-/

namespace OutlineSearch

open OutlineSearch.Task OutlineSearch.Search

namespace Evaluator

/-- What an expression may find. The fault of a conjunction or a disjunction is that of the operand
that was the first to fail, which may be any of them. -/
inductive Finds (L : Lore) (e : Evaluator) (target : Target) (scope : Option Scope) :
    Bool → Expr → Outcome (List Record) → Prop where
  | atom {strict : Bool} {text : String} {o : Outcome (List Record)}
    (h : (e.atom target scope strict text).Yields L o) : Finds L e target scope strict (.atom text) o
  | all {strict : Bool} {operands : List Expr} {sets : List (List Record)}
    (hlength : sets.length = operands.length)
    (h : ∀ (i : Nat) operand records, operands[i]? = some operand → sets[i]? = some records →
      Finds L e target scope false operand (.ok records)) :
    Finds L e target scope strict (.all operands) (.ok (intersect sets))
  | any {strict : Bool} {operands : List Expr} {sets : List (List Record)}
    (hlength : sets.length = operands.length)
    (h : ∀ (i : Nat) operand records, operands[i]? = some operand → sets[i]? = some records →
      Finds L e target scope false operand (.ok records)) :
    Finds L e target scope strict (.any operands) (.ok (union sets))
  | allFault {strict : Bool} {operands : List Expr} {operand : Expr} {fault : Fault}
    (hmem : operand ∈ operands) (h : Finds L e target scope false operand (.error fault)) :
    Finds L e target scope strict (.all operands) (.error fault)
  | anyFault {strict : Bool} {operands : List Expr} {operand : Expr} {fault : Fault}
    (hmem : operand ∈ operands) (h : Finds L e target scope false operand (.error fault)) :
    Finds L e target scope strict (.any operands) (.error fault)

theorem jobs_eq_map (e : Evaluator) (target : Target) (scope : Option Scope)
    (operands : List Expr) :
    jobs e target scope operands = operands.map (job e target scope false finishRecords) := by
  induction operands with
  | nil => rfl
  | cons operand rest ih => rw [jobs, ih, List.map_cons]

/-- What the member of a group for an operand may report. -/
def Reports (L : Lore) (e : Evaluator) (target : Target) (scope : Option Scope) (operand : Expr)
    (reply : Outcome Reply) : Prop :=
  ∃ o, Finds L e target scope false operand o ∧ reply = o.map .records

/-- The replies of members that have not failed are the record sets of the operands. -/
theorem recordSets_of_reports {L : Lore} {e : Evaluator} {target : Target} {scope : Option Scope}
    {operands : List Expr} {replies : List (Outcome Reply)}
    (hlength : replies.length = operands.length)
    (h : ∀ (i : Nat) operand reply, operands[i]? = some operand → replies[i]? = some reply →
      Reports L e target scope operand reply ∧ failed reply = false) :
    ∃ sets, recordSets (.ok replies) = .ok sets ∧ sets.length = operands.length ∧
      ∀ (i : Nat) operand records, operands[i]? = some operand → sets[i]? = some records →
        Finds L e target scope false operand (.ok records) := by
  induction operands generalizing replies with
  | nil =>
    obtain rfl := List.length_eq_zero_iff.1 hlength
    exact ⟨[], rfl, rfl, by simp⟩
  | cons operand rest ih =>
    cases replies with
    | nil => cases hlength
    | cons reply replies =>
      obtain ⟨⟨o, ho, rfl⟩, hfailed⟩ := h 0 operand reply rfl rfl
      obtain ⟨sets, hsets, hlength', hsets'⟩ :=
        ih (Nat.succ.inj hlength) fun i operand reply hi hi' ↦ h (i + 1) operand reply hi hi'
      cases o with
      | error fault => cases hfailed
      | ok records =>
        refine ⟨records :: sets, ?_, congrArg (· + 1) hlength', fun i operand' records' hi hi' ↦ ?_⟩
        · simp only [recordSets, List.mapM_cons] at hsets ⊢
          rw [hsets]
          rfl
        · cases i with
          | zero =>
            cases hi
            cases hi'
            exact ho
          | succ i => exact hsets' i operand' records' hi hi'

section Safe

variable {L : Lore} {post : Outcome Reply → Prop}

/-- Members for operands that report what the operands may find make a group that goes on with the
record sets of all, or with the fault of one. -/
theorem safe_fork {e : Evaluator} {target : Target} {scope : Option Scope} {operands : List Expr}
    {combine : List (List Record) → List Record} {next : Outcome (List Record) → EngineJob}
    (hmembers : ∀ operand ∈ operands,
      L.Safe (Reports L e target scope operand) (job e target scope false finishRecords operand))
    (hok : ∀ sets : List (List Record), sets.length = operands.length →
      (∀ (i : Nat) operand records, operands[i]? = some operand → sets[i]? = some records →
        Finds L e target scope false operand (.ok records)) → L.Safe post (next (.ok (combine sets))))
    (herror : ∀ operand ∈ operands, ∀ fault, Finds L e target scope false operand (.error fault) →
      L.Safe post (next (.error fault))) :
    L.Safe post (.fork (jobs e target scope operands) fun r =>
      next ((recordSets r).map combine)) := by
  intro w hw
  rw [jobs_eq_map]
  refine .fork hw (fun i reply ↦ ∃ operand, operands[i]? = some operand ∧
    Reports L e target scope operand reply) ?_ ?_ ?_
  · intro i m hm w' hw'
    rw [List.getElem?_map, Option.map_eq_some_iff] at hm
    obtain ⟨operand, hoperand, rfl⟩ := hm
    have hmember := hmembers operand (List.mem_of_getElem? hoperand) w' hw'
    exact hmember.mono fun reply hreply ↦ ⟨operand, hoperand, hreply⟩
  · intro replies hlength hreplies w' hw'
    have hreports (i : Nat) (operand : Expr) (reply : Outcome Reply)
        (hi : operands[i]? = some operand) (hi' : replies[i]? = some reply) :
        Reports L e target scope operand reply ∧ failed reply = false := by
      obtain ⟨⟨operand', hoperand', hreports⟩, hfailed⟩ := hreplies i reply hi'
      obtain rfl : operand' = operand := Option.some.inj (hoperand'.symm.trans hi)
      exact ⟨hreports, hfailed⟩
    obtain ⟨sets, hsets, hlength', hsets'⟩ :=
      recordSets_of_reports (by simpa using hlength) hreports
    rw [hsets]
    exact hok sets hlength' hsets' w' hw'
  · rintro i reply ⟨operand, hoperand, o, ho, rfl⟩ hfailed w' hw'
    cases o with
    | ok records => cases hfailed
    | error fault => exact herror operand (List.mem_of_getElem? hoperand) fault ho w' hw'

mutual

/-- The job of an expression goes on with something that the expression may find. -/
theorem safe_job (hL : L.Fair) (e : Evaluator) (target : Target) (scope : Option Scope) :
    (expr : Expr) → (strict : Bool) → {post : Outcome Reply → Prop} →
    {next : Outcome (List Record) → EngineJob} →
    (∀ o, Finds L e target scope strict expr o → L.Safe post (next o)) →
    L.Safe post (e.job target scope strict next expr)
  | .atom _, _, _, _, h => Lore.safe_script hL fun o ho ↦ h o (.atom ho)
  | .all operands, _, _, _, h => by
    rw [job]
    refine safe_fork (safe_operands hL e target scope operands) ?_ ?_
    · exact fun sets hlength hsets ↦ h _ (.all hlength hsets)
    · exact fun operand hmem fault hfault ↦ h _ (.allFault hmem hfault)
  | .any operands, _, _, _, h => by
    rw [job]
    refine safe_fork (safe_operands hL e target scope operands) ?_ ?_
    · exact fun sets hlength hsets ↦ h _ (.any hlength hsets)
    · exact fun operand hmem fault hfault ↦ h _ (.anyFault hmem hfault)

theorem safe_operands (hL : L.Fair) (e : Evaluator) (target : Target) (scope : Option Scope) :
    (operands : List Expr) → ∀ operand ∈ operands,
      L.Safe (Reports L e target scope operand) (job e target scope false finishRecords operand)
  | [] => List.forall_mem_nil _
  | operand :: rest => List.forall_mem_cons.2
    ⟨safe_job hL e target scope operand false fun o ho ↦ Lore.safe_finish ⟨o, ho, rfl⟩,
      safe_operands hL e target scope rest⟩

end

end Safe

end Evaluator

/-! ### Searches -/

/-- What searches are evaluated with where the lore holds. -/
def Lore.evaluator (L : Lore) : Evaluator := ⟨L.settings, L.today⟩

theorem Lore.Holds.evaluator {L : Lore} {w : World} (h : L.Holds w) :
    w.evaluator = L.evaluator := by
  rw [World.evaluator, h.settings, h.today, Lore.evaluator]

namespace SearchRequest

/-- What a request may find before it is arranged. -/
def Finds (L : Lore) (r : SearchRequest) (found : Outcome (List Record)) : Prop :=
  if r.trimmedQuery.isEmpty then (L.evaluator.collect r.target r.scope).Yields L found
  else Evaluator.Finds L L.evaluator r.target r.scope r.strict (Expr.parse r.trimmedQuery) found

-- Only its equation tells what it is: to evaluate the test of the query takes long.
attribute [irreducible] Finds

/-- The records of a request that has found something. -/
def arranged (r : SearchRequest) (found : Outcome (List Record)) : Outcome (List Record) :=
  (found.bind r.arrange).mapError toldFault

/-- What the job that finds the records of a request goes on with. -/
theorem safe_recordsJob {L : Lore} (hL : L.Fair) {post : Outcome Reply → Prop} (r : SearchRequest)
    {next : Outcome (List Record) → EngineJob}
    (h : ∀ found, r.Finds L found → L.Safe post (next (r.arranged found))) :
    L.Safe post (r.recordsJob L.evaluator next) := by
  unfold recordsJob
  by_cases hempty : r.trimmedQuery.isEmpty
  · rw [if_pos hempty]
    refine Lore.safe_script hL fun found hfound ↦ h found ?_
    rwa [Finds, if_pos hempty]
  · rw [if_neg hempty]
    refine Evaluator.safe_job hL _ _ _ _ _ fun found hfound ↦ h found ?_
    rwa [Finds, if_neg hempty]

end SearchRequest

namespace Search

variable {L : Lore} {post : Outcome Reply → Prop}

/-- A request that the cache has no results for finds its records and keeps them. -/
theorem safe_find (hL : L.Fair) {r : SearchRequest} {offset : Nat} {key : String}
    {next : Outcome SearchResult → EngineJob}
    (h : ∀ found, r.Finds L found → match r.arranged found with
      | .ok records => L.results key records ∧
        L.Safe post (next (.ok (SearchResult.ofRecords records offset r.limit)))
      | .error fault => L.Safe post (next (.error fault))) :
    L.Safe post (.look fun w => r.recordsJob w.evaluator fun
      | .error fault => next (.error fault)
      | .ok records =>
        .change (·.keepResults key records) (handOut offset r.limit next records)) := by
  refine Lore.safe_look fun w hw ↦ ?_
  rw [hw.evaluator]
  refine r.safe_recordsJob hL fun found hfound ↦ ?_
  have := h found hfound
  cases harranged : r.arranged found with
  | error fault =>
    rw [harranged] at this
    exact this
  | ok records =>
    rw [harranged] at this
    exact Lore.safe_change (fun w hw ↦ ⟨hw.keepResults this.1, rfl⟩) this.2

/-- A request is answered with a page of what the cache has for it, or of what it finds. -/
theorem sound_answer (hL : L.Fair) {r : SearchRequest} {offset : Nat} {key : String}
    {next : Outcome SearchResult → EngineJob} {w : World} (hw : L.Holds w)
    (hkept : ∀ records, (w.cachedResults key).1 = some records →
      L.Safe post (next (.ok (SearchResult.ofRecords records offset r.limit))))
    (h : (w.cachedResults key).1 = none → ∀ found, r.Finds L found → match r.arranged found with
      | .ok records => L.results key records ∧
        L.Safe post (next (.ok (SearchResult.ofRecords records offset r.limit)))
      | .error fault => L.Safe post (next (.error fault))) :
    Sound L.contract failed post .none (answer r offset key next) w := by
  refine .look (.change rfl ?_)
  have hw' := hw.cachedResults key
  cases hfound : (w.cachedResults key).1 with
  | some records => exact hkept records hfound _ hw'
  | none => exact safe_find hL (h hfound) _ hw'

/-- What a search needs to be answered: its request, the records to pass over, and its key. -/
def prepared (r : Outcome SearchRequest) : Outcome (SearchRequest × Nat × String) :=
  r.bind fun r => r.offset.bind fun offset => r.cacheKey.map fun key => (r, offset, key)

theorem prepared_of_offset {r : SearchRequest} {offset : Nat} (h : r.offset = .ok offset) :
    prepared (.ok r) = r.cacheKey.map fun key => (r, offset, key) := by
  rw [prepared, Except.bind, h, Except.bind]

theorem executeRead_eq (next : Outcome SearchResult → EngineJob) (r : Outcome SearchRequest) :
    executeRead next r = match prepared r with
      | .error fault => next (.error fault)
      | .ok (r, offset, key) => answer r offset key next := by
  cases r with
  | error fault => rfl
  | ok r =>
    cases hoffset : r.offset with
    | error fault => simp only [executeRead, prepared, hoffset, Except.bind]
    | ok offset =>
      cases hkey : r.cacheKey <;>
        simp only [executeRead, prepared, hoffset, hkey, Except.bind, Except.map]

/-- A search ends with the fault of its arguments, or is answered. -/
theorem sound_execute {arguments : Value} {next : Outcome SearchResult → EngineJob} {w : World}
    (hw : L.Holds w)
    (h : match prepared (SearchRequest.ofArguments (.ofSettings L.settings) arguments) with
      | .error fault => Sound L.contract failed post .none (next (.error fault)) w
      | .ok (r, offset, key) => Sound L.contract failed post .none (answer r offset key next) w) :
    Sound L.contract failed post .none (execute arguments next) w := by
  refine .look ?_
  rw [hw.settings, executeRead_eq]
  cases hprepared : prepared (SearchRequest.ofArguments (.ofSettings L.settings) arguments) with
  | error fault => rwa [hprepared] at h
  | ok p => rwa [hprepared] at h

end Search

end OutlineSearch
