import OutlineSearch.Corpus.Script
import OutlineSearch.Engine.Session
import OutlineSearch.Proofs.Search.Finding
import OutlineSearch.Proofs.Task.View

/-!
# Searching shows in the results only

Whoever reads a corpus changes what the cache has kept of listings and outlines, but nothing of what
it has kept for searches, and not the clock. A search changes what is kept for searches in two
places: it drops its own results when they are out of date, and keeps those that it has found just
before it is answered.
-/

namespace OutlineSearch

open OutlineSearch.Task OutlineSearch.Search

/-! ### Reading does not show in the results -/

/-- A view of the world that shows nothing but what is kept for searches and the time. -/
def World.OfResults {α : Type} (φ : World → α) : Prop :=
  ∀ w w' : World, w.cache.queries = w'.cache.queries → w.clock = w'.clock → φ w = φ w'

theorem World.OfResults.unseen {α : Type} {φ : World → α} (hφ : OfResults φ) {w w' : World} {v : α}
    (hw : φ w = v) (hqueries : w'.cache.queries = w.cache.queries) (hclock : w'.clock = w.clock) :
    φ w' = v :=
  (hφ w' w hqueries hclock).trans hw

namespace Corpus

theorem receive_unseen (q : Query) (w : World) :
    (receive q w).2.cache.queries = w.cache.queries ∧ (receive q w).2.clock = w.clock := by
  unfold receive
  cases hanswer : w.answer q with
  | mk r w' =>
    obtain rfl : w' = (w.answer q).2 := by rw [hanswer]
    cases r with
    | ok h => cases h <;> exact ⟨rfl, rfl⟩
    | error fault => exact ⟨rfl, rfl⟩

theorem cached_unseen (q : Query) (w : World) :
    (cached q w).2.cache.queries = w.cache.queries ∧ (cached q w).2.clock = w.clock := by
  cases q <;> exact ⟨rfl, rfl⟩

section

variable {α : Type} {φ : World → α} {wanted : Outcome Reply → α → Prop} {own : Bool} {v : α}

/-- A read goes on minding a view that reads do not show in. -/
theorem minds_read (hφ : World.OfResults φ) {q : Query} {next : Outcome Reply → EngineJob}
    (h : ∀ r v', Follows own v v' → (next r).Minds φ wanted own v') :
    (read q next).Minds φ wanted own v := by
  have hland (v' : α) (hv' : Follows own v v') : (land q next).Minds φ wanted own v' := by
    refine .touch (fun w hw ↦ ?_) fun w hw ↦ .unseen (fun w hw ↦ ?_) (.settle (h _ _ hv'))
    · exact hφ.unseen hw (receive_unseen q w).1 (receive_unseen q w).2
    · exact hφ.unseen hw rfl rfl
  refine .touch (fun w hw ↦ ?_) fun w hw ↦ ?_
  · exact hφ.unseen hw (cached_unseen q w).1 (cached_unseen q w).2
  · cases (cached q w).1 with
    | some found => exact h _ v fun _ ↦ rfl
    | none =>
      refine .look fun w hw ↦ ?_
      split
      · exact .await h
      · refine .unseen (fun w hw ↦ ?_) (.look fun w hw ↦ .pauses _ hland)
        exact hφ.unseen hw rfl rfl

theorem minds_pages (hφ : World.OfResults φ) {next : Outcome (List Page) → EngineJob}
    (h : ∀ r v', Follows own v v' → (next r).Minds φ wanted own v') :
    (pages next).Minds φ wanted own v :=
  minds_read hφ fun _ ↦ h _

theorem minds_blocks (hφ : World.OfResults φ) {page : String}
    {next : Outcome (List Block) → EngineJob}
    (h : ∀ r v', Follows own v v' → (next r).Minds φ wanted own v') :
    (blocks page next).Minds φ wanted own v :=
  minds_read hφ fun _ ↦ h _

theorem minds_templates (hφ : World.OfResults φ) {next : Outcome (List Page) → EngineJob}
    (h : ∀ r v', Follows own v v' → (next r).Minds φ wanted own v') :
    (templates next).Minds φ wanted own v := by
  refine .touch (fun w hw ↦ hφ.unseen hw rfl rfl) fun w hw ↦ ?_
  cases (w.cachedPages Cache.templatesKey).1 with
  | some items => exact h _ v fun _ ↦ rfl
  | none =>
    refine minds_pages hφ fun r v' hv' ↦ ?_
    cases r with
    | error fault => exact h _ v' hv'
    | ok items => exact .unseen (fun w hw ↦ hφ.unseen hw rfl rfl) (h _ v' hv')

theorem minds_trees (hφ : World.OfResults φ) {names : List String}
    {next : Outcome (List (Option (List Block))) → EngineJob}
    (h : ∀ r v', Follows own v v' → (next r).Minds φ wanted own v') :
    (trees names next).Minds φ wanted own v := by
  refine .fork (fun m hm v' ↦ ?_) fun r v' hv' ↦ ?_
  · obtain ⟨name, -, rfl⟩ := List.mem_map.1 hm
    exact minds_blocks hφ fun r v'' _ ↦ .finish_other _
  · rcases r with (_ | _) | _ <;> exact h _ v' hv'

end

end Corpus

/-- A script goes on minding a view that reads do not show in. -/
theorem Script.minds_job {α β : Type} {φ : World → α} {wanted : Outcome Reply → α → Prop}
    {own : Bool} {v : α} (hφ : World.OfResults φ) {next : Outcome β → EngineJob} (s : Script β)
    (h : ∀ r v', Follows own v v' → (next r).Minds φ wanted own v') :
    (s.job next).Minds φ wanted own v := by
  have hlater {v v' : α} (hv' : Follows own v v')
      (h : ∀ r v', Follows own v v' → (next r).Minds φ wanted own v') :
      ∀ r v'', Follows own v' v'' → (next r).Minds φ wanted own v'' :=
    fun r v'' hv'' ↦ h r v'' fun hown ↦ (hv'' hown).trans (hv' hown)
  induction s generalizing v with
  | done r => exact h r v fun _ ↦ rfl
  | pages step ih => exact Corpus.minds_pages hφ fun r v' hv' ↦ ih r (hlater hv' h)
  | templates step ih => exact Corpus.minds_templates hφ fun r v' hv' ↦ ih r (hlater hv' h)
  | blocks page step ih => exact Corpus.minds_blocks hφ fun r v' hv' ↦ ih r (hlater hv' h)
  | trees names step ih => exact Corpus.minds_trees hφ fun r v' hv' ↦ ih r (hlater hv' h)

/-! ### Searching shows at two places -/

variable {α : Type} {φ : World → α} {wanted : Outcome Reply → α → Prop}

namespace Evaluator

mutual

/-- The job of an expression goes on minding a view that reads do not show in. -/
theorem minds_job (hφ : World.OfResults φ) (e : Evaluator) (target : Target)
    (scope : Option Scope) : (expr : Expr) → (strict : Bool) → {own : Bool} → {v : α} →
    {next : Outcome (List Record) → EngineJob} →
    (∀ r v', Follows own v v' → (next r).Minds φ wanted own v') →
    (e.job target scope strict next expr).Minds φ wanted own v
  | .atom text, strict, _, _, _, h => Script.minds_job hφ (e.atom target scope strict text) h
  | .all operands, _, _, _, _, h => by
    rw [job]
    exact .fork (minds_operands hφ e target scope operands) fun r v' hv' ↦ h _ v' hv'
  | .any operands, _, _, _, _, h => by
    rw [job]
    exact .fork (minds_operands hφ e target scope operands) fun r v' hv' ↦ h _ v' hv'

theorem minds_operands (hφ : World.OfResults φ) (e : Evaluator) (target : Target)
    (scope : Option Scope) : (operands : List Expr) →
    ∀ m ∈ jobs e target scope operands, ∀ v, m.Minds φ wanted false v
  | [] => List.forall_mem_nil _
  | operand :: rest => List.forall_mem_cons.2
    ⟨fun _ ↦ minds_job hφ e target scope operand false fun _ _ _ ↦ .finish_other _,
      minds_operands hφ e target scope rest⟩

end

end Evaluator

theorem SearchRequest.minds_recordsJob (hφ : World.OfResults φ) (e : Evaluator) (r : SearchRequest)
    {own : Bool} {v : α} {next : Outcome (List Record) → EngineJob}
    (h : ∀ found v', Follows own v v' → (next (r.arranged found)).Minds φ wanted own v') :
    (r.recordsJob e next).Minds φ wanted own v := by
  unfold recordsJob
  split
  · exact Script.minds_job hφ _ fun _ ↦ h _
  · exact Evaluator.minds_job hφ e _ _ _ _ fun _ ↦ h _

namespace Search

variable {v : α}

/-- A request is answered from the cache, with a fault, or with what it has found and kept. -/
theorem minds_answer (hφ : World.OfResults φ) {r : SearchRequest} {offset : Nat} {key : String}
    {next : Outcome SearchResult → EngineJob}
    (hkept : ∀ w records, φ w = v → (w.cachedResults key).1 = some records →
      (next (.ok (.ofRecords records offset r.limit))).Minds φ wanted true
        (φ (w.cachedResults key).2))
    (hfault : ∀ w fault, φ w = v → (w.cachedResults key).1 = none →
      (next (.error fault)).Minds φ wanted true (φ (w.cachedResults key).2))
    (hfound : ∀ w w' found records, φ w = v → (w.cachedResults key).1 = none →
      φ w' = φ (w.cachedResults key).2 → r.arranged found = .ok records →
      (next (.ok (.ofRecords records offset r.limit))).Minds φ wanted true
        (φ (w'.keepResults key records))) :
    (answer r offset key next).Minds φ wanted true v := by
  refine .look fun w hw ↦ .change nofun fun _ _ ↦ ?_
  cases hget : (w.cachedResults key).1 with
  | some records => exact hkept w records hw hget
  | none =>
    refine .look fun _ _ ↦ r.minds_recordsJob hφ _ fun found v' hv' ↦ ?_
    obtain rfl := hv' rfl
    cases harranged : r.arranged found with
    | error fault => exact hfault w fault hw hget
    | ok records =>
      exact .change nofun fun w' hw' ↦ hfound w w' found records hw hget hw' harranged

/-- A request that has been read ends with its fault, or is answered. -/
theorem minds_executeRead {o : Outcome SearchRequest} {next : Outcome SearchResult → EngineJob}
    (hfault : ∀ fault, (next (.error fault)).Minds φ wanted true v)
    (hanswer : ∀ r offset key, prepared o = .ok (r, offset, key) →
      (answer r offset key next).Minds φ wanted true v) :
    (executeRead next o).Minds φ wanted true v := by
  rw [executeRead_eq]
  cases hprepared : prepared o with
  | error fault => exact hfault fault
  | ok p =>
    obtain ⟨r, offset, key⟩ := p
    exact hanswer r offset key hprepared

/-- A search ends with the fault of its arguments, or is answered. -/
theorem minds_execute {arguments : Value} {next : Outcome SearchResult → EngineJob}
    (hfault : ∀ fault, (next (.error fault)).Minds φ wanted true v)
    (hanswer : ∀ w r offset key, φ w = v →
      prepared (SearchRequest.ofArguments (.ofSettings w.settings) arguments) =
        .ok (r, offset, key) → (answer r offset key next).Minds φ wanted true v) :
    (execute arguments next).Minds φ wanted true v :=
  .look fun w hw ↦ minds_executeRead hfault fun r offset key ↦ hanswer w r offset key hw

/-- Whether the cache is made to forget less than everything. -/
def SparesResults (kind identifier : Value) : Prop :=
  Cache.Change.told kind identifier ≠ .ok .everything

/-- Whoever makes the cache forget less than everything leaves what is kept for searches alone. -/
theorem minds_forgetJob (hφ : World.OfResults φ) {own : Bool} {kind identifier : Value}
    (h : SparesResults kind identifier) {next : Outcome Unit → EngineJob}
    (hnext : ∀ r, (next r).Minds φ wanted own v) :
    (Engine.forgetJob kind identifier next).Minds φ wanted own v := by
  unfold Engine.forgetJob
  split
  · exact hnext _
  · next change htold =>
    refine .unseen (fun w hw ↦ ?_) (hnext _)
    cases change with
    | page name => exact hφ.unseen hw rfl rfl
    | block page => cases page <;> exact hφ.unseen hw rfl rfl
    | everything => exact absurd htold h

end Search

end OutlineSearch
