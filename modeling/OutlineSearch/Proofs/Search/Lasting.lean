import OutlineSearch.Proofs.Engine.Asking
import OutlineSearch.Proofs.Search.Edits
import OutlineSearch.Proofs.Search.View

/-!
# Entries that last

What has been kept for a search lasts while it is up to date, unless the cache is made to forget
everything: whoever searches, reads, edits the graph or tells of an edit leaves it where it is.
-/

namespace OutlineSearch

open OutlineSearch.Task OutlineSearch.Search OutlineSearch.Engine

/-! ### Stores -/

namespace Store

variable {α : Type} {s : Store α} {key key' : String} {e : StoreEntry α}

theorem key_of_find? (h : s.find? key = some e) : e.key = key := by
  simpa using List.find?_some h

theorem find?_erase (h : key' ≠ key) : (s.erase key').find? key = s.find? key := by
  unfold find? erase
  rw [List.find?_filter]
  congr 1
  funext e
  by_cases he : e.key = key
  · simp [he, h.symm]
  · simp [he]

theorem find?_put_self (s : Store α) (now lifetime : Binary64) (key : String) (a : α) :
    (s.put now lifetime key a).find? key = some ⟨key, a, now, lifetime⟩ := by
  simp [find?, put]

theorem find?_put (h : key' ≠ key) (now lifetime : Binary64) (a : α) :
    (s.put now lifetime key' a).find? key = s.find? key := by
  refine Eq.trans ?_ (find?_erase h)
  simp [find?, put, h]

/-- An entry that is up to date is found and stays. -/
theorem get_of_fresh {now : Binary64} (h : s.find? key = some e) (hfresh : e.isFresh now = true) :
    s.get now key = (some e.value, s) := by
  rw [get, h]
  exact if_pos hfresh

theorem find?_get {now : Binary64} (h : key' ≠ key) :
    (s.get now key').2.find? key = s.find? key := by
  unfold get
  split
  · rfl
  · split
    · rfl
    · exact find?_erase h

/-- What is found is the value of the entry, which stays. -/
theorem exists_find?_of_get {now : Binary64} {a : α} (h : (s.get now key).1 = some a) :
    ∃ e, (s.get now key).2.find? key = some e ∧ e.value = a := by
  unfold get at h ⊢
  split at h
  · cases h
  · next e he =>
    split at h
    · next hfresh => exact ⟨e, by rw [if_pos hfresh]; exact he, Option.some.inj h⟩
    · cases h

end Store

/-! ### An entry for a search -/

/-- An entry that is kept for a search and up to date. -/
structure World.Keeps (w : World) (e : StoreEntry (List Record)) : Prop where
  kept : w.cache.queries.find? e.key = some e
  fresh : e.isFresh w.clock = true

/-- The entry under a key, and the time. -/
def entryView (key : String) (w : World) : Option (StoreEntry (List Record)) × Binary64 :=
  (w.cache.queries.find? key, w.clock)

/-- A view that is left as it was. -/
def Same {α : Type} (v : α) (_ : Outcome Reply) (v' : α) : Prop := v' = v

section

variable {e : StoreEntry (List Record)} {w w' : World} {key : String}

theorem ofResults_entryView (key : String) : World.OfResults (entryView key) := by
  intro w w' hqueries hclock
  rw [entryView, entryView, hqueries, hclock]

theorem entryView_cachedResults {key' : String} (h : key' ≠ key) (w : World) :
    entryView key (w.cachedResults key').2 = entryView key w :=
  congrArg (·, w.clock) (Store.find?_get h)

theorem entryView_keepResults {key' : String} (h : key' ≠ key) (w : World)
    (records : List Record) : entryView key (w.keepResults key' records) = entryView key w :=
  congrArg (·, w.clock) (Store.find?_put h _ _ _)

/-- What is found depends on the entry and the time only. -/
theorem cachedResults_fst_eq (h : entryView key w' = entryView key w) :
    (w'.cachedResults key).1 = (w.cachedResults key).1 := by
  obtain ⟨hfind, hclock⟩ := Prod.mk.inj h
  change (w'.cache.queries.get w'.clock key).1 = (w.cache.queries.get w.clock key).1
  rw [Store.get, Store.get, hfind, hclock]
  cases w.cache.queries.find? key with
  | none => rfl
  | some e =>
    dsimp only
    by_cases hfresh : e.isFresh w.clock = true
    · rw [if_pos hfresh, if_pos hfresh]
    · rw [if_neg hfresh, if_neg hfresh]

theorem World.Keeps.of_entryView (hw : w.Keeps e) (h : entryView e.key w' = entryView e.key w) :
    w'.Keeps e :=
  let ⟨hfind, hclock⟩ := Prod.mk.inj h
  ⟨hfind.trans hw.kept, hclock ▸ hw.fresh⟩

/-- An entry that is up to date is found, and the world stays. -/
theorem World.Keeps.cachedResults (hw : w.Keeps e) : w.cachedResults e.key = (some e.value, w) := by
  unfold World.cachedResults
  rw [Store.get_of_fresh hw.kept hw.fresh]

end

/-! ### Operations that leave an entry alone -/

/-- Whether an operation is one of those that leave an entry alone that is up to date. -/
def Engine.Operation.Spares : Operation → Prop
  | .forget kind identifier => SparesResults kind identifier
  | .forgetTool arguments =>
    SparesResults (Value.get arguments "kind") (Value.get arguments "identifier")
  | .callTool name arguments =>
    name = Engine.forgetTool.name →
      SparesResults (Value.get (argumentEntries arguments) "kind")
        (Value.get (argumentEntries arguments) "identifier")
  -- Time makes entries out of date, and it may pass between the members of a group.
  | .advance _ | .together _ => False
  | _ => True

section

variable {e : StoreEntry (List Record)} {w w' : World}
  {v : Option (StoreEntry (List Record)) × Binary64}

/-- Nobody who has a request answered touches an entry that is up to date. -/
theorem minds_answer_same (hw : w.Keeps e) {r : SearchRequest} {offset : Nat} {key : String}
    {next : Outcome SearchResult → EngineJob}
    (hnext : ∀ r, (next r).Minds (entryView e.key) (Same (entryView e.key w)) true
      (entryView e.key w)) :
    (answer r offset key next).Minds (entryView e.key) (Same (entryView e.key w)) true
      (entryView e.key w) := by
  by_cases hkey : key = e.key
  · subst hkey
    have hfound {w₁ : World} (h : entryView e.key w₁ = entryView e.key w) :
        w₁.cachedResults e.key = (some e.value, w₁) := (hw.of_entryView h).cachedResults
    refine minds_answer (ofResults_entryView _) (fun w₁ records h _ ↦ ?_)
      (fun w₁ fault h hnone ↦ ?_) fun w₁ w₂ _ records h hnone _ _ ↦ ?_
    · rw [hfound h, h]
      exact hnext _
    · rw [hfound h] at hnone
      cases hnone
    · rw [hfound h] at hnone
      cases hnone
  · refine minds_answer (ofResults_entryView _) (fun w₁ records h _ ↦ ?_)
      (fun w₁ fault h _ ↦ ?_) fun w₁ w₂ _ records h _ h₂ _ ↦ ?_
    · rw [entryView_cachedResults hkey, h]
      exact hnext _
    · rw [entryView_cachedResults hkey, h]
      exact hnext _
    · rw [entryView_keepResults hkey, h₂, entryView_cachedResults hkey, h]
      exact hnext _

theorem minds_execute_same (hw : w.Keeps e) (arguments : Value)
    {next : Outcome SearchResult → EngineJob}
    (hnext : ∀ r, (next r).Minds (entryView e.key) (Same (entryView e.key w)) true
      (entryView e.key w)) :
    (execute arguments next).Minds (entryView e.key) (Same (entryView e.key w)) true
      (entryView e.key w) :=
  minds_execute (fun _ ↦ hnext _) fun _ _ _ _ _ _ ↦ minds_answer_same hw hnext

theorem minds_forgetToolJob {φ : World → Option (StoreEntry (List Record)) × Binary64}
    {wanted : Outcome Reply → Option (StoreEntry (List Record)) × Binary64 → Prop}
    (hφ : World.OfResults φ) {arguments : List (Value × Value)}
    (h : SparesResults (Value.get arguments "kind") (Value.get arguments "identifier"))
    {next : Outcome String → EngineJob} (hnext : ∀ r, (next r).Minds φ wanted true v) :
    (forgetToolJob arguments next).Minds φ wanted true v := by
  unfold forgetToolJob
  dsimp only
  split
  · exact hnext _
  · refine minds_forgetJob hφ h fun r ↦ ?_
    cases r <;> exact hnext _

/-- A call of the server changes the graph at most. -/
theorem callServer_unseen (c : ApiCall) (w : World) :
    (callServer c w).2.cache = w.cache ∧ (callServer c w).2.clock = w.clock := by
  unfold callServer
  split <;> exact ⟨rfl, rfl⟩

/-- An operation that leaves an entry alone minds that it stays. -/
theorem Engine.Operation.minds_same {operation : Operation} (h : operation.Spares)
    (hw : w.Keeps e) :
    (operation.job .finish).Minds (entryView e.key) (Same (entryView e.key w)) true
      (entryView e.key w) := by
  have hφ := ofResults_entryView e.key
  have hfinish (reply : Outcome Reply) : Job.Minds (entryView e.key) (Same (entryView e.key w)) true
      (entryView e.key w) (.finish reply : EngineJob) := .finish fun _ ↦ rfl
  have hread {reply : Outcome Reply} {v' : Option (StoreEntry (List Record)) × Binary64}
      (hv' : Follows true (entryView e.key w) v') :
      Job.Minds (entryView e.key) (Same (entryView e.key w)) true v'
        (.finish reply : EngineJob) := .finish fun _ ↦ hv' rfl
  cases operation with
  | search arguments => exact minds_execute_same hw arguments fun _ ↦ hfinish _
  | searchRequest request =>
    exact .look fun _ _ ↦ minds_executeRead (fun _ ↦ hfinish _) fun _ _ _ _ ↦
      minds_answer_same hw fun _ ↦ hfinish _
  | searchTool arguments => exact minds_execute_same hw arguments fun _ ↦ hfinish _
  | forgetTool arguments => exact minds_forgetToolJob hφ h fun _ ↦ hfinish _
  | callTool name arguments =>
    rw [job, toolJob]
    split
    · exact minds_execute_same hw _ fun _ ↦ hfinish _
    · split
      · next hname => exact minds_forgetToolJob hφ (h hname) fun _ ↦ hfinish _
      · exact hfinish _
  | readResource uri => exact .look fun _ _ ↦ hfinish _
  | forget kind identifier => exact minds_forgetJob hφ h fun _ ↦ hfinish _
  | evaluate expr target strict scope =>
    exact .look fun _ _ ↦ Evaluator.minds_job hφ _ _ _ _ _ fun _ _ ↦ hread
  | atom text target strict scope => exact .look fun _ _ ↦ Script.minds_job hφ _ fun _ _ ↦ hread
  | collect target scope => exact .look fun _ _ ↦ Script.minds_job hφ _ fun _ _ ↦ hread
  | pages => exact Corpus.minds_pages hφ fun _ _ ↦ hread
  | templates => exact Corpus.minds_templates hφ fun _ _ ↦ hread
  | blocks page => exact Corpus.minds_blocks hφ fun _ _ ↦ hread
  | ask query =>
    refine .unseen (fun w₁ hw₁ ↦ hφ.unseen hw₁ rfl rfl) (.look fun _ _ ↦ .pauses _ fun v' hv' ↦ ?_)
    exact .touch (fun w₁ hw₁ ↦ hφ.unseen hw₁ rfl rfl) fun _ _ ↦ hread hv'
  | call c =>
    rw [job]
    refine .touch (fun w₁ hw₁ ↦ ?_) fun _ _ ↦ ?_
    · obtain ⟨hcache, hclock⟩ := callServer_unseen c w₁
      exact hφ.unseen hw₁ (by rw [hcache]) hclock
    · exact hfinish _
  | advance seconds => exact h.elim
  | edit change =>
    refine .touch (fun w₁ hw₁ ↦ ?_) fun _ _ ↦ hfinish _
    unfold editGraph
    split <;> exact hw₁
  | tell v => exact hfinish _
  | fail fault => exact hfinish _
  | together operations => exact h.elim

/-- What may happen in one step while an entry stays up to date: an operation that leaves it alone,
or the passing of time. -/
inductive Meanwhile (e : StoreEntry (List Record)) (w : World) : World → Prop where
  | operation {operation : Operation} {reply : Outcome Reply} {w' : World}
    (h : MayEnd w operation reply w') (hspares : operation.Spares) : Meanwhile e w w'
  | advance {seconds : Binary64} {reply : Outcome Reply} {w' : World}
    (h : MayEnd w (.advance seconds) reply w') (hfresh : e.isFresh w'.clock = true) :
    Meanwhile e w w'

/-- Whatever happens meanwhile, an entry that is up to date stays. -/
theorem Meanwhile.keeps (h : Meanwhile e w w') (hw : w.Keeps e) : w'.Keeps e := by
  cases h with
  | operation h hspares => exact hw.of_entryView (h.wanted rfl (Operation.minds_same hspares hw))
  | advance h hfresh =>
    rw [h.mayLeave.eq_of_answering (asked_advance ..)] at hfresh ⊢
    exact ⟨hw.kept, hfresh⟩

end

end OutlineSearch
