import OutlineSearch.Proofs.Search.Faults

/-!
# Searching a graph that stands still

When only one thing may be said about every read, a search can answer only one thing: what it answers
on the graph that stands still, without a cache and without anybody beside it. Only which operand is
the first to fail may differ, and those faults are told alike.
-/

namespace OutlineSearch

open OutlineSearch.Task OutlineSearch.Search

/-- Two faults are of one class. -/
def Fault.SameClass (a b : Fault) : Prop := a.ctorIdx = b.ctorIdx

/-- Two outcomes are the same result, or faults of one class. -/
inductive Outcome.Agree {α : Type} : Outcome α → Outcome α → Prop where
  | ok (a : α) : Agree (.ok a) (.ok a)
  | error {f f' : Fault} (h : f.SameClass f') : Agree (.error f) (.error f')

namespace Outcome.Agree

variable {α : Type} {a b c : Outcome α}

@[refl]
theorem refl (a : Outcome α) : a.Agree a := by
  cases a with
  | ok a => exact .ok a
  | error f => exact .error rfl

@[symm]
theorem symm (h : a.Agree b) : b.Agree a := by
  cases h with
  | ok a => exact .ok a
  | error h => exact .error (Eq.symm h)

@[trans]
theorem trans (h : a.Agree b) (h' : b.Agree c) : a.Agree c := by
  cases h with
  | ok a => exact h'
  | error h =>
    cases h' with
    | error h' => exact .error (Eq.trans h h')

/-- What agrees with a result is that result. -/
theorem eq_ok {x : α} (h : Outcome.Agree (.ok x) a) : a = .ok x := by
  cases h
  rfl

theorem eq_of_ok {x y : α} (h : Outcome.Agree (.ok x) (.ok y)) : x = y :=
  (Except.ok.inj h.eq_ok).symm

/-- Outcomes that agree still do when their results are put to the same use. -/
theorem map {β : Type} (f : α → β) (h : a.Agree b) : Outcome.Agree (a.map f) (b.map f) := by
  cases h with
  | ok a => exact .ok (f a)
  | error h => exact .error h

end Outcome.Agree

/-- Only one thing may be said about every read. -/
structure Lore.Exact (L : Lore) (g : Graph) : Prop where
  pages : ∀ r, L.pages r ↔ r = g.pages
  blocks : ∀ page r, L.blocks page r ↔ r = g.blocks page

namespace Lore.Exact

variable {L : Lore} {g : Graph} {named : String → Prop}

/-- What a search may make of an outline is what it makes of it on the graph. -/
theorem tree_iff (hL : L.FairTo named) (h : L.Exact g) (page : String) (tree : Option (List Block)) :
    L.tree page tree ↔ g.tree page = .ok tree := by
  unfold Lore.tree Graph.tree
  cases hblocks : g.blocks page with
  | ok items =>
    cases tree with
    | some found => simp [h.blocks, hblocks, eq_comm]
    | none => simp [h.blocks, hblocks]
  | error fault =>
    obtain ⟨message, rfl⟩ := hL.blocksFault page fault ((h.blocks ..).2 hblocks.symm)
    cases tree with
    | some found => simp [h.blocks, hblocks]
    | none => simp [h.blocks, hblocks]

theorem trees_iff (hL : L.FairTo named) (h : L.Exact g) (names : List String)
    (trees : List (Option (List Block))) :
    List.Forall₂ L.tree names trees ↔ names.mapM g.tree = .ok trees := by
  induction names generalizing trees with
  | nil =>
    rw [List.forall₂_nil_left_iff]
    exact ⟨fun ht ↦ ht ▸ rfl, fun ht ↦ (Except.ok.inj ht).symm⟩
  | cons name names ih =>
    rw [List.mapM_cons, List.forall₂_cons_left_iff]
    constructor
    · rintro ⟨tree, rest, htree, hrest, rfl⟩
      rw [(h.tree_iff hL ..).1 htree, (ih rest).1 hrest]
      rfl
    · intro hmapM
      cases htree : g.tree name with
      | error fault => simp [htree, bind, Except.bind] at hmapM
      | ok tree =>
        cases hrest : names.mapM g.tree with
        | error fault => simp [htree, hrest, bind, Except.bind] at hmapM
        | ok rest =>
          simp only [htree, hrest, bind, Except.bind, pure, Except.pure, Except.ok.injEq] at hmapM
          exact ⟨tree, rest, (h.tree_iff hL ..).2 htree, (ih rest).2 hrest, hmapM.symm⟩

/-- No read of outlines side by side fails. -/
theorem trees_ok (hL : L.FairTo named) (h : L.Exact g) (names : List String) :
    ∃ trees, names.mapM g.tree = .ok trees := by
  induction names with
  | nil => exact ⟨[], rfl⟩
  | cons name names ih =>
    obtain ⟨rest, hrest⟩ := ih
    have htree : ∃ tree, g.tree name = .ok tree := by
      unfold Graph.tree
      cases hblocks : g.blocks name with
      | ok items => exact ⟨some items, rfl⟩
      | error fault =>
        obtain ⟨message, rfl⟩ := hL.blocksFault name fault ((h.blocks ..).2 hblocks.symm)
        exact ⟨none, rfl⟩
    obtain ⟨tree, htree⟩ := htree
    exact ⟨tree :: rest, by rw [List.mapM_cons, htree, hrest]; rfl⟩

/-- A script may end only with what it ends with on the graph. -/
theorem yields_iff (hL : L.Fair) (h : L.Exact g) {α : Type} (s : Script α) (o : Outcome α) :
    s.Yields L o ↔ o = s.run g := by
  induction s with
  | done r =>
    constructor
    · rintro ⟨⟩
      rfl
    · rintro rfl
      exact .done _
  | pages next ih =>
    rw [Script.run, ← ih]
    constructor
    · intro ho
      cases ho with
      | pages hr ho =>
        obtain rfl := (h.pages _).1 hr
        exact ho
    · exact fun ho ↦ .pages ((h.pages _).2 rfl) ho
  | templates next ih =>
    rw [Script.run, ← ih]
    constructor
    · intro ho
      cases ho with
      | templates hr ho =>
        obtain rfl := (h.pages _).1 hr
        exact ho
    · exact fun ho ↦ .templates ((h.pages _).2 rfl) ho
  | blocks page next ih =>
    rw [Script.run, ← ih]
    constructor
    · intro ho
      cases ho with
      | blocks hr ho =>
        obtain rfl := (h.blocks ..).1 hr
        exact ho
    · exact fun ho ↦ .blocks ((h.blocks ..).2 rfl) ho
  | trees names next ih =>
    have hfair := hL.to fun _ ↦ True
    obtain ⟨trees, htrees⟩ := h.trees_ok hfair names
    rw [Script.run, htrees, ← ih]
    constructor
    · intro ho
      cases ho with
      | trees hr ho =>
        obtain rfl := Except.ok.inj (((h.trees_iff hfair ..).1 hr).symm.trans htrees)
        exact ho
    · exact fun ho ↦ .trees ((h.trees_iff hfair ..).2 htrees) ho

end Lore.Exact

namespace Evaluator

variable {L : Lore} {g : Graph} {e : Evaluator} {target : Target} {scope : Option Scope}

/-- Operands that all find something find it one after the other. -/
theorem runAll_ok {operands : List Expr} {sets : List (List Record)}
    (hlength : sets.length = operands.length)
    (h : ∀ (i : Nat) operand records, operands[i]? = some operand → sets[i]? = some records →
      run e g target scope false operand = .ok records) :
    runAll e g target scope operands = .ok sets := by
  induction operands generalizing sets with
  | nil =>
    obtain rfl := List.length_eq_zero_iff.1 hlength
    rfl
  | cons operand rest ih =>
    cases sets with
    | nil => cases hlength
    | cons records sets =>
      rw [runAll, h 0 operand records rfl rfl,
        ih (Nat.succ.inj hlength) fun i operand records hi hi' ↦ h (i + 1) operand records hi hi']
      rfl

/-- The first of the operands that fail decides. -/
theorem runAll_error {operands : List Expr} {operand : Expr} (hmem : operand ∈ operands)
    {fault : Fault} (h : run e g target scope false operand = .error fault) :
    ∃ fault', runAll e g target scope operands = .error fault' := by
  induction operands with
  | nil => cases hmem
  | cons first rest ih =>
    rw [runAll]
    cases hfirst : run e g target scope false first with
    | error fault' => exact ⟨fault', rfl⟩
    | ok records =>
      rcases List.mem_cons.1 hmem with rfl | hmem
      · cases hfirst.symm.trans h
      · obtain ⟨fault', hrest⟩ := ih hmem
        exact ⟨fault', by rw [hrest]; rfl⟩

theorem exists_of_runAll_error {operands : List Expr} {fault : Fault}
    (h : runAll e g target scope operands = .error fault) :
    ∃ operand ∈ operands, run e g target scope false operand = .error fault := by
  induction operands with
  | nil => cases h
  | cons first rest ih =>
    rw [runAll] at h
    cases hfirst : run e g target scope false first with
    | error fault' =>
      rw [hfirst] at h
      cases h
      exact ⟨first, List.mem_cons_self, hfirst⟩
    | ok records =>
      rw [hfirst] at h
      cases hrest : runAll e g target scope rest with
      | error fault' =>
        rw [hrest] at h
        cases h
        obtain ⟨operand, hmem, hoperand⟩ := ih hrest
        exact ⟨operand, List.mem_cons_of_mem _ hmem, hoperand⟩
      | ok sets =>
        rw [hrest] at h
        cases h

theorem map_eq_error {α β : Type} {f : α → β} {o : Outcome α} {fault : Fault}
    (h : o.map f = .error fault) : o = .error fault := by
  cases o with
  | ok a => cases h
  | error fault' =>
    cases h
    rfl

mutual

/-- On the graph, too, an operand fails with no search fault. -/
theorem not_searchFault_run (hL : L.Fair) (hg : L.Exact g) : (expr : Expr) → (strict : Bool) →
    strict = false ∨ expr.isAtom = false → ∀ fault,
    run e g target scope strict expr = .error fault → fault.isSearchFault = false
  | .atom text, strict, hstrict, fault, h => by
    obtain rfl := hstrict.resolve_right (by simp [Expr.isAtom])
    rw [run] at h
    exact not_searchFault_atom hL e ((hg.yields_iff hL ..).2 h.symm)
  | .all operands, _, _, fault, h => by
    rw [run] at h
    obtain ⟨operand, hmem, hoperand⟩ := exists_of_runAll_error (map_eq_error h)
    exact not_searchFault_operands hL hg operands operand hmem fault hoperand
  | .any operands, _, _, fault, h => by
    rw [run] at h
    obtain ⟨operand, hmem, hoperand⟩ := exists_of_runAll_error (map_eq_error h)
    exact not_searchFault_operands hL hg operands operand hmem fault hoperand

theorem not_searchFault_operands (hL : L.Fair) (hg : L.Exact g) : (operands : List Expr) →
    ∀ operand ∈ operands, ∀ fault, run e g target scope false operand = .error fault →
      fault.isSearchFault = false
  | [] => List.forall_mem_nil _
  | operand :: rest => List.forall_mem_cons.2
    ⟨not_searchFault_run hL hg operand false (.inl rfl), not_searchFault_operands hL hg rest⟩

end

/-- An expression finds what it finds on the graph, or fails there, too, with no search fault. -/
theorem Finds.eq_run (hL : L.Fair) (hg : L.Exact g) {strict : Bool} {expr : Expr}
    {o : Outcome (List Record)} (h : Finds L e target scope strict expr o) :
    o = run e g target scope strict expr ∨
      ∃ f f', o = .error f ∧ run e g target scope strict expr = .error f' ∧
        f.isSearchFault = false ∧ f'.isSearchFault = false := by
  induction h with
  | atom h => exact .inl ((hg.yields_iff hL ..).1 h)
  | @all strict operands sets hlength hfinds ih =>
    left
    rw [run, runAll_ok hlength fun i operand records hi hi' ↦ ?_]
    · rfl
    · rcases ih i operand records hi hi' with h | ⟨f, f', h, -⟩
      · exact h.symm
      · cases h
  | @any strict operands sets hlength hfinds ih =>
    left
    rw [run, runAll_ok hlength fun i operand records hi hi' ↦ ?_]
    · rfl
    · rcases ih i operand records hi hi' with h | ⟨f, f', h, -⟩
      · exact h.symm
      · cases h
  | @allFault strict operands operand fault hmem hfinds ih =>
    have hfault := hfinds.not_searchFault hL e (.inl rfl) rfl
    obtain ⟨f, hf⟩ : ∃ f, run e g target scope false operand = .error f := by
      rcases ih with h | ⟨f, f', -, h, -⟩
      · exact ⟨fault, h.symm⟩
      · exact ⟨f', h⟩
    obtain ⟨f', hf'⟩ := runAll_error hmem hf
    have hrun : run e g target scope strict (.all operands) = .error f' := by
      rw [run, hf']
      rfl
    exact .inr ⟨fault, f', rfl, hrun, hfault,
      not_searchFault_run hL hg (.all operands) strict (.inr rfl) f' hrun⟩
  | @anyFault strict operands operand fault hmem hfinds ih =>
    have hfault := hfinds.not_searchFault hL e (.inl rfl) rfl
    obtain ⟨f, hf⟩ : ∃ f, run e g target scope false operand = .error f := by
      rcases ih with h | ⟨f, f', -, h, -⟩
      · exact ⟨fault, h.symm⟩
      · exact ⟨f', h⟩
    obtain ⟨f', hf'⟩ := runAll_error hmem hf
    have hrun : run e g target scope strict (.any operands) = .error f' := by
      rw [run, hf']
      rfl
    exact .inr ⟨fault, f', rfl, hrun, hfault,
      not_searchFault_run hL hg (.any operands) strict (.inr rfl) f' hrun⟩

end Evaluator

namespace SearchRequest

variable {L : Lore} {g : Graph}

/-- A search faults alike for whatever reason of its own it fails. -/
theorem toldFault_sameClass {f f' : Fault} (h : f.isSearchFault = false)
    (h' : f'.isSearchFault = false) : (toldFault f).SameClass (toldFault f') := by
  rw [toldFault, toldFault, if_neg (by simp [h]), if_neg (by simp [h'])]
  rfl

/-- What a request finds is arranged like what it finds on the graph. -/
theorem arranged_agree (hL : L.Fair) (hg : L.Exact g) {r : SearchRequest}
    {found : Outcome (List Record)} (h : r.Finds L found) :
    (r.arranged found).Agree (r.runRecords L.evaluator g) := by
  unfold Finds at h
  unfold arranged runRecords
  by_cases hempty : r.trimmedQuery.isEmpty
  · rw [if_pos hempty] at h ⊢
    rw [(hg.yields_iff hL ..).1 h]
  · rw [if_neg hempty] at h ⊢
    rcases h.eq_run hL hg with rfl | ⟨f, f', rfl, hrun, hf, hf'⟩
    · rfl
    · rw [hrun]
      exact .error (toldFault_sameClass hf hf')

end SearchRequest

end OutlineSearch
