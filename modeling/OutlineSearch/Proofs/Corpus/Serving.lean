import OutlineSearch.Proofs.Corpus.Lore

/-!
# Providers of a graph

A provider that is called becomes another one: it has counted the call, or knows what the call has
found. It serves a graph when, whatever it becomes, it answers every call as the graph says; it
falters on the graph when some of the calls fail.
-/

namespace OutlineSearch

namespace Provider

/-- A provider becomes another one by calls. -/
inductive Becomes (p : Provider) : Provider → Prop where
  | refl : Becomes p p
  | start {p' : Provider} (h : Becomes p p') (q : Query) : Becomes p (p'.start q)
  | answer {p' : Provider} (h : Becomes p p') (q : Query) : Becomes p (p'.answer q).2

theorem Becomes.trans {p p' p'' : Provider} (h : p.Becomes p') (h' : p'.Becomes p'') :
    p.Becomes p'' := by
  induction h' with
  | refl => exact h
  | start _ q ih => exact ih.start q
  | answer _ q ih => exact ih.answer q

/-- The provider answers every call as a graph says. -/
def Serves (p : Provider) (g : Graph) : Prop :=
  ∀ p', p.Becomes p' → p'.listPages.1 = g.pages ∧ ∀ page, (p'.outline page).1 = g.blocks page

end Provider

/-- The fault of a call is the provider's or no search fault. -/
def Fault.OfCall (fault : Fault) : Prop :=
  (∃ message, fault = .provider message) ∨ fault.isSearchFault = false

/-- The provider answers every call as a graph says, or fails. -/
def Provider.Falters (p : Provider) (g : Graph) : Prop :=
  ∀ p', p.Becomes p' →
    (p'.listPages.1 = g.pages ∨ ∃ fault : Fault, fault.OfCall ∧ p'.listPages.1 = .error fault) ∧
    ∀ page, (p'.outline page).1 = g.blocks page ∨
      ∃ fault : Fault, fault.OfCall ∧ (p'.outline page).1 = .error fault

theorem Provider.Serves.falters {p : Provider} {g : Graph} (h : p.Serves g) : p.Falters g :=
  fun p' hp' ↦ ⟨.inl (h p' hp').1, fun page ↦ .inl ((h p' hp').2 page)⟩

theorem Provider.Serves.becomes {p p' : Provider} {g : Graph} (h : p.Serves g)
    (hp : p.Becomes p') : p'.Serves g :=
  fun _ hp' ↦ h _ (hp.trans hp')

theorem Provider.Falters.becomes {p p' : Provider} {g : Graph} (h : p.Falters g)
    (hp : p.Becomes p') : p'.Falters g :=
  fun _ hp' ↦ h _ (hp.trans hp')

namespace Graph

/-- The outcome of a call depends on its operation and on the lower-case name of the page only, and
its faults are those of calls. -/
structure Regular (g : Graph) : Prop where
  caseless : ∀ a b, Text.lowered a = Text.lowered b → g.blocks a = g.blocks b
  pagesFault : ∀ fault, g.pages = .error fault → fault.OfCall
  blocksFault : ∀ page fault, g.blocks page = .error fault → fault.OfCall

/-- The graph as those who read it are told of it. -/
def told (g : Graph) : Graph where
  pages := Corpus.told .pages g.pages
  blocks page := Corpus.told (.blocks page) (g.blocks page)

end Graph

/-- Every fault of a call is told as the provider's. -/
theorem Fault.OfCall.toldFault {fault : Fault} (h : fault.OfCall) (q : Query) :
    ∃ message, Corpus.toldFault q fault = .provider message := by
  rcases h with ⟨message, rfl⟩ | h
  · exact ⟨message, rfl⟩
  · exact ⟨_, if_neg (by simp [h])⟩

theorem Corpus.told_eq_error {α : Type} {q : Query} {r : Outcome α} {fault : Fault}
    (h : told q r = .error fault) : ∃ fault', r = .error fault' ∧ toldFault q fault' = fault := by
  cases r with
  | ok a => cases h
  | error fault' =>
    refine ⟨fault', rfl, ?_⟩
    cases h
    rfl

/-! ### The lore of a graph -/

/-- What may be said of a graph whose provider serves it: only what it holds. -/
def Lore.exactly (g : Graph) (results : String → List Record → Prop) (p : Provider) (s : Settings)
    (today : Date) : Lore where
  pages r := r = g.told.pages
  blocks page r := r = g.told.blocks page
  results := results
  provider := p.Becomes
  settings := s
  today := today

/-- What may be said of a graph whose provider falters on it: what it holds, or that a call failed. -/
def Lore.faltering (g : Graph) (results : String → List Record → Prop) (s : Settings)
    (today : Date) : Lore where
  pages r := r = g.told.pages ∨ ∃ message, r = .error (.provider message)
  blocks page r := r = g.told.blocks page ∨ ∃ message, r = .error (.provider message)
  results := results
  provider p := p.Falters g
  settings := s
  today := today

section Fair

variable {g : Graph} {results : String → List Record → Prop} {p : Provider} {s : Settings}
  {today : Date}

/-- What is told of a page is told of one whose name differs in case only. -/
theorem Graph.Regular.told_blocks (hg : g.Regular) {a b : String}
    (h : Text.lowered a = Text.lowered b) : g.told.blocks a = g.told.blocks b := by
  unfold Graph.told
  simp only [hg.caseless a b h]
  rfl

theorem Graph.Regular.told_pagesFault (hg : g.Regular) {fault : Fault}
    (h : g.told.pages = .error fault) : ∃ message, fault = .provider message := by
  obtain ⟨fault', hfault, rfl⟩ := Corpus.told_eq_error h
  exact (hg.pagesFault fault' hfault).toldFault _

theorem Graph.Regular.told_blocksFault (hg : g.Regular) {page : String} {fault : Fault}
    (h : g.told.blocks page = .error fault) : ∃ message, fault = .provider message := by
  obtain ⟨fault', hfault, rfl⟩ := Corpus.told_eq_error h
  exact (hg.blocksFault page fault' hfault).toldFault _

theorem Lore.fair_exactly (hg : g.Regular) (hp : p.Serves g) :
    (Lore.exactly g results p s today).Fair where
  start _ q h := h.start q
  answer _ q h := h.answer q
  pages p' h := by
    change Corpus.told .pages p'.listPages.1 = _
    rw [(hp p' h).1]
    rfl
  blocks p' page h := by
    change Corpus.told (.blocks page) (p'.outline page).1 = _
    rw [(hp p' h).2]
    rfl
  caseless a b h r hr := hr.trans (hg.told_blocks h)
  pagesFault fault h := hg.told_pagesFault (Eq.symm h)
  blocksFault page fault h := hg.told_blocksFault (Eq.symm h)

theorem Lore.fair_faltering (hg : g.Regular) : (Lore.faltering g results s today).Fair where
  start _ q h := h.becomes (.start .refl q)
  answer _ q h := h.becomes (.answer .refl q)
  pages p' h := by
    rcases (h p' .refl).1 with heq | ⟨fault, hfault, heq⟩
    · rw [heq]
      exact .inl rfl
    · rw [heq]
      obtain ⟨message, hmessage⟩ := hfault.toldFault .pages
      exact .inr ⟨message, congrArg Except.error hmessage⟩
  blocks p' page h := by
    rcases (h p' .refl).2 page with heq | ⟨fault, hfault, heq⟩
    · rw [heq]
      exact .inl rfl
    · rw [heq]
      obtain ⟨message, hmessage⟩ := hfault.toldFault (.blocks page)
      exact .inr ⟨message, congrArg Except.error hmessage⟩
  caseless a b h r hr := by
    rcases hr with hr | hr
    · exact .inl (hr.trans (hg.told_blocks h))
    · exact .inr hr
  pagesFault fault h := by
    rcases h with h | ⟨message, h⟩
    · exact hg.told_pagesFault (Eq.symm h)
    · exact ⟨message, Except.error.inj h⟩
  blocksFault page fault h := by
    rcases h with h | ⟨message, h⟩
    · exact hg.told_blocksFault (Eq.symm h)
    · exact ⟨message, Except.error.inj h⟩

end Fair

/-! ### A graph held in memory -/

/-- A graph held in memory with the calls that have been counted. -/
theorem Provider.memory_becomes {g : MemoryGraph} {p : Provider} (h : (memory g).Becomes p) :
    ∃ n calls, p = memory { g with pagesCalls := n, outlineCalls := calls } := by
  induction h with
  | refl => exact ⟨g.pagesCalls, g.outlineCalls, rfl⟩
  | start _ q ih =>
    obtain ⟨n, calls, rfl⟩ := ih
    cases q with
    | pages => exact ⟨n + 1, calls, rfl⟩
    | blocks page => exact ⟨n, MemoryGraph.countName page calls, rfl⟩
  | answer _ q ih =>
    obtain ⟨n, calls, rfl⟩ := ih
    cases q <;> exact ⟨n, calls, rfl⟩

/-- A graph held in memory is served as it is. -/
theorem Provider.memory_serves (g : MemoryGraph) : (memory g).Serves ⟨g.listPages, g.outline⟩ := by
  intro p hp
  obtain ⟨n, calls, rfl⟩ := memory_becomes hp
  exact ⟨rfl, fun page ↦ rfl⟩

end OutlineSearch
