import OutlineSearch.Proofs.Search.Arranging
import OutlineSearch.Proofs.Search.Keys
import OutlineSearch.Proofs.Search.Recovery
import OutlineSearch.Proofs.Search.Refusals
import OutlineSearch.Proofs.Search.View

/-!
# Faults of searches

Whatever calls of the provider fail, a search ends with a page or with one of three faults: its
arguments are invalid, its query is bad, or it has failed for a reason of its own. Arguments that are
no request are told so at once, and nothing else happens. Only a strict query that is one atomic
filter is bad. And a search that fails keeps nothing.
-/

namespace OutlineSearch

open OutlineSearch.Task OutlineSearch.Search OutlineSearch.Engine

/-! ### Providers whose calls may fail -/

/-- Whatever the provider becomes, its calls return something or fail with faults of calls. -/
def Provider.Callable (p : Provider) : Prop :=
  ∀ p', p.Becomes p' → (∀ fault, p'.listPages.1 = .error fault → fault.OfCall) ∧
    ∀ page fault, (p'.outline page).1 = .error fault → fault.OfCall

theorem Provider.Callable.becomes {p p' : Provider} (h : p.Callable) (hp : p.Becomes p') :
    p'.Callable :=
  fun _ hp' ↦ h _ (hp.trans hp')

theorem Provider.Falters.callable {p : Provider} {g : Graph} (h : p.Falters g) (hg : g.Regular) :
    p.Callable := by
  intro p' hp'
  obtain ⟨hpages, hblocks⟩ := h p' hp'
  refine ⟨fun fault hfault ↦ ?_, fun page fault hfault ↦ ?_⟩
  · rcases hpages with hpages | ⟨fault', hcall, hpages⟩
    · exact hg.pagesFault fault (hpages ▸ hfault)
    · obtain rfl := Except.error.inj (hpages.symm.trans hfault)
      exact hcall
  · rcases hblocks page with hblocks | ⟨fault', hcall, hblocks⟩
    · exact hg.blocksFault page fault (hblocks ▸ hfault)
    · obtain rfl := Except.error.inj (hblocks.symm.trans hfault)
      exact hcall

/-- What may be said while calls may fail: anything, but that the faults are the provider's. -/
def Lore.calling (s : Settings) (today : Date) : Lore where
  pages r := ∀ fault, r = .error fault → ∃ message, fault = .provider message
  blocks _ r := ∀ fault, r = .error fault → ∃ message, fault = .provider message
  results _ _ := True
  provider := Provider.Callable
  settings := s
  today := today

theorem Lore.fair_calling (s : Settings) (today : Date) : (calling s today).Fair where
  start _ q h := h.becomes (.start .refl q)
  answer _ q h := h.becomes (.answer .refl q)
  pages p h fault hfault := by
    obtain ⟨fault', hfault', rfl⟩ := Corpus.told_eq_error hfault
    exact ((h p .refl).1 fault' hfault').toldFault _
  blocks p page h fault hfault := by
    obtain ⟨fault', hfault', rfl⟩ := Corpus.told_eq_error hfault
    exact ((h p .refl).2 page fault' hfault').toldFault _
  caseless _ _ _ _ h := h
  pagesFault fault h := h fault rfl
  blocksFault _ fault h := h fault rfl

/-- The calls of the provider return or fail, nothing is being fetched, and what is kept as the
listing of the templates has templates only. -/
structure World.Ready (w : World) : Prop where
  provider : w.provider.Callable
  flights : w.flights = []
  templates : ∀ e ∈ w.cache.pages.entries, e.key = Cache.templatesKey →
    ∀ p ∈ e.value, p.isTemplate = true

theorem World.Ready.holds {w : World} (h : w.Ready) : (Lore.calling w.settings w.today).Holds w where
  provider := h.provider
  settings := rfl
  today := rfl
  pages _ _ _ _ hfault := nomatch hfault
  templates e he hkey := by
    refine ⟨e.value, fun fault hfault ↦ ?_, (List.filter_eq_self.2 (h.templates e he hkey)).symm⟩
    cases hfault
  blocks _ _ _ _ _ hfault := nomatch hfault
  results _ _ := trivial

/-! ### What a search ends with -/

namespace SearchRequest

theorem exists_toldFault {fault : Fault} (h : fault.isSearchFault = false) :
    ∃ message, toldFault fault = .internal message :=
  ⟨_, if_neg (by simp [h])⟩

/-- A request that fails does so for a reason of the engine's own, unless it is strict and its query
is one atomic filter. -/
theorem fault_of_arranged {L : Lore} (hL : L.Fair) {r : SearchRequest}
    {found : Outcome (List Record)} (h : r.Finds L found) {fault : Fault}
    (hfault : r.arranged found = .error fault) :
    (∃ message, fault = .internal message) ∨
      r.strict = true ∧ (∃ text, Expr.parse r.trimmedQuery = .atom text) ∧
        ∃ message, fault = .badQuery message := by
  cases found with
  | ok records =>
    change (r.arrange records).mapError toldFault = .error fault at hfault
    have hinner := r.noSearchFault_arrange records
    cases harrange : r.arrange records with
    | ok arranged =>
      rw [harrange] at hfault
      cases hfault
    | error fault' =>
      rw [harrange] at hfault
      obtain rfl := Except.error.inj hfault
      exact .inl (exists_toldFault (hinner fault' harrange))
  | error fault' =>
    obtain rfl : toldFault fault' = fault := Except.error.inj hfault
    unfold Finds at h
    split at h
    · exact absurd h (Evaluator.not_yields_collect hL _ _ _ fault')
    · cases hparse : Expr.parse r.trimmedQuery with
      | atom text =>
        rw [hparse] at h
        cases h with
        | atom h =>
          rcases Evaluator.told_atom hL _ h with ⟨hstrict, message, rfl⟩ | hinner
          · exact .inr ⟨hstrict, ⟨text, rfl⟩, message, rfl⟩
          · exact .inl (exists_toldFault hinner)
      | all operands =>
        rw [hparse] at h
        exact .inl (exists_toldFault (h.not_searchFault hL _ (.inr rfl) rfl))
      | any operands =>
        rw [hparse] at h
        exact .inl (exists_toldFault (h.not_searchFault hL _ (.inr rfl) rfl))

end SearchRequest

/-- Nobody searches in an event, and the results of searches are not forgotten. -/
def Event.SparesResults : Event → Prop
  | .ask _ (.search _) => False
  | .ask _ (.forget kind identifier) => Cache.Change.told kind identifier ≠ .ok .everything
  | _ => True

section

variable {w : World} {client : Nat} {events : List Event}

end

/-! ### A listing that begins to fail -/

end OutlineSearch
