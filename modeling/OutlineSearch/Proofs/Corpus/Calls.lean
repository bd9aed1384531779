import OutlineSearch.Engine.Session
import OutlineSearch.Proofs.Corpus.Reading

/-!
# Calls in a trail

The trail of a schedule shows the calls of the provider. A call begins where its key is taken off,
and lands where the answer is received and the key touches down. What a read answers since the
beginning of a trail is what a call that has begun in the trail has brought.
-/

namespace OutlineSearch

open OutlineSearch.Task OutlineSearch.Engine

namespace Query

/-- A call has begun in a trail and is still under way at its end. -/
def Begun (q : Query) (trail : List World) : Prop :=
  ∃ front w back, trail = front ++ w :: (w.takeOff (Corpus.keyOf q)).start q :: back ∧
    Corpus.keyOf q ∉ w.flights ∧ ∀ w' ∈ back, Corpus.keyOf q ∈ w'.flights

/-- A call that has begun in a trail has landed in it, with a reply. -/
def Brings (q : Query) (reply : Outcome Reply) (trail : List World) : Prop :=
  ∃ front w back, trail = front ++ w :: (Corpus.receive q w).2 ::
      (Corpus.receive q w).2.touchDown (Corpus.keyOf q) :: back ∧
    q.Begun (front ++ [w]) ∧ reply = (Corpus.receive q w).1

variable {q : Query} {trail : List World} {w : World}

theorem Begun.append (h : q.Begun trail) {more : List World}
    (hmore : ∀ w ∈ more, Corpus.keyOf q ∈ w.flights) : q.Begun (trail ++ more) := by
  obtain ⟨front, w, back, rfl, hnew, hback⟩ := h
  refine ⟨front, w, back ++ more, by simp, hnew, fun w' hw' ↦ ?_⟩
  rcases List.mem_append.1 hw' with hw' | hw'
  · exact hback w' hw'
  · exact hmore w' hw'

theorem Brings.append {reply : Outcome Reply} (h : q.Brings reply trail) (more : List World) :
    q.Brings reply (trail ++ more) := by
  obtain ⟨front, w, back, rfl, hbegun, hreply⟩ := h
  exact ⟨front, w, back ++ more, by simp, hbegun, hreply⟩

/-- A call begins when its key is taken off. -/
theorem begun_takeOff (hlast : trail.getLast? = some w) (hnew : Corpus.keyOf q ∉ w.flights) :
    q.Begun (trail ++ [(w.takeOff (Corpus.keyOf q)).start q]) := by
  obtain ⟨front, rfl⟩ := List.getLast?_eq_some_iff.1 hlast
  exact ⟨front, w, [], by simp, hnew, List.forall_mem_nil _⟩

/-- A call that is under way lands with the reply that is received. -/
theorem Begun.land (h : q.Begun trail) (hlast : trail.getLast? = some w) :
    q.Brings (Corpus.receive q w).1 (trail ++ [(Corpus.receive q w).2,
      (Corpus.receive q w).2.touchDown (Corpus.keyOf q)]) := by
  obtain ⟨front, rfl⟩ := List.getLast?_eq_some_iff.1 hlast
  exact ⟨front, w, [], by simp, h, rfl⟩

/-- What is received for a query is kept as it is told. -/
theorem receive_cases (q : Query) (w : World) :
    (∃ fault, Corpus.receive q w = (.error fault, (w.answer q).2)) ∨
      match q with
      | .pages => ∃ items, Corpus.receive q w = (.ok (.pages items), (w.answer q).2.keepPages items)
      | .blocks page => ∃ items, Corpus.receive q w =
          (.ok (.blocks items), (w.answer q).2.keepBlocks (Cache.blocksKey page) items) := by
  cases q with
  | pages =>
    cases hr : w.provider.listPages.1 with
    | ok items =>
      refine .inr ⟨items, ?_⟩
      simp only [Corpus.receive, World.answer, Provider.answer, hr]
      rfl
    | error fault =>
      refine .inl ⟨Corpus.toldFault .pages fault, ?_⟩
      simp only [Corpus.receive, World.answer, Provider.answer, hr]
      rfl
  | blocks page =>
    cases hr : (w.provider.outline page).1 with
    | ok items =>
      refine .inr ⟨items, ?_⟩
      simp only [Corpus.receive, World.answer, Provider.answer, hr]
      rfl
    | error fault =>
      refine .inl ⟨Corpus.toldFault (.blocks page) fault, ?_⟩
      simp only [Corpus.receive, World.answer, Provider.answer, hr]
      rfl

theorem eq_pages (h : Corpus.keyOf q = Cache.allPagesKey) : q = .pages := by
  cases q with
  | pages => rfl
  | blocks page => exact absurd h (Cache.blocksKey_ne_allPagesKey page)

/-- What a call for the listing brings is a listing, or the call has failed. -/
theorem Brings.of_toPages {reply : Outcome Reply} (h : Query.pages.Brings reply trail)
    {items : List Page} (hitems : Corpus.toPages reply = .ok items) :
    Query.pages.Brings (.ok (.pages items)) trail := by
  obtain ⟨front, w, back, htrail, hbegun, hreply⟩ := h
  rcases receive_cases .pages w with ⟨fault, hfault⟩ | ⟨items', hreceived⟩
  · rw [hreply, hfault] at hitems
    cases hitems
  · rw [hreply, hreceived] at hitems
    obtain rfl := Except.ok.inj hitems
    exact ⟨front, w, back, htrail, hbegun, by rw [hreceived]⟩

end Query

/-! ### Reads -/

/-- A read of a corpus. -/
inductive Read where
  | pages
  | templates
  | blocks (page : String)
deriving DecidableEq

namespace Read

/-- What the provider is asked for. -/
def query : Read → Query
  | pages | templates => .pages
  | blocks page => .blocks page

/-- The key under which the answer is kept. -/
def key : Read → String
  | pages => Cache.allPagesKey
  | templates => Cache.templatesKey
  | blocks page => Cache.blocksKey page

/-- The operation of a session. -/
def operation : Read → Operation
  | pages => .pages
  | templates => .templates
  | blocks page => .blocks page

/-- The answer that is made of the reply to a call. -/
def outcome : Read → Outcome Reply → Outcome Reply
  | pages, reply => (Corpus.toPages reply).map .pages
  | templates, reply => (Lore.templatesOf (Corpus.toPages reply)).map .pages
  | blocks _, reply => (Corpus.toBlocks reply).map .blocks

/-- Keeps the templates of a listing, and ends with them. -/
def derive (items : List Page) : EngineJob :=
  .change (·.keepTemplates (items.filter Page.isTemplate))
    (.finish (.ok (.pages (items.filter Page.isTemplate))))

/-- How the read goes on with the reply to a call. -/
def next : Read → Outcome Reply → EngineJob
  | pages, reply => .finish (pages.outcome reply)
  | templates, reply =>
    match Corpus.toPages reply with
    | .error fault => .finish (.error fault)
    | .ok items => derive items
  | blocks page, reply => .finish ((blocks page).outcome reply)

/-- The job of the read when no templates are kept. -/
def fetching (rd : Read) : EngineJob := Corpus.read rd.query rd.next

theorem job_templates : Operation.job .finish Read.templates.operation =
    .touch (·.cachedPages Cache.templatesKey) fun
      | some items => .finish (.ok (.pages items))
      | none => Read.templates.fetching := rfl

/-- A read answers what a call that has begun in a trail has brought. -/
def Since (rd : Read) (trail : List World) (answer : Outcome Reply) : Prop :=
  ∃ q reply, Corpus.keyOf q = Corpus.keyOf rd.query ∧ q.Brings reply trail ∧
    answer = rd.outcome reply

theorem Since.append {rd : Read} {trail : List World} {answer : Outcome Reply}
    (h : rd.Since trail answer) (more : List World) : rd.Since (trail ++ more) answer := by
  obtain ⟨q, reply, hkey, hbrings, hanswer⟩ := h
  exact ⟨q, reply, hkey, hbrings.append more, hanswer⟩

end Read

end OutlineSearch
