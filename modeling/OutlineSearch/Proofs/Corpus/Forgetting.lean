import OutlineSearch.Proofs.Corpus.Traffic
import OutlineSearch.Proofs.Search.Listing

/-!
# Reading after a call to forget

The cache is made to forget while calls of the provider are on their way. A read that is asked for
later answers what a call has brought that began later, unless a call for the same thing was under way
then: this call is joined, and its reply is kept like any other. Templates that are being derived from
an older listing are kept, too.
-/

namespace OutlineSearch

open OutlineSearch.Task OutlineSearch.Engine

namespace Cache

theorem blocksKey_ne_templatesKey (page : String) : blocksKey page ≠ templatesKey := by
  intro h
  have := congrArg String.toList h
  simp [blocksKey, templatesKey, toString] at this

/-- A change concerns what is read. -/
def Change.Covers : Change → Read → Prop
  | .page _, .pages => True
  | .page _, .templates => True
  | .page name, .blocks p => ∃ n, name = some n ∧ Text.lowered p = Text.lowered n
  | .block none, .blocks _ => True
  | .block (some n), .blocks p => Text.lowered p = Text.lowered n
  | .block _, _ => False
  | .everything, _ => True

theorem Change.Covers.pages {change : Change} (h : change.Covers .templates) :
    change.Covers .pages := by
  cases change with
  | page name => trivial
  | block page => cases page <;> exact h.elim
  | everything => trivial

section

variable {c : Cache} {change : Change}

/-- Nothing is kept under the key of a listing that a change concerns. -/
theorem key_ne_of_mem_forget_pages {rd : Read} (hrd : rd = .pages ∨ rd = .templates)
    (hcovers : change.Covers rd) {e : StoreEntry (List Page)}
    (he : e ∈ (c.forget change).pages.entries) : e.key ≠ rd.key := by
  cases change with
  | page name =>
    rcases hrd with rfl | rfl
    · exact Store.key_ne_of_mem_erase (Store.mem_of_mem_erase he)
    · exact Store.key_ne_of_mem_erase he
  | block page => rcases hrd with rfl | rfl <;> cases page <;> exact hcovers.elim
  | everything => cases he

/-- Nothing is kept under the key of an outline that a change concerns. -/
theorem key_ne_of_mem_forget_blocks {page : String} (hcovers : change.Covers (.blocks page))
    {e : StoreEntry (List Block)} (he : e ∈ (c.forget change).blocks.entries) :
    e.key ≠ blocksKey page := by
  cases change with
  | page name =>
    obtain ⟨n, rfl, hn⟩ := hcovers
    rw [(blocksKey_eq_iff ..).2 hn]
    exact Store.key_ne_of_mem_erase he
  | block name =>
    cases name with
    | none => cases he
    | some n =>
      rw [(blocksKey_eq_iff ..).2 hcovers]
      exact Store.key_ne_of_mem_erase he
  | everything => cases he

end

end Cache

namespace Read

theorem operation_injective : Function.Injective operation := by
  intro a b h
  cases a <;> cases b <;> cases h <;> rfl

theorem eq_of_key {a b : Read} (h : a.key = b.key) :
    a = b ∨ ∃ p q, a = .blocks p ∧ b = .blocks q ∧ Cache.blocksKey p = Cache.blocksKey q := by
  cases a with
  | pages =>
    cases b with
    | pages => exact .inl rfl
    | templates => exact absurd h Cache.allPagesKey_ne_templatesKey
    | blocks q => exact absurd h.symm (Cache.blocksKey_ne_allPagesKey q)
  | templates =>
    cases b with
    | pages => exact absurd h.symm Cache.allPagesKey_ne_templatesKey
    | templates => exact .inl rfl
    | blocks q => exact absurd h.symm (Cache.blocksKey_ne_templatesKey q)
  | blocks p =>
    cases b with
    | pages => exact absurd h (Cache.blocksKey_ne_allPagesKey p)
    | templates => exact absurd h (Cache.blocksKey_ne_templatesKey p)
    | blocks q => exact .inr ⟨p, q, rfl, rfl, h⟩

theorem eq_pages {rd : Read} (h : rd.key = Cache.allPagesKey) : rd = .pages := by
  rcases eq_of_key (b := .pages) h with rfl | ⟨_, _, -, heq, -⟩
  · rfl
  · cases heq

theorem eq_templates {rd : Read} (h : rd.key = Cache.templatesKey) : rd = .templates := by
  rcases eq_of_key (b := .templates) h with rfl | ⟨_, _, -, heq, -⟩
  · rfl
  · cases heq

end Read

/-! ### What happens on a corpus that is only read, edited and made to forget -/

/-- The events of such a corpus. -/
inductive Event.OfReading : Event → Prop where
  | read (client : Nat) (rd : Read) : OfReading (.ask client rd.operation)
  | forget (client : Nat) (kind identifier : Value) :
    OfReading (.ask client (.forget kind identifier))
  | edit (client : Nat) (change : Provider → Outcome Provider) : OfReading (.ask client (.edit change))
  | advance (client : Nat) (seconds : Binary64) : OfReading (.ask client (.advance seconds))
  | turn (place : Nat) : OfReading (.turn place)

namespace Focus

variable {F : Focus} {trail : List World} {l : Session}

/-- An event is within a focus: who reads is known, and who does something else has not asked for one
of the reads in focus. -/
structure Admits (F : Focus) (e : Event) : Prop where
  known : ∀ r : Reader, e = .ask r.client r.read.operation → F.known r
  asker : ∀ client operation, e = .ask client operation → F.asker client
  since : ∀ client operation, e = .ask client operation → (∀ rd, operation ≠ Read.operation rd) →
    ∀ r, F.since r → r.client ≠ client

theorem Upholds.event (h : F.Upholds trail l) {e : Event} (he : e.OfReading) (hadmits : F.Admits e) :
    F.Upholds (trail ++ l.moveStates e.move) (l.move failed e.move) := by
  cases he with
  | read client rd => exact h.read (r := ⟨client, rd⟩) (hadmits.known _ rfl)
  | forget client kind identifier =>
    have hsince := hadmits.since client _ rfl (fun rd heq ↦ by cases rd <;> cases heq)
    have hasker := hadmits.asker client _ rfl
    rw [Event.move, Loop.moveStates, Loop.move, Operation.job, forgetJob]
    cases Cache.Change.told kind identifier with
    | error fault =>
      obtain ⟨errands, waiting, h⟩ := h
      rw [Job.states, List.append_nil]
      exact ⟨errands, waiting, h.closeOther hsince hasker _⟩
    | ok change =>
      have hstored : F.Stored trail (l.state.forget change).cache := by
        obtain ⟨errands, waiting, h⟩ := h
        exact h.stored.forget change
      exact h.change (w := l.state.forget change) hsince hasker rfl hstored _
  | edit client change =>
    have hsince := hadmits.since client _ rfl (fun rd heq ↦ by cases rd <;> cases heq)
    have hasker := hadmits.asker client _ rfl
    have hedited : (editGraph change l.state).2.flights = l.state.flights ∧
        (editGraph change l.state).2.cache = l.state.cache := by
      unfold editGraph
      cases change l.state.provider <;> exact ⟨rfl, rfl⟩
    have hstored : F.Stored trail (editGraph change l.state).2.cache := by
      obtain ⟨errands, waiting, h⟩ := h
      rw [hedited.2]
      exact h.stored
    exact h.change (w := (editGraph change l.state).2) hsince hasker hedited.1 hstored _
  | advance client seconds =>
    have hsince := hadmits.since client _ rfl (fun rd heq ↦ by cases rd <;> cases heq)
    have hstored : F.Stored trail l.state.cache := by
      obtain ⟨errands, waiting, h⟩ := h
      exact h.stored
    exact h.change (w := { l.state with clock := l.state.clock.add seconds }) hsince
      (hadmits.asker client _ rfl) rfl hstored _
  | turn place => exact h.turn place

/-- What is under way, kept and answered in focus comes from the trail, whatever happens. -/
theorem Upholds.after (h : F.Upholds trail l) {events : List Event}
    (hevents : ∀ e ∈ events, e.OfReading ∧ F.Admits e) :
    F.Upholds (trail ++ l.trail failed (events.map Event.move)) (l.after events) := by
  induction events generalizing l trail with
  | nil => rwa [List.map_nil, Loop.trail_nil, List.append_nil]
  | cons e events ih =>
    obtain ⟨⟨he, hadmits⟩, hrest⟩ := List.forall_mem_cons.1 hevents
    rw [List.map_cons, Loop.trail_cons, ← List.append_assoc]
    exact ih (h.event he hadmits) hrest

/-- When nothing is due, nobody waits. -/
theorem Upholds.waiters_of_rest (h : F.Upholds trail l) (hrest : l.AtRest) : l.waiters = [] := by
  obtain ⟨errands, waiting, h⟩ := h
  have herrands : errands = [] := by
    have hqueue := h.queue
    rw [hrest] at hqueue
    simpa using hqueue.symm
  have hflights : l.state.flights = [] := by
    have howed := h.owed
    rw [herrands] at howed
    exact List.perm_nil.1 howed.symm
  have hwaiting : waiting = [] := List.eq_nil_iff_forall_not_mem.2 fun r hr ↦ by
    have hawaited := h.awaited r hr
    rw [hflights] at hawaited
    cases hawaited
  rw [h.waiters, hwaiting]
  rfl

end Focus

/-! ### From a call to forget on -/

/-- The states of a corpus from the end of some events on, while some more events happen. -/
def World.trailAfter (w : World) (past events : List Event) : List World :=
  (w.after past).state :: (w.after past).trail failed (events.map Event.move)

/-- After some events nothing that a read could join or take up is under way: no call under its key,
and for a read of the templates nobody who is about to derive them. -/
def World.Quiet (w : World) (past : List Event) : Read → Prop
  | .templates => Cache.allPagesKey ∉ (w.after past).state.flights ∧
      ∀ t ∈ (w.after past).queue, ∀ n, t.owner = .client n → .ask n .templates ∉ past
  | rd => rd.key ∉ (w.after past).state.flights

section

variable {w : World} {before after : List Event} {caller : Nat} {kind identifier : Value}
  {change : Cache.Change}

/-- Somebody asks for a read. -/
def Reader.AsksIn (r : Reader) (events : List Event) : Prop :=
  .ask r.client r.read.operation ∈ events

theorem Reader.AsksIn.eq {r r' : Reader} {events : List Event}
    (h : (events.filterMap Event.client?).Nodup) (hr : r.AsksIn events) (hr' : r'.AsksIn events)
    (hclient : r.client = r'.client) : r = r' := by
  obtain ⟨n, rd⟩ := r
  obtain ⟨n', rd'⟩ := r'
  obtain rfl : n = n' := hclient
  obtain rfl := Read.operation_injective (operation_eq h hr hr')
  rfl

/-- The client of an event is one of those who ask. -/
theorem mem_clients {events : List Event} {client : Nat} {operation : Operation}
    (h : .ask client operation ∈ events) : client ∈ events.filterMap Event.client? :=
  List.mem_filterMap.2 ⟨_, h, rfl⟩

/-- Some clients ask, and nothing is in focus. -/
def Focus.blurred (events : List Event) : Focus where
  keys _ := False
  asker n := n ∈ events.filterMap Event.client?
  known r := r.AsksIn events
  since _ := False
  listing h := h
  kept _ h := h.elim
  told _ h := h.elim
  one _ _ _ h := h.elim
  asked _ h := mem_clients h

/-- The focus on what a change concerns and what nothing is under way for, for those who ask after
some events. -/
def Focus.on (w : World) (before after : List Event) (change : Cache.Change) (events : List Event)
    (h : (events.filterMap Event.client?).Nodup) (hafter : ∀ e ∈ after, e ∈ events) : Focus where
  keys key := ∃ rd : Read, rd.key = key ∧ change.Covers rd ∧ w.Quiet before rd
  asker n := n ∈ events.filterMap Event.client?
  known r := r.AsksIn events
  since r := r.AsksIn after ∧ change.Covers r.read ∧ w.Quiet before r.read
  listing := by
    rintro ⟨rd, hkey, hcovers, hquiet⟩
    obtain rfl := Read.eq_templates hkey
    exact ⟨.pages, rfl, hcovers.pages, hquiet.1⟩
  kept r hr := ⟨r.read, rfl, hr.2⟩
  told r hr := by
    obtain ⟨client, rd⟩ := r
    cases rd with
    | pages => exact ⟨.pages, rfl, hr.2⟩
    | templates => exact ⟨.pages, rfl, hr.2.1.pages, hr.2.2.1⟩
    | blocks page => exact ⟨.blocks page, rfl, hr.2⟩
  one r r' hr hr' := Reader.AsksIn.eq h hr (hafter _ hr'.1)
  asked _ hr := mem_clients hr

/-- Everything that is under way on a corpus on which nothing was, is for somebody who has asked. -/
theorem upholds_blurred (hflights : w.flights = []) (hbefore : ∀ e ∈ before, e.OfReading) :
    (Focus.blurred before).Upholds
      (w :: ({ state := w } : Session).trail failed (before.map Event.move)) (w.after before) := by
  have hstart : (Focus.blurred before).Upholds [w] { state := w } := by
    refine ⟨[], [], .refl _, rfl, ?_, ?_, ?_, rfl, ?_, ?_, ⟨?_, ?_, ?_⟩, ?_, ?_⟩
    · change [].Perm w.flights
      rw [hflights]
    · change w.flights.Nodup
      rw [hflights]
      exact .nil
    · exact List.forall_mem_nil _
    · rintro r (⟨e, he, -⟩ | hr)
      · cases he
      · cases hr
    · exact List.forall_mem_nil _
    · exact fun _ _ _ hkey ↦ hkey.elim
    · exact fun _ _ _ hkey ↦ hkey.elim
    · exact fun _ _ _ _ hkey ↦ hkey.elim
    · exact List.forall_mem_nil _
    · exact List.forall_mem_nil _
  refine hstart.after fun e he ↦ ⟨hbefore e he, fun r hr ↦ ?_, fun client operation hask ↦ ?_,
    fun _ _ _ _ r hr ↦ hr.elim⟩
  · rwa [hr] at he
  · rw [hask] at he
    exact mem_clients he

/-- A quiet key is none of the keys of the flights. -/
theorem World.Quiet.notMem_flights {w : World} {before : List Event} {rd : Read}
    (h : w.Quiet before rd) (r : Reader) (hkey : rd.key = r.flight) :
    r.flight ∉ (w.after before).state.flights := by
  cases rd with
  | pages => exact hkey ▸ h
  | blocks page => exact hkey ▸ h
  | templates =>
    obtain ⟨client, read⟩ := r
    cases read with
    | pages => exact absurd hkey.symm Cache.allPagesKey_ne_templatesKey
    | templates => exact absurd hkey.symm Cache.allPagesKey_ne_templatesKey
    | blocks page => exact absurd hkey.symm (Cache.blocksKey_ne_templatesKey page)

/-- A call to forget brings what it concerns and is quiet into focus: nothing of it is kept, under way
or answered to those who ask later. -/
theorem Focus.Upholds.forget (change : Cache.Change) (h : (Focus.blurred before).Upholds
      (w :: ({ state := w } : Session).trail failed (before.map Event.move)) (w.after before))
    (hclients : ((before ++ .ask caller (.forget kind identifier) :: after).filterMap
      Event.client?).Nodup) (answer : Outcome Reply) :
    (Focus.on w before after change (before ++ .ask caller (.forget kind identifier) :: after)
        hclients fun _ he ↦ by simp [he]).Upholds
      [(w.after before).state.forget change]
      (Loop.close { w.after before with state := (w.after before).state.forget change }
        (.client caller) answer) := by
  obtain ⟨errands, waiting, h⟩ := h
  have hafter : ∀ e ∈ after, e ∈ before ++ .ask caller (.forget kind identifier) :: after :=
    fun _ he ↦ by simp [he]
  have hapart := hclients
  rw [List.filterMap_append, List.nodup_append] at hapart
  -- nobody who asks later has asked before
  have hlater {r : Reader} (hr : r.AsksIn after) {n : Nat}
      (hn : n ∈ before.filterMap Event.client? ∨ n = caller) : r.client ≠ n := by
    have hmem := mem_clients hr
    rcases hn with hn | rfl
    · exact (hapart.2.2 n hn r.client (.tail _ hmem)).symm
    · rintro rfl
      exact (List.nodup_cons.1 hapart.2.1).1 hmem
  refine ⟨errands, waiting, h.queue, h.waiters, h.owed, h.nodup, h.awaited, rfl, fun r hr ↦ ?_,
    fun e he ↦ ?_, ⟨?_, ?_, ?_⟩, fun a ha r hr hclient ↦ ?_, fun a ha ↦ ?_⟩
  · exact List.mem_append_left _ (h.known r hr)
  · have hknown : e.reader.AsksIn before := h.known _ (.inl ⟨e, he, rfl⟩)
    have hdue : e.turn ∈ (w.after before).queue := h.queue.mem_iff.2 (List.mem_map_of_mem he)
    have howed {key : String} (hkey : e.flight? = some key) :
        key ∈ (w.after before).state.flights :=
      h.owed.mem_iff.1 (List.mem_filterMap.2 ⟨e, he, hkey⟩)
    -- who goes on with a reply has asked before, and derives no templates
    have hidle (howner : e.turn.owner = .client e.reader.client) :
        ¬Focus.Matters (Focus.on w before after change _ hclients hafter) e.reader := by
      rintro (⟨hread, rd, hkey, -, hquiet⟩ | ⟨hasked, -⟩)
      · obtain rfl := Read.eq_templates hkey
        have hderives := hquiet.2 _ hdue _ howner
        rw [Reader.AsksIn, hread] at hknown
        exact hderives hknown
      · exact hlater hasked (.inl (mem_clients hknown)) rfl
    cases e with
    | fly r turns =>
      rintro ⟨rd, hkey, -, hquiet⟩
      exact absurd (howed rfl) (hquiet.notMem_flights r hkey)
    | hear r reply => exact fun hmatters ↦ absurd hmatters (hidle rfl)
    | go r reply => exact fun hmatters ↦ absurd hmatters (hidle rfl)
  · rintro e he hkey ⟨rd, hrd, hcovers, -⟩
    obtain rfl := Read.eq_pages hrd
    exact absurd hkey (Cache.key_ne_of_mem_forget_pages (.inl rfl) hcovers he)
  · rintro e he hkey ⟨rd, hrd, hcovers, -⟩
    obtain rfl := Read.eq_templates hrd
    exact absurd hkey (Cache.key_ne_of_mem_forget_pages (.inr rfl) hcovers he)
  · rintro e he page hkey ⟨rd, hrd, hcovers, -⟩
    rcases Read.eq_of_key (b := .blocks page) hrd with rfl | ⟨p, q, rfl, -, hpage⟩
    · exact absurd hkey (Cache.key_ne_of_mem_forget_blocks hcovers he)
    · exact absurd (hkey.trans hrd.symm) (Cache.key_ne_of_mem_forget_blocks hcovers he)
  · rcases List.mem_cons.1 ha with rfl | ha
    · exact absurd hclient (hlater hr.1 (.inr rfl))
    · exact absurd hclient (hlater hr.1 (.inl (h.askers a ha)))
  · change a.1 ∈ List.filterMap Event.client? _
    rw [List.filterMap_append]
    rcases List.mem_cons.1 ha with rfl | ha
    · exact List.mem_append_right _ (.head _)
    · exact List.mem_append_left _ (h.askers a ha)

theorem World.after_append (w : World) (events more : List Event) :
    w.after (events ++ more) = (w.after events).after more := by
  rw [World.after, World.after, Session.after, Session.after, Session.after, List.map_append,
    Loop.play_append]

/-- What a read is answered that is asked for after a call to forget what it reads, while nothing of
it is under way. -/
theorem since_forget (hflights : w.flights = [])
    (hevents : ∀ e ∈ before ++ after, e.OfReading)
    (hclients : ((before ++ .ask caller (.forget kind identifier) :: after).filterMap
      Event.client?).Nodup) (hchange : Cache.Change.told kind identifier = .ok change)
    {r : Reader} (hasks : r.AsksIn after) (hcovers : change.Covers r.read)
    (hquiet : w.Quiet before r.read) :
    ((w.after (before ++ .ask caller (.forget kind identifier) :: after)).Settles failed
        fun l => ∃ answer, l.answer? r.client = some answer) ∧
      ∀ answer,
        (r.client, answer) ∈
          (w.after (before ++ .ask caller (.forget kind identifier) :: after)).answers →
        r.read.Since (w.trailAfter (before ++ [.ask caller (.forget kind identifier)]) after) answer := by
  have hafter : ∀ e ∈ after, e ∈ before ++ .ask caller (.forget kind identifier) :: after :=
    fun _ he ↦ by simp [he]
  have hbefore := upholds_blurred hflights fun e he ↦ hevents e (List.mem_append_left _ he)
  have hforget : w.after (before ++ [.ask caller (.forget kind identifier)]) =
      Loop.close { w.after before with state := (w.after before).state.forget change }
        (.client caller) (.ok .nothing) := by
    rw [World.after_append, Session.after, List.map_singleton, Event.move, Loop.play_cons,
      Loop.play_nil, Loop.move, Operation.job, forgetJob, hchange]
    rfl
  have hfocus := hbefore.forget change hclients (.ok .nothing)
  rw [← hforget] at hfocus
  have hreads (more : List Event) (hmore : ∀ e ∈ more, e ∈ after ∨ ∃ place, e = .turn place) :
      ∀ e ∈ more, e.OfReading ∧ (Focus.on w before after change _ hclients hafter).Admits e := by
    intro e he
    rcases hmore e he with he | ⟨place, rfl⟩
    · refine ⟨hevents e (List.mem_append_right _ he), fun r hr ↦ ?_, fun n o ho ↦ ?_,
        fun n o ho hother r hr hclient ↦ ?_⟩
      · rw [hr] at he
        exact hafter _ he
      · rw [ho] at he
        exact mem_clients (hafter _ he)
      · rw [ho, ← hclient] at he
        exact hother r.read (operation_eq hclients (hafter _ he) (hafter _ hr.1))
    · refine ⟨.turn place, fun _ hr ↦ ?_, fun _ _ ho ↦ ?_, fun _ _ ho ↦ ?_⟩
      · cases hr
      · cases ho
      · cases ho
  have hsplit : before ++ .ask caller (.forget kind identifier) :: after =
      (before ++ [.ask caller (.forget kind identifier)]) ++ after := by simp
  refine ⟨Loop.settles failed _ _ fun places hrest ↦ ?_, fun answer hanswer ↦ ?_⟩
  · have hturns : (w.after (before ++ .ask caller (.forget kind identifier) :: after)).play failed
        (places.map .turn) = (w.after (before ++ [.ask caller (.forget kind identifier)])).after
          (after ++ places.map .turn) := by
      rw [hsplit, World.after_append, Session.after, Session.after, List.map_append,
        Loop.play_append, List.map_map]
      rfl
    have hwaiters : ((w.after (before ++ .ask caller (.forget kind identifier) :: after)).play failed
        (places.map .turn)).waiters = [] := by
      rw [hturns] at hrest ⊢
      refine (hfocus.after (hreads _ fun e he ↦ ?_)).waiters_of_rest hrest
      rcases List.mem_append.1 he with he | he
      · exact .inl he
      · obtain ⟨place, -, rfl⟩ := List.mem_map.1 he
        exact .inr ⟨place, rfl⟩
    have hidle : ({ state := w } : Session).Idle := ⟨rfl, rfl, rfl, rfl⟩
    obtain ⟨hnumbered, haccounted⟩ := hidle.accounted.play failed hidle.numbered
      ((before ++ .ask caller (.forget kind identifier) :: after).map Event.move)
    obtain ⟨hnumbered, haccounted⟩ := haccounted.play failed hnumbered (places.map .turn)
    obtain ⟨-, hanswered⟩ := haccounted.settled hnumbered hrest hwaiters
    obtain ⟨answer, hanswer⟩ := hanswered r.client
      (List.mem_append_left _ (List.mem_append_right _ (mem_askers (hafter _ hasks))))
    obtain ⟨answer, hanswer, -⟩ := Loop.exists_answer? hanswer
    exact ⟨answer, hanswer⟩
  · obtain ⟨errands, waiting, h⟩ := hfocus.after (hreads after fun e he ↦ .inl he)
    rw [hsplit, World.after_append] at hanswer
    have hsince := h.answers _ hanswer r ⟨hasks, hcovers, hquiet⟩ rfl
    rw [World.trailAfter]
    rwa [hforget] at hsince ⊢

end

/-! ### A graph whose calls take some turns -/

/-- The world around a graph with one page whose calls take some turns. -/
def slowWorld (turns : Nat) : World :=
  .around { MemoryGraph.ofPage lonePage with turns } (.ofInt 1000) someDay

/-- The listing is read. -/
def listingBefore : List Event := [.ask 0 .pages]

/-- The cache is made to forget the page. -/
def forgettingLonePage : Event := .ask 1 (.forget (.text "page") (.text "a"))

/-- The listing is read again, and some turns are taken. -/
def listingAfter (turns : Nat) : List Event := .ask 2 .pages :: List.replicate turns (.turn 0)

theorem ofReading_listing (turns : Nat) :
    ∀ e ∈ listingBefore ++ listingAfter turns, e.OfReading := by
  refine List.forall_mem_cons.2 ⟨.read 0 .pages, List.forall_mem_cons.2 ⟨.read 2 .pages, ?_⟩⟩
  intro e he
  rw [(List.mem_replicate.1 he).2]
  exact .turn 0

theorem nodup_clients_listing :
    ((listingBefore ++ forgettingLonePage :: listingAfter 6).filterMap Event.client?).Nodup := by
  decide

/-- When the calls take no turns, nothing is under way when the cache is made to forget. -/
theorem lonePage_since_forget :
    (2, .ok (.pages [lonePage])) ∈
        ((slowWorld 0).after (listingBefore ++ forgettingLonePage :: listingAfter 6)).answers ∧
      Read.pages.Since
        ((slowWorld 0).trailAfter (listingBefore ++ [forgettingLonePage]) (listingAfter 6))
        (.ok (.pages [lonePage])) := by
  have hanswer : (2, .ok (.pages [lonePage])) ∈
      ((slowWorld 0).after (listingBefore ++ forgettingLonePage :: listingAfter 6)).answers :=
    .head _
  have hquiet : (slowWorld 0).Quiet listingBefore .pages := by
    change _ ∉ ([] : List String)
    simp
  exact ⟨hanswer, (since_forget (r := ⟨2, .pages⟩) rfl (ofReading_listing 6) nodup_clients_listing
    rfl (.head _) trivial hquiet).2 _ hanswer⟩

/-- How often the listing of a graph in memory has been asked for. -/
def World.listings (w : World) : Nat :=
  match w.provider with
  | .memory g => g.pagesCalls
  | _ => 0

/-- A call for the listing of a graph in memory is counted where it begins. -/
theorem Query.Begun.listings {trail : List World} (h : Query.pages.Begun trail)
    (hmemory : ∀ w ∈ trail, w.listings ≠ 0) :
    ∃ w ∈ trail, ∃ w' ∈ trail, w'.listings = w.listings + 1 := by
  obtain ⟨front, w, back, rfl, -, -⟩ := h
  refine ⟨w, by simp, (w.takeOff (Corpus.keyOf .pages)).start .pages, by simp, ?_⟩
  have hasked := hmemory w (by simp)
  obtain ⟨provider, _⟩ := w
  cases provider with
  | memory g => rfl
  | files g => exact absurd rfl hasked
  | api g => exact absurd rfl hasked

/-- Where the listing is asked for once before a trail and not in it, nothing that is read has been
brought since. -/
theorem Read.not_since_of_listings {trail : List World} (h : ∀ w ∈ trail, w.listings = 1)
    (answer : Outcome Reply) : ¬Read.pages.Since trail answer := by
  rintro ⟨q, reply, hq, ⟨front, w, back, rfl, hbegun, -⟩, -⟩
  obtain rfl := Query.eq_pages hq
  have hfront : ∀ w' ∈ front ++ [w], w'.listings = 1 := by
    intro w' hw'
    refine h w' ?_
    simp only [List.mem_append, List.mem_cons] at hw' ⊢
    tauto
  obtain ⟨a, ha, b, hb, hcounted⟩ := hbegun.listings fun w' hw' ↦ by simp [hfront w' hw']
  rw [hfront a ha, hfront b hb] at hcounted
  cases hcounted

/-- A read that is asked for while a call from before the call to forget is under way joins it, so
that its answer has not been brought since. -/
theorem not_since_forget_of_flight :
    ¬∀ {w : World} {before after : List Event} {caller : Nat} {kind identifier : Value}
        {change : Cache.Change}, w.flights = [] → (∀ e ∈ before ++ after, e.OfReading) →
      ((before ++ .ask caller (.forget kind identifier) :: after).filterMap
        Event.client?).Nodup → Cache.Change.told kind identifier = .ok change →
      ∀ r : Reader, r.AsksIn after → change.Covers r.read → ∀ answer,
        (r.client, answer) ∈
          (w.after (before ++ .ask caller (.forget kind identifier) :: after)).answers →
        r.read.Since (w.trailAfter (before ++ [.ask caller (.forget kind identifier)]) after)
          answer := by
  intro hclaim
  have hlistings : ((slowWorld 3).trailAfter (listingBefore ++ [forgettingLonePage])
      (listingAfter 6)).map World.listings = [1, 1, 1, 1] := rfl
  have hanswer : (2, .ok (.pages [lonePage])) ∈
      ((slowWorld 3).after (listingBefore ++ forgettingLonePage :: listingAfter 6)).answers :=
    .head _
  refine Read.not_since_of_listings (fun w hw ↦ ?_) _ (hclaim (w := slowWorld 3) rfl
    (ofReading_listing 6) nodup_clients_listing rfl ⟨2, .pages⟩ (.head _) trivial _ hanswer)
  have hcount : w.listings ∈ ((slowWorld 3).trailAfter (listingBefore ++ [forgettingLonePage])
      (listingAfter 6)).map World.listings := List.mem_map_of_mem hw
  rw [hlistings] at hcount
  simpa using hcount

end OutlineSearch
