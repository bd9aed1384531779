import OutlineSearch.Proofs.Corpus.Calls
import OutlineSearch.Proofs.Engine.Asking
import OutlineSearch.Proofs.Task.Trail

/-!
# Traffic

While a corpus is only read, edited and made to forget, all that is under way is for somebody who
reads: his call takes some more turns, or he hears of a flight, or he goes on with a reply.

With a focus on some keys and on those who have asked since the beginning of a trail, all that is
under way for them, kept under the keys or answered to them comes from calls that have begun in the
trail. Every turn preserves this.
-/

namespace OutlineSearch

open OutlineSearch.Task OutlineSearch.Engine

namespace Cache

variable {c : Cache} {change : Change}

theorem mem_of_mem_forget_pages {e : StoreEntry (List Page)}
    (he : e ∈ (c.forget change).pages.entries) : e ∈ c.pages.entries := by
  cases change with
  | page name => exact Store.mem_of_mem_erase (Store.mem_of_mem_erase he)
  | block page => cases page <;> exact he
  | everything => cases he

theorem mem_of_mem_forget_blocks {e : StoreEntry (List Block)}
    (he : e ∈ (c.forget change).blocks.entries) : e ∈ c.blocks.entries := by
  cases change with
  | page name =>
    cases name with
    | none => exact he
    | some name => exact Store.mem_of_mem_erase he
  | block page =>
    cases page with
    | none => cases he
    | some page => exact Store.mem_of_mem_erase he
  | everything => cases he

end Cache

/-- A client who reads. -/
structure Reader where
  client : Nat
  read : Read

namespace Reader

/-- The flight that brings what is read. -/
def flight (r : Reader) : String := Corpus.keyOf r.read.query

/-- The reader as he waits for the flight. -/
def waiter (r : Reader) : Waiter World String (Outcome Reply) :=
  ⟨r.flight, .client r.client, r.read.next⟩

end Reader

/-- What is under way for a reader. -/
inductive Errand where
  /-- His call takes some more turns. -/
  | fly (reader : Reader) (turns : Nat)
  /-- He hears of the flight that he has waited for. -/
  | hear (reader : Reader) (reply : Outcome Reply)
  /-- He goes on with a reply. -/
  | go (reader : Reader) (reply : Outcome Reply)

namespace Errand

def reader : Errand → Reader
  | fly r _ | hear r _ | go r _ => r

/-- The errand as it is due. -/
def turn : Errand → Turn World String (Outcome Reply)
  | fly r turns => .run (.client r.client) (.pauses (Corpus.land r.read.query r.read.next) turns)
  | hear r reply => .arrive (.client r.client) (r.read.next reply)
  | go r reply => .run (.client r.client) (r.read.next reply)

/-- The flight that the errand lands. -/
def flight? : Errand → Option String
  | fly r _ => some r.flight
  | _ => none

end Errand

/-- Keys, and clients who have asked since the beginning of a trail. -/
structure Focus where
  keys : String → Prop
  /-- The clients who have asked for something at any time. -/
  asker : Nat → Prop
  /-- The readers for whom something may be under way. -/
  known : Reader → Prop
  /-- The readers who have asked since for what is kept under the keys. -/
  since : Reader → Prop
  /-- The templates come from the listing. -/
  listing : keys Cache.templatesKey → keys Cache.allPagesKey
  kept : ∀ r, since r → keys r.read.key
  told : ∀ r, since r → keys r.flight
  one : ∀ r r', known r → since r' → r.client = r'.client → r = r'
  asked : ∀ r, known r → asker r.client

namespace Focus

variable {F : Focus} {trail : List World}

/-- What a reader goes on with is kept under one of the keys, or answered to one of the clients. -/
def Matters (F : Focus) (r : Reader) : Prop :=
  (r.read = .templates ∧ F.keys Cache.templatesKey) ∨ F.since r

theorem Matters.key {r : Reader} (h : F.Matters r) : F.keys r.flight := by
  rcases h with ⟨hread, hkey⟩ | h
  · rw [Reader.flight, hread]
    exact F.listing hkey
  · exact F.told r h

/-- What is under way comes from calls that have begun in a trail. -/
def Sourced (F : Focus) (trail : List World) : Errand → Prop
  | .fly r _ => F.keys r.flight → r.read.query.Begun trail
  | .hear r reply | .go r reply =>
    F.Matters r → ∃ q, Corpus.keyOf q = r.flight ∧ q.Brings reply trail

theorem Sourced.append {e : Errand} (h : F.Sourced trail e) {more : List World}
    (hmore : ∀ key, e.flight? = some key → ∀ w ∈ more, key ∈ w.flights) :
    F.Sourced (trail ++ more) e := by
  cases e with
  | fly r turns => exact fun hkey ↦ (h hkey).append (hmore _ rfl)
  | hear r reply =>
    intro hmatters
    obtain ⟨q, hq, hbrings⟩ := h hmatters
    exact ⟨q, hq, hbrings.append more⟩
  | go r reply =>
    intro hmatters
    obtain ⟨q, hq, hbrings⟩ := h hmatters
    exact ⟨q, hq, hbrings.append more⟩

/-- What is kept under the keys comes from calls that have begun in a trail. -/
structure Stored (F : Focus) (trail : List World) (c : Cache) : Prop where
  pages : ∀ e ∈ c.pages.entries, e.key = Cache.allPagesKey → F.keys Cache.allPagesKey →
    Query.pages.Brings (.ok (.pages e.value)) trail
  templates : ∀ e ∈ c.pages.entries, e.key = Cache.templatesKey → F.keys Cache.templatesKey →
    ∃ items, Query.pages.Brings (.ok (.pages items)) trail ∧ e.value = items.filter Page.isTemplate
  blocks : ∀ e ∈ c.blocks.entries, ∀ page, e.key = Cache.blocksKey page →
    F.keys (Cache.blocksKey page) → ∃ page', Cache.blocksKey page' = Cache.blocksKey page ∧
      (Query.blocks page').Brings (.ok (.blocks e.value)) trail

/-- All that is under way is for known readers, and what is under way, kept and answered in the focus
comes from calls that have begun in the trail. One errand may be in hand. -/
structure Holds (F : Focus) (trail : List World) (hand : Option Errand) (errands : List Errand)
    (waiting : List Reader) (l : Session) : Prop where
  queue : l.queue.Perm (errands.map Errand.turn)
  waiters : l.waiters = waiting.map Reader.waiter
  owed : ((hand.toList ++ errands).filterMap Errand.flight?).Perm l.state.flights
  nodup : l.state.flights.Nodup
  awaited : ∀ r ∈ waiting, r.flight ∈ l.state.flights
  last : trail.getLast? = some l.state
  known : ∀ r, (∃ e ∈ hand.toList ++ errands, e.reader = r) ∨ r ∈ waiting → F.known r
  sourced : ∀ e ∈ hand.toList ++ errands, F.Sourced trail e
  stored : F.Stored trail l.state.cache
  answers : ∀ a ∈ l.answers, ∀ r, F.since r → r.client = a.1 → r.read.Since trail a.2
  askers : ∀ a ∈ l.answers, F.asker a.1

/-! ### What is stored -/

section Stored

variable {c c' : Cache} {w : World}

theorem Stored.append (h : F.Stored trail c) (more : List World) : F.Stored (trail ++ more) c where
  pages e he hkey hfocus := (h.pages e he hkey hfocus).append more
  templates e he hkey hfocus := by
    obtain ⟨items, hbrings, hvalue⟩ := h.templates e he hkey hfocus
    exact ⟨items, hbrings.append more, hvalue⟩
  blocks e he page hkey hfocus := by
    obtain ⟨page', hpage, hbrings⟩ := h.blocks e he page hkey hfocus
    exact ⟨page', hpage, hbrings.append more⟩

/-- To store less is to store what has been stored. -/
theorem Stored.mono (h : F.Stored trail c) (hpages : ∀ e ∈ c'.pages.entries, e ∈ c.pages.entries)
    (hblocks : ∀ e ∈ c'.blocks.entries, e ∈ c.blocks.entries) : F.Stored trail c' where
  pages e he := h.pages e (hpages e he)
  templates e he := h.templates e (hpages e he)
  blocks e he := h.blocks e (hblocks e he)

theorem Stored.forget (h : F.Stored trail c) (change : Cache.Change) :
    F.Stored trail (c.forget change) :=
  h.mono (fun _ ↦ Cache.mem_of_mem_forget_pages) fun _ ↦ Cache.mem_of_mem_forget_blocks

theorem Stored.cachedPages (h : F.Stored trail w.cache) (key : String) :
    F.Stored trail (w.cachedPages key).2.cache :=
  h.mono (fun _ he ↦ Store.mem_of_mem_get he) fun _ he ↦ he

theorem Stored.cached (h : F.Stored trail w.cache) (q : Query) :
    F.Stored trail (Corpus.cached q w).2.cache := by
  cases q with
  | pages => exact h.cachedPages _
  | blocks page => exact h.mono (fun _ he ↦ he) fun _ he ↦ Store.mem_of_mem_get he

theorem Stored.keepTemplates (h : F.Stored trail w.cache) {items : List Page}
    (hitems : F.keys Cache.templatesKey → Query.pages.Brings (.ok (.pages items)) trail) :
    F.Stored trail (w.keepTemplates (items.filter Page.isTemplate)).cache where
  pages e he hkey hfocus := by
    rcases Store.eq_or_mem_of_mem_put he with ⟨htemplates, -⟩ | he
    · exact absurd (hkey.symm.trans htemplates) Cache.allPagesKey_ne_templatesKey
    · exact h.pages e he hkey hfocus
  templates e he hkey hfocus := by
    rcases Store.eq_or_mem_of_mem_put he with ⟨-, hvalue⟩ | he
    · exact ⟨items, hitems hfocus, hvalue⟩
    · exact h.templates e he hkey hfocus
  blocks := h.blocks

/-- What is received is stored as it is told. -/
theorem Stored.receive (h : F.Stored trail w.cache) (q : Query)
    (hbrings : F.keys (Corpus.keyOf q) → q.Brings (Corpus.receive q w).1 trail) :
    F.Stored trail (Corpus.receive q w).2.cache := by
  rcases Query.receive_cases q w with ⟨fault, hfault⟩ | hitems
  · rw [hfault]
    exact h
  · cases q with
    | pages =>
      obtain ⟨items, hitems⟩ := hitems
      rw [hitems] at hbrings ⊢
      refine ⟨fun e he hkey hfocus ↦ ?_, fun e he hkey hfocus ↦ ?_, h.blocks⟩
      · rcases Store.eq_or_mem_of_mem_put he with ⟨-, hvalue⟩ | he
        · rw [hvalue]
          exact hbrings hfocus
        · exact h.pages e he hkey hfocus
      · rcases Store.eq_or_mem_of_mem_put he with ⟨hall, -⟩ | he
        · exact absurd (hall.symm.trans hkey) Cache.allPagesKey_ne_templatesKey
        · exact h.templates e he hkey hfocus
    | blocks page =>
      obtain ⟨items, hitems⟩ := hitems
      rw [hitems] at hbrings ⊢
      refine ⟨h.pages, h.templates, fun e he page' hkey hfocus ↦ ?_⟩
      rcases Store.eq_or_mem_of_mem_put he with ⟨hpage, hvalue⟩ | he
      · have hsame : Cache.blocksKey page = Cache.blocksKey page' := hpage.symm.trans hkey
        rw [← hsame] at hfocus
        rw [hvalue]
        exact ⟨page, hsame, hbrings hfocus⟩
      · exact h.blocks e he page' hkey hfocus

/-- What the cache has for a query under one of the keys, a call has brought. -/
theorem Stored.found (h : F.Stored trail w.cache) {q : Query} {found : Holding}
    (hfound : (Corpus.cached q w).1 = some found) (hfocus : F.keys (Corpus.keyOf q)) :
    ∃ q', Corpus.keyOf q' = Corpus.keyOf q ∧
      q'.Brings (.ok (Corpus.replyOf found)) trail := by
  cases q with
  | pages =>
    obtain ⟨items, hitems, rfl⟩ := Option.map_eq_some_iff.1 hfound
    obtain ⟨e, he, hkey, rfl⟩ := Store.mem_of_get hitems
    exact ⟨.pages, rfl, h.pages e he hkey hfocus⟩
  | blocks page =>
    obtain ⟨items, hitems, rfl⟩ := Option.map_eq_some_iff.1 hfound
    obtain ⟨e, he, hkey, rfl⟩ := Store.mem_of_get hitems
    obtain ⟨page', hpage, hbrings⟩ := h.blocks e he page hkey hfocus
    exact ⟨.blocks page', hpage, hbrings⟩

end Stored

/-! ### What a job in hand does -/

namespace Holds

variable {hand : Option Errand} {errands : List Errand} {waiting : List Reader} {l : Session}
  {r : Reader}

/-- What is owed is in flight. -/
theorem mem_flights (h : F.Holds trail hand errands waiting l) {e : Errand}
    (he : e ∈ hand.toList ++ errands) {key : String} (hkey : e.flight? = some key) :
    key ∈ l.state.flights :=
  h.owed.mem_iff.1 (List.mem_filterMap.2 ⟨e, he, hkey⟩)

/-- A known reader may get an errand. -/
theorem known_cons (h : F.Holds trail none errands waiting l) {e : Errand} (he : F.known e.reader) :
    ∀ r, (∃ e' ∈ (some e).toList ++ errands, e'.reader = r) ∨ r ∈ waiting → F.known r := by
  rintro r (⟨e', he', rfl⟩ | hr)
  · rcases List.mem_cons.1 he' with rfl | he'
    · exact he
    · exact h.known _ (.inl ⟨e', he', rfl⟩)
  · exact h.known r (.inr hr)

/-- A change of the world that leaves the flights alone. -/
theorem change (h : F.Holds trail hand errands waiting l) {w : World}
    (hflights : w.flights = l.state.flights) (hstored : F.Stored (trail ++ [w]) w.cache) :
    F.Holds (trail ++ [w]) hand errands waiting { l with state := w } where
  queue := h.queue
  waiters := h.waiters
  owed := by
    rw [hflights]
    exact h.owed
  nodup := by
    rw [hflights]
    exact h.nodup
  awaited := by
    rw [hflights]
    exact h.awaited
  last := by simp
  known := h.known
  sourced e he := by
    refine (h.sourced e he).append fun key hkey w' hw' ↦ ?_
    obtain rfl := List.mem_singleton.1 hw'
    rw [hflights]
    exact h.mem_flights he hkey
  stored := hstored
  answers a ha r hr hclient := (h.answers a ha r hr hclient).append _
  askers := h.askers

/-- A call that begins. -/
theorem takeOff (h : F.Holds trail none errands waiting l) (hknown : F.known r)
    (hnew : r.flight ∉ l.state.flights) (turns : Nat) :
    F.Holds (trail ++ [(l.state.takeOff r.flight).start r.read.query]) (some (.fly r turns)) errands
      waiting { l with state := (l.state.takeOff r.flight).start r.read.query } where
  queue := h.queue
  waiters := h.waiters
  owed := h.owed.cons r.flight
  nodup := List.nodup_cons.2 ⟨hnew, h.nodup⟩
  awaited r' hr' := List.mem_cons_of_mem _ (h.awaited r' hr')
  last := by simp
  known := h.known_cons hknown
  sourced e he := by
    rcases List.mem_cons.1 he with rfl | he
    · exact fun _ ↦ Query.begun_takeOff h.last hnew
    · refine (h.sourced e he).append fun key hkey w' hw' ↦ ?_
      obtain rfl := List.mem_singleton.1 hw'
      exact List.mem_cons_of_mem _ (h.mem_flights he hkey)
  stored := h.stored.append _
  answers a ha r hr hclient := (h.answers a ha r hr hclient).append _
  askers := h.askers

/-- A reader who joins a flight. -/
theorem await (h : F.Holds trail none errands waiting l) (hknown : F.known r)
    (hflight : r.flight ∈ l.state.flights) :
    F.Holds trail none errands (waiting ++ [r]) { l with waiters := l.waiters ++ [r.waiter] } where
  queue := h.queue
  waiters := by
    rw [h.waiters, List.map_append]
    rfl
  owed := h.owed
  nodup := h.nodup
  awaited r' hr' := by
    rcases List.mem_append.1 hr' with hr' | hr'
    · exact h.awaited r' hr'
    · obtain rfl := List.mem_singleton.1 hr'
      exact hflight
  last := h.last
  known r' hr' := by
    rcases hr' with hr' | hr'
    · exact h.known r' (.inl hr')
    · rcases List.mem_append.1 hr' with hr' | hr'
      · exact h.known r' (.inr hr')
      · obtain rfl := List.mem_singleton.1 hr'
        exact hknown
  sourced := h.sourced
  stored := h.stored
  answers := h.answers
  askers := h.askers

/-- An errand in hand that is due later. -/
theorem enqueue {e : Errand} (h : F.Holds trail (some e) errands waiting l) :
    F.Holds trail none (errands ++ [e]) waiting (l.enqueue e.turn) := by
  have hperm : ((some e).toList ++ errands).Perm (none.toList ++ (errands ++ [e])) :=
    List.perm_append_comm
  refine ⟨?_, h.waiters, (hperm.symm.filterMap _).trans h.owed, h.nodup, h.awaited, h.last,
    fun r hr ↦ ?_, fun e' he' ↦ ?_, h.stored, h.answers, h.askers⟩
  · rw [List.map_append]
    exact h.queue.append_right _
  · refine h.known r (hr.imp_left fun ⟨e', he', heq⟩ ↦ ⟨e', hperm.mem_iff.2 he', heq⟩)
  · exact h.sourced e' (hperm.mem_iff.2 he')

/-- An errand that is taken out of the queue is in hand. -/
theorem takeOut (h : F.Holds trail none errands waiting l) {turn : Turn World String (Outcome Reply)}
    {queue : List (Turn World String (Outcome Reply))} (hqueue : l.queue.Perm (turn :: queue)) :
    ∃ e rest, e.turn = turn ∧ F.Holds trail (some e) rest waiting { l with queue } := by
  have hmem : turn ∈ errands.map Errand.turn :=
    h.queue.mem_iff.1 (hqueue.mem_iff.2 List.mem_cons_self)
  obtain ⟨e, he, rfl⟩ := List.mem_map.1 hmem
  obtain ⟨front, back, rfl⟩ := List.append_of_mem he
  have hperm : (front ++ e :: back).Perm (e :: (front ++ back)) := List.perm_middle
  refine ⟨e, front ++ back, rfl, ?_, h.waiters, (hperm.symm.filterMap _).trans h.owed, h.nodup,
    h.awaited, h.last, fun r hr ↦ ?_, fun e' he' ↦ ?_, h.stored, h.answers, h.askers⟩
  · exact ((hqueue.symm.trans h.queue).trans (hperm.map Errand.turn)).cons_inv
  · exact h.known r (hr.imp_left fun ⟨e', he', heq⟩ ↦ ⟨e', hperm.mem_iff.2 he', heq⟩)
  · exact h.sourced e' (hperm.mem_iff.2 he')

/-- A reader who goes on with a reply that a call has brought if it matters. -/
theorem pickUp (h : F.Holds trail none errands waiting l) (hknown : F.known r)
    {reply : Outcome Reply} (hsourced : F.Sourced trail (.go r reply)) :
    F.Holds trail (some (.go r reply)) errands waiting l where
  queue := h.queue
  waiters := h.waiters
  owed := h.owed
  nodup := h.nodup
  awaited := h.awaited
  last := h.last
  known := h.known_cons hknown
  sourced e he := by
    rcases List.mem_cons.1 he with rfl | he
    · exact hsourced
    · exact h.sourced e he
  stored := h.stored
  answers := h.answers
  askers := h.askers

/-- A client who is answered: with what a call has brought, if he has asked since. -/
theorem close (h : F.Holds trail none errands waiting l) {client : Nat} (hasked : F.asker client)
    {answer : Outcome Reply}
    (hanswer : ∀ r, F.since r → r.client = client → r.read.Since trail answer) :
    F.Holds trail none errands waiting (l.close (.client client) answer) where
  queue := h.queue
  waiters := h.waiters
  owed := h.owed
  nodup := h.nodup
  awaited := h.awaited
  last := h.last
  known := h.known
  sourced := h.sourced
  stored := h.stored
  answers := List.forall_mem_cons.2 ⟨hanswer, h.answers⟩
  askers := List.forall_mem_cons.2 ⟨hasked, h.askers⟩

/-- A client who is answered and is none of those who have asked since. -/
theorem closeOther (h : F.Holds trail none errands waiting l) {client : Nat}
    (hclient : ∀ r, F.since r → r.client ≠ client) (hasked : F.asker client)
    (answer : Outcome Reply) :
    F.Holds trail none errands waiting (l.close (.client client) answer) :=
  h.close hasked fun r hr heq ↦ absurd heq (hclient r hr)

/-- A reader who is answered with what a call has brought if he has asked since. -/
theorem closeReader (h : F.Holds trail none errands waiting l) (hknown : F.known r)
    {answer : Outcome Reply} (hanswer : F.since r → r.read.Since trail answer) :
    F.Holds trail none errands waiting (l.close (.client r.client) answer) := by
  refine h.close (F.asked r hknown) fun r' hr' heq ↦ ?_
  obtain rfl := F.one r r' hknown hr' heq.symm
  exact hanswer hr'

/-- An errand in hand that lands no flight is over. -/
theorem letGo {e : Errand} (h : F.Holds trail (some e) errands waiting l) (he : e.flight? = none) :
    F.Holds trail none errands waiting l :=
  ⟨h.queue, h.waiters, by simpa [he] using h.owed, h.nodup, h.awaited, h.last,
    fun r' hr' ↦ h.known r' (hr'.imp_left fun ⟨e, he, heq⟩ ↦ ⟨e, .tail _ he, heq⟩),
    fun e he ↦ h.sourced e (.tail _ he), h.stored, h.answers, h.askers⟩

theorem known_hand {e : Errand} (h : F.Holds trail (some e) errands waiting l) : F.known e.reader :=
  h.known _ (.inl ⟨e, .head _, rfl⟩)

/-- A reader who has a reply ends with his answer. -/
theorem conclude {reply : Outcome Reply}
    (h : F.Holds trail (some (.go r reply)) errands waiting l) :
    F.Holds (trail ++ (r.read.next reply).states l.state) none errands waiting
      (Loop.perform (.client r.client) (r.read.next reply) l) := by
  have hknown : F.known r := h.known_hand
  have hsourced : F.Sourced trail (.go r reply) := h.sourced _ (.head _)
  have hanswer (hsince : F.since r) : r.read.Since trail (r.read.outcome reply) := by
    obtain ⟨q, hkey, hbrings⟩ := hsourced (.inr hsince)
    exact ⟨q, reply, hkey, hbrings, rfl⟩
  cases hread : r.read with
  | pages =>
    rw [hread] at hanswer
    rw [Read.next, Job.states, List.append_nil]
    exact (h.letGo rfl).closeReader hknown (hread ▸ hanswer)
  | blocks page =>
    rw [hread] at hanswer
    rw [Read.next, Job.states, List.append_nil]
    exact (h.letGo rfl).closeReader hknown (hread ▸ hanswer)
  | templates =>
    rw [hread, Read.outcome] at hanswer
    rw [Read.next]
    cases hlisting : Corpus.toPages reply with
    | error fault =>
      rw [hlisting] at hanswer
      rw [Job.states, List.append_nil]
      exact (h.letGo rfl).closeReader hknown (hread ▸ hanswer)
    | ok items =>
      rw [hlisting] at hanswer
      have hkept : F.Stored (trail ++ [l.state.keepTemplates (items.filter Page.isTemplate)])
          (l.state.keepTemplates (items.filter Page.isTemplate)).cache := by
        refine (h.stored.append _).keepTemplates fun hkey ↦ ?_
        obtain ⟨q, hq, hbrings⟩ := hsourced (.inl ⟨hread, hkey⟩)
        rw [Reader.flight, hread] at hq
        obtain rfl := Query.eq_pages hq
        exact (hbrings.append _).of_toPages hlisting
      have hchange :=
        (h.letGo rfl).change (w := l.state.keepTemplates (items.filter Page.isTemplate)) rfl hkept
      exact hchange.closeReader hknown fun hsince ↦ hread ▸ (hanswer hsince).append _

/-- A call that lands: its reply is stored, and all who have joined it hear of it. -/
theorem land {turns : Nat} (h : F.Holds trail (some (.fly r turns)) errands waiting l) {w : World}
    {reply : Outcome Reply} (hreceive : Corpus.receive r.read.query l.state = (reply, w)) :
    F.Holds (trail ++ [w, w.touchDown r.flight]) (some (.go r reply))
      (errands ++ (waiting.filter fun r' => r'.flight = r.flight).map fun r' => .hear r' reply)
      (waiting.filter fun r' => r'.flight ≠ r.flight)
      (({ l with state := w.touchDown r.flight } : Session).land r.flight reply) := by
  have hflights : w.flights = l.state.flights := by
    rw [← Lore.flights_receive r.read.query l.state, hreceive]
  have howed : (r.flight :: errands.filterMap Errand.flight?).Perm l.state.flights := h.owed
  have hflying : r.flight ∈ l.state.flights := howed.mem_iff.1 List.mem_cons_self
  have hdown : l.state.flights.Perm (r.flight :: (w.touchDown r.flight).flights) := by
    rw [← hflights]
    exact Lore.perm_touchDown (hflights ▸ hflying) (hflights ▸ h.nodup)
  have hbrings (hfocus : F.keys r.flight) :
      r.read.query.Brings reply (trail ++ [w, w.touchDown r.flight]) := by
    have hland := (h.sourced _ (.head _) hfocus).land h.last
    rw [hreceive] at hland
    exact hland
  have hheard {r' : Reader} (hr' : r' ∈ waiting.filter fun r' => r'.flight = r.flight) :
      r' ∈ waiting ∧ r'.flight = r.flight := by simpa using List.mem_filter.1 hr'
  have hothers {r' : Reader} (hr' : r' ∈ waiting.filter fun r' => r'.flight ≠ r.flight) :
      r' ∈ waiting ∧ r'.flight ≠ r.flight := by simpa using List.mem_filter.1 hr'
  have hgo (r' : Reader) (hr' : r'.flight = r.flight) : F.Matters r' →
      ∃ q, Corpus.keyOf q = r'.flight ∧ q.Brings reply (trail ++ [w, w.touchDown r.flight]) :=
    fun hmatters ↦ ⟨r.read.query, hr'.symm, hbrings (hr' ▸ hmatters.key)⟩
  have hunder {e : Errand} (he : e ∈ Errand.go r reply :: (errands ++
      (waiting.filter fun r' => r'.flight = r.flight).map fun r' => .hear r' reply)) :
      e = .go r reply ∨ e ∈ errands ∨
        ∃ r' ∈ waiting.filter fun r' => r'.flight = r.flight, Errand.hear r' reply = e := by
    simpa only [List.mem_cons, List.mem_append, List.mem_map] using he
  refine ⟨?_, ?_, ?_, ?_, fun r' hr' ↦ ?_, ?_, fun r' hr' ↦ ?_, fun e he ↦ ?_, ?_,
    fun a ha r' hr' heq ↦ ?_, h.askers⟩
  · rw [Loop.land, List.map_append, List.map_map, h.waiters, List.filter_map, List.map_map]
    exact h.queue.append_right _
  · change l.waiters.filter _ = _
    rw [h.waiters, List.filter_map]
    rfl
  · have hnone : ((waiting.filter fun r' => r'.flight = r.flight).map fun r' =>
        Errand.hear r' reply).filterMap Errand.flight? = [] := by
      rw [List.filterMap_map]
      exact List.filterMap_eq_nil_iff.2 fun _ _ ↦ rfl
    change ((errands ++ _).filterMap Errand.flight?).Perm (w.touchDown r.flight).flights
    rw [List.filterMap_append, hnone, List.append_nil]
    exact (howed.trans hdown).cons_inv
  · exact (List.nodup_cons.1 (hdown.nodup_iff.1 h.nodup)).2
  · obtain ⟨hwaiting, hne⟩ := hothers hr'
    exact (List.mem_cons.1 (hdown.mem_iff.1 (h.awaited r' hwaiting))).resolve_left hne
  · simp [Loop.land]
  · rcases hr' with ⟨e, he, rfl⟩ | hr'
    · rcases hunder he with rfl | he | ⟨r', hr', rfl⟩
      · exact h.known_hand
      · exact h.known _ (.inl ⟨e, .tail _ he, rfl⟩)
      · exact h.known r' (.inr (hheard hr').1)
    · exact h.known r' (.inr (hothers hr').1)
  · rcases hunder he with rfl | he | ⟨r', hr', rfl⟩
    · exact hgo r rfl
    · refine (h.sourced e (.tail _ he)).append fun key hkey w' hw' ↦ ?_
      have hdue : key ∈ errands.filterMap Errand.flight? := List.mem_filterMap.2 ⟨e, he, hkey⟩
      have hne : key ≠ r.flight := by
        rintro rfl
        exact (List.nodup_cons.1 (howed.nodup_iff.2 h.nodup)).1 hdue
      have hkey : key ∈ w.flights := by
        rw [hflights]
        exact howed.mem_iff.1 (.tail _ hdue)
      rcases List.mem_cons.1 hw' with rfl | hw'
      · exact hkey
      · obtain rfl := List.mem_singleton.1 hw'
        exact List.mem_filter.2 ⟨hkey, by simpa using hne⟩
    · exact hgo r' (hheard hr').2
  · have hstored := (h.stored.append [w, w.touchDown r.flight]).receive r.read.query
    rw [hreceive] at hstored
    exact hstored hbrings
  · exact (h.answers a ha r' hr' heq).append _

end Holds

/-- Nothing is in hand. -/
def Upholds (F : Focus) (trail : List World) (l : Session) : Prop :=
  ∃ errands waiting, F.Holds trail none errands waiting l

namespace Holds

variable {errands : List Errand} {waiting : List Reader} {l : Session} {r : Reader}

/-- A call takes some more turns or lands. -/
theorem fly {turns : Nat} (h : F.Holds trail (some (.fly r turns)) errands waiting l) :
    F.Upholds
      (trail ++ (Job.pauses (Corpus.land r.read.query r.read.next) turns).states l.state)
      (Loop.perform (.client r.client) (.pauses (Corpus.land r.read.query r.read.next) turns) l) := by
  cases turns with
  | zero =>
    have hreceive : Corpus.receive r.read.query l.state =
        ((Corpus.receive r.read.query l.state).1, (Corpus.receive r.read.query l.state).2) := rfl
    have hlanded := (h.land hreceive).conclude
    rw [List.append_assoc] at hlanded
    exact ⟨_, _, hlanded⟩
  | succ turns =>
    have hlater : F.Holds trail (some (.fly r turns)) errands waiting l := by
      refine ⟨h.queue, h.waiters, h.owed, h.nodup, h.awaited, h.last, fun r' hr' ↦ ?_,
        fun e he ↦ ?_, h.stored, h.answers, h.askers⟩
      · rcases hr' with ⟨e, he, rfl⟩ | hr'
        · rcases List.mem_cons.1 he with rfl | he
          · exact h.known_hand
          · exact h.known _ (.inl ⟨e, .tail _ he, rfl⟩)
        · exact h.known r' (.inr hr')
      · rcases List.mem_cons.1 he with rfl | he
        · exact h.sourced (.fly r (turns + 1)) (.head _)
        · exact h.sourced e (.tail _ he)
    refine ⟨errands ++ [.fly r turns], waiting, ?_⟩
    rw [Job.pauses, Job.states, List.append_nil]
    exact hlater.enqueue

/-- A reader who finds no templates kept reads from the cache, a flight or the provider. -/
theorem fetching (h : F.Holds trail none errands waiting l) (hknown : F.known r) :
    F.Upholds (trail ++ r.read.fetching.states l.state)
      (Loop.perform (.client r.client) r.read.fetching l) := by
  have hcached := h.change (Lore.flights_cached r.read.query l.state)
    ((h.stored.append [(Corpus.cached r.read.query l.state).2]).cached r.read.query)
  rw [Read.fetching, Corpus.read, Job.touch, Job.states, Job.states, Loop.perform, Loop.perform]
  cases hfound : (Corpus.cached r.read.query l.state).1 with
  | some found =>
    have hsourced : F.Sourced (trail ++ [(Corpus.cached r.read.query l.state).2])
        (.go r (.ok (Corpus.replyOf found))) := fun hmatters ↦ by
      obtain ⟨q, hq, hbrings⟩ := h.stored.found hfound hmatters.key
      exact ⟨q, hq, hbrings.append _⟩
    have hgone := (hcached.pickUp hknown hsourced).conclude
    rw [List.append_assoc] at hgone
    exact ⟨_, _, hgone⟩
  | none =>
    generalize (Corpus.cached r.read.query l.state).2 = w at hcached
    rw [Job.states, Loop.perform]
    dsimp only
    by_cases hflight : r.flight ∈ w.flights
    · have hin : w.isInFlight (Corpus.keyOf r.read.query) = true := List.contains_iff_mem.2 hflight
      rw [if_pos hin, Job.states]
      exact ⟨_, _, hcached.await hknown hflight⟩
    · have hout : ¬w.isInFlight (Corpus.keyOf r.read.query) = true := fun hin ↦
        hflight (List.contains_iff_mem.1 hin)
      rw [if_neg hout]
      have hbegun := hcached.takeOff hknown hflight
        ((w.takeOff r.flight).start r.read.query).provider.turns
      have hflown := hbegun.fly
      rw [List.append_assoc, List.append_assoc] at hflown
      exact hflown

end Holds

/-! ### What events do -/

namespace Upholds

variable {l : Session}

/-- A client who makes one change of the world and is none of those who have asked since. -/
theorem change (h : F.Upholds trail l) {client : Nat} (hclient : ∀ r, F.since r → r.client ≠ client)
    (hasked : F.asker client) {w : World} (hflights : w.flights = l.state.flights)
    (hstored : F.Stored trail w.cache) (answer : Outcome Reply) :
    F.Upholds (trail ++ [w]) (({ l with state := w } : Session).close (.client client) answer) := by
  obtain ⟨errands, waiting, h⟩ := h
  exact ⟨errands, waiting, (h.change hflights (hstored.append _)).closeOther hclient hasked answer⟩

/-- A client who asks for a read. -/
theorem read (h : F.Upholds trail l) {r : Reader} (hknown : F.known r) :
    F.Upholds (trail ++ (r.read.operation.job .finish).states l.state)
      (Loop.perform (.client r.client) (r.read.operation.job .finish) l) := by
  obtain ⟨errands, waiting, h⟩ := h
  cases hread : r.read with
  | pages =>
    have hfetched := h.fetching hknown
    rwa [hread] at hfetched
  | blocks page =>
    have hfetched := h.fetching hknown
    rwa [hread] at hfetched
  | templates =>
    have hcached := h.change (w := (l.state.cachedPages Cache.templatesKey).2) rfl
      ((h.stored.append _).cachedPages _)
    rw [Read.job_templates, Job.touch, Job.states, Job.states, Loop.perform, Loop.perform]
    cases hfound : (l.state.cachedPages Cache.templatesKey).1 with
    | none =>
      have hfetched := hcached.fetching hknown
      rw [hread, List.append_assoc] at hfetched
      exact hfetched
    | some items =>
      refine ⟨errands, waiting, hcached.closeReader hknown fun hsince ↦ ?_⟩
      have hfocus : F.keys Cache.templatesKey := by
        have hkept := F.kept r hsince
        rwa [hread] at hkept
      obtain ⟨e, he, hkey, rfl⟩ := Store.mem_of_get hfound
      obtain ⟨listing, hbrings, hvalue⟩ := h.stored.templates e he hkey hfocus
      rw [hread, hvalue]
      exact ⟨.pages, _, rfl, hbrings.append _, rfl⟩

/-- What is due at a place of the queue has its turn. -/
theorem turn (h : F.Upholds trail l) (place : Nat) :
    F.Upholds (trail ++ l.moveStates (.turn place)) (l.turnAt failed place) := by
  obtain ⟨errands, waiting, h⟩ := h
  rw [Loop.moveStates, Loop.turnAt]
  cases hturn : l.queue[place]? with
  | none =>
    rw [Option.map_none, Option.getD_none, List.append_nil]
    exact ⟨errands, waiting, h⟩
  | some turn =>
    obtain ⟨hlt, rfl⟩ := List.getElem?_eq_some_iff.1 hturn
    obtain ⟨e, rest, he, h⟩ := h.takeOut (List.getElem_cons_eraseIdx_perm hlt).symm
    rw [Option.map_some, Option.getD_some, ← he]
    cases e with
    | fly r turns => exact h.fly
    | go r reply => exact ⟨_, _, h.conclude⟩
    | hear r reply =>
      have hgo : F.Holds trail (some (.go r reply)) rest waiting
          { l with queue := l.queue.eraseIdx place } :=
        (h.letGo rfl).pickUp h.known_hand (h.sourced (.hear r reply) (.head _))
      change F.Upholds (trail ++ []) _
      rw [List.append_nil]
      exact ⟨_, _, hgo.enqueue⟩

end Upholds

end Focus

end OutlineSearch
