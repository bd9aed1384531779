import OutlineSearch.Proofs.Task.Contract
import OutlineSearch.Proofs.Task.Trail

/-!
# Courses

A contract is kept in every schedule, so that it cannot tell what has happened in one of them. A course
is a contract for one run whose changes are known beforehand: a job that makes a change may rely on the
run making it. What jobs tell each other and end with is then told of the run as a whole, and stays true
however the run goes on.

A job that keeps to the course when it is run by itself keeps to it in the run, as far as the run goes.
-/

namespace OutlineSearch.Task

variable {σ κ ρ : Type}

/-- What jobs on a shared state rely on and keep to in a run. -/
structure Course (σ κ ρ : Type) where
  /-- What holds of the state whenever a job is suspended. -/
  inv : σ → Prop
  /-- What a flight may bring. -/
  told : κ → ρ → Prop
  /-- The changes that the run makes. -/
  goes : σ → σ → Prop

/-- A job in hand keeps to a course from a state on and ends with a result as wanted. -/
inductive OnCourse (C : Course σ κ ρ) (fails : ρ → Bool) : (ρ → Prop) → Job σ κ ρ → σ → Prop where
  | finish {post : ρ → Prop} {r : ρ} {s : σ} (hs : C.inv s) (hr : post r) :
    OnCourse C fails post (.finish r) s
  | look {post : ρ → Prop} {next : σ → Job σ κ ρ} {s : σ} (h : OnCourse C fails post (next s) s) :
    OnCourse C fails post (.look next) s
  | change {post : ρ → Prop} {f : σ → σ} {next : Job σ κ ρ} {s : σ}
    (h : C.goes s (f s) → OnCourse C fails post next (f s)) : OnCourse C fails post (.change f next) s
  | pause {post : ρ → Prop} {next : Job σ κ ρ} {s : σ} (hs : C.inv s)
    (h : ∀ s', C.inv s' → OnCourse C fails post next s') : OnCourse C fails post (.pause next) s
  | await {post : ρ → Prop} {flight : κ} {next : ρ → Job σ κ ρ} {s : σ} (hs : C.inv s)
    (h : ∀ r, C.told flight r → ∀ s', C.inv s' → OnCourse C fails post (next r) s') :
    OnCourse C fails post (.await flight next) s
  | settle {post : ρ → Prop} {flight : κ} {r : ρ} {next : Job σ κ ρ} {s : σ}
    (hr : C.told flight r) (h : OnCourse C fails post next s) :
    OnCourse C fails post (.settle flight r next) s
  | fork {post : ρ → Prop} {members : List (Job σ κ ρ)} {next : Except ρ (List ρ) → Job σ κ ρ}
    {s : σ} (hs : C.inv s) (posts : Nat → ρ → Prop)
    (hmembers : ∀ i m, members[i]? = some m → ∀ s', C.inv s' → OnCourse C fails (posts i) m s')
    (hok : ∀ rs, rs.length = members.length →
      (∀ i r, rs[i]? = some r → posts i r ∧ fails r = false) →
      ∀ s', C.inv s' → OnCourse C fails post (next (.ok rs)) s')
    (herror : ∀ i r, posts i r → fails r = true →
      ∀ s', C.inv s' → OnCourse C fails post (next (.error r)) s') :
    OnCourse C fails post (.fork members next) s

/-- What a job ends with may be asked less of. -/
theorem OnCourse.mono {C : Course σ κ ρ} {fails : ρ → Bool} {post post' : ρ → Prop}
    {job : Job σ κ ρ} {s : σ} (h : OnCourse C fails post job s) (hpost : ∀ r, post r → post' r) :
    OnCourse C fails post' job s := by
  induction h with
  | finish hs hr => exact .finish hs (hpost _ hr)
  | look _ ih => exact .look (ih hpost)
  | change _ ih => exact .change fun hgoes ↦ ih hgoes hpost
  | pause hs _ ih => exact .pause hs fun s' hs' ↦ ih s' hs' hpost
  | await hs _ ih => exact .await hs fun r hr s' hs' ↦ ih r hr s' hs' hpost
  | settle hr _ ih => exact .settle hr (ih hpost)
  | fork hs posts hmembers _ _ _ ihok iherror =>
    exact .fork hs posts hmembers (fun rs hlength hrs s' hs' ↦ ihok rs hlength hrs s' hs' hpost)
      fun i r hr hfails s' hs' ↦ iherror i r hr hfails s' hs' hpost

namespace Course

/-- A suspended job keeps to the course when it goes on in any state that the course allows. -/
def Ready (C : Course σ κ ρ) (fails : ρ → Bool) (post : ρ → Prop) (job : Job σ κ ρ) : Prop :=
  ∀ s, C.inv s → OnCourse C fails post job s

/-- What is due keeps to the course. -/
def Due (C : Course σ κ ρ) (fails : ρ → Bool) (post : ρ → Prop) : Turn σ κ ρ → Prop
  | .run _ job | .arrive _ job => C.Ready fails post job
  | .report _ _ r => post r

/-- A group has only results as wanted, and goes on well with such results or a failure. -/
structure Hearing (C : Course σ κ ρ) (fails : ρ → Bool) (post : Owner → ρ → Prop)
    (g : Group σ κ ρ) : Prop where
  results : ∀ i r, g.results[i]? = some (some r) → post (.member g.id i) r ∧ fails r = false
  ok : ∀ rs, rs.length = g.results.length →
    (∀ i r, rs[i]? = some r → post (.member g.id i) r ∧ fails r = false) →
    C.Ready fails (post g.owner) (g.next (.ok rs))
  error : ∀ i r, post (.member g.id i) r → fails r = true →
    C.Ready fails (post g.owner) (g.next (.error r))

/-- Everything under way in a loop keeps to the course. -/
structure Kept (C : Course σ κ ρ) (fails : ρ → Bool) (post : Owner → ρ → Prop)
    (l : Loop σ κ ρ) : Prop where
  queue : ∀ t ∈ l.queue, C.Due fails (post t.owner) t
  waiters : ∀ w ∈ l.waiters, ∀ r, C.told w.flight r → C.Ready fails (post w.owner) (w.next r)
  groups : ∀ g ∈ l.groups, C.Hearing fails post g
  answers : ∀ a ∈ l.answers, post (.client a.1) a.2

/-- A loop keeps to the course, and its clients get what they want. -/
def Keeps (C : Course σ κ ρ) (fails : ρ → Bool) (wanted : Nat → ρ → Prop) (l : Loop σ κ ρ) : Prop :=
  ∃ post, (∀ n, post (.client n) = wanted n) ∧ C.inv l.state ∧ C.Kept fails post l

section

open Loop

variable {C : Course σ κ ρ} {fails : ρ → Bool} {post : Owner → ρ → Prop} {l : Loop σ κ ρ}

/-! ### What a job in hand does to the loop -/

theorem Kept.enqueue (h : C.Kept fails post l) {turn : Turn σ κ ρ}
    (hturn : C.Due fails (post turn.owner) turn) : C.Kept fails post (l.enqueue turn) where
  queue t ht := by
    rcases List.mem_append.1 ht with ht | ht
    · exact h.queue t ht
    · obtain rfl := List.mem_singleton.1 ht
      exact hturn
  waiters := h.waiters
  groups := h.groups
  answers := h.answers

theorem Kept.await (h : C.Kept fails post l) (w : Waiter σ κ ρ)
    (hnext : ∀ r, C.told w.flight r → C.Ready fails (post w.owner) (w.next r)) :
    C.Kept fails post { l with waiters := l.waiters ++ [w] } where
  queue := h.queue
  waiters v hv := by
    rcases List.mem_append.1 hv with hv | hv
    · exact h.waiters v hv
    · obtain rfl := List.mem_singleton.1 hv
      exact hnext
  groups := h.groups
  answers := h.answers

/-- Those who hear of a flight that has settled are due with what they go on with. -/
theorem Kept.settle [DecidableEq κ] {flight : κ} {r : ρ} (h : C.Kept fails post l)
    (hr : C.told flight r) : C.Kept fails post (l.land flight r) where
  queue t ht := by
    rcases List.mem_append.1 ht with ht | ht
    · exact h.queue t ht
    · obtain ⟨w, hw, rfl⟩ := List.mem_map.1 ht
      obtain ⟨hmem, rfl⟩ : w ∈ l.waiters ∧ w.flight = flight := by simpa using List.mem_filter.1 hw
      exact h.waiters w hmem r hr
  waiters w hw := h.waiters w (List.mem_of_mem_filter hw)
  groups := h.groups
  answers := h.answers

/-- A group that is opened wants of its members what the job that forks wants. -/
theorem Kept.opening {owner : Owner} (hn : Numbered (some owner) l) (h : C.Kept fails post l)
    (posts : Nat → ρ → Prop) (job : Job σ κ ρ) (rest : List (Job σ κ ρ))
    (next : Except ρ (List ρ) → Job σ κ ρ)
    (hmembers : ∀ i m, (job :: rest)[i]? = some m → C.Ready fails (posts i) m)
    (hok : ∀ rs, rs.length = (job :: rest).length →
      (∀ i r, rs[i]? = some r → posts i r ∧ fails r = false) →
      C.Ready fails (post owner) (next (.ok rs)))
    (herror : ∀ i r, posts i r → fails r = true → C.Ready fails (post owner) (next (.error r))) :
    C.Kept fails (Contract.renewed post l.nextGroup posts)
      { l with
        queue := l.queue ++ memberTurns l.nextGroup 0 (job :: rest)
        groups := ⟨l.nextGroup, (job :: rest).map fun _ => none, owner, next⟩ :: l.groups
        nextGroup := l.nextGroup + 1 } := by
  have hknown {o : Owner} (ho : l.Tends (some owner) o) :
      Contract.renewed post l.nextGroup posts o = post o := Contract.renewed_of_known post hn posts ho
  have hmember (i : Nat) :
      Contract.renewed post l.nextGroup posts (.member l.nextGroup i) = posts i := if_pos rfl
  refine ⟨fun t ht ↦ ?_, fun w hw ↦ ?_, fun g hg ↦ ?_, h.answers⟩
  · rcases List.mem_append.1 ht with ht | ht
    · rw [hknown (.inr ((mem_owners ..).2 (.inl ⟨t, ht, rfl⟩)))]
      exact h.queue t ht
    · obtain ⟨i, m, hm, rfl⟩ := mem_memberTurns ht
      rw [Turn.owner, Nat.zero_add, hmember]
      exact hmembers i m hm
  · rw [hknown (.inr ((mem_owners ..).2 (.inr (.inl ⟨w, hw, rfl⟩))))]
    exact h.waiters w hw
  · rcases List.mem_cons.1 hg with rfl | hg
    · refine ⟨fun i r hi ↦ absurd hi (getElem?_noResults _ i r), ?_, ?_⟩
      · simpa only [hmember, hknown (.inl rfl), List.length_map] using hok
      · simpa only [hmember, hknown (.inl rfl)] using herror
    · have hmembers (i : Nat) :
          Contract.renewed post l.nextGroup posts (.member g.id i) = post (.member g.id i) :=
        if_neg (Nat.ne_of_lt (hn.opened g hg))
      have howner := hknown (.inr ((mem_owners ..).2 (.inr (.inr ⟨g, hg, rfl⟩))))
      refine ⟨?_, ?_, ?_⟩
      · simpa only [hmembers] using (h.groups g hg).results
      · simpa only [hmembers, howner] using (h.groups g hg).ok
      · simpa only [hmembers, howner] using (h.groups g hg).error

/-- A job in hand that keeps to the course leaves a loop that keeps to it, if the run goes as the job
does. -/
theorem Kept.perform [DecidableEq κ] {Q : ρ → Prop} {job : Job σ κ ρ} {s : σ}
    (hjob : OnCourse C fails Q job s) {owner : Owner} (hs : l.state = s) (hQ : post owner = Q)
    (hn : Numbered (some owner) l) (h : C.Kept fails post l)
    (hgoes : (s :: job.states s).IsChain C.goes) :
    C.Keeps fails (fun n ↦ post (.client n)) (perform owner job l) := by
  induction hjob generalizing l post owner with
  | @finish _ r s hinv hr =>
    subst hs hQ
    cases owner with
    | client n =>
      refine ⟨post, fun n ↦ rfl, hinv, h.queue, h.waiters, h.groups, fun a ha ↦ ?_⟩
      rcases List.mem_cons.1 ha with rfl | ha
      · exact hr
      · exact h.answers a ha
    | member group place => exact ⟨post, fun n ↦ rfl, hinv, h.enqueue hr⟩
  | look _ ih =>
    subst hs
    exact ih rfl hQ hn h hgoes
  | @change _ f next s _ ih =>
    subst hs
    obtain ⟨hgo, hrest⟩ := List.isChain_cons_cons.1 hgoes
    exact ih hgo rfl hQ ⟨hn.distinct, hn.opened, hn.nested, hn.known⟩
      ⟨h.queue, h.waiters, h.groups, h.answers⟩ hrest
  | pause hinv hnext _ =>
    subst hs hQ
    exact ⟨post, fun n ↦ rfl, hinv, h.enqueue hnext⟩
  | await hinv hnext _ =>
    subst hs hQ
    exact ⟨post, fun n ↦ rfl, hinv, h.await _ hnext⟩
  | @settle _ flight r next _ hr _ ih =>
    subst hs
    refine ih rfl hQ (hn.of_tends rfl rfl fun id place ht ↦ ?_) (h.settle hr) hgoes
    exact ht.imp_right (owners_land l flight r _).1
  | @fork _ members next _ hinv posts hmembers hok herror _ ihok _ =>
    subst hs hQ
    cases members with
    | nil => exact ihok [] rfl (by simp) l.state hinv rfl rfl hn h hgoes
    | cons job rest =>
      exact ⟨Contract.renewed post l.nextGroup posts, fun n ↦ rfl, hinv,
        h.opening hn posts job rest next hmembers hok herror⟩

/-! ### What a turn does to the loop -/

/-- A group that closes makes its owner go on. -/
theorem Kept.closing (h : C.Kept fails post l) (g : Group σ κ ρ) (reply : Except ρ (List ρ))
    (hnext : C.Ready fails (post g.owner) (g.next reply)) :
    C.Kept fails post (l.closing g reply) := by
  have hothers : C.Kept fails post (l.dropping g) :=
    ⟨h.queue, h.waiters, fun g' hg' ↦ h.groups g' (List.mem_of_mem_filter hg'), h.answers⟩
  exact hothers.enqueue hnext

theorem Kept.filling (h : C.Kept fails post l) {g : Group σ κ ρ} (hg : g ∈ l.groups) {place : Nat}
    {r : ρ} (hr : post (.member g.id place) r) (hfails : fails r = false) :
    C.Kept fails post (l.filling g (g.results.set place (some r))) := by
  refine ⟨h.queue, h.waiters, fun g' hg' ↦ ?_, h.answers⟩
  rcases List.mem_cons.1 hg' with rfl | hg'
  · have hears := h.groups g hg
    exact ⟨forall_set_results hears.results ⟨hr, hfails⟩,
      fun rs hlen ↦ hears.ok rs (by simpa using hlen), hears.error⟩
  · exact h.groups g' (List.mem_of_mem_filter hg')

/-- A report that keeps to the course leaves a loop that keeps to it. -/
theorem Kept.hear {group place : Nat} {r : ρ} (hr : post (.member group place) r)
    (h : C.Kept fails post l) :
    (l.hear fails group place r).state = l.state ∧ C.Kept fails post (l.hear fails group place r) := by
  have heard := heard_hear fails l group place r
  generalize l.hear fails group place r = l' at heard
  cases heard with
  | unknown => exact ⟨rfl, h⟩
  | failure g hg hfails => exact ⟨rfl, h.closing g _ ((h.groups g hg).error place r hr hfails)⟩
  | complete g hg hfails all hall =>
    obtain ⟨hlen, hresults⟩ := forall_all_results hall (h.groups g hg).results ⟨hr, hfails⟩
    exact ⟨rfl, h.closing g _ ((h.groups g hg).ok all hlen hresults)⟩
  | waiting g hg hfails => exact ⟨rfl, h.filling hg hr hfails⟩

variable [DecidableEq κ] {wanted : Nat → ρ → Prop}

/-- A turn keeps to the course. -/
theorem Keeps.turn (hn : Numbered none l) (h : C.Keeps fails wanted l) (place : Nat)
    (hgoes : (l.state :: l.moveStates (.turn place)).IsChain C.goes) :
    C.Keeps fails wanted (l.turnAt fails place) := by
  obtain ⟨post, hpost, hinv, h⟩ := h
  obtain rfl : (fun n ↦ post (.client n)) = wanted := funext hpost
  rw [moveStates] at hgoes
  rw [turnAt]
  cases hturn : l.queue[place]? with
  | none => exact ⟨post, fun n ↦ rfl, hinv, h⟩
  | some turn =>
    obtain ⟨hlt, rfl⟩ := List.getElem?_eq_some_iff.1 hturn
    have hqueue := (List.getElem_cons_eraseIdx_perm hlt).symm
    have hdue := h.queue _ (hqueue.mem_iff.2 List.mem_cons_self)
    have hrest : C.Kept fails post { l with queue := l.queue.eraseIdx place } :=
      ⟨fun t ht ↦ h.queue t (hqueue.mem_iff.2 (List.mem_cons_of_mem _ ht)), h.waiters, h.groups,
        h.answers⟩
    rw [hturn, Option.map_some, Option.getD_some] at hgoes
    generalize l.queue[place] = turn at hqueue hdue hgoes
    cases turn with
    | run owner job =>
      have hnumbered : Numbered (some owner) { l with queue := l.queue.eraseIdx place } :=
        hn.of_tends rfl rfl fun id i ht ↦ (tends_takeOut hqueue _).1 ht
      exact hrest.perform (hdue l.state hinv) rfl rfl hnumbered hgoes
    | arrive owner job => exact ⟨post, fun n ↦ rfl, hinv, hrest.enqueue hdue⟩
    | report group i r =>
      obtain ⟨hstate, hheard⟩ := hrest.hear hdue
      exact ⟨post, fun n ↦ rfl, hstate.symm ▸ hinv, hheard⟩

/-- Turns keep to the course. -/
theorem Keeps.turns (hn : Numbered none l) (h : C.Keeps fails wanted l) (places : List Nat)
    (hgoes : (l.state :: l.trail fails (places.map .turn)).IsChain C.goes) :
    C.Keeps fails wanted (l.play fails (places.map .turn)) := by
  induction places generalizing l with
  | nil => exact h
  | cons place places ih =>
    rw [List.map_cons, isChain_trail_cons] at hgoes
    rw [List.map_cons, play_cons]
    exact ih (hn.move fails (.turn place)) (h.turn hn place hgoes.1) hgoes.2

/-- A client who asks for a job that keeps to the course, where nothing is under way, gets what is
wanted in whichever order turns are then taken. -/
theorem keeps_of_idle (hidle : l.Idle) (client : Nat) {job : Job σ κ ρ}
    (hjob : OnCourse C fails (wanted client) job l.state) (places : List Nat)
    (hgoes : (l.state :: l.trail fails (.ask client job :: places.map .turn)).IsChain C.goes) :
    C.Keeps fails wanted (l.play fails (.ask client job :: places.map .turn)) := by
  have hkept : C.Kept fails (Contract.ofClients wanted) l := by
    refine ⟨?_, ?_, ?_, ?_⟩
    · simp [hidle.queue]
    · simp [hidle.waiters]
    · simp [hidle.groups]
    · simp [hidle.answers]
  rw [isChain_trail_cons] at hgoes
  have hasked : C.Keeps fails wanted (Loop.perform (.client client) job l) := by
    refine hkept.perform hjob rfl rfl ?_ hgoes.1
    exact hidle.numbered.of_tends rfl rfl fun id i ht ↦ .inr (ht.resolve_left (by simp))
  exact hasked.turns (hidle.numbered.move fails (.ask client job)) places hgoes.2

omit [DecidableEq κ] in
theorem Keeps.answer (h : C.Keeps fails wanted l) {n : Nat} {r : ρ} (hr : l.answer? n = some r) :
    wanted n r := by
  obtain ⟨post, hpost, -, h⟩ := h
  obtain ⟨a, ha, rfl⟩ := Option.map_eq_some_iff.1 hr
  have hclient : a.1 = n := by simpa using List.find?_some ha
  rw [← hpost, ← hclient]
  exact h.answers a (List.mem_of_find?_eq_some ha)

omit [DecidableEq κ] in
theorem Keeps.inv (h : C.Keeps fails wanted l) : C.inv l.state := by
  obtain ⟨_, _, hinv, _⟩ := h
  exact hinv

end

end Course

end OutlineSearch.Task
