import OutlineSearch.Proofs.Task.Termination

/-!
# Contracts

Jobs that share a state keep a contract: whenever one of them is suspended the state is as the
contract wants it, and a flight brings only what the contract allows. A job that starts a flight
owes its landing until the flight has settled, so nobody waits in vain.

A job that keeps the contract when it is run by itself, with the others replaced by the contract,
keeps it in every schedule.
-/

namespace OutlineSearch.Task

variable {σ κ ρ : Type}

/-- What jobs on a shared state rely on and keep to. -/
structure Contract (σ κ ρ : Type) where
  /-- What holds of the state whenever a job is suspended. -/
  inv : σ → Prop
  /-- What a flight may bring. -/
  told : κ → ρ → Prop
  /-- The flights under way. -/
  flights : σ → List κ

/-- What a job owes to the others. -/
inductive Debt (κ : Type) where
  | none
  /-- The landing of a flight under way. -/
  | flying (flight : κ)
  /-- The result of a flight that is over. -/
  | landed (flight : κ)

/-- The flight under way that is owed. -/
def Debt.flight? : Debt κ → Option κ
  | .flying flight => some flight
  | _ => Option.none

/-- A job in hand keeps to a contract from a state on and ends with a result as wanted. -/
inductive Sound (C : Contract σ κ ρ) (fails : ρ → Bool) :
    (ρ → Prop) → Debt κ → Job σ κ ρ → σ → Prop where
  | finish {post : ρ → Prop} {r : ρ} {s : σ} (hs : C.inv s) (hr : post r) :
    Sound C fails post .none (.finish r) s
  | look {post : ρ → Prop} {debt : Debt κ} {next : σ → Job σ κ ρ} {s : σ}
    (h : Sound C fails post debt (next s) s) : Sound C fails post debt (.look next) s
  | change {post : ρ → Prop} {debt : Debt κ} {f : σ → σ} {next : Job σ κ ρ} {s : σ}
    (hf : C.flights (f s) = C.flights s) (h : Sound C fails post debt next (f s)) :
    Sound C fails post debt (.change f next) s
  | takeOff {post : ρ → Prop} {f : σ → σ} {next : Job σ κ ρ} {s : σ} {flight : κ}
    (hnew : flight ∉ C.flights s) (hf : C.flights (f s) = flight :: C.flights s)
    (h : Sound C fails post (.flying flight) next (f s)) :
    Sound C fails post .none (.change f next) s
  | touchDown {post : ρ → Prop} {f : σ → σ} {next : Job σ κ ρ} {s : σ} {flight : κ}
    (hf : (C.flights s).Nodup → (C.flights s).Perm (flight :: C.flights (f s)))
    (h : Sound C fails post (.landed flight) next (f s)) :
    Sound C fails post (.flying flight) (.change f next) s
  | pause {post : ρ → Prop} {debt : Debt κ} {next : Job σ κ ρ} {s : σ} (hs : C.inv s)
    (hdebt : ∀ flight, debt ≠ .landed flight)
    (h : ∀ s', C.inv s' → (∀ flight, debt = .flying flight → flight ∈ C.flights s') →
      Sound C fails post debt next s') :
    Sound C fails post debt (.pause next) s
  | await {post : ρ → Prop} {flight : κ} {next : ρ → Job σ κ ρ} {s : σ} (hs : C.inv s)
    (hflight : flight ∈ C.flights s)
    (h : ∀ r, C.told flight r → ∀ s', C.inv s' → Sound C fails post .none (next r) s') :
    Sound C fails post .none (.await flight next) s
  | settle {post : ρ → Prop} {flight : κ} {r : ρ} {next : Job σ κ ρ} {s : σ}
    (hr : C.told flight r) (h : Sound C fails post .none next s) :
    Sound C fails post (.landed flight) (.settle flight r next) s
  | fork {post : ρ → Prop} {members : List (Job σ κ ρ)} {next : Except ρ (List ρ) → Job σ κ ρ}
    {s : σ} (hs : C.inv s) (posts : Nat → ρ → Prop)
    (hmembers : ∀ i m, members[i]? = some m → ∀ s', C.inv s' → Sound C fails (posts i) .none m s')
    (hok : ∀ rs, rs.length = members.length →
      (∀ i r, rs[i]? = some r → posts i r ∧ fails r = false) →
      ∀ s', C.inv s' → Sound C fails post .none (next (.ok rs)) s')
    (herror : ∀ i r, posts i r → fails r = true →
      ∀ s', C.inv s' → Sound C fails post .none (next (.error r)) s') :
    Sound C fails post .none (.fork members next) s

/-- What a job ends with may be asked less of. -/
theorem Sound.mono {C : Contract σ κ ρ} {fails : ρ → Bool} {post post' : ρ → Prop}
    {debt : Debt κ} {job : Job σ κ ρ} {s : σ} (h : Sound C fails post debt job s)
    (hpost : ∀ r, post r → post' r) : Sound C fails post' debt job s := by
  induction h with
  | finish hs hr => exact .finish hs (hpost _ hr)
  | look _ ih => exact .look (ih hpost)
  | change hf _ ih => exact .change hf (ih hpost)
  | takeOff hnew hf _ ih => exact .takeOff hnew hf (ih hpost)
  | touchDown hf _ ih => exact .touchDown hf (ih hpost)
  | pause hs hdebt _ ih => exact .pause hs hdebt fun s' hs' hflying ↦ ih s' hs' hflying hpost
  | await hs hflight _ ih => exact .await hs hflight fun r hr s' hs' ↦ ih r hr s' hs' hpost
  | settle hr _ ih => exact .settle hr (ih hpost)
  | fork hs posts hmembers _ _ _ ihok iherror =>
    exact .fork hs posts hmembers (fun rs hlength hrs s' hs' ↦ ihok rs hlength hrs s' hs' hpost)
      fun i r hr hfails s' hs' ↦ iherror i r hr hfails s' hs' hpost

namespace Contract

/-- A suspended job keeps to the contract when it goes on in any state that the contract allows. -/
def Ready (C : Contract σ κ ρ) (fails : ρ → Bool) (post : ρ → Prop) (debt : Debt κ)
    (job : Job σ κ ρ) : Prop :=
  ∀ s, C.inv s → (∀ flight, debt = .flying flight → flight ∈ C.flights s) →
    Sound C fails post debt job s

/-- What is due keeps to the contract. -/
def Due (C : Contract σ κ ρ) (fails : ρ → Bool) (post : ρ → Prop) :
    Turn σ κ ρ → Debt κ → Prop
  | .run _ job, debt => C.Ready fails post debt job
  | .arrive _ job, debt => debt = .none ∧ C.Ready fails post .none job
  | .report _ _ r, debt => debt = .none ∧ post r

/-- A group has only results as wanted, and goes on well with such results or a failure. -/
structure Hearing (C : Contract σ κ ρ) (fails : ρ → Bool) (post : Owner → ρ → Prop)
    (g : Group σ κ ρ) : Prop where
  results : ∀ i r, g.results[i]? = some (some r) → post (.member g.id i) r ∧ fails r = false
  ok : ∀ rs, rs.length = g.results.length →
    (∀ i r, rs[i]? = some r → post (.member g.id i) r ∧ fails r = false) →
    C.Ready fails (post g.owner) .none (g.next (.ok rs))
  error : ∀ i r, post (.member g.id i) r → fails r = true →
    C.Ready fails (post g.owner) .none (g.next (.error r))

/-- A loop keeps to the contract while a job with some debt is in hand. The ledger lists what is due
with its debts. -/
structure Kept (C : Contract σ κ ρ) (fails : ρ → Bool) (post : Owner → ρ → Prop) (debt : Debt κ)
    (l : Loop σ κ ρ) (ledger : List (Turn σ κ ρ × Debt κ)) : Prop where
  queue : l.queue.Perm (ledger.map Prod.fst)
  due : ∀ e ∈ ledger, C.Due fails (post e.1.owner) e.1 e.2
  owed : (debt.flight?.toList ++ ledger.filterMap (·.2.flight?)).Perm (C.flights l.state)
  nodup : (C.flights l.state).Nodup
  waiters : ∀ w ∈ l.waiters, (w.flight ∈ C.flights l.state ∨ debt = .landed w.flight) ∧
    ∀ r, C.told w.flight r → C.Ready fails (post w.owner) .none (w.next r)
  groups : ∀ g ∈ l.groups, C.Hearing fails post g
  answers : ∀ a ∈ l.answers, post (.client a.1) a.2

/-- A loop keeps to the contract, and its clients get what they want. -/
def Keeps (C : Contract σ κ ρ) (fails : ρ → Bool) (wanted : Nat → ρ → Prop) (l : Loop σ κ ρ) :
    Prop :=
  ∃ post ledger, (∀ n, post (.client n) = wanted n) ∧ C.inv l.state ∧
    C.Kept fails post .none l ledger

/-! ### What a job in hand does to the loop -/

section Step

open Loop

variable {C : Contract σ κ ρ} {fails : ρ → Bool} {post : Owner → ρ → Prop} {debt : Debt κ}
  {l : Loop σ κ ρ} {ledger : List (Turn σ κ ρ × Debt κ)}

/-- What owners want, with the members of a new group added. -/
def renewed (post : Owner → ρ → Prop) (group : Nat) (posts : Nat → ρ → Prop) : Owner → ρ → Prop
  | .client n => post (.client n)
  | .member id place => if id = group then posts place else post (.member id place)

/-- What owners want as long as no group has a member: what the clients want. -/
def ofClients (wanted : Nat → ρ → Prop) : Owner → ρ → Prop
  | .client n => wanted n
  | .member _ _ => fun _ ↦ True

theorem renewed_of_known (post : Owner → ρ → Prop) {hand : Option Owner} (hn : Numbered hand l)
    (posts : Nat → ρ → Prop)
    {o : Owner} (ho : l.Tends hand o) : renewed post l.nextGroup posts o = post o := by
  cases o with
  | client n => rfl
  | member id place => exact if_neg (Nat.ne_of_lt (hn.known id place ho))

/-- Something more that is due is one more line of the ledger. -/
theorem Kept.enqueue (h : C.Kept fails post debt l ledger) (turn : Turn σ κ ρ)
    (hdebt : ∀ flight, debt ≠ .landed flight) (hturn : C.Due fails (post turn.owner) turn debt) :
    C.Kept fails post .none (l.enqueue turn) (ledger ++ [(turn, debt)]) where
  queue := by
    rw [List.map_append]
    exact h.queue.append_right _
  due := by
    intro e he
    rcases List.mem_append.1 he with he | he
    · exact h.due e he
    · obtain rfl := List.mem_singleton.1 he
      exact hturn
  owed := by
    have hlast : [(turn, debt)].filterMap (·.2.flight?) = debt.flight?.toList := by
      cases hd : debt.flight? <;> simp [hd]
    rw [List.filterMap_append, hlast]
    change (ledger.filterMap (·.2.flight?) ++ debt.flight?.toList).Perm (C.flights l.state)
    exact List.perm_append_comm.trans h.owed
  nodup := h.nodup
  waiters := fun w hw ↦ by
    refine ⟨.inl ((h.waiters w hw).1.resolve_right (hdebt _)), (h.waiters w hw).2⟩
  groups := h.groups
  answers := h.answers

/-- A change of the state that leaves the flights alone. -/
theorem Kept.change (h : C.Kept fails post debt l ledger) (f : σ → σ)
    (hf : C.flights (f l.state) = C.flights l.state) :
    C.Kept fails post debt { l with state := f l.state } ledger where
  queue := h.queue
  due := h.due
  owed := by rw [hf]; exact h.owed
  nodup := by rw [hf]; exact h.nodup
  waiters := by rw [hf]; exact h.waiters
  groups := h.groups
  answers := h.answers

theorem Kept.takeOff (h : C.Kept fails post .none l ledger) (f : σ → σ) {flight : κ}
    (hnew : flight ∉ C.flights l.state)
    (hf : C.flights (f l.state) = flight :: C.flights l.state) :
    C.Kept fails post (.flying flight) { l with state := f l.state } ledger where
  queue := h.queue
  due := h.due
  owed := by rw [hf]; exact h.owed.cons flight
  nodup := by rw [hf]; exact List.nodup_cons.2 ⟨hnew, h.nodup⟩
  waiters := fun w hw ↦ by
    rw [hf]
    refine ⟨.inl (List.mem_cons_of_mem _ ((h.waiters w hw).1.resolve_right ?_)), (h.waiters w hw).2⟩
    simp
  groups := h.groups
  answers := h.answers

theorem Kept.touchDown {flight : κ} (h : C.Kept fails post (.flying flight) l ledger) (f : σ → σ)
    (hf : (C.flights l.state).Perm (flight :: C.flights (f l.state))) :
    C.Kept fails post (.landed flight) { l with state := f l.state } ledger where
  queue := h.queue
  due := h.due
  owed := List.Perm.cons_inv (h.owed.trans hf)
  nodup := (List.nodup_cons.1 (hf.nodup_iff.1 h.nodup)).2
  waiters := fun w hw ↦ by
    refine ⟨?_, (h.waiters w hw).2⟩
    have hw := (h.waiters w hw).1.resolve_right (by simp)
    rcases List.mem_cons.1 (hf.mem_iff.1 hw) with heq | hw
    · exact .inr (by rw [heq])
    · exact .inl hw
  groups := h.groups
  answers := h.answers

theorem Kept.await (h : C.Kept fails post .none l ledger) (w : Waiter σ κ ρ)
    (hflight : w.flight ∈ C.flights l.state)
    (hnext : ∀ r, C.told w.flight r → C.Ready fails (post w.owner) .none (w.next r)) :
    C.Kept fails post .none { l with waiters := l.waiters ++ [w] } ledger where
  queue := h.queue
  due := h.due
  owed := h.owed
  nodup := h.nodup
  waiters := by
    intro v hv
    rcases List.mem_append.1 hv with hv | hv
    · exact h.waiters v hv
    · obtain rfl := List.mem_singleton.1 hv
      exact ⟨.inl hflight, hnext⟩
  groups := h.groups
  answers := h.answers

/-- Those who hear of a flight that has settled are due with what they go on with. -/
theorem Kept.settle [DecidableEq κ] {flight : κ} {r : ρ}
    (h : C.Kept fails post (.landed flight) l ledger) (hr : C.told flight r) :
    ∃ ledger', C.Kept fails post .none (l.land flight r) ledger' := by
  let heard := l.waiters.filter fun w => w.flight = flight
  let arrivals : List (Turn σ κ ρ × Debt κ) :=
    heard.map fun w => (.arrive w.owner (w.next r), .none)
  have hheard {w : Waiter σ κ ρ} (hw : w ∈ heard) : w ∈ l.waiters ∧ w.flight = flight := by
    simpa [heard] using hw
  refine ⟨ledger ++ arrivals, ?_, fun e he ↦ ?_, ?_, h.nodup, fun w hw ↦ ?_, h.groups, h.answers⟩
  · rw [List.map_append, List.map_map]
    exact h.queue.append_right _
  · rcases List.mem_append.1 he with he | he
    · exact h.due e he
    · obtain ⟨w, hw, rfl⟩ := List.mem_map.1 he
      obtain ⟨hmem, rfl⟩ := hheard hw
      exact ⟨rfl, (h.waiters w hmem).2 r hr⟩
  · have hnone : arrivals.filterMap (·.2.flight?) = [] := by
      simp [arrivals, List.filterMap_map, Debt.flight?]
    rw [List.filterMap_append, hnone, List.append_nil]
    exact h.owed
  · obtain ⟨hw, hne⟩ : w ∈ l.waiters ∧ w.flight ≠ flight := by simpa using List.mem_filter.1 hw
    refine ⟨.inl ((h.waiters w hw).1.resolve_right fun heq ↦ hne ?_), (h.waiters w hw).2⟩
    cases heq
    rfl

/-- What owners want may be changed for those whom nothing is under way for. -/
theorem Kept.renew {hand : Option Owner} (hn : Numbered hand l)
    (h : C.Kept fails post debt l ledger) (posts : Nat → ρ → Prop) :
    C.Kept fails (renewed post l.nextGroup posts) debt l ledger where
  queue := h.queue
  due := fun e he ↦ by
    have hmem : e.1 ∈ l.queue := h.queue.mem_iff.2 (List.mem_map_of_mem he)
    rw [renewed_of_known post hn posts (.inr ((mem_owners ..).2 (.inl ⟨_, hmem, rfl⟩)))]
    exact h.due e he
  owed := h.owed
  nodup := h.nodup
  waiters := fun w hw ↦ by
    rw [renewed_of_known post hn posts (.inr ((mem_owners ..).2 (.inr (.inl ⟨w, hw, rfl⟩))))]
    exact h.waiters w hw
  groups := fun g hg ↦ by
    have hmembers (i : Nat) :
        renewed post l.nextGroup posts (.member g.id i) = post (.member g.id i) :=
      if_neg (Nat.ne_of_lt (hn.opened g hg))
    have howner := renewed_of_known post hn posts
      (.inr ((mem_owners ..).2 (.inr (.inr ⟨g, hg, rfl⟩))))
    refine ⟨?_, ?_, ?_⟩
    · simpa only [hmembers] using (h.groups g hg).results
    · simpa only [hmembers, howner] using (h.groups g hg).ok
    · simpa only [hmembers, howner] using (h.groups g hg).error
  answers := h.answers

/-- The members of a new group are due without debts. -/
def memberLedger (group first : Nat) (jobs : List (Job σ κ ρ)) : List (Turn σ κ ρ × Debt κ) :=
  (memberTurns group first jobs).map fun turn => (turn, .none)

/-- A group that is opened wants of its members what the job that forks wants. -/
theorem Kept.opening {owner : Owner} (hn : Numbered (some owner) l)
    (h : C.Kept fails post .none l ledger) (posts : Nat → ρ → Prop) (job : Job σ κ ρ)
    (rest : List (Job σ κ ρ)) (next : Except ρ (List ρ) → Job σ κ ρ)
    (hmembers : ∀ i m, (job :: rest)[i]? = some m → C.Ready fails (posts i) .none m)
    (hok : ∀ rs, rs.length = (job :: rest).length →
      (∀ i r, rs[i]? = some r → posts i r ∧ fails r = false) →
      C.Ready fails (post owner) .none (next (.ok rs)))
    (herror : ∀ i r, posts i r → fails r = true →
      C.Ready fails (post owner) .none (next (.error r))) :
    C.Kept fails (renewed post l.nextGroup posts) .none
      { l with
        queue := l.queue ++ memberTurns l.nextGroup 0 (job :: rest)
        groups := ⟨l.nextGroup, (job :: rest).map fun _ => none, owner, next⟩ :: l.groups
        nextGroup := l.nextGroup + 1 }
      (ledger ++ memberLedger l.nextGroup 0 (job :: rest)) := by
  have h' := h.renew hn posts
  have howner := renewed_of_known post hn posts (.inl rfl)
  have hmember (i : Nat) : renewed post l.nextGroup posts (.member l.nextGroup i) = posts i :=
    if_pos rfl
  refine ⟨?_, fun e he ↦ ?_, ?_, h'.nodup, h'.waiters, fun g hg ↦ ?_, h'.answers⟩
  · have hfst : (memberLedger l.nextGroup 0 (job :: rest)).map Prod.fst =
        memberTurns l.nextGroup 0 (job :: rest) := by
      rw [memberLedger, List.map_map]
      exact List.map_id _
    rw [List.map_append, hfst]
    exact h'.queue.append_right _
  · rcases List.mem_append.1 he with he | he
    · exact h'.due e he
    · obtain ⟨turn, hturn, rfl⟩ := List.mem_map.1 he
      obtain ⟨i, m, hm, rfl⟩ := mem_memberTurns hturn
      rw [Turn.owner, Nat.zero_add, hmember]
      exact hmembers i m hm
  · have hnone : (memberLedger l.nextGroup 0 (job :: rest)).filterMap (·.2.flight?) = [] := by
      simp [memberLedger, List.filterMap_map, Debt.flight?]
    rw [List.filterMap_append, hnone, List.append_nil]
    exact h'.owed
  · rcases List.mem_cons.1 hg with rfl | hg
    · refine ⟨fun i r hi ↦ absurd hi (getElem?_noResults _ i r), ?_, ?_⟩
      · simpa only [hmember, howner, List.length_map] using hok
      · simpa only [hmember, howner] using herror
    · exact h'.groups g hg

/-- A job in hand that keeps to the contract leaves a loop that keeps to it. -/
theorem Kept.perform [DecidableEq κ] {Q : ρ → Prop} {job : Job σ κ ρ} {s : σ}
    (hjob : Sound C fails Q debt job s) {owner : Owner} (hs : l.state = s) (hQ : post owner = Q)
    (hn : Numbered (some owner) l) (h : C.Kept fails post debt l ledger) :
    C.Keeps fails (fun n ↦ post (.client n)) (perform owner job l) := by
  induction hjob generalizing l post ledger owner with
  | @finish _ r s hinv hr =>
    cases owner with
    | client n =>
      refine ⟨post, ledger, fun n ↦ rfl, by rwa [← hs] at hinv,
        h.queue, h.due, h.owed, h.nodup, h.waiters, h.groups, fun a ha ↦ ?_⟩
      rcases List.mem_cons.1 ha with rfl | ha
      · exact hQ ▸ hr
      · exact h.answers a ha
    | member group place =>
      exact ⟨post, _, fun n ↦ rfl, by rwa [← hs] at hinv,
        h.enqueue (.report group place r) (by simp) ⟨rfl, hQ ▸ hr⟩⟩
  | look _ ih =>
    subst hs
    exact ih rfl hQ hn h
  | @change _ _ f _ _ hf _ ih =>
    subst hs
    exact ih rfl hQ ⟨hn.distinct, hn.opened, hn.nested, hn.known⟩ (h.change f hf)
  | @takeOff _ f _ _ _ hnew hf _ ih =>
    subst hs
    exact ih rfl hQ ⟨hn.distinct, hn.opened, hn.nested, hn.known⟩ (h.takeOff f hnew hf)
  | @touchDown _ f _ _ _ hf _ ih =>
    subst hs
    exact ih rfl hQ ⟨hn.distinct, hn.opened, hn.nested, hn.known⟩ (h.touchDown f (hf h.nodup))
  | @pause _ debt next _ hinv hdebt hnext =>
    subst hs hQ
    exact ⟨post, _, fun n ↦ rfl, hinv, h.enqueue (.run owner next) hdebt hnext⟩
  | @await _ flight next _ hinv hflight hnext =>
    subst hs hQ
    refine ⟨post, ledger, fun n ↦ rfl, hinv, h.await ⟨flight, owner, next⟩ hflight ?_⟩
    exact fun r hr s' hs' _ ↦ hnext r hr s' hs'
  | @settle _ flight r next _ hr _ ih =>
    subst hs
    obtain ⟨ledger', h'⟩ := h.settle hr
    refine ih rfl hQ (hn.of_tends rfl rfl fun id place ht ↦ ?_) h'
    exact ht.imp_right (owners_land l flight r _).1
  | @fork _ members next _ hinv posts hmembers hok herror _ ihok =>
    subst hs hQ
    cases members with
    | nil => exact ihok [] rfl (by simp) l.state hinv rfl rfl hn h
    | cons job rest =>
      refine ⟨renewed post l.nextGroup posts, _, fun n ↦ rfl, hinv,
        h.opening hn posts job rest next ?_ ?_ ?_⟩
      · exact fun i m hm s' hs' _ ↦ hmembers i m hm s' hs'
      · exact fun rs hlen hrs s' hs' _ ↦ hok rs hlen hrs s' hs'
      · exact fun i r hr hfail s' hs' _ ↦ herror i r hr hfail s' hs'

/-! ### What a turn does to the loop -/

/-- What is taken out of the queue leaves the ledger with its debt. -/
theorem Kept.takeOut (h : C.Kept fails post .none l ledger) {turn : Turn σ κ ρ}
    {queue : List (Turn σ κ ρ)} (hqueue : l.queue.Perm (turn :: queue)) :
    ∃ debt ledger', C.Due fails (post turn.owner) turn debt ∧
      C.Kept fails post debt { l with queue } ledger' := by
  have hmem : turn ∈ ledger.map Prod.fst :=
    h.queue.mem_iff.1 (hqueue.mem_iff.2 List.mem_cons_self)
  obtain ⟨⟨turn', debt⟩, he, heq⟩ := List.mem_map.1 hmem
  obtain rfl : turn = turn' := heq.symm
  obtain ⟨front, back, rfl⟩ := List.append_of_mem he
  have hledger : (front ++ (turn, debt) :: back).Perm ((turn, debt) :: (front ++ back)) :=
    List.perm_middle
  refine ⟨debt, front ++ back, h.due _ he, ?_, fun e he' ↦ ?_, ?_, h.nodup, fun w hw ↦ ?_,
    h.groups, h.answers⟩
  · exact ((hqueue.symm.trans h.queue).trans (hledger.map Prod.fst)).cons_inv
  · exact h.due e (hledger.mem_iff.2 (List.mem_cons_of_mem _ he'))
  · refine List.Perm.trans ?_ h.owed
    refine List.Perm.trans ?_ (hledger.filterMap _).symm
    rw [List.filterMap_cons]
    cases hd : debt.flight? <;> simp
  · exact ⟨.inl ((h.waiters w hw).1.resolve_right (by simp)), (h.waiters w hw).2⟩

/-- A group that closes makes its owner go on. -/
theorem Kept.closing (h : C.Kept fails post .none l ledger) (g : Group σ κ ρ)
    (reply : Except ρ (List ρ)) (hnext : C.Ready fails (post g.owner) .none (g.next reply)) :
    C.Kept fails post .none (l.closing g reply)
      (ledger ++ [(.run g.owner (g.next reply), .none)]) := by
  have hothers : C.Kept fails post .none (l.dropping g) ledger :=
    ⟨h.queue, h.due, h.owed, h.nodup, h.waiters,
      fun g' hg' ↦ h.groups g' (List.mem_of_mem_filter hg'), h.answers⟩
  exact hothers.enqueue (.run g.owner (g.next reply)) (by simp) hnext

theorem Kept.filling (h : C.Kept fails post .none l ledger) {g : Group σ κ ρ}
    (hg : g ∈ l.groups) {place : Nat} {r : ρ} (hr : post (.member g.id place) r)
    (hfails : fails r = false) :
    C.Kept fails post .none (l.filling g (g.results.set place (some r))) ledger := by
  refine ⟨h.queue, h.due, h.owed, h.nodup, h.waiters, fun g' hg' ↦ ?_, h.answers⟩
  rcases List.mem_cons.1 hg' with rfl | hg'
  · have hears := h.groups g hg
    exact ⟨forall_set_results hears.results ⟨hr, hfails⟩,
      fun rs hlen ↦ hears.ok rs (by simpa using hlen), hears.error⟩
  · exact h.groups g' (List.mem_of_mem_filter hg')

/-- A report that keeps to the contract leaves a loop that keeps to it. -/
theorem Kept.hear {group place : Nat} {r : ρ} (hr : post (.member group place) r)
    (h : C.Kept fails post .none l ledger) :
    (l.hear fails group place r).state = l.state ∧
      ∃ ledger', C.Kept fails post .none (l.hear fails group place r) ledger' := by
  have heard := heard_hear fails l group place r
  generalize l.hear fails group place r = l' at heard
  cases heard with
  | unknown => exact ⟨rfl, ledger, h⟩
  | failure g hg hfails =>
    exact ⟨rfl, _, h.closing g _ ((h.groups g hg).error place r hr hfails)⟩
  | complete g hg hfails all hall =>
    obtain ⟨hlen, hresults⟩ := forall_all_results hall (h.groups g hg).results ⟨hr, hfails⟩
    exact ⟨rfl, _, h.closing g _ ((h.groups g hg).ok all hlen hresults)⟩
  | waiting g hg hfails => exact ⟨rfl, ledger, h.filling hg hr hfails⟩

variable [DecidableEq κ] {wanted : Nat → ρ → Prop}

/-- A turn keeps to the contract. -/
theorem Keeps.turn (hn : Numbered none l) (h : C.Keeps fails wanted l) (place : Nat) :
    C.Keeps fails wanted (l.turnAt fails place) := by
  rcases turnAt_cases fails l place with heq | ⟨turn, queue, hqueue, heq⟩
  · rwa [heq]
  rw [heq]
  obtain ⟨post, ledger, hpost, hinv, h⟩ := h
  obtain ⟨debt, ledger', hdue, h'⟩ := h.takeOut hqueue
  cases turn with
  | run owner job =>
    have hflying : ∀ flight, debt = .flying flight → flight ∈ C.flights l.state := by
      rintro flight rfl
      exact h'.owed.mem_iff.1 List.mem_cons_self
    have hnumbered : Numbered (some owner) { l with queue } :=
      hn.of_tends rfl rfl fun id i ht ↦ (tends_takeOut hqueue _).1 ht
    have := h'.perform (hdue l.state hinv hflying)
      (rfl : ({ l with queue } : Loop σ κ ρ).state = l.state) rfl hnumbered
    rwa [show (fun n ↦ post (.client n)) = wanted from funext hpost] at this
  | arrive owner job =>
    obtain ⟨rfl, hready⟩ := hdue
    exact ⟨post, _, hpost, hinv, h'.enqueue (.run owner job) (by simp) hready⟩
  | report group i r =>
    obtain ⟨rfl, hr⟩ := hdue
    obtain ⟨hstate, ledger'', h''⟩ := h'.hear hr
    exact ⟨post, ledger'', hpost, by rwa [give, hstate], h''⟩

/-- A client who asks for a job that keeps to the contract. -/
theorem Keeps.ask (hn : Numbered none l) (h : C.Keeps fails wanted l) {client : Nat}
    {job : Job σ κ ρ} (hjob : Sound C fails (wanted client) .none job l.state) :
    C.Keeps fails wanted (perform (.client client) job l) := by
  obtain ⟨post, ledger, hpost, hinv, h⟩ := h
  have hnumbered : Numbered (some (.client client)) l :=
    hn.of_tends rfl rfl fun id i ht ↦ .inr (ht.resolve_left (by simp))
  have := h.perform hjob rfl (hpost client) hnumbered
  rwa [show (fun n ↦ post (.client n)) = wanted from funext hpost] at this

/-- The clients of a schedule ask for jobs that keep to the contract. -/
def Asks (C : Contract σ κ ρ) (fails : ρ → Bool) (wanted : Nat → ρ → Prop)
    (moves : List (Move σ κ ρ)) : Prop :=
  ∀ client job, .ask client job ∈ moves → ∀ s, C.inv s → Sound C fails (wanted client) .none job s

omit [DecidableEq κ] in
theorem Keeps.inv (h : C.Keeps fails wanted l) : C.inv l.state := by
  obtain ⟨_, _, _, hinv, _⟩ := h
  exact hinv

omit [DecidableEq κ] in
theorem Keeps.answers (h : C.Keeps fails wanted l) : ∀ a ∈ l.answers, wanted a.1 a.2 := by
  obtain ⟨post, _, hpost, _, h⟩ := h
  exact fun a ha ↦ hpost a.1 ▸ h.answers a ha

omit [DecidableEq κ] in
/-- When nothing is due, no flight is under way and nobody waits for one. -/
theorem Keeps.settled (h : C.Keeps fails wanted l) (hrest : l.AtRest) :
    C.flights l.state = [] ∧ l.waiters = [] := by
  obtain ⟨post, ledger, -, -, h⟩ := h
  have hledger : ledger = [] := by
    have := h.queue
    rw [hrest] at this
    simpa using this.symm
  have hflights : C.flights l.state = [] := by
    have := h.owed
    rw [hledger] at this
    exact List.perm_nil.1 this.symm
  refine ⟨hflights, List.eq_nil_iff_forall_not_mem.2 fun w hw ↦ ?_⟩
  have := (h.waiters w hw).1
  simp [hflights] at this

end Step

end Contract

/-! ### A loop that starts from nothing -/

namespace Loop

/-- Nothing is under way, and nobody has an answer yet. -/
structure Idle (l : Loop σ κ ρ) : Prop where
  queue : l.queue = []
  waiters : l.waiters = []
  groups : l.groups = []
  answers : l.answers = []

variable {C : Contract σ κ ρ} {fails : ρ → Bool} {wanted : Nat → ρ → Prop} {l : Loop σ κ ρ}

theorem Idle.owners (h : l.Idle) : l.owners = [] := by
  simp [Loop.owners, h.queue, h.waiters, h.groups]

theorem Idle.numbered (h : l.Idle) : Numbered none l := by
  refine ⟨?_, ?_, ?_, fun id place ht ↦ ?_⟩
  · simp [h.groups]
  · simp [h.groups]
  · simp [h.groups]
  · simp [Tends, h.owners] at ht

theorem Idle.accounted (h : l.Idle) : Accounted [] none l := by
  refine ⟨?_, ?_, ?_⟩
  · simp
  · simp [h.groups]
  · simp [h.groups]

theorem Idle.keeps (h : l.Idle) (hinv : C.inv l.state) (hflights : C.flights l.state = []) :
    C.Keeps fails wanted l := by
  refine ⟨Contract.ofClients wanted, [], fun n ↦ rfl, hinv, ?_, ?_, ?_, ?_, ?_, ?_, ?_⟩
  · rw [h.queue]
    exact .refl _
  · simp
  · simp [hflights, Debt.flight?]
  · simp [hflights]
  · simp [h.waiters]
  · simp [h.groups]
  · simp [h.answers]

/-- Nothing is under way any more, and all who asked have an answer as wanted. -/
structure Served (C : Contract σ κ ρ) (wanted : Nat → ρ → Prop) (asked : List Nat)
    (l : Loop σ κ ρ) : Prop where
  inv : C.inv l.state
  flights : C.flights l.state = []
  queue : l.queue = []
  waiters : l.waiters = []
  groups : l.groups = []
  wanted : ∀ a ∈ l.answers, wanted a.1 a.2
  answered : ∀ n ∈ asked, ∃ r, (n, r) ∈ l.answers

/-- A loop does what a contract and those who have asked want of it. -/
structure Works (C : Contract σ κ ρ) (fails : ρ → Bool) (wanted : Nat → ρ → Prop)
    (asked : List Nat) (l : Loop σ κ ρ) : Prop where
  numbered : Numbered none l
  keeps : C.Keeps fails wanted l
  accounted : Accounted asked none l

theorem Idle.works (h : l.Idle) (hinv : C.inv l.state) (hflights : C.flights l.state = []) :
    Works C fails wanted [] l :=
  ⟨h.numbered, h.keeps hinv hflights, h.accounted⟩

namespace Works

variable [DecidableEq κ] {asked : List Nat}

theorem ask (h : Works C fails wanted asked l) {client : Nat} {job : Job σ κ ρ}
    (hjob : Sound C fails (wanted client) .none job l.state) :
    Works C fails wanted (asked ++ [client]) (perform (.client client) job l) where
  numbered := h.numbered.move fails (.ask client job)
  keeps := h.keeps.ask h.numbered hjob
  accounted := h.accounted.move fails h.numbered (.ask client job)

theorem turn (h : Works C fails wanted asked l) (place : Nat) :
    Works C fails wanted asked (l.turnAt fails place) where
  numbered := h.numbered.move fails (.turn place)
  keeps := h.keeps.turn h.numbered place
  accounted := by
    have := h.accounted.move fails h.numbered (.turn place)
    rwa [Move.client?, Option.toList_none, List.append_nil] at this

/-- A loop works in every schedule of jobs that keep to the contract. -/
theorem play (h : Works C fails wanted asked l) {moves : List (Move σ κ ρ)}
    (hmoves : C.Asks fails wanted moves) :
    Works C fails wanted (asked ++ askers moves) (l.play fails moves) := by
  induction moves generalizing l asked with
  | nil => rwa [askers, List.filterMap_nil, List.append_nil]
  | cons m ms ih =>
    have hrest : C.Asks fails wanted ms := fun client job hmem ↦
      hmoves client job (List.mem_cons_of_mem _ hmem)
    cases m with
    | ask client job =>
      have := ih (h.ask (hmoves client job List.mem_cons_self _ h.keeps.inv)) hrest
      rwa [List.append_assoc] at this
    | turn place => exact ih (h.turn place) hrest

omit [DecidableEq κ] in
/-- A loop at rest has served all who asked. -/
theorem served (h : Works C fails wanted asked l) (hrest : l.AtRest) :
    Served C wanted asked l := by
  obtain ⟨hflights, hwaiters⟩ := h.keeps.settled hrest
  obtain ⟨hgroups, hanswers⟩ := h.accounted.settled h.numbered hrest hwaiters
  exact ⟨h.keeps.inv, hflights, hrest, hwaiters, hgroups, h.keeps.answers, hanswers⟩

/-- Whatever turn comes next, in the end all who asked are served. -/
theorem settles (h : Works C fails wanted asked l) :
    l.Settles fails (Served C wanted asked) := by
  refine Loop.settles fails _ l fun places hrest ↦ ?_
  have hasks : C.Asks fails wanted (places.map .turn) := fun client job hmem ↦ by simp at hmem
  have := h.play hasks
  rw [show askers (places.map .turn : List (Move σ κ ρ)) = [] by
    simp [askers, Move.client?, List.filterMap_map], List.append_nil] at this
  exact this.served hrest

end Works

end Loop

end OutlineSearch.Task
