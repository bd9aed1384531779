import OutlineSearch.Proofs.Task.Contract

/-!
# Views of the state

A job leaves a view of the state alone when none of its changes shows in the view. A client whose
job is the only one that changes a view can say what he leaves there: nobody changes it while he is
suspended, nor after he has been answered.
-/

namespace OutlineSearch.Task

variable {σ κ ρ α : Type}

/-- What a view may have become while a job was suspended: anything, unless the job is the only one
that changes it. -/
def Follows (own : Bool) (v v' : α) : Prop := own = true → v' = v

namespace Job

/-- A job in hand minds a view of the state, which has some value. If the view is its own, others
leave it alone, and the job ends with a result and a value of the view as wanted; if not, the job
leaves it alone. -/
inductive Minds (φ : σ → α) (wanted : ρ → α → Prop) : Bool → α → Job σ κ ρ → Prop where
  | finish {own : Bool} {v : α} {r : ρ} (h : own = true → wanted r v) :
    Minds φ wanted own v (.finish r)
  | look {own : Bool} {v : α} {next : σ → Job σ κ ρ}
    (h : ∀ s, φ s = v → Minds φ wanted own v (next s)) : Minds φ wanted own v (.look next)
  | change {own : Bool} {v : α} {f : σ → σ} {next : Job σ κ ρ}
    (hf : own = false → ∀ s, φ s = v → φ (f s) = v)
    (h : ∀ s, φ s = v → Minds φ wanted own (φ (f s)) next) : Minds φ wanted own v (.change f next)
  | pause {own : Bool} {v : α} {next : Job σ κ ρ}
    (h : ∀ v', Follows own v v' → Minds φ wanted own v' next) : Minds φ wanted own v (.pause next)
  | await {own : Bool} {v : α} {flight : κ} {next : ρ → Job σ κ ρ}
    (h : ∀ r v', Follows own v v' → Minds φ wanted own v' (next r)) :
    Minds φ wanted own v (.await flight next)
  | settle {own : Bool} {v : α} {flight : κ} {r : ρ} {next : Job σ κ ρ}
    (h : Minds φ wanted own v next) : Minds φ wanted own v (.settle flight r next)
  | fork {own : Bool} {v : α} {members : List (Job σ κ ρ)} {next : Except ρ (List ρ) → Job σ κ ρ}
    (hmembers : ∀ m ∈ members, ∀ v', Minds φ wanted false v' m)
    (h : ∀ r v', Follows own v v' → Minds φ wanted own v' (next r)) :
    Minds φ wanted own v (.fork members next)

section

variable {φ : σ → α} {wanted : ρ → α → Prop} {own : Bool} {v : α}

/-- Whose business the view is not may end with anything. -/
theorem Minds.finish_other (r : ρ) : Minds φ wanted false v (.finish r : Job σ κ ρ) :=
  .finish fun h ↦ absurd h Bool.false_ne_true

/-- A change that does not show in the view. -/
theorem Minds.unseen {f : σ → σ} {next : Job σ κ ρ} (hf : ∀ s, φ s = v → φ (f s) = v)
    (h : Minds φ wanted own v next) : Minds φ wanted own v (.change f next) :=
  .change (fun _ ↦ hf) fun s hs ↦ (hf s hs).symm ▸ h

theorem Minds.touch {β : Type} {f : σ → β × σ} {next : β → Job σ κ ρ}
    (hf : ∀ s, φ s = v → φ (f s).2 = v) (h : ∀ s, φ s = v → Minds φ wanted own v (next (f s).1)) :
    Minds φ wanted own v (.touch f next) :=
  .look fun s hs ↦ .unseen (fun _ _ ↦ hf s hs) (h s hs)

theorem Minds.pauses {next : Job σ κ ρ} (turns : Nat) {v : α}
    (h : ∀ v', Follows own v v' → Minds φ wanted own v' next) :
    Minds φ wanted own v (next.pauses turns) := by
  induction turns generalizing v with
  | zero => exact h v (fun _ ↦ rfl)
  | succ turns ih =>
    exact .pause fun v' hv' ↦ ih fun v'' hv'' ↦ h v'' fun hown ↦ (hv'' hown).trans (hv' hown)

end

end Job

namespace Loop

variable {fails : ρ → Bool} {l : Loop σ κ ρ} {n : Nat}

/-! ### One answer for each time of asking -/

/-- The number of things that are under way for a client, the job in hand included, and of the
answers that he has got. -/
def claims (l : Loop σ κ ρ) (n : Nat) (hand : Option Owner) : Nat :=
  (hand.toList ++ l.owners).count (.client n) + (l.answers.map Prod.fst).count n

theorem claims_some (owner : Owner) :
    l.claims n (some owner) = [owner].count (.client n) + l.claims n none := by
  simp only [claims, Option.toList_some, Option.toList_none, List.nil_append, List.count_append,
    Nat.add_assoc]

theorem claims_enqueue (turn : Turn σ κ ρ) :
    (l.enqueue turn).claims n none = l.claims n (some turn.owner) := by
  simp only [claims, owners, enqueue, List.map_append, List.count_append, Option.toList_some,
    Option.toList_none, List.count_nil, List.map_cons, List.map_nil]
  omega

/-- A claim of somebody else does not count. -/
theorem count_other {owner : Owner} (h : owner ≠ .client n) : [owner].count (.client n) = 0 :=
  List.count_eq_zero.2 fun hmem ↦ h (List.mem_singleton.1 hmem).symm

theorem claims_land [DecidableEq κ] (flight : κ) (r : ρ) (hand : Option Owner) :
    (l.land flight r).claims n hand = l.claims n hand := by
  have hperm :=
    List.filter_append_perm (fun w : Waiter σ κ ρ ↦ decide (w.flight = flight)) l.waiters
  have hcount := (hperm.map Waiter.owner).count_eq (.client n)
  rw [List.map_append, List.count_append] at hcount
  have hwaiters : (l.waiters.filter fun w => decide (w.flight ≠ flight)) =
      l.waiters.filter fun w => !decide (w.flight = flight) := by simp only [ne_eq, decide_not]
  simp only [claims, owners, land, List.map_append, List.count_append, List.map_map, hwaiters]
  change _ + (_ + List.count _ (List.map Waiter.owner _) + _) + _ = _
  omega

/-- What is taken out of the queue is in hand. -/
theorem claims_takeOut {turn : Turn σ κ ρ} {queue : List (Turn σ κ ρ)}
    (hqueue : l.queue.Perm (turn :: queue)) :
    ({ l with queue } : Loop σ κ ρ).claims n (some turn.owner) = l.claims n none := by
  have hcount := (hqueue.map Turn.owner).count_eq (.client n)
  simp only [List.map_cons, List.count_cons] at hcount
  simp only [claims, owners, List.count_append, Option.toList_some, Option.toList_none,
    List.count_cons, List.count_nil]
  omega

/-- A job in hand claims what is left under way of it, or its answer. -/
theorem claims_perform [DecidableEq κ] (owner : Owner) (job : Job σ κ ρ) (l : Loop σ κ ρ) :
    (perform owner job l).claims n none = l.claims n (some owner) := by
  fun_induction perform owner job l with
  | case1 result l =>
    cases owner with
    | client m =>
      have hclient : (Owner.client m == Owner.client n) = (m == n) := by
        by_cases h : m = n <;> simp [h]
      simp only [claims, owners, close, Option.toList_some, Option.toList_none, List.map_cons,
        List.count_append, List.count_cons, List.count_nil, hclient]
      omega
    | member group place => exact claims_enqueue (.report group place result)
  | case2 next l ih => exact ih
  | case3 f next l ih => exact ih
  | case4 next l => exact claims_enqueue (.run owner next)
  | case5 flight next l =>
    simp only [claims, owners, List.map_append, List.count_append, Option.toList_some,
      Option.toList_none, List.count_nil, List.map_cons, List.map_nil]
    omega
  | case6 flight result next l ih => exact ih.trans (claims_land ..)
  | case7 next l ih => exact ih
  | case8 job rest next l members =>
    have hmembers : ((memberTurns l.nextGroup 0 members).map Turn.owner).count (.client n) = 0 := by
      rw [map_owner_memberTurns, List.count_eq_zero]
      intro hmem
      obtain ⟨i, -, hi⟩ := List.mem_map.1 hmem
      cases hi
    simp only [claims, owners, List.map_append, List.count_append, hmembers, List.map_cons,
      Option.toList_some, Option.toList_none, List.count_cons, List.count_nil]
    omega

/-- A report claims nothing for a client, and a group that closes claims no more than before. -/
theorem claims_hear (fails : ρ → Bool) (group place : Nat) (r : ρ) :
    (l.hear fails group place r).claims n none ≤ l.claims n none := by
  have hdrop {g : Group σ κ ρ} (hg : g ∈ l.groups) :
      [g.owner].count (.client n) +
          ((l.groups.filter fun g' => g'.id ≠ g.id).map Group.owner).count (.client n) ≤
        (l.groups.map Group.owner).count (.client n) := by
    obtain ⟨front, back, hgroups⟩ := List.append_of_mem hg
    have hfilter : (l.groups.filter fun g' => g'.id ≠ g.id) =
        (front ++ back).filter fun g' => g'.id ≠ g.id := by
      rw [hgroups, List.filter_append, List.filter_cons_of_neg (by simp), List.filter_append]
    have hothers := ((List.filter_sublist (l := front ++ back)
      (p := fun g' => g'.id ≠ g.id)).map Group.owner).count_le (.client n)
    have hperm : l.groups.Perm (g :: (front ++ back)) := hgroups ▸ List.perm_middle
    rw [hfilter, (hperm.map Group.owner).count_eq]
    simp only [List.map_cons, List.count_cons, List.count_nil]
    omega
  have heard := heard_hear fails l group place r
  generalize l.hear fails group place r = l' at heard
  cases heard with
  | unknown => exact Nat.le_refl _
  | failure g hg =>
    have := hdrop hg
    rw [closing, claims_enqueue, claims_some]
    simp only [claims, owners, dropping, List.count_append, Turn.owner]
    omega
  | complete g hg =>
    have := hdrop hg
    rw [closing, claims_enqueue, claims_some]
    simp only [claims, owners, dropping, List.count_append, Turn.owner]
    omega
  | waiting g hg =>
    have := hdrop hg
    simp only [claims, owners, filling, List.count_append, List.map_cons, List.count_cons,
      List.count_nil] at this ⊢
    omega

end Loop

/-! ### One client who changes a view -/

/-- Whether an owner is the client whose view it is. -/
def Owner.isClient (n : Nat) (owner : Owner) : Bool := decide (owner = .client n)

theorem Owner.isClient_client (n : Nat) : (Owner.client n).isClient n = true := decide_eq_true rfl

theorem Owner.isClient_eq_false {n : Nat} {owner : Owner} (h : owner ≠ .client n) :
    owner.isClient n = false := decide_eq_false h

/-- A suspended job of an owner minds a view, which has some value when it is suspended. -/
def Job.Ready (φ : σ → α) (wanted : ρ → α → Prop) (n : Nat) (v : α) (owner : Owner)
    (job : Job σ κ ρ) : Prop :=
  ∀ v', Follows (owner.isClient n) v v' → job.Minds φ wanted (owner.isClient n) v'

/-- The job that goes on in a turn. -/
def Turn.job? : Turn σ κ ρ → Option (Job σ κ ρ)
  | .run _ job | .arrive _ job => some job
  | .report .. => none

namespace Loop

/-- Everything under way minds a view, at most one thing is under way for the client whose view it
is, and if he has been answered the view is as wanted. -/
structure Minds (φ : σ → α) (wanted : ρ → α → Prop) (n : Nat) (hand : Option Owner)
    (l : Loop σ κ ρ) : Prop where
  claims : l.claims n hand ≤ 1
  queue : ∀ t ∈ l.queue, ∀ job, t.job? = some job → job.Ready φ wanted n (φ l.state) t.owner
  waiters : ∀ w ∈ l.waiters, ∀ r, (w.next r).Ready φ wanted n (φ l.state) w.owner
  groups : ∀ g ∈ l.groups, ∀ r, (g.next r).Ready φ wanted n (φ l.state) g.owner
  answers : ∀ a ∈ l.answers, a.1 = n → wanted a.2 (φ l.state)

namespace Minds

variable {φ : σ → α} {wanted : ρ → α → Prop} {fails : ρ → Bool} {n : Nat} {l : Loop σ κ ρ}
  {hand : Option Owner} {owner : Owner}

/-- While the job of the client is in hand nothing else is under way for him, and he has no
answer. -/
theorem others (h : Minds φ wanted n (some (.client n)) l) :
    (∀ o ∈ l.owners, o ≠ .client n) ∧ ∀ a ∈ l.answers, a.1 ≠ n := by
  have hclaims := h.claims
  simp only [Loop.claims, Option.toList_some, List.count_append,
    List.count_singleton_self] at hclaims
  refine ⟨fun o ho heq ↦ ?_, fun a ha heq ↦ ?_⟩
  · have := List.count_pos_iff.2 (heq ▸ ho)
    omega
  · have := List.count_pos_iff.2 (heq ▸ List.mem_map_of_mem (f := Prod.fst) ha)
    omega

/-- The client changes the view. -/
theorem change (h : Minds φ wanted n (some (.client n)) l) (s : σ) :
    Minds φ wanted n (some (.client n)) { l with state := s } := by
  obtain ⟨howners, hanswers⟩ := h.others
  have hothers {o : Owner} (ho : o ∈ l.owners) {job : Job σ κ ρ}
      (hjob : job.Ready φ wanted n (φ l.state) o) : job.Ready φ wanted n (φ s) o := by
    have hfalse := Owner.isClient_eq_false (howners o ho)
    exact fun v' _ ↦ hjob v' fun htrue ↦ by rw [hfalse] at htrue; cases htrue
  refine ⟨h.claims, fun t ht job hjob ↦ ?_, fun w hw r ↦ ?_, fun g hg r ↦ ?_,
    fun a ha heq ↦ absurd heq (hanswers a ha)⟩
  · exact hothers ((mem_owners ..).2 (.inl ⟨t, ht, rfl⟩)) (h.queue t ht job hjob)
  · exact hothers ((mem_owners ..).2 (.inr (.inl ⟨w, hw, rfl⟩))) (h.waiters w hw r)
  · exact hothers ((mem_owners ..).2 (.inr (.inr ⟨g, hg, rfl⟩))) (h.groups g hg r)

/-- The state changes, and the view does not. -/
theorem unseen (h : Minds φ wanted n hand l) {s : σ} (hs : φ s = φ l.state) :
    Minds φ wanted n hand { l with state := s } := by
  refine ⟨h.claims, ?_, ?_, ?_, ?_⟩ <;> dsimp only <;> rw [hs]
  · exact h.queue
  · exact h.waiters
  · exact h.groups
  · exact h.answers

theorem enqueue (turn : Turn σ κ ρ) (h : Minds φ wanted n (some turn.owner) l)
    (hturn : ∀ job, turn.job? = some job → job.Ready φ wanted n (φ l.state) turn.owner) :
    Minds φ wanted n none (l.enqueue turn) where
  claims := by
    rw [claims_enqueue]
    exact h.claims
  queue t ht := by
    rcases List.mem_append.1 ht with ht | ht
    · exact h.queue t ht
    · obtain rfl := List.mem_singleton.1 ht
      exact hturn
  waiters := h.waiters
  groups := h.groups
  answers := h.answers

theorem await (h : Minds φ wanted n (some owner) l) (flight : κ) {next : ρ → Job σ κ ρ}
    (hnext : ∀ r, (next r).Ready φ wanted n (φ l.state) owner) :
    Minds φ wanted n none { l with waiters := l.waiters ++ [⟨flight, owner, next⟩] } where
  claims := by
    refine Nat.le_trans (Nat.le_of_eq ?_) h.claims
    simp only [Loop.claims, owners, List.map_append, List.count_append, List.map_cons, List.map_nil,
      Option.toList_some, Option.toList_none, List.count_nil]
    omega
  queue := h.queue
  waiters w hw := by
    rcases List.mem_append.1 hw with hw | hw
    · exact h.waiters w hw
    · obtain rfl := List.mem_singleton.1 hw
      exact hnext
  groups := h.groups
  answers := h.answers

theorem land [DecidableEq κ] (h : Minds φ wanted n hand l) (flight : κ) (r : ρ) :
    Minds φ wanted n hand (l.land flight r) where
  claims := by
    rw [claims_land]
    exact h.claims
  queue t ht job hjob := by
    rcases List.mem_append.1 ht with ht | ht
    · exact h.queue t ht job hjob
    · obtain ⟨w, hw, rfl⟩ := List.mem_map.1 ht
      cases hjob
      exact h.waiters w (List.mem_of_mem_filter hw) r
  waiters w hw := h.waiters w (List.mem_of_mem_filter hw)
  groups := h.groups
  answers := h.answers

/-- The members of a group leave the view alone, and whoever the group runs for goes on minding
it. -/
theorem fork [DecidableEq κ] (h : Minds φ wanted n (some owner) l) {job : Job σ κ ρ}
    {rest : List (Job σ κ ρ)} {next : Except ρ (List ρ) → Job σ κ ρ}
    (hmembers : ∀ m ∈ job :: rest, ∀ v, m.Minds φ wanted false v)
    (hnext : ∀ r, (next r).Ready φ wanted n (φ l.state) owner) :
    Minds φ wanted n none (perform owner (.fork (job :: rest) next) l) where
  claims := by
    rw [claims_perform]
    exact h.claims
  queue t ht job' hjob := by
    rcases List.mem_append.1 ht with ht | ht
    · exact h.queue t ht job' hjob
    · obtain ⟨i, m, hm, rfl⟩ := mem_memberTurns ht
      obtain rfl : m = job' := Option.some.inj hjob
      exact fun v _ ↦ hmembers m (List.mem_of_getElem? hm) v
  waiters := h.waiters
  groups g hg := by
    rcases List.mem_cons.1 hg with rfl | hg
    · exact hnext
    · exact h.groups g hg
  answers := h.answers

/-- A job in hand that minds the view leaves a loop that does. -/
theorem perform [DecidableEq κ] {own : Bool} {v : α} {job : Job σ κ ρ}
    (hjob : job.Minds φ wanted own v) (hv : φ l.state = v) (hown : owner.isClient n = own)
    (h : Minds φ wanted n (some owner) l) : Minds φ wanted n none (perform owner job l) := by
  induction hjob generalizing l with
  | @finish own v r hwanted =>
    cases owner with
    | member group place => exact h.enqueue (.report group place r) fun _ hnone ↦ nomatch hnone
    | client m =>
      have hclaims := (claims_perform (.client m) (.finish r) l).symm ▸ h.claims
      refine ⟨hclaims, h.queue, h.waiters, h.groups, fun a ha heq ↦ ?_⟩
      rcases List.mem_cons.1 ha with rfl | ha
      · obtain rfl : m = n := heq
        exact hv ▸ hwanted (hown ▸ Owner.isClient_client m)
      · exact h.answers a ha heq
  | look _ ih => exact ih l.state hv hv hown h
  | @change own v f next hf _ ih =>
    refine ih l.state hv rfl hown ?_
    cases own with
    | false => exact h.unseen ((hf rfl _ hv).trans hv.symm)
    | true =>
      obtain rfl : owner = .client n := of_decide_eq_true hown
      exact h.change _
  | @pause own v next hnext _ =>
    subst hv hown
    refine h.enqueue (.run owner next) fun _ hjob ↦ ?_
    cases hjob
    exact hnext
  | await hnext _ =>
    subst hv hown
    exact h.await _ hnext
  | settle _ ih => exact ih hv hown (h.land _ _)
  | @fork own v members next hmembers hnext _ ih =>
    subst hv hown
    cases members with
    | nil => exact ih (.ok []) _ (fun _ ↦ rfl) rfl rfl h
    | cons job rest => exact h.fork hmembers hnext

theorem closing {g : Group σ κ ρ} (h : Minds φ wanted n none l) (hg : g ∈ l.groups)
    (reply : Except ρ (List ρ)) (hclaims : (l.closing g reply).claims n none ≤ 1) :
    Minds φ wanted n none (l.closing g reply) where
  claims := hclaims
  queue t ht job hjob := by
    rcases List.mem_append.1 ht with ht | ht
    · exact h.queue t ht job hjob
    · obtain rfl := List.mem_singleton.1 ht
      cases hjob
      exact h.groups g hg reply
  waiters := h.waiters
  groups g' hg' := h.groups g' (List.mem_of_mem_filter hg')
  answers := h.answers

theorem hear (h : Minds φ wanted n none l) (group place : Nat) (r : ρ) :
    Minds φ wanted n none (l.hear fails group place r) := by
  have hclaims := Nat.le_trans (claims_hear fails group place r) h.claims
  have heard := heard_hear fails l group place r
  generalize l.hear fails group place r = l' at heard hclaims
  cases heard with
  | unknown => exact h
  | failure g hg => exact h.closing hg _ hclaims
  | complete g hg => exact h.closing hg _ hclaims
  | waiting g hg =>
    refine ⟨hclaims, h.queue, h.waiters, fun g' hg' ↦ ?_, h.answers⟩
    rcases List.mem_cons.1 hg' with rfl | hg'
    · exact h.groups g hg
    · exact h.groups g' (List.mem_of_mem_filter hg')

variable [DecidableEq κ]

theorem turn (h : Minds φ wanted n none l) (place : Nat) :
    Minds φ wanted n none (l.turnAt fails place) := by
  rcases turnAt_cases fails l place with heq | ⟨turn, queue, hqueue, heq⟩
  · rwa [heq]
  have hturn := h.queue turn (hqueue.mem_iff.2 List.mem_cons_self)
  have hhand : Minds φ wanted n (some turn.owner) { l with queue } :=
    ⟨(claims_takeOut hqueue).symm ▸ h.claims,
      fun t ht ↦ h.queue t (hqueue.mem_iff.2 (List.mem_cons_of_mem _ ht)), h.waiters, h.groups,
      h.answers⟩
  rw [heq]
  cases turn with
  | run owner job => exact hhand.perform (hturn job rfl _ (fun _ ↦ rfl)) rfl rfl
  | arrive owner job => exact hhand.enqueue (.run owner job) hturn
  | report group i r =>
    refine hear ⟨?_, hhand.queue, hhand.waiters, hhand.groups, hhand.answers⟩ group i r
    have hclaims := hhand.claims
    rw [claims_some] at hclaims
    omega

/-- Another client asks for a job that leaves the view alone. -/
theorem askOther (h : Minds φ wanted n none l) {m : Nat} (hm : m ≠ n) {job : Job σ κ ρ}
    (hjob : ∀ v, job.Minds φ wanted false v) :
    Minds φ wanted n none (Loop.perform (.client m) job l) := by
  have hother : Owner.client m ≠ .client n := fun heq ↦ hm (Owner.client.inj heq)
  refine perform (hjob _) rfl (Owner.isClient_eq_false hother)
    ⟨?_, h.queue, h.waiters, h.groups, h.answers⟩
  rw [claims_some, count_other hother, Nat.zero_add]
  exact h.claims

/-- The client asks for a job whose own the view is; he has not asked before. -/
theorem ask (h : Minds φ wanted n none l) (hclaims : l.claims n none = 0) {job : Job σ κ ρ}
    (hjob : job.Minds φ wanted true (φ l.state)) :
    Minds φ wanted n none (Loop.perform (.client n) job l) := by
  refine perform hjob rfl (Owner.isClient_client n) ⟨?_, h.queue, h.waiters, h.groups, h.answers⟩
  exact Nat.le_of_eq (by rw [claims_some, hclaims, List.count_singleton_self])

/-- Other clients ask for jobs that leave the view alone. -/
theorem play (h : Minds φ wanted n none l) {moves : List (Move σ κ ρ)}
    (hmoves : ∀ m job, .ask m job ∈ moves → m ≠ n ∧ ∀ v, job.Minds φ wanted false v) :
    Minds φ wanted n none (l.play fails moves) := by
  induction moves generalizing l with
  | nil => exact h
  | cons move rest ih =>
    have hrest (m : Nat) (job : Job σ κ ρ) (hmem : .ask m job ∈ rest) :=
      hmoves m job (List.mem_cons_of_mem _ hmem)
    cases move with
    | ask m job =>
      obtain ⟨hm, hjob⟩ := hmoves m job List.mem_cons_self
      exact ih (h.askOther hm hjob) hrest
    | turn place => exact ih (h.turn place) hrest

omit [DecidableEq κ] in
/-- Where nothing is under way a client may ask for a job whose own the view is. -/
theorem of_idle (h : l.Idle) : Minds φ wanted n none l ∧ l.claims n none = 0 := by
  have hclaims : l.claims n none = 0 := by
    simp [Loop.claims, h.owners, h.answers]
  refine ⟨⟨hclaims ▸ Nat.zero_le 1, ?_, ?_, ?_, ?_⟩, hclaims⟩
  · simp [h.queue]
  · simp [h.waiters]
  · simp [h.groups]
  · simp [h.answers]

omit [DecidableEq κ] in
theorem answer (h : Minds φ wanted n none l) {r : ρ} (hr : l.answer? n = some r) :
    wanted r (φ l.state) := by
  obtain ⟨a, ha, rfl⟩ := Option.map_eq_some_iff.1 hr
  exact h.answers a (List.mem_of_find?_eq_some ha) (by simpa using List.find?_some ha)

end Minds

end Loop

end OutlineSearch.Task
