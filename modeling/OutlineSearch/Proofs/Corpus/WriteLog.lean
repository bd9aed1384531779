import OutlineSearch.Proofs.Corpus.Passages
import OutlineSearch.Proofs.Number.Comparing

/-!
# A store against a log of what was done with it

A plain log of what was done with a store forgets nothing: under a key there is what was last put
there, unless it was taken away since or its lifetime is over. A store is read as this log is, while
the clock does not go back, although it drops what it finds out of date: what was out of date once
stays so. The entries of a store are told from its history as well, so its size is.
-/

namespace OutlineSearch.Store

variable {α : Type}

/-- Something that is done with a store; what is put without a lifetime of its own has that of the
store. -/
inductive Action (α : Type) where
  | put (key : String) (value : α) (lifetime : Option Binary64)
  | get (key : String)
  | erase (key : String)
  | clear

/-- What is done with a store, with the readings of the clock, the first thing in front. -/
abbrev History (α : Type) := List (Binary64 × Action α)

namespace Action

/-- Whether an action decides by itself what is under a key. -/
def touches (key : String) : Action α → Bool
  | put other _ _ | erase other => other == key
  | get _ => false
  | clear => true

/-- Whether an action only reads. -/
def isGet : Action α → Bool
  | get _ => true
  | _ => false

/-- Whether an action is one on a key, or on all keys. -/
def concerns (key : String) : Action α → Bool
  | put other _ _ | get other | erase other => other == key
  | clear => true

/-- An action writes an entry at a time. -/
def Writes (lifetime now : Binary64) (e : StoreEntry α) (action : Action α) : Prop :=
  ∃ own, action = put e.key e.value own ∧ e.writtenAt = now ∧ e.lifetime = own.getD lifetime

/-- An action leaves an entry where it is: it does not touch the key, and does not find the entry
out of date. -/
def Spares (now : Binary64) (e : StoreEntry α) (action : Action α) : Prop :=
  action.touches e.key = false ∧ (action = get e.key → e.isFresh now = true)

variable {lifetime now : Binary64} {e : StoreEntry α} {key : String}

theorem writes_put {a : α} {own : Option Binary64} :
    (put key a own).Writes lifetime now e ↔ e = ⟨key, a, now, own.getD lifetime⟩ := by
  constructor
  · rintro ⟨own', hput, hnow, hlifetime⟩
    cases e
    cases hput
    cases hnow
    cases hlifetime
    rfl
  · rintro rfl
    exact ⟨own, rfl, rfl, rfl⟩

theorem not_writes_get : ¬(get key).Writes lifetime now e := by
  rintro ⟨_, h, -⟩
  cases h

theorem not_writes_erase : ¬(erase key).Writes lifetime now e := by
  rintro ⟨_, h, -⟩
  cases h

@[simp] theorem not_writes_clear : ¬clear.Writes lifetime now e := by
  rintro ⟨_, h, -⟩
  cases h

theorem spares_put {a : α} {own : Option Binary64} :
    (put key a own).Spares now e ↔ e.key ≠ key := by
  simp [Spares, touches, ne_comm]

theorem spares_get : (get key).Spares now e ↔ (e.key = key → e.isFresh now = true) := by
  simp [Spares, touches, @eq_comm _ key]

theorem spares_erase : (erase key).Spares now e ↔ e.key ≠ key := by
  simp [Spares, touches, ne_comm]

@[simp] theorem not_spares_clear : ¬clear.Spares now e := by
  simp [Spares, touches]

end Action

/-- The store after an action at a time. -/
def perform (lifetime : Binary64) (s : Store α) (now : Binary64) : Action α → Store α
  | .put key a own => s.put now (own.getD lifetime) key a
  | .get key => (s.get now key).2
  | .erase key => s.erase key
  | .clear => s.clear

/-- The store that a history leads to. -/
def ofHistory (lifetime : Binary64) (h : History α) : Store α :=
  h.foldl (fun s (now, action) => s.perform lifetime now action) empty

/-- The log has an entry: its key was not touched any more once it had been written. -/
def Logged (lifetime : Binary64) (h : History α) (e : StoreEntry α) : Prop :=
  ∃ front x behind, h = front ++ x :: behind ∧ x.2.Writes lifetime x.1 e ∧
    ∀ y ∈ behind, y.2.touches e.key = false

/-- An entry was written, and neither its key was touched nor it was found out of date since. -/
def Kept (lifetime : Binary64) (h : History α) (e : StoreEntry α) : Prop :=
  ∃ front x behind, h = front ++ x :: behind ∧ x.2.Writes lifetime x.1 e ∧
    ∀ y ∈ behind, y.2.Spares y.1 e

variable {s : Store α} {h : History α} {e : StoreEntry α} {lifetime now : Binary64} {key : String}

theorem ofHistory_concat (lifetime : Binary64) (h : History α) (now : Binary64)
    (action : Action α) :
    ofHistory lifetime (h ++ [(now, action)]) =
      (ofHistory lifetime h).perform lifetime now action := by
  simp [ofHistory]

/-! ### What one action does -/

/-- No two entries of a store have one key. -/
def Distinct (s : Store α) : Prop := (s.entries.map StoreEntry.key).Nodup

theorem Distinct.eq (hs : s.Distinct) {e' : StoreEntry α} (he : e ∈ s.entries)
    (he' : e' ∈ s.entries) (hkey : e.key = e'.key) : e = e' :=
  List.inj_on_of_nodup_map hs he he' hkey

theorem mem_erase : e ∈ (s.erase key).entries ↔ e ∈ s.entries ∧ e.key ≠ key := by
  simp [erase]

theorem mem_put {a : α} : e ∈ (s.put now lifetime key a).entries ↔
    e = ⟨key, a, now, lifetime⟩ ∨ e ∈ s.entries ∧ e.key ≠ key := by
  simp [put, mem_erase]

theorem Distinct.erase (hs : s.Distinct) (key : String) : (s.erase key).Distinct :=
  hs.sublist (List.filter_sublist.map _)

theorem Distinct.put (hs : s.Distinct) (now lifetime : Binary64) (key : String) (a : α) :
    (s.put now lifetime key a).Distinct := by
  apply List.nodup_cons.2
  constructor
  · simp [Store.erase]
  · exact hs.erase key

theorem find?_eq_some_iff (hs : s.Distinct) :
    s.find? key = some e ↔ e ∈ s.entries ∧ e.key = key := by
  constructor
  · intro hfind
    exact ⟨List.mem_of_find?_eq_some hfind, key_of_find? hfind⟩
  · rintro ⟨he, rfl⟩
    cases hfind : s.find? e.key with
    | none =>
      have hne := List.find?_eq_none.1 hfind e he
      simp at hne
    | some e' =>
      rw [hs.eq (List.mem_of_find?_eq_some hfind) he (key_of_find? hfind)]

/-- What is found is the value of an entry that is up to date. -/
theorem get_eq_some_iff (hs : s.Distinct) {a : α} : (s.get now key).1 = some a ↔
    ∃ e ∈ s.entries, e.key = key ∧ e.isFresh now = true ∧ e.value = a := by
  unfold get
  constructor
  · intro hget
    cases hfind : s.find? key with
    | none => simp [hfind] at hget
    | some e =>
      obtain ⟨he, hkey⟩ := (find?_eq_some_iff hs).1 hfind
      by_cases hfresh : e.isFresh now = true
      · exact ⟨e, he, hkey, hfresh, by simpa [hfind, hfresh] using hget⟩
      · simp [hfind, hfresh] at hget
  · rintro ⟨e, he, hkey, hfresh, rfl⟩
    simp [(find?_eq_some_iff hs).2 ⟨he, hkey⟩, hfresh]

/-- Asking for a key drops what is out of date under it. -/
theorem mem_get (hs : s.Distinct) : e ∈ (s.get now key).2.entries ↔
    e ∈ s.entries ∧ (e.key = key → e.isFresh now = true) := by
  unfold get
  cases hfind : s.find? key with
  | none =>
    have hnone : ∀ e ∈ s.entries, e.key ≠ key := by simpa [find?] using hfind
    exact ⟨fun he ↦ ⟨he, fun hkey ↦ absurd hkey (hnone e he)⟩, And.left⟩
  | some e' =>
    obtain ⟨he', hkey'⟩ := (find?_eq_some_iff hs).1 hfind
    have hsame (he : e ∈ s.entries) (hkey : e.key = key) : e = e' :=
      hs.eq he he' (hkey.trans hkey'.symm)
    by_cases hfresh : e'.isFresh now = true
    · simp only [hfresh, if_true]
      exact ⟨fun he ↦ ⟨he, fun hkey ↦ hsame he hkey ▸ hfresh⟩, And.left⟩
    · simp only [hfresh, if_false, Bool.false_eq_true, mem_erase]
      refine and_congr_right fun he ↦ ⟨fun hne hkey ↦ absurd hkey hne, fun hspared hkey ↦ ?_⟩
      exact hfresh (hsame he hkey ▸ hspared hkey)

theorem Distinct.perform (hs : s.Distinct) (lifetime now : Binary64) (action : Action α) :
    (s.perform lifetime now action).Distinct := by
  cases action with
  | put key a own => exact hs.put _ _ _ _
  | erase key => exact hs.erase key
  | clear => exact List.nodup_nil
  | get key =>
    change (s.get now key).2.Distinct
    unfold get
    split
    · exact hs
    · split
      · exact hs
      · exact hs.erase key

/-- After an action a store has the entry that is written, and those that are spared. -/
theorem mem_perform (hs : s.Distinct) (action : Action α) :
    e ∈ (s.perform lifetime now action).entries ↔
      action.Writes lifetime now e ∨ e ∈ s.entries ∧ action.Spares now e := by
  cases action with
  | put key a own =>
    rw [Action.writes_put, Action.spares_put]
    exact mem_put
  | get key =>
    rw [Action.spares_get, or_iff_right Action.not_writes_get]
    exact mem_get hs
  | erase key =>
    rw [Action.spares_erase, or_iff_right Action.not_writes_erase]
    exact mem_erase
  | clear => simp [perform, Store.clear, empty]

/-! ### What a history leads to -/

/-- An entry that came about and was left alone since came about at last, or before and was left
alone at last. -/
theorem exists_split_concat {β : Type} {P Q : β → Prop} {l : List β} {b : β} :
    (∃ front x behind, l ++ [b] = front ++ x :: behind ∧ P x ∧ ∀ y ∈ behind, Q y) ↔
      P b ∨ (∃ front x behind, l = front ++ x :: behind ∧ P x ∧ ∀ y ∈ behind, Q y) ∧ Q b := by
  constructor
  · rintro ⟨front, x, behind, hsplit, hx, hbehind⟩
    rcases List.eq_nil_or_concat' behind with rfl | ⟨behind, y, rfl⟩
    · left
      rw [(List.append_singleton_inj.1 hsplit).2]
      exact hx
    · right
      rw [← List.cons_append, ← List.append_assoc] at hsplit
      obtain ⟨rfl, rfl⟩ := List.append_singleton_inj.1 hsplit
      rw [List.forall_mem_append, List.forall_mem_singleton] at hbehind
      exact ⟨⟨front, x, behind, rfl, hx, hbehind.1⟩, hbehind.2⟩
  · rintro (hb | ⟨⟨front, x, behind, rfl, hx, hbehind⟩, hb⟩)
    · exact ⟨l, b, [], rfl, hb, List.forall_mem_nil _⟩
    · refine ⟨front, x, behind ++ [b], by simp, hx, ?_⟩
      rw [List.forall_mem_append, List.forall_mem_singleton]
      exact ⟨hbehind, hb⟩

theorem kept_concat {x : Binary64 × Action α} : Kept lifetime (h ++ [x]) e ↔
    x.2.Writes lifetime x.1 e ∨ Kept lifetime h e ∧ x.2.Spares x.1 e :=
  exists_split_concat

theorem logged_concat {x : Binary64 × Action α} : Logged lifetime (h ++ [x]) e ↔
    x.2.Writes lifetime x.1 e ∨ Logged lifetime h e ∧ x.2.touches e.key = false :=
  exists_split_concat

theorem distinct_ofHistory (lifetime : Binary64) (h : History α) :
    (ofHistory lifetime h).Distinct := by
  induction h using List.reverseRecOn with
  | nil => exact List.nodup_nil
  | append_singleton h x ih =>
    rw [ofHistory_concat]
    exact ih.perform _ _ _

/-- The entries of a store are those that its history has written and kept. -/
theorem mem_ofHistory : e ∈ (ofHistory lifetime h).entries ↔ Kept lifetime h e := by
  -- induction from the last action back: an entry comes and goes by one law on both sides
  induction h using List.reverseRecOn with
  | nil => simp [ofHistory, empty, Kept]
  | append_singleton h x ih =>
    rw [ofHistory_concat, mem_perform (distinct_ofHistory lifetime h), ih]
    exact kept_concat.symm

/-! ### Reading -/

theorem isFresh_of_atMost {before : Binary64} (hfresh : e.isFresh now = true)
    (htime : before.atMost now = true) : e.isFresh before = true :=
  Binary64.atMost_trans htime hfresh

/-- While the clock does not go back, an entry of the log that is up to date has been kept. -/
theorem kept_iff_logged (hclock : ∀ x ∈ h, x.1.atMost now = true)
    (hfresh : e.isFresh now = true) : Kept lifetime h e ↔ Logged lifetime h e := by
  constructor
  · rintro ⟨front, x, behind, hsplit, hwrites, hspares⟩
    exact ⟨front, x, behind, hsplit, hwrites, fun y hy ↦ (hspares y hy).1⟩
  · rintro ⟨front, x, behind, rfl, hwrites, hbehind⟩
    refine ⟨front, x, behind, rfl, hwrites, fun y hy ↦ ⟨hbehind y hy, fun _ ↦ ?_⟩⟩
    exact isFresh_of_atMost hfresh (hclock y (by simp [hy]))

/-- While the clock does not go back, a store is read as the log is. -/
theorem get_ofHistory (hclock : ∀ x ∈ h, x.1.atMost now = true) {a : α} :
    ((ofHistory lifetime h).get now key).1 = some a ↔
      ∃ e, Logged lifetime h e ∧ e.key = key ∧ e.isFresh now = true ∧ e.value = a := by
  rw [get_eq_some_iff (distinct_ofHistory lifetime h)]
  apply exists_congr
  intro e
  rw [mem_ofHistory]
  constructor
  · rintro ⟨hkept, hkey, hfresh, ha⟩
    exact ⟨(kept_iff_logged hclock hfresh).1 hkept, hkey, hfresh, ha⟩
  · rintro ⟨hlogged, hkey, hfresh, ha⟩
    exact ⟨(kept_iff_logged hclock hfresh).2 hlogged, hkey, hfresh, ha⟩

theorem touches_of_writes {action : Action α} (hwrites : action.Writes lifetime now e) :
    action.touches e.key = true := by
  obtain ⟨own, rfl, -⟩ := hwrites
  simp [Action.touches]

/-- What does not touch the key of an entry can be left out of the log. -/
theorem logged_filter {keep : Binary64 × Action α → Bool}
    (hkeep : ∀ x, x.2.touches e.key = true → keep x = true) :
    Logged lifetime (h.filter keep) e ↔ Logged lifetime h e := by
  induction h using List.reverseRecOn with
  | nil => rfl
  | append_singleton h x ih =>
    rw [List.filter_append, List.filter_singleton]
    cases hx : keep x with
    | true =>
      rw [Bool.cond_true, logged_concat, logged_concat, ih]
    | false =>
      have htouches : x.2.touches e.key = false := by
        by_contra h
        simp [hkeep x (by simpa using h)] at hx
      have hwrites : ¬x.2.Writes lifetime x.1 e := by
        intro h
        simp [touches_of_writes h] at htouches
      rw [Bool.cond_false, List.append_nil, ih, logged_concat]
      simp [hwrites, htouches]

/-- What does not touch a key can be left out of a history, as far as that key is read. -/
theorem get_ofHistory_filter (hclock : ∀ x ∈ h, x.1.atMost now = true)
    {keep : Binary64 × Action α → Bool} (hkeep : ∀ x, x.2.touches key = true → keep x = true) :
    ((ofHistory lifetime (h.filter keep)).get now key).1 =
      ((ofHistory lifetime h).get now key).1 := by
  apply Option.ext
  intro a
  rw [get_ofHistory fun x hx ↦ hclock x (List.mem_of_mem_filter hx), get_ofHistory hclock]
  apply exists_congr
  intro e
  rw [and_congr_left]
  rintro ⟨rfl, -⟩
  exact logged_filter hkeep

/-! ### The answers of a store -/

/-- The last action that touched a key put a value under it; `behind` is what was done since. -/
def LastPut (h : History α) (key : String) (a : α) (time : Binary64) (own : Option Binary64)
    (behind : History α) : Prop :=
  ∃ front, h = front ++ (time, .put key a own) :: behind ∧ ∀ x ∈ behind, x.2.touches key = false

theorem exists_logged_iff {a : α} :
    (∃ e, Logged lifetime h e ∧ e.key = key ∧ e.isFresh now = true ∧ e.value = a) ↔
      ∃ time own behind, LastPut h key a time own behind ∧
        now.atMost (time.add (own.getD lifetime)) = true := by
  constructor
  · rintro ⟨e, ⟨front, ⟨time, action⟩, behind, rfl, ⟨own, hput, htime, hlife⟩, hbehind⟩, rfl,
      hfresh, rfl⟩
    cases hput
    refine ⟨time, own, behind, ⟨front, rfl, hbehind⟩, ?_⟩
    rwa [StoreEntry.isFresh, htime, hlife] at hfresh
  · rintro ⟨time, own, behind, ⟨front, rfl, hbehind⟩, hfresh⟩
    exact ⟨⟨key, a, time, own.getD lifetime⟩,
      ⟨front, (time, .put key a own), behind, rfl, Action.writes_put.2 rfl, hbehind⟩, rfl, hfresh,
      rfl⟩

theorem exists_kept_iff : (∃ e, Kept lifetime h e ∧ e.key = key) ↔
    ∃ a time own behind, LastPut h key a time own behind ∧
      ∀ x ∈ behind, x.2 = .get key → x.1.atMost (time.add (own.getD lifetime)) = true := by
  constructor
  · rintro ⟨e, ⟨front, ⟨time, action⟩, behind, rfl, ⟨own, hput, htime, hlife⟩, hbehind⟩, rfl⟩
    cases hput
    refine ⟨e.value, time, own, behind, ⟨front, rfl, fun x hx ↦ (hbehind x hx).1⟩, ?_⟩
    intro x hx hget
    have hfresh := (hbehind x hx).2 hget
    rwa [StoreEntry.isFresh, htime, hlife] at hfresh
  · rintro ⟨a, time, own, behind, ⟨front, rfl, hbehind⟩, hfresh⟩
    refine ⟨⟨key, a, time, own.getD lifetime⟩,
      ⟨front, (time, .put key a own), behind, rfl, Action.writes_put.2 rfl, ?_⟩, rfl⟩
    intro x hx
    exact ⟨hbehind x hx, hfresh x hx⟩

/-- The keys of a store are those of the entries that its history has kept. -/
theorem mem_keys_ofHistory :
    key ∈ (ofHistory lifetime h).entries.map StoreEntry.key ↔
      ∃ e, Kept lifetime h e ∧ e.key = key := by
  rw [List.mem_map]
  apply exists_congr
  intro e
  rw [mem_ofHistory]

instance : Trans (fun t t' : Binary64 ↦ t.atMost t' = true) (fun t t' ↦ t.atMost t' = true)
    (fun t t' ↦ t.atMost t' = true) where
  trans := Binary64.atMost_trans

/-- The readings of the clock do not go back during a history, nor from there to a time. -/
def Forward (h : History α) (now : Binary64) : Prop :=
  (h.map Prod.fst ++ [now]).IsChain fun t t' ↦ t.atMost t' = true

instance (h : History α) (now : Binary64) : Decidable (Forward h now) :=
  inferInstanceAs (Decidable (List.IsChain _ _))

theorem Forward.atMost (hclock : Forward h now) : ∀ x ∈ h, x.1.atMost now = true := by
  intro x hx
  have hpairwise := (List.pairwise_append.1 (List.IsChain.pairwise hclock)).2.2
  exact hpairwise x.1 (List.mem_map_of_mem hx) now (List.mem_singleton_self now)

/-- A store on which any actions are performed, while the clock does not go back, answers as a plain
log of them: there is what was last put under a key, if it was neither erased nor cleared away since
and if the clock is not past its lifetime. So it does not matter that what is out of date is dropped
when it is asked for, nor what is done with other keys. Its size is the number of keys that were put
since they were erased, cleared away or found out of date. -/
theorem answers_as_log {h : History α} {now : Binary64} (hclock : Forward h now)
    (lifetime : Binary64) :
    (∀ key a, ((ofHistory lifetime h).get now key).1 = some a ↔
      ∃ time own behind, LastPut h key a time own behind ∧
        now.atMost (time.add (own.getD lifetime)) = true) ∧
    (∀ key, ((ofHistory lifetime (h.filter fun x => !x.2.isGet)).get now key).1 =
      ((ofHistory lifetime h).get now key).1) ∧
    (∀ key, ((ofHistory lifetime (h.filter fun x => x.2.concerns key)).get now key).1 =
      ((ofHistory lifetime h).get now key).1) ∧
    ∃ keys : List String, keys.Nodup ∧ (ofHistory lifetime h).size = keys.length ∧
      ∀ key, key ∈ keys ↔ ∃ a time own behind, LastPut h key a time own behind ∧
        ∀ x ∈ behind, x.2 = .get key → x.1.atMost (time.add (own.getD lifetime)) = true := by
  have htimes := hclock.atMost
  refine ⟨?_, ?_, ?_, ?_⟩
  · intro key a
    rw [get_ofHistory htimes, exists_logged_iff]
  · intro key
    apply get_ofHistory_filter htimes
    rintro ⟨time, action⟩ htouches
    cases action with
    | get other => cases htouches
    | put | erase | clear => rfl
  · intro key
    apply get_ofHistory_filter htimes
    rintro ⟨time, action⟩ htouches
    cases action with
    | get other => cases htouches
    | put | erase | clear => exact htouches
  · refine ⟨(ofHistory lifetime h).entries.map StoreEntry.key, distinct_ofHistory lifetime h,
      ?_, ?_⟩
    · rw [size, List.length_map]
    · intro key
      rw [mem_keys_ofHistory, exists_kept_iff]

/-- A value that is out of date when it is asked for, and another one that is put twice. -/
def shortHistory : History Nat :=
  [(.ofInt 1000, .put "a" 1 none), (.ofInt 1000, .put "b" 2 (some (.ofInt 60))),
    (.ofInt 1011, .get "a"), (.ofInt 1020, .put "b" 3 none), (.ofInt 1025, .get "b")]

/-- The second value of the second key is there; the first key is gone. -/
theorem shortHistory_answers : Forward shortHistory (.ofInt 1030) ∧
    ((ofHistory (.ofInt 10) shortHistory).get (.ofInt 1030) "b").1 = some 3 ∧
    ((ofHistory (.ofInt 10) shortHistory).get (.ofInt 1030) "a").1 = none ∧
    (ofHistory (.ofInt 10) shortHistory).size = 1 := by
  have hclock : Forward shortHistory (.ofInt 1030) := by decide +kernel
  obtain ⟨hget, -⟩ := answers_as_log hclock (.ofInt 10)
  refine ⟨hclock, ?_, by decide +kernel, by decide +kernel⟩
  apply (hget "b" 3).2
  refine ⟨.ofInt 1020, none, [(.ofInt 1025, .get "b")], ⟨shortHistory.take 3, rfl, ?_⟩, ?_⟩
  · simp [Action.touches]
  · decide +kernel

end OutlineSearch.Store
