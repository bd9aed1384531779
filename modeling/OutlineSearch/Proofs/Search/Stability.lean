import OutlineSearch.Proofs.Number.Comparing
import OutlineSearch.Proofs.Search.Quoting

/-!
# Records in order

Records whose times are finite or cannot be read are sorted by any key in either order: each is kept
with its score and nothing else changed, the ranks go up or down, and records of equal rank stay as
they stood. A record without a time is the first of an ascending list and the last of a descending
one.

The order of ranks is an order only among ranks of one kind that are numbers, so the laws of a
stable sort are stated here for an order of the members of the list.
-/

namespace OutlineSearch

open OutlineSearch.Text

/-! ### An order of the members of a list -/

section

variable {α : Type} {le : α → α → Bool} {l : List α}

theorem mergeSort_attach (l : List α) (le : α → α → Bool) :
    l.mergeSort le = (l.attach.mergeSort fun a b ↦ le a.1 b.1).map Subtype.val := by
  rw [List.map_mergeSort (s := le) fun _ _ _ _ ↦ rfl, List.attach_map_subtype_val]

variable (htrans : ∀ a ∈ l, ∀ b ∈ l, ∀ c ∈ l, le a b = true → le b c = true → le a c = true)
  (htotal : ∀ a ∈ l, ∀ b ∈ l, (le a b || le b a) = true)

include htrans htotal

theorem pairwise_mergeSort_of_mem : (l.mergeSort le).Pairwise fun a b ↦ le a b = true := by
  rw [mergeSort_attach, List.pairwise_map]
  exact List.pairwise_mergeSort (fun a b c ↦ htrans a.1 a.2 b.1 b.2 c.1 c.2)
    (fun a b ↦ htotal a.1 a.2 b.1 b.2) _

theorem sublist_mergeSort_of_mem {ys : List α} (hys : ys.Pairwise fun a b ↦ le a b = true)
    (hsub : ys.Sublist l) : ys.Sublist (l.mergeSort le) := by
  rw [← List.attach_map_subtype_val l, List.sublist_map_iff] at hsub
  obtain ⟨zs, hzs, rfl⟩ := hsub
  rw [mergeSort_attach]
  have hzs' : zs.Pairwise fun a b ↦ le a.1 b.1 = true := List.pairwise_map.1 hys
  exact (List.sublist_mergeSort (fun a b c ↦ htrans a.1 a.2 b.1 b.2 c.1 c.2)
    (fun a b ↦ htotal a.1 a.2 b.1 b.2) hzs' hzs).map _

/-- Members that may stand on either side of each other stay as they stood. -/
theorem filter_mergeSort_of_mem {p : α → Bool}
    (hp : ∀ a ∈ l, ∀ b ∈ l, p a = true → p b = true → le a b = true) :
    (l.mergeSort le).filter p = l.filter p := by
  have hpairwise : (l.filter p).Pairwise fun a b ↦ le a b = true :=
    List.pairwise_of_forall_mem_list fun a ha b hb ↦
      hp a (List.mem_of_mem_filter ha) b (List.mem_of_mem_filter hb)
        (List.of_mem_filter ha) (List.of_mem_filter hb)
  have hsub := (sublist_mergeSort_of_mem htrans htotal hpairwise List.filter_sublist).filter p
  rw [List.filter_filter] at hsub
  simp only [Bool.and_self] at hsub
  exact (hsub.eq_of_length ((List.mergeSort_perm l le).filter p).length_eq.symm).symm

end

/-! ### The order of ranks -/

/-- The ranks that records have under a key. -/
def SortKey.Gives : SortKey → Rank → Prop
  | .title, i | .pageTitle, i => ∃ s, i = .text s
  | .length, i => ∃ n, i = .count n
  | _, i => ∃ x, x ≠ .nan ∧ i = .number x

namespace Rank

/-- Whether one rank is at most another of the same kind. -/
def atMost : Rank → Rank → Bool
  | text s, text t => s ≤ t
  | count m, count n => m ≤ n
  | number x, number y => x.atMost y
  | _, _ => false

/-- Whether two ranks are equal: each is at most the other. -/
def equals (i j : Rank) : Bool := i.atMost j && j.atMost i

variable {key : SortKey} {i j k : Rank}

theorem atMost_trans (hi : key.Gives i) (hj : key.Gives j) (hk : key.Gives k)
    (hij : i.atMost j = true) (hjk : j.atMost k = true) : i.atMost k = true := by
  cases key with
  | title | pageTitle =>
    obtain ⟨⟨s, rfl⟩, ⟨t, rfl⟩, ⟨u, rfl⟩⟩ : _ ∧ _ ∧ _ := ⟨hi, hj, hk⟩
    rw [atMost, decide_eq_true_iff] at *
    exact String.le_trans hij hjk
  | length =>
    obtain ⟨⟨m, rfl⟩, ⟨n, rfl⟩, ⟨o, rfl⟩⟩ : _ ∧ _ ∧ _ := ⟨hi, hj, hk⟩
    rw [atMost, decide_eq_true_iff] at *
    exact Nat.le_trans hij hjk
  | relevance | created | updated | deadline | scheduled =>
    obtain ⟨⟨x, hx, rfl⟩, ⟨y, hy, rfl⟩, ⟨z, hz, rfl⟩⟩ : _ ∧ _ ∧ _ := ⟨hi, hj, hk⟩
    rw [atMost, Binary64.atMost_iff ‹_› ‹_›] at *
    exact hij.trans hjk

/-- Of two ranks under one key, one is not before the other exactly if the other is at most it. -/
theorem not_less_eq (hi : key.Gives i) (hj : key.Gives j) : (!i.less j) = j.atMost i := by
  rw [Bool.eq_iff_iff]
  cases key with
  | title | pageTitle =>
    obtain ⟨⟨s, rfl⟩, ⟨t, rfl⟩⟩ := And.intro hi hj
    rw [less, atMost, Bool.not_eq_true', decide_eq_false_iff_not, decide_eq_true_iff, String.not_lt]
  | length =>
    obtain ⟨⟨m, rfl⟩, ⟨n, rfl⟩⟩ := And.intro hi hj
    rw [less, atMost, Bool.not_eq_true', decide_eq_false_iff_not, decide_eq_true_iff, Nat.not_lt]
  | relevance | created | updated | deadline | scheduled =>
    obtain ⟨⟨x, hx, rfl⟩, ⟨y, hy, rfl⟩⟩ := And.intro hi hj
    exact Binary64.not_less_iff hx hy

theorem atMost_total (hi : key.Gives i) (hj : key.Gives j) : (i.atMost j || j.atMost i) = true := by
  cases key with
  | title | pageTitle =>
    obtain ⟨⟨s, rfl⟩, ⟨t, rfl⟩⟩ := And.intro hi hj
    rw [Bool.or_eq_true, atMost, atMost, decide_eq_true_iff, decide_eq_true_iff]
    exact String.le_total s t
  | length =>
    obtain ⟨⟨m, rfl⟩, ⟨n, rfl⟩⟩ := And.intro hi hj
    rw [Bool.or_eq_true, atMost, atMost, decide_eq_true_iff, decide_eq_true_iff]
    exact Nat.le_total m n
  | relevance | created | updated | deadline | scheduled =>
    obtain ⟨⟨x, hx, rfl⟩, ⟨y, hy, rfl⟩⟩ := And.intro hi hj
    rw [Bool.or_eq_true, atMost, atMost, Binary64.atMost_iff hx hy, Binary64.atMost_iff hy hx]
    exact le_total _ _

/-- What is equal to a rank of a key is a rank of that key. -/
theorem gives_of_equals (hi : key.Gives i) (h : i.equals k = true) : key.Gives k := by
  rw [equals, Bool.and_eq_true] at h
  cases key with
  | title | pageTitle =>
    obtain ⟨s, rfl⟩ := hi
    cases k with
    | text t => exact ⟨t, rfl⟩
    | count | number => cases h.1
  | length =>
    obtain ⟨m, rfl⟩ := hi
    cases k with
    | count n => exact ⟨n, rfl⟩
    | text | number => cases h.1
  | relevance | created | updated | deadline | scheduled =>
    obtain ⟨x, hx, rfl⟩ := hi
    cases k with
    | number y =>
      refine ⟨y, ?_, rfl⟩
      rintro rfl
      cases h.2
    | text | count => cases h.1

end Rank

/-- Whether a rank may stand in front of another: an ascending order never goes down, and a
descending one never goes up. -/
def SortOrder.allows : SortOrder → Rank → Rank → Bool
  | .ascending, i, j => i.atMost j
  | .descending, i, j => j.atMost i

namespace SortOrder

variable {key : SortKey} {order : SortOrder} {i j k : Rank}

theorem allows_trans (hi : key.Gives i) (hj : key.Gives j) (hk : key.Gives k)
    (hij : order.allows i j = true) (hjk : order.allows j k = true) :
    order.allows i k = true := by
  cases order with
  | ascending => exact Rank.atMost_trans hi hj hk hij hjk
  | descending => exact Rank.atMost_trans hk hj hi hjk hij

theorem allows_total (hi : key.Gives i) (hj : key.Gives j) :
    (order.allows i j || order.allows j i) = true := by
  cases order with
  | ascending => exact Rank.atMost_total hi hj
  | descending => exact Rank.atMost_total hj hi

/-- Two ranks that are equal to a third may stand on either side of each other. -/
theorem allows_of_equals (hi : key.Gives i) (hj : key.Gives j) (hk : key.Gives k)
    (hik : i.equals k = true) (hjk : j.equals k = true) : order.allows i j = true := by
  rw [Rank.equals, Bool.and_eq_true] at hik hjk
  cases order with
  | ascending => exact Rank.atMost_trans hi hk hj hik.1 hjk.2
  | descending => exact Rank.atMost_trans hj hk hi hjk.1 hik.2

end SortOrder

namespace Record

/-- The value that a record has for the time of a key; other keys have none. -/
def timeValue? (r : Record) : SortKey → Option Value
  | .created => some (Stamp.valueOf r.created)
  | .updated => some (Stamp.valueOf r.updated)
  | .deadline => some r.deadlineValue
  | .scheduled => some r.scheduledValue
  | _ => none

/-- The time of a key can be read. -/
def Dated (key : SortKey) (r : Record) : Prop :=
  ∃ v x, r.timeValue? key = some v ∧ Spelling.millis v = .ok (some x)

/-- A record has no time for a key of times: the value is missing or cannot be read. -/
def Undated (key : SortKey) (r : Record) : Prop :=
  ∃ v, r.timeValue? key = some v ∧ Spelling.millis v = .ok none

/-- All times of a record are finite, missing or cannot be read. -/
def Legible (r : Record) : Prop :=
  ∀ key v, r.timeValue? key = some v →
    Spelling.millis v = .ok none ∨ ∃ x, Spelling.millis v = .ok (some x) ∧ x.isFinite = true

/-- The times of a record can be read one by one. -/
theorem legible_iff (r : Record) : r.Legible ↔
    [Stamp.valueOf r.created, Stamp.valueOf r.updated, r.deadlineValue, r.scheduledValue].all
      (fun v ↦ (Spelling.millis v).toOption.any fun x ↦ x.all Binary64.isFinite) = true := by
  have hvalue (v : Value) :
      ((Spelling.millis v).toOption.any fun x ↦ x.all Binary64.isFinite) = true ↔
        Spelling.millis v = .ok none ∨
          ∃ x, Spelling.millis v = .ok (some x) ∧ x.isFinite = true := by
    rcases Spelling.millis v with _ | _ | x <;> simp [Except.toOption]
  simp only [List.all_cons, List.all_nil, Bool.and_eq_true, hvalue, and_true]
  constructor
  · exact fun h ↦ ⟨h .created _ rfl, h .updated _ rfl, h .deadline _ rfl, h .scheduled _ rfl⟩
  · rintro ⟨hcreated, hupdated, hdeadline, hscheduled⟩ key v hv
    cases key with
    | relevance | title | pageTitle | length => cases hv
    | created | updated | deadline | scheduled =>
      cases hv
      assumption

instance (r : Record) : Decidable r.Legible := decidable_of_iff _ (legible_iff r).symm

/-- Whether a record has a rank that is equal to a given one. -/
def ranksAt (key : SortKey) (k : Rank) (r : Record) : Bool :=
  match r.rank key with
  | .ok i => i.equals k
  | .error _ => false

/-- Two records have ranks, and the first may stand in front of the second. -/
def MayPrecede (key : SortKey) (order : SortOrder) (a b : Record) : Prop :=
  ∃ i j, a.rank key = .ok i ∧ b.rank key = .ok j ∧ order.allows i j = true

/-- The records are sorted by a key for a query, those of equal rank as they stood. -/
structure Arranged (query : String) (key : SortKey) (order : SortOrder)
    (records arranged : List Record) : Prop where
  perm : arranged.Perm
    (records.map fun r ↦ { r with score := Search.score r.rankingText query })
  ordered : arranged.Pairwise (MayPrecede key order)
  stable : ∀ k, arranged.filter (ranksAt key k) =
    (records.map (scored query)).filter (ranksAt key k)
  undatedFirst : order = .ascending → arranged.Pairwise fun a b ↦ ¬(a.Dated key ∧ b.Undated key)
  undatedLast : order = .descending → arranged.Pairwise fun a b ↦ ¬(a.Undated key ∧ b.Dated key)

/-! ### The ranks of records -/

variable {key : SortKey} {order : SortOrder} {query : String} {r : Record}

theorem rank_of_timeValue? {v : Value} (h : r.timeValue? key = some v) :
    r.rank key = timeRank v := by
  cases key with
  | relevance | title | pageTitle | length => cases h
  | created | updated | deadline | scheduled =>
    cases h
    rfl

/-- The score of a record has no part in its times. -/
theorem timeValue?_withScore (r : Record) (score : Binary64) (key : SortKey) :
    timeValue? { r with score := score } key = r.timeValue? key := by
  cases key <;> rfl

theorem Legible.scored (h : r.Legible) (query : String) : (r.scored query).Legible := by
  intro key v hv
  rw [Record.scored, timeValue?_withScore] at hv
  exact h key v hv

theorem score_scored_ne_nan (query : String) (r : Record) : (r.scored query).score ≠ .nan := by
  rw [Record.scored]
  dsimp only
  rw [Search.score]
  exact Binary64.ofInt_ne_nan _

theorem Undated.rank_eq (h : r.Undated key) : r.rank key = .ok (.number (.infinite true)) := by
  obtain ⟨v, hv, hmillis⟩ := h
  rw [rank_of_timeValue? hv, timeRank, hmillis]
  rfl

/-- The rank of a record with a time is above the rank of one without. -/
theorem Dated.rank_eq (h : r.Dated key) (hr : r.Legible) :
    ∃ x, r.rank key = .ok (.number x) ∧ x.isFinite = true := by
  obtain ⟨v, x, hv, hmillis⟩ := h
  obtain hnone | ⟨y, hsome, hfinite⟩ := hr key v hv
  · cases hmillis.symm.trans hnone
  · rw [rank_of_timeValue? hv, timeRank, hsome]
    exact ⟨y, rfl, hfinite⟩

theorem dated_or_undated (hr : r.Legible) {v : Value} (hv : r.timeValue? key = some v) :
    r.Dated key ∨ r.Undated key := by
  obtain hnone | ⟨x, hsome, -⟩ := hr key v hv
  · exact .inr ⟨v, hv, hnone⟩
  · exact .inl ⟨v, x, hv, hsome⟩

theorem exists_rank_ne_nan (hr : r.Legible) {v : Value} (hv : r.timeValue? key = some v) :
    ∃ x, r.rank key = .ok (.number x) ∧ x ≠ .nan := by
  obtain hdated | hundated := dated_or_undated hr hv
  · obtain ⟨x, hx, hfinite⟩ := hdated.rank_eq hr
    refine ⟨x, hx, ?_⟩
    rintro rfl
    cases hfinite
  · exact ⟨_, hundated.rank_eq, Binary64.noConfusion⟩

/-- A record whose times can be ranked has a rank under every key. -/
theorem exists_rank_gives (hr : r.Legible) (hscore : r.score ≠ .nan) (key : SortKey) :
    ∃ i, r.rank key = .ok i ∧ key.Gives i := by
  cases hv : r.timeValue? key with
  | none =>
    cases key with
    | relevance => exact ⟨_, rfl, _, hscore, rfl⟩
    | title | pageTitle | length => exact ⟨_, rfl, _, rfl⟩
    | created | updated | deadline | scheduled => cases hv
  | some v =>
    obtain ⟨x, hx, hne⟩ := exists_rank_ne_nan hr hv
    refine ⟨_, hx, ?_⟩
    cases key with
    | relevance | title | pageTitle | length => cases hv
    | created | updated | deadline | scheduled => exact ⟨x, hne, rfl⟩

/-! ### Sorting -/

theorem rank_of_mem_ranked {records : List Record} {pairs : List (Rank × Record)}
    (h : ranked key records = .ok pairs) : ∀ a ∈ pairs, a.2.rank key = .ok a.1 := by
  induction records generalizing pairs with
  | nil =>
    cases h
    simp
  | cons r rest ih =>
    rw [ranked] at h
    cases hk : r.rank key with
    | error fault =>
      rw [hk] at h
      cases h
    | ok k =>
      cases hmore : ranked key rest with
      | error fault =>
        rw [hk, hmore] at h
        cases h
      | ok more =>
        rw [hk, hmore] at h
        cases h
        exact List.forall_mem_cons.2 ⟨hk, ih hmore⟩

/-- Ranked records whose ranks a key gives are sorted as the ranks may stand. -/
theorem inOrder_eq_allows {a b : Rank × Record} (ha : key.Gives a.1) (hb : key.Gives b.1) :
    inOrder order a b = order.allows a.1 b.1 := by
  cases order with
  | ascending => exact Rank.not_less_eq hb ha
  | descending => exact Rank.not_less_eq ha hb

theorem inOrder_trans {pairs : List (Rank × Record)} (hgives : ∀ a ∈ pairs, key.Gives a.1) :
    ∀ a ∈ pairs, ∀ b ∈ pairs, ∀ c ∈ pairs, inOrder order a b = true →
      inOrder order b c = true → inOrder order a c = true := by
  intro a ha b hb c hc hab hbc
  rw [inOrder_eq_allows (hgives _ ‹_›) (hgives _ ‹_›)] at *
  exact SortOrder.allows_trans (hgives a ha) (hgives b hb) (hgives c hc) hab hbc

theorem inOrder_total {pairs : List (Rank × Record)} (hgives : ∀ a ∈ pairs, key.Gives a.1) :
    ∀ a ∈ pairs, ∀ b ∈ pairs, (inOrder order a b || inOrder order b a) = true := by
  intro a ha b hb
  rw [inOrder_eq_allows (hgives a ha) (hgives b hb), inOrder_eq_allows (hgives b hb) (hgives a ha)]
  exact SortOrder.allows_total (hgives a ha) (hgives b hb)

/-- Sorting ranked records leaves those of one rank as they stood. -/
theorem filter_mergeSort_inOrder {pairs : List (Rank × Record)}
    (hrank : ∀ a ∈ pairs, a.2.rank key = .ok a.1) (hgives : ∀ a ∈ pairs, key.Gives a.1) (k : Rank) :
    (pairs.mergeSort (inOrder order)).filter (fun a ↦ ranksAt key k a.2) =
      pairs.filter fun a ↦ ranksAt key k a.2 := by
  refine filter_mergeSort_of_mem (inOrder_trans hgives) (inOrder_total hgives) ?_
  intro a ha b hb hak hbk
  rw [ranksAt, hrank a ha] at hak
  rw [ranksAt, hrank b hb] at hbk
  rw [inOrder_eq_allows (hgives a ha) (hgives b hb)]
  exact SortOrder.allows_of_equals (hgives a ha) (hgives b hb)
    (Rank.gives_of_equals (hgives a ha) hak) hak hbk

/-- Sorting ranked records leaves none in front of one that it must not precede. -/
theorem pairwise_mergeSort_inOrder {pairs : List (Rank × Record)}
    (hrank : ∀ a ∈ pairs, a.2.rank key = .ok a.1) (hgives : ∀ a ∈ pairs, key.Gives a.1) :
    (pairs.mergeSort (inOrder order)).Pairwise fun a b ↦ MayPrecede key order a.2 b.2 := by
  refine (pairwise_mergeSort_of_mem (inOrder_trans hgives) (inOrder_total hgives)).imp_of_mem ?_
  intro a b ha hb hab
  rw [List.mem_mergeSort] at ha hb
  rw [inOrder_eq_allows (hgives a ha) (hgives b hb)] at hab
  exact ⟨a.1, b.1, hrank a ha, hrank b hb, hab⟩

/-- The rank of a record with a time is not at most that of a record without. -/
theorem not_atMost_of_dated {a b : Record} {i j : Rank} (ha : a.Legible) (hdated : a.Dated key)
    (hundated : b.Undated key) (hi : a.rank key = .ok i) (hj : b.rank key = .ok j) :
    i.atMost j = false := by
  obtain ⟨x, hx, hfinite⟩ := hdated.rank_eq ha
  cases hi.symm.trans hx
  cases hj.symm.trans hundated.rank_eq
  exact Binary64.atMost_infinite_true hfinite

theorem MayPrecede.not_dated_undated {a b : Record} (h : MayPrecede key .ascending a b)
    (ha : a.Legible) : ¬(a.Dated key ∧ b.Undated key) := by
  rintro ⟨hdated, hundated⟩
  obtain ⟨i, j, hi, hj, hij⟩ := h
  exact Bool.false_ne_true ((not_atMost_of_dated ha hdated hundated hi hj).symm.trans hij)

theorem MayPrecede.not_undated_dated {a b : Record} (h : MayPrecede key .descending a b)
    (hb : b.Legible) : ¬(a.Undated key ∧ b.Dated key) := by
  rintro ⟨hundated, hdated⟩
  obtain ⟨i, j, hi, hj, hij⟩ := h
  exact Bool.false_ne_true ((not_atMost_of_dated hb hdated hundated hj hi).symm.trans hij)

/-- Records that all have ranks of a key are ranked by it in their order. -/
theorem exists_ranked_gives {records : List Record}
    (h : ∀ r ∈ records, ∃ i, r.rank key = .ok i ∧ key.Gives i) :
    ∃ pairs, ranked key records = .ok pairs ∧ pairs.map (·.2) = records ∧
      (∀ a ∈ pairs, a.2.rank key = .ok a.1) ∧ ∀ a ∈ pairs, key.Gives a.1 := by
  obtain ⟨pairs, hpairs, heq⟩ := exists_ranked fun r hr ↦ (h r hr).imp fun _ ↦ And.left
  have hrank := rank_of_mem_ranked hpairs
  refine ⟨pairs, hpairs, heq, hrank, fun a ha ↦ ?_⟩
  obtain ⟨i, hi, hgives⟩ := h a.2 (heq ▸ List.mem_map_of_mem ha)
  cases hi.symm.trans (hrank a ha)
  exact hgives

/-- Records whose times are finite, missing or cannot be read are sorted by any key for any query:
each is kept with its score, their ranks go the way of the order, those of equal rank stay as they
stood, and those without a time are on the early side of those with one. -/
theorem exists_arranged (query : String) (key : SortKey) (order : SortOrder) (records : List Record)
    (h : ∀ r ∈ records, r.Legible) :
    ∃ arranged, sorted query key order records = .ok arranged ∧
      Arranged query key order records arranged := by
  have hlegible : ∀ r ∈ records.map (scored query), r.Legible :=
    List.forall_mem_map.2 fun r hr ↦ (h r hr).scored query
  obtain ⟨pairs, hpairs, heq, hrank, hgives⟩ :=
    exists_ranked_gives (List.forall_mem_map.2 fun r hr ↦
      exists_rank_gives ((h r hr).scored query) (score_scored_ne_nan query r) key)
  have hperm : ((pairs.mergeSort (inOrder order)).map (·.2)).Perm (records.map (scored query)) :=
    heq ▸ (List.mergeSort_perm pairs _).map _
  have hordered : ((pairs.mergeSort (inOrder order)).map (·.2)).Pairwise (MayPrecede key order) :=
    List.pairwise_map.2 (pairwise_mergeSort_inOrder hrank hgives)
  refine ⟨(pairs.mergeSort (inOrder order)).map (·.2), by rw [sorted, hpairs]; rfl, hperm, hordered,
    fun k ↦ ?_, ?_, ?_⟩
  · rw [← heq, List.filter_map, List.filter_map]
    exact congrArg _ (filter_mergeSort_inOrder hrank hgives k)
  · rintro rfl
    exact hordered.imp_of_mem fun ha _ hab ↦ hab.not_dated_undated (hlegible _ (hperm.subset ha))
  · rintro rfl
    exact hordered.imp_of_mem fun _ hb hab ↦ hab.not_undated_dated (hlegible _ (hperm.subset hb))

/-- A task that is due at a time, or at none. -/
def chore (id : String) (deadline : Option String) : Record :=
  { id := id, content := "buy milk", detail := .task "Chores" "TODO" none deadline }

/-- Tasks due at times in several spellings, two of them without a time. -/
def chores : List Record :=
  [chore "shop" (some "2024-05-01 Wed 10:30"), chore "call" none, chore "pay" (some "2024-04-30"),
    chore "tidy" (some "someday"), chore "mail" (some "1714559400000")]

/-- Tasks with and without a deadline are sorted by the deadline, the latest first. -/
theorem chores_arranged : (∀ r ∈ chores, r.Legible) ∧
    ∃ arranged, sorted "milk" .deadline .descending chores = .ok arranged ∧
      Arranged "milk" .deadline .descending chores arranged :=
  have h : ∀ r ∈ chores, r.Legible := by decide +kernel
  ⟨h, exists_arranged "milk" .deadline .descending chores h⟩

end Record

end OutlineSearch
