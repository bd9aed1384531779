import OutlineSearch.Search.Paging
import Mathlib.Tactic.Ring

/-!
# Pages of records

The pages of some records are numbered from zero. Together they hand the records out in order, each
of them once, and only the last one says that nothing follows.
-/

namespace OutlineSearch

namespace Search

variable {α : Type}

theorem itemsBefore_natCast (length place : Nat) : itemsBefore length place = min length place := by
  simp [itemsBefore]

theorem portion_natCast (start stop : Nat) (items : List α) :
    portion start stop items = (items.take stop).drop start := by
  rw [portion, itemsBefore_natCast, itemsBefore_natCast]
  have htake : items.take (min items.length stop) = items.take stop := by
    rw [List.take_eq_take_iff]
    omega
  rw [htake, List.drop_eq_drop_iff, List.length_take]
  omega

end Search

namespace SearchResult

open Search

variable {records : List Record} {limit : Nat}

/-- The page of some records with a number. -/
def nth (records : List Record) (limit i : Nat) : SearchResult :=
  ofRecords records (i * limit : Nat) limit

/-- The number of pages of so many records; there is always one. -/
def count (n limit : Nat) : Nat := max 1 ((n + limit - 1) / limit)

theorem one_le_count (n limit : Nat) : 1 ≤ count n limit := Nat.le_max_left ..

theorem add_one_lt_count_iff (hlimit : 0 < limit) {n i : Nat} :
    i + 1 < count n limit ↔ (i + 1) * limit < n := by
  have hmax : i + 1 < count n limit ↔ i + 2 ≤ (n + limit - 1) / limit := by
    unfold count
    omega
  rw [hmax, Nat.le_div_iff_mul_le hlimit, Nat.add_mul i 2, Nat.add_mul i 1]
  omega

/-- The place behind the page with a number. -/
theorem place_behind (limit i : Nat) :
    ((i * limit : Nat) : Int) + (limit : Int) = (((i + 1) * limit : Nat) : Int) := by
  push_cast
  ring

theorem results_nth (i : Nat) :
    (nth records limit i).results = (records.drop (i * limit)).take limit := by
  change portion _ _ records = _
  rw [place_behind, portion_natCast, List.drop_take, Nat.add_mul, Nat.one_mul,
    Nat.add_sub_cancel_left]

theorem hasMore_nth (i : Nat) :
    (nth records limit i).hasMore = true ↔ (i + 1) * limit < records.length := by
  simp only [nth, ofRecords, place_behind, decide_eq_true_eq]
  omega

theorem nextCursor_nth (i : Nat) :
    (nth records limit i).nextCursor =
      if (i + 1) * limit < records.length then some (toString (((i + 1) * limit : Nat) : Int))
      else none := by
  simp only [nth, ofRecords, place_behind, decide_eq_true_eq, Nat.cast_lt]

theorem nextCursor_nth_eq_some {i : Nat} {cursor : String}
    (h : (nth records limit i).nextCursor = some cursor) :
    (i + 1) * limit < records.length ∧ cursor = toString (((i + 1) * limit : Nat) : Int) := by
  rw [nextCursor_nth] at h
  split at h
  · next hmore => exact ⟨hmore, (Option.some.inj h).symm⟩
  · cases h

/-- The first pages together are the first records. -/
theorem flatMap_results (m : Nat) :
    ((List.range m).map (nth records limit)).flatMap results = records.take (m * limit) := by
  induction m with
  | zero => simp
  | succ m ih =>
    rw [List.range_succ, List.map_append, List.flatMap_append, ih, Nat.add_mul, Nat.one_mul,
      List.take_add]
    simp [results_nth]

/-- Pages hand out records: there are as many as need be, each tells how many records there are and
holds at most as many as the limit allows, all but the last one tell that more follow and where, and
together they are the records in order. -/
structure HandOut (records : List Record) (limit : Nat) (pages : List SearchResult) : Prop where
  length : pages.length = max 1 ((records.length + limit - 1) / limit)
  total : ∀ p ∈ pages, p.totalFound = records.length
  size : ∀ p ∈ pages, p.results.length ≤ limit
  hasMore : ∀ (i : Nat) p, pages[i]? = some p → (p.hasMore = true ↔ i + 1 < pages.length)
  nextCursor : ∀ (i : Nat) p, pages[i]? = some p → (p.nextCursor.isSome ↔ i + 1 < pages.length)
  joined : pages.flatMap results = records

/-- All pages of some records. -/
def pagesOf (records : List Record) (limit : Nat) : List SearchResult :=
  (List.range (count records.length limit)).map (nth records limit)

theorem eq_nth_of_getElem?_pagesOf {i : Nat} {p : SearchResult}
    (h : (pagesOf records limit)[i]? = some p) : p = nth records limit i := by
  rw [pagesOf, List.getElem?_map, Option.map_eq_some_iff] at h
  obtain ⟨j, hj, rfl⟩ := h
  obtain ⟨-, rfl⟩ := List.getElem?_eq_some_iff.1 hj
  rw [List.getElem_range]

/-- All pages of some records hand them out. -/
theorem handOut_pages (hlimit : 0 < limit) (records : List Record) :
    HandOut records limit (pagesOf records limit) := by
  have hlength : (pagesOf records limit).length = count records.length limit := by
    rw [pagesOf, List.length_map, List.length_range]
  refine ⟨hlength, fun p hp ↦ ?_, fun p hp ↦ ?_, fun i p hp ↦ ?_, fun i p hp ↦ ?_, ?_⟩
  · obtain ⟨i, -, rfl⟩ := List.mem_map.1 hp
    rfl
  · obtain ⟨i, -, rfl⟩ := List.mem_map.1 hp
    rw [results_nth]
    exact List.length_take_le ..
  · rw [eq_nth_of_getElem?_pagesOf hp, hlength, hasMore_nth, add_one_lt_count_iff hlimit]
  · rw [eq_nth_of_getElem?_pagesOf hp, hlength, nextCursor_nth, add_one_lt_count_iff hlimit]
    split <;> simp_all
  · have hall : records.length ≤ count records.length limit * limit := by
      obtain ⟨i, hi⟩ := Nat.exists_eq_add_of_le' (one_le_count records.length limit)
      have hlast : ¬(i + 1) * limit < records.length :=
        fun h ↦ Nat.lt_irrefl _ (hi ▸ (add_one_lt_count_iff hlimit).2 h)
      rw [hi]
      exact Nat.le_of_not_lt hlast
    rw [pagesOf, flatMap_results, List.take_of_length_le hall]

/-! ### The first pages -/

/-- The cursor that comes with the last of some pages. -/
def cursorBehind (pages : List SearchResult) : Option String :=
  pages.getLast?.bind (·.nextCursor)

variable {i : Nat}

/-- The pages of some records up to the one with a number. -/
def pagesUpTo (records : List Record) (limit i : Nat) : List SearchResult :=
  (List.range (i + 1)).map (nth records limit)

theorem pagesUpTo_succ : pagesUpTo records limit (i + 1) =
    pagesUpTo records limit i ++ [nth records limit (i + 1)] := by
  rw [pagesUpTo, List.range_succ, List.map_append]
  rfl

theorem cursorBehind_pagesUpTo :
    cursorBehind (pagesUpTo records limit i) = (nth records limit i).nextCursor := by
  rw [cursorBehind, pagesUpTo, List.range_succ, List.map_append, List.map_singleton,
    List.getLast?_concat, Option.bind_some]

/-- While a cursor comes with the last page, the next page is one that is still to be handed out. -/
theorem exists_handOut_next (hlimit : 0 < limit) (hmore : (i + 1) * limit < records.length) :
    ∃ more, HandOut records limit
      (pagesUpTo records limit i ++ nth records limit (i + 1) :: more) := by
  obtain ⟨k, hk⟩ := Nat.exists_eq_add_of_lt ((add_one_lt_count_iff hlimit).2 hmore)
  refine ⟨(List.range k).map fun j => nth records limit (i + 2 + j), ?_⟩
  have hcount : count records.length limit = i + 2 + k := by omega
  have hpages := handOut_pages hlimit records
  rw [pagesOf, hcount, List.range_add, List.map_append, List.map_map] at hpages
  rw [List.append_cons, ← pagesUpTo_succ]
  exact hpages

/-- Without a cursor all pages have been handed out. -/
theorem handOut_pagesUpTo (hlimit : 0 < limit) (hi : i < count records.length limit)
    (hlast : ¬(i + 1) * limit < records.length) :
    HandOut records limit (pagesUpTo records limit i) := by
  have hcount : count records.length limit = i + 1 := by
    have := mt (add_one_lt_count_iff hlimit).1 hlast
    omega
  have hpages := handOut_pages hlimit records
  rw [pagesOf, hcount] at hpages
  exact hpages

end SearchResult

end OutlineSearch
