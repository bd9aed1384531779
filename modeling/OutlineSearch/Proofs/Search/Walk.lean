import OutlineSearch.Proofs.Search.Cursor
import OutlineSearch.Proofs.Search.Lasting
import OutlineSearch.Proofs.Search.Pages

/-!
# Walking through pages

A client asks for a page of results and then goes on with the cursor that comes with each page. The
records that the first search has found are kept, and all pages come from them, whatever has been
edited, searched for or forgotten in between, as long as they are up to date.
-/

namespace OutlineSearch

open OutlineSearch.Task OutlineSearch.Search OutlineSearch.Engine

/-! ### Calls -/

section

variable {w w' : World} {arguments : Value} {r : SearchRequest} {offset : Nat} {key : String}
  {page : SearchResult} {e : StoreEntry (List Record)}

theorem SearchRequest.exists_arrange_of_arranged {found : Outcome (List Record)}
    {records : List Record} (h : r.arranged found = .ok records) :
    ∃ found, r.arrange found = .ok records := by
  cases found with
  | error fault => cases h
  | ok found =>
    refine ⟨found, ?_⟩
    rw [arranged, Except.bind] at h
    cases harrange : r.arrange found with
    | error fault =>
      rw [harrange] at h
      cases h
    | ok arranged =>
      rw [harrange] at h
      exact h

/-- A page that is answered is one of the records in the entry. These are arranged as the request
wants it if the search has found them itself. -/
def FromEntry (r : SearchRequest) (offset : Nat) (itself : Prop) (reply : Outcome Reply)
    (view : Option (StoreEntry (List Record)) × Binary64) : Prop :=
  ∀ page, reply = .ok (.result page) → ∃ e, view.1 = some e ∧
    page = .ofRecords e.value offset r.limit ∧ (itself → ∃ found, r.arrange found = .ok e.value)

theorem minds_answer_fromEntry (w : World) :
    (answer r offset key fun r => .finish (r.map .result)).Minds (entryView key)
      (FromEntry r offset ((w.cachedResults key).1 = none)) true (entryView key w) := by
  refine minds_answer (ofResults_entryView key) (fun w' records h hrecords ↦ .finish fun _ ↦ ?_)
    (fun _ fault _ _ ↦ .finish fun _ ↦ nofun)
    fun _ w' found records _ _ _ harranged ↦ .finish fun _ ↦ ?_
  · rintro _ ⟨⟩
    obtain ⟨e, he, rfl⟩ := Store.exists_find?_of_get hrecords
    refine ⟨e, he, rfl, fun hnone ↦ ?_⟩
    rw [cachedResults_fst_eq h, hnone] at hrecords
    cases hrecords
  · rintro _ ⟨⟩
    exact ⟨_, Store.find?_put_self .., rfl, fun _ ↦ r.exists_arrange_of_arranged harranged⟩

/-- A search that is answered with a page has a key, and keeps the records of the page under it. -/
theorem exists_entry (hread : SearchRequest.ofArguments (.ofSettings w.settings) arguments = .ok r)
    (hoffset : r.offset = .ok offset)
    (h : MayEnd w (.search arguments) (.ok (.result page)) w') :
    ∃ e, r.cacheKey = .ok e.key ∧ w'.cache.queries.find? e.key = some e ∧
      page = .ofRecords e.value offset r.limit ∧
      ((w.cachedResults e.key).1 = none → ∃ found, r.arrange found = .ok e.value) := by
  have hprepared : prepared (SearchRequest.ofArguments (.ofSettings w.settings) arguments) =
      r.cacheKey.map fun key => (r, offset, key) := by
    rw [hread, prepared_of_offset hoffset]
  cases hkey : r.cacheKey with
  | error fault =>
    rw [hkey] at hprepared
    cases h.mayReturn.eq_of_answering (asked_search_of_fault hprepared)
  | ok key =>
    rw [hkey] at hprepared
    obtain ⟨e, he, hpage⟩ :=
      h.wanted (asked_search_of_prepared hprepared) (minds_answer_fromEntry w) page rfl
    obtain rfl := Store.key_of_find? he
    exact ⟨e, rfl, he, hpage⟩

/-- A request with a cursor is answered at once with a page of the records in an entry that is up to
date. -/
theorem asked_withCursor (hw : w.Keeps e) (hkey : r.cacheKey = .ok e.key)
    (hoffset : offset < 10 ^ Number.digitLimit)
    (hread : SearchRequest.ofArguments (.ofSettings w.settings) arguments =
      .ok (r.withCursor (toString (offset : Int)))) :
    asked w (.search arguments) =
      answering w (.ok (.result (.ofRecords e.value offset r.limit))) := by
  have hprepared : prepared (SearchRequest.ofArguments (.ofSettings w.settings) arguments) =
      .ok (r.withCursor (toString (offset : Int)), offset, e.key) := by
    rw [hread, prepared_of_offset (r.offset_withCursor hoffset), r.cacheKey_withCursor, hkey]
    rfl
  have hkept : (w.cachedResults e.key).1 = some e.value := by rw [hw.cachedResults]
  refine (asked_search_of_kept hprepared hkept).trans ?_
  rw [hw.cachedResults, r.limit_withCursor]

end

/-! ### Walks -/

/-- The pages that a walk has come to, and the world that it has come to. It begins with the first
page of a request whose records are kept in an entry. Then anything may happen while the entry stays
up to date, and the client may ask for the page at the cursor of his last one. -/
inductive Walked (r : SearchRequest) (e : StoreEntry (List Record)) (first : SearchResult)
    (w₁ : World) : List SearchResult → World → Prop where
  | first : Walked r e first w₁ [first] w₁
  | meanwhile {pages : List SearchResult} {w w' : World} (h : Walked r e first w₁ pages w)
    (hstep : Meanwhile e w w') : Walked r e first w₁ pages w'
  | next {pages : List SearchResult} {page : SearchResult} {w w' : World} {cursor : String}
    {arguments : Value} (h : Walked r e first w₁ pages w)
    (hcursor : SearchResult.cursorBehind pages = some cursor)
    (hread : SearchRequest.ofArguments (.ofSettings w.settings) arguments =
      .ok (r.withCursor cursor))
    (hcall : MayEnd w (.search arguments) (.ok (.result page)) w') :
    Walked r e first w₁ (pages ++ [page]) w'

section

open SearchResult

variable {r : SearchRequest} {e : StoreEntry (List Record)} {first : SearchResult} {w₁ w : World}
  {pages : List SearchResult} {limit i : Nat}

/-- In a walk that has come to a page at which a cursor comes, the next page is answered at once. -/
theorem asked_next (hkey : r.cacheKey = .ok e.key) (hlimit : (limit : Int) = r.limit)
    (hlength : e.value.length < 10 ^ Number.digitLimit) (hw : w.Keeps e) {cursor : String}
    (hcursor : (nth e.value limit i).nextCursor = some cursor) {arguments : Value}
    (hread : SearchRequest.ofArguments (.ofSettings w.settings) arguments =
      .ok (r.withCursor cursor)) :
    asked w (.search arguments) =
      answering w (.ok (.result (nth e.value limit (i + 1)))) := by
  obtain ⟨hmore, rfl⟩ := nextCursor_nth_eq_some hcursor
  rw [asked_withCursor hw hkey (Nat.lt_trans hmore hlength) hread, nth, hlimit]

/-- A walk has come to the pages of the entry up to some number, and the entry is still kept. -/
theorem Walked.exists_pagesUpTo (hkey : r.cacheKey = .ok e.key) (hlimit : (limit : Int) = r.limit)
    (hpos : 0 < limit) (hlength : e.value.length < 10 ^ Number.digitLimit)
    (hfirst : first = nth e.value limit 0) (hw₁ : w₁.Keeps e) (h : Walked r e first w₁ pages w) :
    w.Keeps e ∧ ∃ i, i < count e.value.length limit ∧ pages = pagesUpTo e.value limit i := by
  induction h with
  | first => exact ⟨hw₁, 0, one_le_count .., by rw [hfirst]; rfl⟩
  | meanwhile _ hstep ih => exact ⟨hstep.keeps ih.1, ih.2⟩
  | next _ hcursor hread hcall ih =>
    obtain ⟨hw, i, hi, rfl⟩ := ih
    rw [cursorBehind_pagesUpTo] at hcursor
    have hasked := asked_next hkey hlimit hlength hw hcursor hread
    obtain rfl := hcall.mayLeave.eq_of_answering hasked
    obtain ⟨⟩ := hcall.mayReturn.eq_of_answering hasked
    have hmore := (nextCursor_nth_eq_some hcursor).1
    exact ⟨hw, i + 1, (add_one_lt_count_iff hpos).2 hmore, pagesUpTo_succ.symm⟩

end

/-- A walk from the first page of a request hands out the records that the first search has kept, as
long as they stay up to date: what it has come to is the beginning of a hand-out, it can go on to the
next page of the hand-out as long as a cursor comes with the last page, and it is through when none
comes. If the first search has found the records itself, they are arranged as the request wants it.
The places of the records must have few enough digits to be read again, and no memory holds a list
that is so long that they have not. -/
theorem walk_hands_out {w₀ w₁ : World} {arguments : Value} {r : SearchRequest}
    {first : SearchResult}
    (hread : SearchRequest.ofArguments (.ofSettings w₀.settings) arguments = .ok r)
    (hcursor : r.cursor = none)
    (hfirst : MayEnd w₀ (.search arguments) (.ok (.result first)) w₁) :
    ∃ e, r.cacheKey = .ok e.key ∧ w₁.cache.queries.find? e.key = some e ∧
      ((w₀.cachedResults e.key).1 = none → ∃ found, r.arrange found = .ok e.value) ∧
      (e.isFresh w₁.clock = true → e.value.length < 10 ^ Number.digitLimit →
        ∀ pages w, Walked r e first w₁ pages w →
          ∃ rest, SearchResult.HandOut e.value r.limit.toNat (pages ++ rest) ∧
            match SearchResult.cursorBehind pages with
            | none => rest = []
            | some cursor => ∃ page more, rest = page :: more ∧
              ∀ a, SearchRequest.ofArguments (.ofSettings w.settings) a =
                  .ok (r.withCursor cursor) →
                Returns w (.search a) ∧
                  ∀ reply, MayReturn w (.search a) reply → reply = .ok (.result page)) := by
  obtain ⟨e, hkey, hfind, hpage, harranged⟩ :=
    exists_entry hread (r.offset_eq_zero hcursor) hfirst
  refine ⟨e, hkey, hfind, harranged, fun hfresh hlength pages w hwalked ↦ ?_⟩
  have hlimit : (r.limit.toNat : Int) = r.limit :=
    Int.toNat_of_nonneg (Int.le_trans (by decide) (SearchRequest.limit_pos hread))
  have hpos : 0 < r.limit.toNat := Int.lt_toNat.2 (SearchRequest.limit_pos hread)
  have hfirst : first = .nth e.value r.limit.toNat 0 := by
    rw [hpage, SearchResult.nth, hlimit, Nat.zero_mul]
  obtain ⟨hw, i, hi, rfl⟩ :=
    hwalked.exists_pagesUpTo hkey hlimit hpos hlength hfirst ⟨hfind, hfresh⟩
  rw [SearchResult.cursorBehind_pagesUpTo]
  by_cases hmore : (i + 1) * r.limit.toNat < e.value.length
  · obtain ⟨more, hhandOut⟩ := SearchResult.exists_handOut_next hpos hmore
    have hnext : (SearchResult.nth e.value r.limit.toNat i).nextCursor = _ :=
      (SearchResult.nextCursor_nth i).trans (if_pos hmore)
    refine ⟨_, hhandOut, ?_⟩
    rw [hnext]
    refine ⟨_, more, rfl, fun a ha ↦ ?_⟩
    have hasked := asked_next hkey hlimit hlength hw hnext ha
    exact ⟨returns_of_answering hasked, fun reply hreply ↦ hreply.eq_of_answering hasked⟩
  · have hnone : (SearchResult.nth e.value r.limit.toNat i).nextCursor = none :=
      (SearchResult.nextCursor_nth i).trans (if_neg hmore)
    refine ⟨[], ?_, ?_⟩
    · rw [List.append_nil]
      exact SearchResult.handOut_pagesUpTo hpos hi hmore
    · rw [hnone]

/-! ### A walk through two pages -/

/-- Two pages of a graph. -/
def pagePair : List Page := [{ id := "1", name := "a" }, { id := "2", name := "b" }]

/-- Their records, as a search for all pages finds them. -/
def recordPair : List Record := pagePair.map fun p => (Record.ofPage p none).scored ""

/-- The entries of arguments that ask for all pages, one at a time. -/
def pairEntries : List (Value × Value) :=
  [(.text "target", .text "pages"), (.text "limit", .int 1)]

section

variable (clock : Binary64) (key : String)

/-- The world around a graph with the two pages, after they have been listed. -/
def pairListed : World :=
  (World.around (MemoryGraph.countPages { pages := pagePair }) clock someDay).keepPages pagePair

/-- The world in which their records have been found. -/
def pairFound : World := (pairListed clock).keepResults key recordPair

/-- The entry that is kept then. -/
def pairEntry : StoreEntry (List Record) :=
  ⟨key, recordPair, (pairListed clock).clock, (pairListed clock).settings.resultsLifetime⟩

/-- The world after all pages have been taken out of the graph. -/
def pairEmptied : World := (pairFound clock key).withProvider (.memory {})

theorem find?_pairFound :
    (pairFound clock key).cache.queries.find? key = some (pairEntry clock key) :=
  Store.find?_put_self ..

theorem length_pairEntry : (pairEntry clock key).value.length < 10 ^ Number.digitLimit :=
  Nat.lt_of_lt_of_le (by decide : 2 < 10) (Nat.le_self_pow (by decide) 10)

variable {clock key}

theorem ofArguments_pairEntries :
    SearchRequest.ofArguments (.ofSettings {}) (.map pairEntries) = .ok (.listing 1) := by
  have hlimits : Limits.ofSettings {} = { default := some 20 } := rfl
  rw [hlimits]
  simp [SearchRequest.ofArguments, SearchRequest.read, pairEntries, Schema.record,
    SearchRequest.settle, SearchRequest.limitOf, SearchRequest.cursorOf, Value.get, Value.lookup,
    Value.putText, Value.put, Value.text_equals_text, SearchRequest.unwrapWithin,
    SearchRequest.unwrap, Checked.map, Checked.bind, Value.isNull]
  rfl

theorem prepared_pairEntries (hkey : (SearchRequest.listing 1).cacheKey = .ok key) :
    prepared (SearchRequest.ofArguments (.ofSettings {}) (.map pairEntries)) =
      .ok (.listing 1, 0, key) := by
  rw [ofArguments_pairEntries, prepared_of_offset (SearchRequest.offset_eq_zero rfl), hkey]
  rfl

/-- The first of the two pages is found in a graph that has both. -/
theorem mayEnd_pairFound (clock : Binary64) (hkey : (SearchRequest.listing 1).cacheKey = .ok key) :
    MayEnd (.around { pages := pagePair } clock someDay) (.search (.map pairEntries))
      (.ok (.result (.nth recordPair 1 0))) (pairFound clock key) :=
  mayEnd_of_answering (asked_listing_serving (prepared_pairEntries hkey) rfl rfl)

/-- A walk through the two pages, the graph being emptied before the second one is asked for. -/
theorem walked_pairEmptied (hkey : (SearchRequest.listing 1).cacheKey = .ok key)
    (hfresh : (pairEntry clock key).isFresh clock = true) :
    Walked (.listing 1) (pairEntry clock key) (.nth recordPair 1 0) (pairFound clock key)
      [.nth recordPair 1 0, .nth recordPair 1 1] (pairEmptied clock key) := by
  have hkeeps : (pairEmptied clock key).Keeps (pairEntry clock key) :=
    ⟨find?_pairFound clock key, hfresh⟩
  have hedited : MayEnd (pairFound clock key) (.edit fun _ => .ok (.memory {})) (.ok .nothing)
      (pairEmptied clock key) := mayEnd_of_answering (asked_edit rfl)
  have hread := SearchRequest.ofArguments_putText ofArguments_pairEntries "1"
  have hnext := asked_next (i := 0) hkey rfl (length_pairEntry clock key) hkeeps rfl hread
  exact .next (.meanwhile .first (.operation hedited trivial)) rfl hread (mayEnd_of_answering hnext)

end

theorem pair_handed_out : ∃ clock key,
    SearchRequest.ofArguments (.ofSettings {}) (.map pairEntries) = .ok (.listing 1) ∧
    (SearchRequest.listing 1).cursor = none ∧
    MayEnd (.around { pages := pagePair } clock someDay) (.search (.map pairEntries))
      (.ok (.result (.nth recordPair 1 0))) (pairFound clock key) ∧
    (pairFound clock key).cache.queries.find? key = some (pairEntry clock key) ∧
    (pairEntry clock key).isFresh clock = true ∧
    (pairEntry clock key).value.length < 10 ^ Number.digitLimit ∧
    Walked (.listing 1) (pairEntry clock key) (.nth recordPair 1 0) (pairFound clock key)
      [.nth recordPair 1 0, .nth recordPair 1 1] (pairEmptied clock key) ∧
    SearchResult.HandOut recordPair 1 [.nth recordPair 1 0, .nth recordPair 1 1] := by
  obtain ⟨key, hkey⟩ := SearchRequest.exists_cacheKey_listing 1
  obtain ⟨clock, hclock⟩ : ∃ clock, (pairEntry clock "").isFresh clock = true :=
    ⟨.ofInt 1000, by decide +kernel⟩
  have hfresh : (pairEntry clock key).isFresh clock = true := hclock
  have hfirst := mayEnd_pairFound clock hkey
  have hwalked := walked_pairEmptied hkey hfresh
  obtain ⟨e, hkey', hfind, -, hwalk⟩ := walk_hands_out ofArguments_pairEntries rfl hfirst
  rw [← Except.ok.inj (hkey.symm.trans hkey')] at hfind
  obtain rfl := Option.some.inj ((find?_pairFound clock key).symm.trans hfind)
  obtain ⟨rest, hhandOut, hrest⟩ := hwalk hfresh (length_pairEntry ..) _ _ hwalked
  obtain rfl : rest = [] := hrest
  exact ⟨clock, _, ofArguments_pairEntries, rfl, hfirst, hfind, hfresh, length_pairEntry ..,
    hwalked, hhandOut⟩

end OutlineSearch
