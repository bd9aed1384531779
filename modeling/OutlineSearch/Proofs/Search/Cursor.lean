import OutlineSearch.Proofs.Number.Integers
import OutlineSearch.Proofs.Search.Arguments
import OutlineSearch.Search.Execute

/-!
# Requests with a cursor

To go on, a caller asks with the same arguments and a cursor. The request that is read from them is
the same but for the cursor. So it has the same key, and it passes over as many records as the cursor
says.
-/

namespace OutlineSearch

open OutlineSearch.Schema OutlineSearch.Number

/-! ### Entries under other keys -/

namespace Value

variable {key name : String} {v value : Value} {es es' : List (Value × Value)}

/-- Whether an entry is under another key. -/
def beside (key : String) (e : Value × Value) : Bool :=
  match e.1 with
  | .text s => s != key
  | _ => true

theorem equals_text_iff {k : Value} : k.equals (text key) = true ↔ k = text key := by
  constructor
  · intro h
    cases k with
    | text s =>
      rw [equals, beq_iff_eq] at h
      rw [h]
    | _ => simp [equals, number?] at h
  · rintro rfl
    rw [equals, beq_self_eq_true]

theorem beside_text (h : name ≠ key) (v : Value) : beside key (text name, v) = true := by
  simp [beside, h]

theorem not_beside_self (key : String) (v : Value) : beside key (text key, v) = false := by
  simp [beside]

/-- What stands under a name is among the entries beside those under another key. -/
theorem lookup_filter {p : Value × Value → Bool} (hp : ∀ v, p (text name, v) = true) :
    lookup name (es.filter p) = lookup name es := by
  unfold lookup
  rw [List.find?_filter]
  congr 2
  funext ⟨k, v⟩
  cases k with
  | text s => by_cases h : s = name <;> simp [h, hp]
  | _ => simp

theorem lookup_eq_of_beside (h : es.filter (beside key) = es'.filter (beside key))
    (hname : name ≠ key) : lookup name es = lookup name es' := by
  rw [← lookup_filter (beside_text hname), h, lookup_filter (beside_text hname)]

/-- Nothing beside a key changes when a value is put under it. -/
theorem filter_beside_put_self :
    (putText key value es).filter (beside key) = es.filter (beside key) := by
  unfold putText
  induction es with
  | nil => simp [put, not_beside_self]
  | cons e rest ih =>
    obtain ⟨k, v⟩ := e
    rw [put]
    split
    · next h =>
      rw [equals_text_iff.1 h]
      simp [not_beside_self]
    · rw [List.filter_cons, List.filter_cons, ih]

/-- What is put under a key is put beside any other one. -/
theorem filter_beside_put (h : name ≠ key) :
    (putText name value es).filter (beside key) = putText name value (es.filter (beside key)) := by
  unfold putText
  induction es with
  | nil => simp [put, beside_text h]
  | cons e rest ih =>
    obtain ⟨k, v⟩ := e
    rw [put]
    split
    · next hk =>
      obtain rfl := equals_text_iff.1 hk
      simp [put, beside_text h, hk]
    · next hk =>
      rw [List.filter_cons, List.filter_cons, ih]
      split
      · rw [put, if_neg hk]
      · rfl

/-- What is put under a key stands there if it is kept. -/
theorem lookup_filter_put_self {p : Value × Value → Bool} (hp : p (text key, value) = true) :
    lookup key ((putText key value es).filter p) = some value := by
  unfold putText
  induction es with
  | nil => simp [put, hp, lookup]
  | cons e rest ih =>
    obtain ⟨k, v⟩ := e
    rw [put]
    split
    · next hk =>
      rw [equals_text_iff.1 hk, List.filter_cons_of_pos hp]
      simp [lookup]
    · next hk =>
      have hskip : lookup key ((k, v) :: (put (text key) value rest).filter p) =
          lookup key ((put (text key) value rest).filter p) := by
        unfold lookup
        rw [List.find?_cons_of_neg]
        cases k with
        | text s =>
          rw [equals_text_iff] at hk
          simpa using hk
        | _ => simp
      rw [List.filter_cons]
      split
      · exact hskip.trans ih
      · exact ih

theorem lookup_putText_self : lookup key (putText key value es) = some value := by
  rw [← List.filter_true (putText key value es)]
  exact lookup_filter_put_self rfl

end Value

/-- A field is read from what stands under its names. -/
theorem Schema.field_congr {α : Type} {es es' : List (Value × Value)} {names : List String}
    (h : ∀ name ∈ names, Value.lookup name es = Value.lookup name es') (default : α)
    (read : Value → Checked α) : field es names default read = field es' names default read := by
  have hpresent : present? es names = present? es' names := by
    unfold present?
    induction names with
    | nil => rfl
    | cons name rest ih =>
      obtain ⟨hname, hrest⟩ := List.forall_mem_cons.1 h
      rw [List.findSome?_cons, List.findSome?_cons, hname, ih hrest]
  rw [field, field, hpresent]

/-! ### Requests -/

namespace SearchRequest

variable {l : Limits} {r : SearchRequest} {es : List (Value × Value)} {arguments : Value}

/-- The limit of a request that has been read is positive. -/
theorem limit_pos (h : ofArguments l arguments = .ok r) : 1 ≤ r.limit := by
  have hread := read_of_ofArguments h
  cases arguments with
  | map es =>
    obtain ⟨settled, -, hfields⟩ := Checked.bind_eq_valid.1 hread
    obtain ⟨-, -, -, -, -, -, hlimit, -⟩ := readFields_eq_valid.1 hfields
    rcases field_eq_valid hlimit with hdefault | ⟨-, v, -, hv⟩
    · rw [hdefault]
      decide
    · obtain ⟨n, -, hn⟩ := Checked.bind_eq_valid.1 hv
      unfold Limits.check at hn
      split at hn
      · next hrange => exact Checked.valid.inj hn ▸ hrange.1
      · cases hn
  | _ => cases hread

/-- The request with a cursor. -/
def withCursor (r : SearchRequest) (cursor : String) : SearchRequest :=
  { r with cursor := some cursor }

theorem cacheKey_withCursor (r : SearchRequest) (cursor : String) :
    (r.withCursor cursor).cacheKey = r.cacheKey := rfl

theorem limit_withCursor (r : SearchRequest) (cursor : String) :
    (r.withCursor cursor).limit = r.limit := rfl

/-- Without a cursor no record is passed over. -/
theorem offset_eq_zero (h : r.cursor = none) : r.offset = .ok 0 := by
  rw [offset, h]
  rfl

/-- A cursor that is the decimal form of a number passes over as many records. -/
theorem offset_withCursor (r : SearchRequest) {n : Nat} (h : n < 10 ^ digitLimit) :
    (r.withCursor (toString (n : Int))).offset = .ok n := by
  have hlength : (Nat.toDigits 10 n).length ≤ digitLimit := by
    rcases Nat.eq_zero_or_pos n with rfl | hpos
    · decide
    · exact (Nat.length_toDigits_le_iff (by decide) (by decide)).2 h
  change SearchResult.offset (.text (toString (n : Int))) = .ok n
  rw [SearchResult.offset, SearchResult.cursorInteger, readInteger_toString n hlength]
  rfl

/-- Whether an entry has a value other than null. -/
def hasValue (e : Value × Value) : Bool := !e.2.isNull

/-- The arguments with the parts that are settled put into them. -/
def settledParts (limit : Value) (es : List (Value × Value)) : List (Value × Value) :=
  Value.putText "limit" limit
    (Value.putText "scope" (unwrapWithin ["page_titles"] (unwrap (Value.get es "scope")))
      (Value.putText "filter"
        (unwrapWithin ["tags_all", "tags_any"] (unwrap (Value.get es "filter"))) es))

theorem settle_eq_valid {settled : List (Value × Value)} :
    settle l es = .valid settled ↔ ∃ limit, limitOf l es = .valid limit ∧
      (Value.putText "cursor" (cursorOf es) (settledParts limit es)).filter hasValue = settled :=
  Checked.map_eq_valid

/-- Arguments with a cursor are settled like those without, but for the cursor. -/
theorem settle_putText {settled : List (Value × Value)} (h : settle l es = .valid settled)
    (cursor : String) : ∃ settled',
      settle l (Value.putText "cursor" (.text cursor) es) = .valid settled' ∧
      settled'.filter (Value.beside "cursor") = settled.filter (Value.beside "cursor") ∧
      Value.lookup "cursor" settled' = some (.text cursor) := by
  have hget {name : String} (hname : name ≠ "cursor") :
      Value.get (Value.putText "cursor" (.text cursor) es) name = Value.get es name := by
    rw [Value.get, Value.lookup_eq_of_beside Value.filter_beside_put_self hname, Value.get]
  obtain ⟨limit, hlimit, rfl⟩ := settle_eq_valid.1 h
  have hlimit' : limitOf l (Value.putText "cursor" (.text cursor) es) = .valid limit := by
    rw [limitOf, hget (by decide), ← hlimit, limitOf]
  have hcursor : cursorOf (Value.putText "cursor" (.text cursor) es) = .text cursor := by
    rw [cursorOf, Value.get, Value.lookup_putText_self]
    rfl
  have hparts : (settledParts limit (Value.putText "cursor" (.text cursor) es)).filter
      (Value.beside "cursor") = (settledParts limit es).filter (Value.beside "cursor") := by
    rw [settledParts, settledParts, hget (by decide), hget (by decide)]
    simp only [Value.filter_beside_put, Value.filter_beside_put_self, ne_eq, String.reduceEq,
      not_false_eq_true]
  refine ⟨_, settle_eq_valid.2 ⟨limit, hlimit', rfl⟩, ?_, ?_⟩
  · have hcomm (es : List (Value × Value)) : (es.filter hasValue).filter (Value.beside "cursor") =
        (es.filter (Value.beside "cursor")).filter hasValue := List.filter_comm ..
    rw [hcomm, hcomm, Value.filter_beside_put_self, Value.filter_beside_put_self, hparts]
  · rw [hcursor]
    exact Value.lookup_filter_put_self rfl

/-- What is read from the arguments with a cursor is the request with the cursor. -/
theorem ofArguments_putText (h : ofArguments l (.map es) = .ok r) (cursor : String) :
    ofArguments l (.map (Value.putText "cursor" (.text cursor) es)) = .ok (r.withCursor cursor) := by
  obtain ⟨settled, hsettled, hfields⟩ := Checked.bind_eq_valid.1 (read_of_ofArguments h)
  obtain ⟨settled', hsettled', hbeside, hcursor⟩ := settle_putText hsettled cursor
  have hfield {α : Type} {name : String} (hname : name ≠ "cursor") (default : α)
      (read : Value → Checked α) :
      field settled' [name] default read = field settled [name] default read :=
    field_congr (List.forall_mem_singleton.2 (Value.lookup_eq_of_beside hbeside hname)) ..
  have hread : readFields l settled' = .valid (r.withCursor cursor) := by
    obtain ⟨hquery, htarget, hscope, hfilter, hsort, horder, hlimit, -, hstrict⟩ :=
      readFields_eq_valid.1 hfields
    refine readFields_eq_valid.2 ⟨?_, ?_, ?_, ?_, ?_, ?_, ?_, ?_, ?_⟩
    case refine_8 =>
      rw [field, present?, List.findSome?_cons, hcursor]
      rfl
    all_goals rwa [hfield (by decide)]
  rw [ofArguments, read, Schema.record, hsettled', Checked.bind, hread]

end SearchRequest

end OutlineSearch
