import Mathlib.Logic.Relation
import OutlineSearch.Proofs.Search.Rereading

/-!
# Arguments spelled as texts

Callers may give a structured argument as its JSON text, and an integer as its decimal form. The
arguments with one part spelled so are settled like those without, so the same request is read from
them, or they are refused with the same words. This goes on for any number of parts, as long as the
inner ones are spelled before the outer ones.
-/

namespace OutlineSearch

open OutlineSearch.Text OutlineSearch.Number

/-- A decimal form is taken for a limit. -/
theorem SearchRequest.isLimitText_toString (n : Int) : isLimitText (toString n).toList = true := by
  obtain ⟨negative, digits, hne, hdigits, -, htext, -⟩ := exists_digits_toString n
  have hblank : ∀ c ∈ (toString n).toList, isBlank c = false := by
    rw [htext]
    intro c hc
    rcases List.mem_append.1 hc with hsign | hdigit
    · cases negative with
      | true =>
        obtain rfl := List.mem_singleton.1 hsign
        rfl
      | false => cases hsign
    · exact isBlank_of_isDecimal (isDecimal_of_isDigit (hdigits c hdigit))
  have hdrop : (toString n).toList.dropWhile (· == '-') = digits := by
    rw [htext]
    cases digits with
    | nil => exact absurd rfl hne
    | cons d digits =>
      have hminus : d ≠ '-' := by
        rintro rfl
        exact absurd (hdigits '-' (.head _)) (by decide)
      cases negative <;> simp [hminus]
  have hall : digits.all isDigitLike = true := List.all_eq_true.2 fun c hc ↦ by
    rw [isDigitLike, isDecimal_of_isDigit (hdigits c hc), Bool.true_or]
  rw [isLimitText, Json.trim_of_not_blank hblank, hdrop]
  simp only [hall, Bool.and_true, Bool.not_eq_true', List.isEmpty_eq_false_iff]
  exact hne

/-! ### Entries that differ in one value -/

namespace Value

variable {key name : String} {es es' : List (Value × Value)} {v v' : Value}

/-- Entries with one value under a key and entries with another one in its place. -/
def DifferAt (key : String) (v v' : Value) (es es' : List (Value × Value)) : Prop :=
  ∃ front back, es = front ++ (text key, v) :: back ∧ es' = front ++ (text key, v') :: back ∧
    lookup key front = none

/-- What is put under a key that is there comes in the place of what stands there. -/
theorem putText_append_of_lookup {w : Value} (h : lookup key es = some w) (value : Value)
    (fs : List (Value × Value)) : putText key value (es ++ fs) = putText key value es ++ fs := by
  induction es with
  | nil => cases h
  | cons e es ih =>
    obtain ⟨k, v⟩ := e
    rw [lookup_cons] at h
    rw [List.cons_append, putText_cons, putText_cons]
    split at h
    · next hk => rw [if_pos hk, if_pos hk, List.cons_append]
    · next hk => rw [if_neg hk, if_neg hk, ih h, List.cons_append]

theorem DifferAt.lookup_self (h : DifferAt key v v' es es') :
    lookup key es = some v ∧ lookup key es' = some v' := by
  obtain ⟨front, back, rfl, rfl, hfront⟩ := h
  have hself (v : Value) : lookup key ((text key, v) :: back) = some v := by
    rw [lookup_cons, if_pos (equals_text_iff.2 rfl)]
  exact ⟨by rw [lookup_append, hfront, hself]; rfl, by rw [lookup_append, hfront, hself]; rfl⟩

theorem DifferAt.lookup (h : DifferAt key v v' es es') (hname : name ≠ key) :
    Value.lookup name es = Value.lookup name es' := by
  obtain ⟨front, back, rfl, rfl, -⟩ := h
  have hskip (v : Value) : Value.lookup name ((text key, v) :: back) = Value.lookup name back := by
    rw [lookup_cons, if_neg fun hequals ↦ hname (text.inj (equals_text_iff.1 hequals)).symm]
  rw [lookup_append, lookup_append, hskip, hskip]

/-- To put a value under the key takes the difference away. -/
theorem DifferAt.putText_self (h : DifferAt key v v' es es') (value : Value) :
    putText key value es = putText key value es' := by
  obtain ⟨front, back, rfl, rfl, hfront⟩ := h
  have hself (v : Value) :
      putText key value ((text key, v) :: back) = (text key, value) :: back := by
    rw [putText_cons, if_pos (equals_text_iff.2 rfl)]
  rw [putText_append hfront, putText_append hfront, hself, hself]

/-- What is put under another key leaves the difference as it is. -/
theorem DifferAt.putText (h : DifferAt key v v' es es') (hname : name ≠ key) (value : Value) :
    DifferAt key v v' (putText name value es) (putText name value es') := by
  obtain ⟨front, back, rfl, rfl, hfront⟩ := h
  cases hlookup : Value.lookup name front with
  | none =>
    have hskip (v : Value) : Value.putText name value ((text key, v) :: back) =
        (text key, v) :: Value.putText name value back := by
      rw [putText_cons, if_neg fun hequals ↦ hname (text.inj (equals_text_iff.1 hequals)).symm]
    rw [putText_append hlookup, putText_append hlookup, hskip, hskip]
    exact ⟨front, _, rfl, rfl, hfront⟩
  | some w =>
    rw [putText_append_of_lookup hlookup, putText_append_of_lookup hlookup]
    refine ⟨_, back, rfl, rfl, ?_⟩
    rw [← hfront]
    exact lookup_eq_of_beside filter_beside_put_self hname.symm

end Value

/-! ### Arguments that differ in one part -/

namespace SearchRequest

variable {l : Limits} {key : String} {v v' : Value} {es es' : List (Value × Value)}

/-- Arguments that differ in a part that is settled in one way are settled in one way. -/
theorem settle_of_differAt (h : Value.DifferAt key v v' es es')
    (hkey : key ∈ ["filter", "scope", "limit", "cursor"]) (hlimit : limitOf l es = limitOf l es')
    (hcursor : cursorOf es = cursorOf es')
    (hfilter : unwrapWithin ["tags_all", "tags_any"] (unwrap (Value.get es "filter")) =
      unwrapWithin ["tags_all", "tags_any"] (unwrap (Value.get es' "filter")))
    (hscope : unwrapWithin ["page_titles"] (unwrap (Value.get es "scope")) =
      unwrapWithin ["page_titles"] (unwrap (Value.get es' "scope"))) :
    settle l es = settle l es' := by
  have hparts (limit : Value) : Value.putText "cursor" (cursorOf es) (settledParts limit es) =
      Value.putText "cursor" (cursorOf es') (settledParts limit es') := by
    rw [settledParts, settledParts, ← hcursor, ← hfilter, ← hscope]
    simp only [List.mem_cons, List.not_mem_nil, or_false] at hkey
    rcases hkey with rfl | rfl | rfl | rfl
    · rw [h.putText_self]
    · rw [(h.putText (by decide) _).putText_self]
    · rw [((h.putText (by decide) _).putText (by decide) _).putText_self]
    · rw [(((h.putText (by decide) _).putText (by decide) _).putText (by decide) _).putText_self]
  change (limitOf l es).map (fun limit => (Value.putText "cursor" (cursorOf es)
    (settledParts limit es)).filter hasValue) = (limitOf l es').map (fun limit =>
    (Value.putText "cursor" (cursorOf es') (settledParts limit es')).filter hasValue)
  rw [hlimit]
  simp only [hparts]

theorem get_of_differAt {name : String} (h : Value.DifferAt key v v' es es') (hname : name ≠ key) :
    Value.get es name = Value.get es' name := by
  rw [Value.get, Value.get, h.lookup hname]

theorem limitOf_of_differAt (h : Value.DifferAt key v v' es es') (hkey : "limit" ≠ key) :
    limitOf l es = limitOf l es' := by
  rw [limitOf, limitOf, get_of_differAt h hkey]

theorem cursorOf_of_differAt (h : Value.DifferAt key v v' es es') (hkey : "cursor" ≠ key) :
    cursorOf es = cursorOf es' := by
  rw [cursorOf, cursorOf, get_of_differAt h hkey]

theorem get_self_of_differAt (h : Value.DifferAt key v v' es es') :
    Value.get es key = v ∧ Value.get es' key = v' := by
  obtain ⟨hlookup, hlookup'⟩ := h.lookup_self
  rw [Value.get, Value.get, hlookup, hlookup']
  exact ⟨rfl, rfl⟩

/-- A filter that is unwrapped to the same one makes no difference. -/
theorem settle_of_filter (h : Value.DifferAt "filter" v v' es es')
    (hv : unwrapWithin ["tags_all", "tags_any"] (unwrap v) =
      unwrapWithin ["tags_all", "tags_any"] (unwrap v')) : settle l es = settle l es' := by
  obtain ⟨hget, hget'⟩ := get_self_of_differAt h
  refine settle_of_differAt h (by decide) (limitOf_of_differAt h (by decide))
    (cursorOf_of_differAt h (by decide)) ?_ ?_
  · rw [hget, hget', hv]
  · rw [get_of_differAt h (by decide)]

/-- A scope that is unwrapped to the same one makes no difference. -/
theorem settle_of_scope (h : Value.DifferAt "scope" v v' es es')
    (hv : unwrapWithin ["page_titles"] (unwrap v) = unwrapWithin ["page_titles"] (unwrap v')) :
    settle l es = settle l es' := by
  obtain ⟨hget, hget'⟩ := get_self_of_differAt h
  refine settle_of_differAt h (by decide) (limitOf_of_differAt h (by decide))
    (cursorOf_of_differAt h (by decide)) ?_ ?_
  · rw [get_of_differAt h (by decide)]
  · rw [hget, hget', hv]

/-- A limit in decimal form makes no difference. -/
theorem settle_of_limit {n : Int} (hn : (Json.int n).isShort = true)
    (h : Value.DifferAt "limit" (.int n) (.text (toString n)) es es') :
    settle l es = settle l es' := by
  obtain ⟨hget, hget'⟩ := get_self_of_differAt h
  refine settle_of_differAt h (by decide) ?_ (cursorOf_of_differAt h (by decide)) ?_ ?_
  · rw [limitOf, limitOf, hget, hget']
    dsimp only
    rw [if_pos (isLimitText_toString n), readInteger_toString_int (of_decide_eq_true hn)]
  · rw [get_of_differAt h (by decide)]
  · rw [get_of_differAt h (by decide)]

/-- A cursor in decimal form makes no difference. -/
theorem settle_of_cursor {n : Int}
    (h : Value.DifferAt "cursor" (.int n) (.text (toString n)) es es') :
    settle l es = settle l es' := by
  obtain ⟨hget, hget'⟩ := get_self_of_differAt h
  refine settle_of_differAt h (by decide) (limitOf_of_differAt h (by decide)) ?_ ?_ ?_
  · rw [cursorOf, cursorOf, hget, hget']
    rfl
  · rw [get_of_differAt h (by decide)]
  · rw [get_of_differAt h (by decide)]

end SearchRequest

/-! ### Parts spelled as texts -/

namespace Json

variable {members : List (String × Json)} {l : Layout} {j j' : Json}

theorem separates_spaced : spaced.Separates :=
  ⟨⟨[' '], rfl, allSpaces_blank⟩, ⟨[' '], rfl, allSpaces_blank⟩⟩

theorem areShortMembers_iff (members : List (String × Json)) :
    areShortMembers members = true ↔ ∀ m ∈ members, m.2.isShort = true := by
  induction members with
  | nil => simp [areShortMembers]
  | cons m members ih =>
    obtain ⟨k, j⟩ := m
    rw [areShortMembers, Bool.and_eq_true, ih, List.forall_mem_cons]

/-- An object is read again from its text when its members are and have different names. -/
theorem writable_object_iff : (object members).Writable ↔
    (members.map Prod.fst).Nodup ∧ ∀ m ∈ members, m.2.Writable := by
  constructor
  · intro h
    have hshort : areShortMembers members = true := h.short
    exact ⟨h.plain.nodup, fun m hm ↦
      ⟨h.plain.member hm, (areShortMembers_iff members).1 hshort m hm⟩⟩
  · exact fun h ↦ writable_object h.1 h.2

/-- One member of an object that is written may have another value. -/
theorem Writable.replace {front back : List (String × Json)} {key : String}
    (h : (object (front ++ (key, j) :: back)).Writable) (hj : j'.Writable) :
    (object (front ++ (key, j') :: back)).Writable := by
  obtain ⟨hnodup, hall⟩ := writable_object_iff.1 h
  rw [List.forall_mem_append, List.forall_mem_cons] at hall
  refine writable_object_iff.2 ⟨?_, ?_⟩
  · rwa [List.map_append, List.map_cons] at hnodup ⊢
  · rw [List.forall_mem_append, List.forall_mem_cons]
    exact ⟨hall.1, hj, hall.2.2⟩

theorem Writable.of_mem {front back : List (String × Json)} {key : String}
    (h : (object (front ++ (key, j) :: back)).Writable) : j.Writable :=
  (writable_object_iff.1 h).2 (key, j) (List.mem_append_right front (.head _))

/-- The text of a document is unwrapped to the document. -/
theorem unwrap_write (hl : l.Separates) (hj : j.Writable) :
    SearchRequest.unwrap (.text (write l j)) = j.toValue := by
  rw [SearchRequest.unwrap, read?_write hl hj.plain hj.short]
  rfl

/-- Objects that differ in one member stand for entries that differ in its value. -/
theorem differAt_toEntries {front back : List (String × Json)} {key : String}
    (h : (object (front ++ (key, j) :: back)).Writable) (j' : Json) :
    Value.DifferAt key j.toValue j'.toValue (toEntries (front ++ (key, j) :: back))
      (toEntries (front ++ (key, j') :: back)) := by
  have hnodup := (writable_object_iff.1 h).1
  rw [List.map_append, List.map_cons] at hnodup
  have hkey : key ∉ front.map Prod.fst := fun hmem ↦
    List.nodup_append.1 hnodup |>.2.2 key hmem key (.head _) rfl
  refine ⟨toEntries front, toEntries back, ?_, ?_, Record.lookup_toEntries_of_not_mem hkey⟩
  · simp only [Value.toEntries_eq, List.map_append, List.map_cons]
  · simp only [Value.toEntries_eq, List.map_append, List.map_cons]

/-- To spell one value of an object as a text makes no difference when such values are unwrapped. -/
theorem unwrapWithin_respelled {front back : List (String × Json)} {key : String}
    {keys : List String} (hkey : keys.contains key = true)
    (hj : SearchRequest.unwrap j.toValue = SearchRequest.unwrap j'.toValue) :
    SearchRequest.unwrapWithin keys (object (front ++ (key, j) :: back)).toValue =
      SearchRequest.unwrapWithin keys (object (front ++ (key, j') :: back)).toValue := by
  simp only [toValue, Value.toEntries_eq, List.map_append, List.map_cons,
    SearchRequest.unwrapWithin, hkey, if_true, hj]

end Json

namespace SearchRequest

open OutlineSearch.Json

/-- Two objects of arguments, the second of which spells one part of the first as a text: the
filter, the scope, a list in one of them or the limit as its JSON text, or the cursor in decimal
form. -/
inductive Respelled : List (String × Json) → List (String × Json) → Prop where
  | filter {l : Layout} (hl : l.Separates) (front back members : List (String × Json)) :
    Respelled (front ++ ("filter", .object members) :: back)
      (front ++ ("filter", .text (write l (.object members))) :: back)
  | scope {l : Layout} (hl : l.Separates) (front back members : List (String × Json)) :
    Respelled (front ++ ("scope", .object members) :: back)
      (front ++ ("scope", .text (write l (.object members))) :: back)
  | tags {l : Layout} (hl : l.Separates) {key : String} (hkey : key = "tags_all" ∨ key = "tags_any")
    (front back before after : List (String × Json)) (items : List Json) :
    Respelled (front ++ ("filter", .object (before ++ (key, .list items) :: after)) :: back)
      (front ++ ("filter",
        .object (before ++ (key, .text (write l (.list items))) :: after)) :: back)
  | titles {l : Layout} (hl : l.Separates) (front back before after : List (String × Json))
    (items : List Json) :
    Respelled
      (front ++ ("scope", .object (before ++ ("page_titles", .list items) :: after)) :: back)
      (front ++ ("scope",
        .object (before ++ ("page_titles", .text (write l (.list items))) :: after)) :: back)
  | limit (l : Layout) (front back : List (String × Json)) (n : Int) :
    Respelled (front ++ ("limit", .int n) :: back)
      (front ++ ("limit", .text (write l (.int n))) :: back)
  | cursor (front back : List (String × Json)) (n : Int) :
    Respelled (front ++ ("cursor", .int n) :: back)
      (front ++ ("cursor", .text (toString n)) :: back)

variable {members members' : List (String × Json)}

/-- Arguments with one part spelled as a text can be written, and are settled in the same way. -/
theorem Respelled.settle (h : Respelled members members') (hwrite : (object members).Writable) :
    (object members').Writable ∧
    ∀ l : Limits, SearchRequest.settle l (toEntries members) =
      SearchRequest.settle l (toEntries members') := by
  have hdiffer {front back : List (String × Json)} {key : String} {j : Json} (j' : Json)
      (hmembers : members = front ++ (key, j) :: back) :
      Value.DifferAt key j.toValue j'.toValue (toEntries members)
        (toEntries (front ++ (key, j') :: back)) := by
    subst hmembers
    exact differAt_toEntries hwrite j'
  cases h with
  | filter hl front back members =>
    refine ⟨hwrite.replace (writable_text _), fun l ↦ settle_of_filter (hdiffer _ rfl) ?_⟩
    rw [toValue, unwrap_write hl hwrite.of_mem]
    rfl
  | scope hl front back members =>
    refine ⟨hwrite.replace (writable_text _), fun l ↦ settle_of_scope (hdiffer _ rfl) ?_⟩
    rw [toValue, unwrap_write hl hwrite.of_mem]
    rfl
  | tags hl hkey front back before after items =>
    have hfilter := hwrite.of_mem
    refine ⟨hwrite.replace (hfilter.replace (writable_text _)),
      fun l ↦ settle_of_filter (hdiffer _ rfl) ?_⟩
    refine unwrapWithin_respelled (by rcases hkey with rfl | rfl <;> decide) ?_
    exact (unwrap_write hl hfilter.of_mem).symm
  | titles hl front back before after items =>
    have hscope := hwrite.of_mem
    refine ⟨hwrite.replace (hscope.replace (writable_text _)),
      fun l ↦ settle_of_scope (hdiffer _ rfl) ?_⟩
    exact unwrapWithin_respelled (by decide) (unwrap_write hl hscope.of_mem).symm
  | limit l front back n =>
    exact ⟨hwrite.replace (writable_text _),
      fun l ↦ settle_of_limit hwrite.of_mem.short (hdiffer _ rfl)⟩
  | cursor front back n =>
    exact ⟨hwrite.replace (writable_text _), fun l ↦ settle_of_cursor (hdiffer _ rfl)⟩

/-- However many parts of the arguments are spelled as texts, one after the other, the same request
is read from them, or they are refused with the same words. -/
theorem ofArguments_of_respelled (h : Relation.ReflTransGen Respelled members members')
    (hwrite : (object members).Writable) (l : Limits) :
    ofArguments l (object members').toValue = ofArguments l (object members).toValue := by
  have hsettle : (object members').Writable ∧
      SearchRequest.settle l (toEntries members) = SearchRequest.settle l (toEntries members') := by
    induction h with
    | refl => exact ⟨hwrite, rfl⟩
    | tail _ hstep ih =>
      obtain ⟨hwritten, hsettle⟩ := hstep.settle ih.1
      exact ⟨hwritten, ih.2.trans (hsettle l)⟩
  rw [ofArguments, ofArguments, SearchRequest.read, SearchRequest.read, toValue, toValue,
    Schema.record, Schema.record, hsettle.2]

/-- Arguments with every part that may be spelled as a text. -/
def structuredMembers : List (String × Json) :=
  [("query", .text "a"),
    ("filter", .object [("tags_all", .list [.text "x"]), ("tags_any", .list [.text "y"])]),
    ("scope", .object [("page_titles", .list [.text "p"])]), ("limit", .int 30),
    ("cursor", .int (-3))]

/-- The same arguments with all these parts spelled as texts. -/
def textMembers : List (String × Json) :=
  [("query", .text "a"),
    ("filter", .text (write spaced (.object [("tags_all", .text (write spaced (.list [.text "x"]))),
      ("tags_any", .text (write indented (.list [.text "y"])))]))),
    ("scope", .text (write indented (.object
      [("page_titles", .text (write spaced (.list [.text "p"])))]))),
    ("limit", .text (write spaced (.int 30))), ("cursor", .text (toString (-3 : Int)))]

theorem writable_structuredMembers : (object structuredMembers).Writable := by
  have hlist (s : String) : (list [.text s]).Writable :=
    writable_list (List.forall_mem_singleton.2 (writable_text s))
  refine writable_object (by decide) ?_
  simp only [structuredMembers, List.forall_mem_cons]
  refine ⟨writable_text _, writable_object (by decide) ?_, writable_object (by decide) ?_,
    ⟨⟨trivial, trivial⟩, by decide⟩, ⟨⟨trivial, trivial⟩, by decide⟩, List.forall_mem_nil _⟩
  · exact List.forall_mem_cons.2 ⟨hlist "x", List.forall_mem_singleton.2 (hlist "y")⟩
  · exact List.forall_mem_singleton.2 (hlist "p")

theorem respelled_textMembers : Relation.ReflTransGen Respelled structuredMembers textMembers := by
  refine .head (.tags separates_spaced (.inl rfl) [_] _ [] _ _) ?_
  refine .head (.tags separates_indented (.inr rfl) [_] _ [_] [] _) ?_
  refine .head (.titles separates_spaced [_, _] _ [] [] _) ?_
  refine .head (.filter separates_spaced [_] _ _) ?_
  refine .head (.scope separates_indented [_, _] _ _) ?_
  refine .head (.limit spaced [_, _, _] _ _) ?_
  exact .single (.cursor [_, _, _, _] [] _)

theorem ofArguments_textMembers : (object structuredMembers).Writable ∧
    Relation.ReflTransGen Respelled structuredMembers textMembers ∧
    ofArguments {} (object textMembers).toValue =
      ofArguments {} (object structuredMembers).toValue :=
  ⟨writable_structuredMembers, respelled_textMembers,
    ofArguments_of_respelled respelled_textMembers writable_structuredMembers {}⟩

end SearchRequest

end OutlineSearch
