import OutlineSearch.Proofs.Search.Arguments
import OutlineSearch.Proofs.Value.Wanted
import OutlineSearch.Search.Execute

/-!
# Requests under one key

The key of a request tells its query, its target, its limit and its shape apart, since only the query
can hold a colon. When the digest tells the texts of two shapes apart, requests with plain filters
under one key agree in all that decides their results, except for the order in which the members of
wanted properties are written.
-/

namespace OutlineSearch

open OutlineSearch.Text

/-! ### Keys -/

namespace Digest

theorem hex_two {n : Nat} (hn : n < 256) :
    hex 2 n = [Nat.digitChar (n / 16), Nat.digitChar (n % 16)] := by
  have hone : hex 1 (n / 16) = [Nat.digitChar (n / 16)] := by
    unfold hex
    rw [Nat.toDigits_of_lt_base (by omega)]
    rfl
  rw [Json.hex_succ (by decide), hone]
  rfl

theorem digitChar_ne_colon : ∀ d < 16, Nat.digitChar d ≠ ':' := by decide

/-- A text in hexadecimal has no colon. -/
theorem colon_not_mem_hexText (data : List UInt8) : ':' ∉ hexText data := by
  intro h
  obtain ⟨b, -, hb⟩ := List.mem_flatMap.1 h
  have hlt := b.toNat_lt
  rw [hex_two hlt] at hb
  simp only [List.mem_cons, List.not_mem_nil, or_false] at hb
  rcases hb with hb | hb
  · exact digitChar_ne_colon _ (by omega) hb.symm
  · exact digitChar_ne_colon _ (Nat.mod_lt _ (by decide)) hb.symm

end Digest

theorem colon_not_mem_toString (n : Int) : ':' ∉ (toString n).toList := by
  rw [Json.toList_toString, List.mem_append, not_or]
  constructor
  · split
    · decide
    · exact List.not_mem_nil
  · intro h
    exact absurd (Json.isDigit_toDigits _ _ h) (by decide)

theorem Target.colon_not_mem_name (t : Target) : ':' ∉ t.name.toList := by
  cases t <;> decide

theorem Target.name_inj {t t' : Target} (h : t.name = t'.name) : t = t' := by
  have hname (s : Target) : ofName s.name = s := by cases s <;> rfl
  rw [← hname t, h, hname]

/-- Two texts that are cut at the first place of a character are cut alike. -/
theorem cut_inj {c : Char} {a a' b b' : List Char} (ha : c ∉ a) (ha' : c ∉ a')
    (h : a ++ c :: b = a' ++ c :: b') : a = a' ∧ b = b' := by
  induction a generalizing a' with
  | nil =>
    cases a' with
    | nil => exact ⟨rfl, (List.cons.inj h).2⟩
    | cons d a' => exact absurd (by rw [(List.cons.inj h).1]; exact .head _) ha'
  | cons d a ih =>
    cases a' with
    | nil => exact absurd (by rw [← (List.cons.inj h).1]; exact .head _) ha
    | cons d' a' =>
      obtain ⟨rfl, htail⟩ := List.cons.inj h
      rw [List.mem_cons, not_or] at ha ha'
      obtain ⟨rfl, rfl⟩ := ih ha.2 ha'.2 htail
      exact ⟨rfl, rfl⟩

/-- Two texts that are cut at the last place of a character are cut alike. -/
theorem cut_last_inj {c : Char} {a a' b b' : List Char} (hb : c ∉ b) (hb' : c ∉ b')
    (h : a ++ c :: b = a' ++ c :: b') : a = a' ∧ b = b' := by
  have hreverse := congrArg List.reverse h
  rw [List.reverse_append, List.reverse_append, List.reverse_cons, List.reverse_cons,
    List.append_assoc, List.append_assoc] at hreverse
  obtain ⟨hlast, hfirst⟩ := cut_inj (by simpa using hb) (by simpa using hb') hreverse
  exact ⟨List.reverse_injective hfirst, List.reverse_injective hlast⟩

namespace Cache

theorem toList_queryKey (query target : String) (n : Int) (shape : String) :
    (queryKey query target n shape).toList = "search:".toList ++ (target.toList ++
      ':' :: ((toString n).toList ++ ':' :: (query.toList ++ ':' :: shape.toList))) := by
  change (_ ++ _ : String).toList = _
  simp [toString]

/-- A key tells the parts that it is made of apart. -/
theorem queryKey_inj {query query' shape shape' : String} {t t' : Target} {n n' : Int}
    (hshape : ':' ∉ shape.toList) (hshape' : ':' ∉ shape'.toList)
    (h : queryKey query t.name n shape = queryKey query' t'.name n' shape') :
    query = query' ∧ t = t' ∧ n = n' ∧ shape = shape' := by
  have hchars := congrArg String.toList h
  rw [toList_queryKey, toList_queryKey] at hchars
  obtain ⟨htarget, hchars⟩ := cut_inj t.colon_not_mem_name t'.colon_not_mem_name
    (List.append_cancel_left hchars)
  obtain ⟨hlimit, hchars⟩ := cut_inj (colon_not_mem_toString n) (colon_not_mem_toString n') hchars
  obtain ⟨hquery, hshape⟩ := cut_last_inj hshape hshape' hchars
  have hn : n = n' := by
    refine (Json.toString_inj Json.ends_nil Json.ends_nil ?_).1
    rw [hlimit]
  exact ⟨String.toList_inj.1 hquery, Target.name_inj (String.toList_inj.1 htarget), hn,
    String.toList_inj.1 hshape⟩

end Cache

/-! ### Documents of fields -/

namespace SearchRequest

/-- The fields that have a value. -/
def present (fields : List (String × Option Value)) : List (String × Option Value) :=
  fields.filter fun (_, v) => v.isSome

/-- Members are the documents of the fields that have a value. -/
inductive Written : List (String × Option Value) → List (String × Json) → Prop where
  | nil : Written [] []
  | absent {name : String} {fields : List (String × Option Value)}
    {members : List (String × Json)} (h : Written fields members) :
    Written ((name, none) :: fields) members
  | present {name : String} {v : Value} {j : Json} {fields : List (String × Option Value)}
    {members : List (String × Json)} (hj : fieldDocument v = .ok j) (h : Written fields members) :
    Written ((name, some v) :: fields) ((name, j) :: members)

section

variable {fields fields' : List (String × Option Value)} {members members' : List (String × Json)}

theorem written_of_memberDocuments (h : memberDocuments (present fields) = .ok members) :
    Written fields members := by
  induction fields generalizing members with
  | nil =>
    obtain rfl := Except.ok.inj h
    exact .nil
  | cons field fields ih =>
    obtain ⟨name, v⟩ := field
    cases v with
    | none => exact .absent (ih h)
    | some v =>
      change memberDocuments ((name, some v) :: present fields) = .ok members at h
      rw [memberDocuments, Option.map_some, Option.getD_some] at h
      cases hj : fieldDocument v with
      | error fault =>
        rw [hj] at h
        cases h
      | ok j =>
        cases hmore : memberDocuments (present fields) with
        | error fault =>
          rw [hj, hmore] at h
          cases h
        | ok more =>
          rw [hj, hmore] at h
          obtain rfl := Except.ok.inj h
          exact .present hj (ih hmore)

theorem Written.sublist (h : Written fields members) :
    (members.map Prod.fst).Sublist (fields.map Prod.fst) := by
  induction h with
  | nil => exact .slnil
  | absent _ ih => exact ih.cons _
  | present _ _ ih => exact ih.cons_cons _

theorem member?_eq_none {name : String} (h : name ∉ members.map Prod.fst) :
    (Json.object members).member? name = none := by
  rw [Json.member?, Option.map_eq_none_iff, List.find?_eq_none]
  intro m hm heq
  exact h (List.mem_map.2 ⟨m, hm, by simpa using heq⟩)

theorem member?_cons_ne {name name' : String} (h : name' ≠ name) (j : Json) :
    (Json.object ((name', j) :: members)).member? name = (Json.object members).member? name := by
  rw [Json.member?, Json.member?, List.find?_cons, beq_false_of_ne h]

/-- Under the name of a field stands the document of its value. -/
theorem Written.member? (h : Written fields members) (hnodup : (fields.map Prod.fst).Nodup)
    {name : String} {v : Option Value} (hmem : (name, v) ∈ fields) :
    v.map fieldDocument = ((Json.object members).member? name).map .ok := by
  induction h with
  | nil => cases hmem
  | @absent name' fields members h ih =>
    rw [List.map_cons, List.nodup_cons] at hnodup
    rcases List.mem_cons.1 hmem with heq | hmem
    · obtain ⟨rfl, rfl⟩ := Prod.mk.inj heq
      rw [member?_eq_none fun hname ↦ hnodup.1 (h.sublist.subset hname)]
      rfl
    · exact ih hnodup.2 hmem
  | @present name' v' j fields members hj h ih =>
    rw [List.map_cons, List.nodup_cons] at hnodup
    rcases List.mem_cons.1 hmem with heq | hmem
    · obtain ⟨rfl, rfl⟩ := Prod.mk.inj heq
      rw [Json.member?, List.find?_cons, beq_self_eq_true]
      exact congrArg some hj
    · have hne : name' ≠ name := fun heq ↦ hnodup.1 (heq ▸ List.mem_map.2 ⟨_, hmem, rfl⟩)
      rw [member?_cons_ne hne]
      exact ih hnodup.2 hmem

theorem Written.finite (h : Written fields members)
    (hfinite : ∀ name v j, (name, some v) ∈ fields → fieldDocument v = .ok j → j.Finite) :
    (Json.object members).Finite := by
  rw [Json.Finite]
  induction h with
  | nil => trivial
  | absent _ ih => exact ih fun name v j hmem ↦ hfinite name v j (.tail _ hmem)
  | present hj _ ih =>
    rw [Json.FiniteMembers]
    exact ⟨hfinite _ _ _ (.head _) hj, ih fun name v j hmem ↦ hfinite name v j (.tail _ hmem)⟩

/-- The document of a field with its names sorted. -/
def sortedField (v : Value) : Outcome Json := (fieldDocument v).map Json.sortNames

/-- Fields of one name in alike documents have alike values. -/
theorem Written.alike (h : Written fields members) (h' : Written fields' members')
    (hnodup : (fields.map Prod.fst).Nodup) (hnodup' : (fields'.map Prod.fst).Nodup)
    (halike : Json.Alike (.object members) (.object members')) {name : String}
    {v v' : Option Value} (hmem : (name, v) ∈ fields) (hmem' : (name, v') ∈ fields') :
    v.map sortedField = v'.map sortedField := by
  have hsorted {w : Option Value} {m : Option Json} (hw : w.map fieldDocument = m.map .ok) :
      w.map sortedField = (m.map Json.sortNames).map .ok := by
    have hmap := congrArg (Option.map (Except.map Json.sortNames)) hw
    rw [Option.map_map, Option.map_map] at hmap
    rw [Option.map_map]
    exact hmap
  rw [hsorted (h.member? hnodup hmem), hsorted (h'.member? hnodup' hmem'),
    halike.member? (hnodup.sublist h.sublist) (hnodup'.sublist h'.sublist)]

theorem eq_of_sortedField {α : Type} {f : α → Value} (hf : Function.Injective (sortedField ∘ f))
    {a a' : Option α} (h : (a.map f).map sortedField = (a'.map f).map sortedField) : a = a' := by
  rw [Option.map_map, Option.map_map] at h
  exact Option.map_injective hf h

end

theorem sortedField_int_injective : Function.Injective (sortedField ∘ Value.int) :=
  fun _ _ h ↦ Json.int.inj (Except.ok.inj h)

theorem sortedField_bool_injective : Function.Injective (sortedField ∘ Value.bool) :=
  fun _ _ h ↦ Json.bool.inj (Except.ok.inj h)

theorem sortedField_text_injective : Function.Injective (sortedField ∘ Value.text) :=
  fun _ _ h ↦ Json.text.inj (Except.ok.inj h)

theorem fieldDocument_stamp (s : Stamp) : fieldDocument s.toValue = .ok s.document := by
  cases s <;> rfl

theorem sortNames_stamp (s : Stamp) : s.document.sortNames = s.document := by
  cases s <;> rfl

theorem sortedField_stamp_injective : Function.Injective (sortedField ∘ Stamp.toValue) := by
  intro s s' h
  simp only [Function.comp_apply, sortedField, fieldDocument_stamp, Except.map, sortNames_stamp,
    Except.ok.injEq] at h
  cases s <;> cases s' <;> cases h <;> rfl

/-- Texts as a value. -/
def textsValue (ts : List String) : Value := .list (ts.map .text)

theorem documents_texts (ts : List String) :
    Value.documents (ts.map .text) = .ok (ts.map Json.text) := by
  induction ts with
  | nil => rfl
  | cons t ts ih =>
    rw [List.map_cons, Value.documents, ih]
    rfl

theorem fieldDocument_texts (ts : List String) :
    fieldDocument (textsValue ts) = .ok (.list (ts.map Json.text)) := by
  change (Value.documents (ts.map .text)).map Json.list = _
  rw [documents_texts]
  rfl

theorem sortNames_texts (ts : List String) :
    (Json.list (ts.map Json.text)).sortNames = .list (ts.map Json.text) := by
  rw [Json.sortNames, Json.sortNamesAll_eq, List.map_map]
  rfl

theorem sortedField_texts_injective : Function.Injective (sortedField ∘ textsValue) := by
  intro ts ts' h
  simp only [Function.comp_apply, sortedField, fieldDocument_texts, Except.map, sortNames_texts,
    Except.ok.injEq, Json.list.injEq] at h
  exact List.map_injective_iff.2 (fun _ _ h ↦ Json.text.inj h) h

/-- Scopes with alike documents are the same. -/
theorem scope_inj {s s' : Scope} {members members' : List (String × Json)}
    (h : Written s.fields members) (h' : Written s'.fields members')
    (halike : Json.Alike (.object members) (.object members')) : s = s' := by
  have hnames (t : Scope) : (t.fields.map Prod.fst).Nodup := by
    change ["namespace", "journal", "page_titles", "tag"].Nodup
    decide
  have hfield (i : Nat) {name : String} {v v' : Option Value} (hv : s.fields[i]? = some (name, v))
      (hv' : s'.fields[i]? = some (name, v')) : v.map sortedField = v'.map sortedField :=
    h.alike h' (hnames s) (hnames s') halike (List.mem_of_getElem? hv) (List.mem_of_getElem? hv')
  have hspace := eq_of_sortedField sortedField_text_injective (hfield 0 rfl rfl)
  have hjournal := eq_of_sortedField sortedField_bool_injective (hfield 1 rfl rfl)
  have htitles := eq_of_sortedField sortedField_texts_injective (hfield 2 rfl rfl)
  have htag := eq_of_sortedField sortedField_text_injective (hfield 3 rfl rfl)
  cases s
  cases s'
  congr

end SearchRequest

/-! ### Alike filters -/

/-- Wanted properties that differ at most in the order of names. -/
inductive Properties.Alike : Option Properties → Option Properties → Prop where
  | absent : Alike none none
  | present {members members' : List (String × Json)}
    (h : Json.Alike (.object members) (.object members')) :
    Alike (some (members.map fun m => (m.1, m.2.toValue)))
      (some (members'.map fun m => (m.1, m.2.toValue)))

/-- Filters that differ at most in the order of the names of wanted properties. -/
structure Filter.Alike (f f' : Filter) : Prop where
  rest : f' = { f with propertiesAny := f'.propertiesAny, propertiesAll := f'.propertiesAll }
  propertiesAny : Properties.Alike f.propertiesAny f'.propertiesAny
  propertiesAll : Properties.Alike f.propertiesAll f'.propertiesAll

namespace SearchRequest

/-- The members of an object as properties stand for the object. -/
theorem ofProperties_members (members : List (String × Json)) :
    Value.ofProperties (members.map fun m => (m.1, m.2.toValue)) =
      (Json.object members).toValue := by
  rw [Value.ofProperties, List.map_map, Json.toValue, Value.toEntries_eq]
  rfl

theorem fieldDocument_properties {members : List (String × Json)}
    (h : (Json.object members).Plain) :
    fieldDocument (Value.ofProperties (members.map fun m => (m.1, m.2.toValue))) =
      .ok (.object members) := by
  rw [ofProperties_members, Json.toValue]
  change Value.document (Json.object members).toValue = _
  exact Json.document_toValue h.finite h.distinct

theorem properties_alike {p p' : Option Properties} (hp : ∀ q, p = some q → Properties.Plain q)
    (hp' : ∀ q, p' = some q → Properties.Plain q)
    (h : (p.map Value.ofProperties).map sortedField = (p'.map Value.ofProperties).map sortedField) :
    Properties.Alike p p' := by
  cases p with
  | none =>
    cases p' with
    | none => exact .absent
    | some q' => cases h
  | some q =>
    cases p' with
    | none => cases h
    | some q' =>
      obtain ⟨members, hmembers, rfl⟩ := hp q rfl
      obtain ⟨members', hmembers', rfl⟩ := hp' q' rfl
      have hsorted := Option.some.inj h
      rw [sortedField, sortedField, fieldDocument_properties hmembers,
        fieldDocument_properties hmembers'] at hsorted
      exact .present (Except.ok.inj hsorted)

/-- The fields of a filter by the names under which callers write them. -/
def filterFields (f : Filter) : List (String × Option Value) :=
  f.fields.map fun x => (x.outerName, x.value)

/-- Plain filters with alike documents are alike. -/
theorem filter_alike {f f' : Filter} (hf : f.Plain) (hf' : f'.Plain)
    {members members' : List (String × Json)} (h : Written (filterFields f) members)
    (h' : Written (filterFields f') members')
    (halike : Json.Alike (.object members) (.object members')) : f.Alike f' := by
  have hnames (g : Filter) : ((filterFields g).map Prod.fst).Nodup := by
    change ["lengthMin", "lengthMax", "properties_any", "properties_all", "tags_any", "tags_all",
      "createdAfter", "createdBefore", "updatedAfter", "updatedBefore", "contains", "exclude",
      "todoState", "scheduledOn", "deadlinedOn"].Nodup
    decide
  have hfield (i : Nat) {name : String} {v v' : Option Value}
      (hv : (filterFields f)[i]? = some (name, v)) (hv' : (filterFields f')[i]? = some (name, v')) :
      v.map sortedField = v'.map sortedField :=
    h.alike h' (hnames f) (hnames f') halike (List.mem_of_getElem? hv) (List.mem_of_getElem? hv')
  have hlengthMin := eq_of_sortedField sortedField_int_injective (hfield 0 rfl rfl)
  have hlengthMax := eq_of_sortedField sortedField_int_injective (hfield 1 rfl rfl)
  have htagsAny := eq_of_sortedField sortedField_texts_injective (hfield 4 rfl rfl)
  have htagsAll := eq_of_sortedField sortedField_texts_injective (hfield 5 rfl rfl)
  have hcreatedAfter := eq_of_sortedField sortedField_stamp_injective (hfield 6 rfl rfl)
  have hcreatedBefore := eq_of_sortedField sortedField_stamp_injective (hfield 7 rfl rfl)
  have hupdatedAfter := eq_of_sortedField sortedField_stamp_injective (hfield 8 rfl rfl)
  have hupdatedBefore := eq_of_sortedField sortedField_stamp_injective (hfield 9 rfl rfl)
  have hcontains := eq_of_sortedField sortedField_text_injective (hfield 10 rfl rfl)
  have hexclude := eq_of_sortedField sortedField_text_injective (hfield 11 rfl rfl)
  have htodoState := eq_of_sortedField sortedField_text_injective (hfield 12 rfl rfl)
  have hscheduledOn := eq_of_sortedField sortedField_text_injective (hfield 13 rfl rfl)
  have hdeadlinedOn := eq_of_sortedField sortedField_text_injective (hfield 14 rfl rfl)
  refine ⟨?_, properties_alike hf.propertiesAny hf'.propertiesAny (hfield 2 rfl rfl),
    properties_alike hf.propertiesAll hf'.propertiesAll (hfield 3 rfl rfl)⟩
  rw [hlengthMin, hlengthMax, htagsAny, htagsAll, hcreatedAfter, hcreatedBefore, hupdatedAfter,
    hupdatedBefore, hcontains, hexclude, htodoState, hscheduledOn, hdeadlinedOn]

end SearchRequest

/-! ### Alike requests -/

/-- Optional filters that are both absent or alike. -/
inductive Filter.AlikeOption : Option Filter → Option Filter → Prop where
  | absent : AlikeOption none none
  | present {f f' : Filter} (h : f.Alike f') : AlikeOption (some f) (some f')

namespace SearchRequest

/-- Requests that agree in all that decides their results, but for the order of the names of wanted
properties. -/
structure Alike (r r' : SearchRequest) : Prop where
  query : r.trimmedQuery = r'.trimmedQuery
  target : r.target = r'.target
  limit : r.limit = r'.limit
  scope : r.scope = r'.scope
  filter : Filter.AlikeOption r.filter r'.filter
  sort : r.sort = r'.sort
  order : r.order = r'.order
  strict : r.strict = r'.strict

/-- The text whose digest is the shape of a request. -/
def shapeText (r : SearchRequest) : Outcome String :=
  r.shapeMembers.map fun members => Json.write Json.spaced (Json.sortNames (.object members))

/-- The digest of the text of a shape. -/
def digest (text : String) : String :=
  String.ofList ((Digest.hexText (Digest.sha1 (encode text))).take 12)

theorem shapeDigest_eq (r : SearchRequest) : r.shapeDigest = r.shapeText.map digest := by
  unfold shapeDigest shapeText
  cases r.shapeMembers with
  | ok members => rfl
  | error fault => rfl

theorem colon_not_mem_digest (text : String) : ':' ∉ (digest text).toList := by
  unfold digest
  rw [String.toList_ofList]
  exact fun h ↦ Digest.colon_not_mem_hexText _ (List.mem_of_mem_take h)

theorem cacheKey_eq_ok {r : SearchRequest} {key : String} (h : r.cacheKey = .ok key) :
    ∃ members, r.shapeMembers = .ok members ∧
      key = Cache.queryKey r.trimmedQuery r.target.name r.limit
        (digest (Json.write Json.spaced (Json.sortNames (.object members)))) := by
  rw [cacheKey, shapeDigest_eq, shapeText] at h
  cases hmembers : r.shapeMembers with
  | error fault =>
    rw [hmembers] at h
    cases h
  | ok members =>
    rw [hmembers] at h
    exact ⟨members, rfl, (Except.ok.inj h).symm⟩

/-- The document of an optional part of a request is that of the fields that have a value. -/
inductive WrittenPart {α : Type} (fields : α → List (String × Option Value)) :
    Option α → Option Json → Prop where
  | absent : WrittenPart fields none none
  | present {a : α} {members : List (String × Json)} (h : Written (fields a) members) :
    WrittenPart fields (some a) (some (.object members))

theorem writtenPart_of_partDocument {α : Type} {fields : α → List (String × Option Value)}
    {part : Option α} {j : Json} (h : partDocument (fun a => present (fields a)) part = .ok j) :
    WrittenPart fields part (part.map fun _ => j) := by
  cases part with
  | none => exact .absent
  | some a =>
    change (memberDocuments (present (fields a))).map Json.object = .ok j at h
    cases hmembers : memberDocuments (present (fields a)) with
    | error fault =>
      rw [hmembers] at h
      cases h
    | ok members =>
      rw [hmembers] at h
      obtain rfl := Except.ok.inj h
      exact .present (written_of_memberDocuments hmembers)

theorem WrittenPart.finite {α : Type} {fields : α → List (String × Option Value)}
    {part : Option α} {j : Option Json} (h : WrittenPart fields part j)
    (hfinite : ∀ a, part = some a → ∀ name v k, (name, some v) ∈ fields a →
      fieldDocument v = .ok k → k.Finite) : ∀ k, j = some k → k.Finite := by
  cases h with
  | absent =>
    intro k hk
    cases hk
  | present h =>
    intro k hk
    obtain rfl := Option.some.inj hk
    exact h.finite (hfinite _ rfl)

/-- The members of a shape whose scope and filter have the given documents. -/
def partMembers (r : SearchRequest) (scope filter : Option Json) : List (String × Json) :=
  (scope.map fun j => ("scope", j)).toList ++ (filter.map fun j => ("filter", j)).toList ++
    [("sort", .text r.sort.name), ("order", .text r.order.name), ("strict", .bool r.strict)]

/-- The members of the shape of a request: its scope, its filter, and the rest. -/
theorem shapeMembers_eq_ok {r : SearchRequest} {members : List (String × Json)}
    (h : r.shapeMembers = .ok members) : ∃ scope filter, members = r.partMembers scope filter ∧
      WrittenPart Scope.fields r.scope scope ∧ WrittenPart filterFields r.filter filter := by
  unfold shapeMembers at h
  change (partDocument (fun s : Scope => present s.fields) r.scope).bind (fun scope =>
    (partDocument (fun f : Filter => present (filterFields f)) r.filter).bind fun filter =>
      .ok ([("scope", r.scope.map fun _ => scope), ("filter", r.filter.map fun _ => filter),
        ("sort", some (.text r.sort.name)), ("order", some (.text r.order.name)),
        ("strict", some (.bool r.strict))].filterMap fun m => m.2.map fun j => (m.1, j))) =
    .ok members at h
  cases hscope : partDocument (fun s : Scope => present s.fields) r.scope with
  | error fault =>
    rw [hscope] at h
    cases h
  | ok scope =>
    cases hfilter : partDocument (fun f : Filter => present (filterFields f)) r.filter with
    | error fault =>
      rw [hscope, hfilter] at h
      cases h
    | ok filter =>
      rw [hscope, hfilter] at h
      refine ⟨_, _, (Except.ok.inj h).symm.trans ?_, writtenPart_of_partDocument hscope,
        writtenPart_of_partDocument hfilter⟩
      cases r.scope <;> cases r.filter <;> rfl

theorem nodup_partMembers (r : SearchRequest) (scope filter : Option Json) :
    ((r.partMembers scope filter).map Prod.fst).Nodup := by
  cases scope with
  | none =>
    cases filter with
    | none => exact (by decide : ["sort", "order", "strict"].Nodup)
    | some f => exact (by decide : ["filter", "sort", "order", "strict"].Nodup)
  | some s =>
    cases filter with
    | none => exact (by decide : ["scope", "sort", "order", "strict"].Nodup)
    | some f => exact (by decide : ["scope", "filter", "sort", "order", "strict"].Nodup)

theorem member?_partMembers (r : SearchRequest) (scope filter : Option Json) :
    (Json.object (r.partMembers scope filter)).member? "scope" = scope ∧
      (Json.object (r.partMembers scope filter)).member? "filter" = filter ∧
      (Json.object (r.partMembers scope filter)).member? "sort" = some (.text r.sort.name) ∧
      (Json.object (r.partMembers scope filter)).member? "order" = some (.text r.order.name) ∧
      (Json.object (r.partMembers scope filter)).member? "strict" = some (.bool r.strict) := by
  cases scope with
  | none =>
    cases filter with
    | none => exact ⟨rfl, rfl, rfl, rfl, rfl⟩
    | some f => exact ⟨rfl, rfl, rfl, rfl, rfl⟩
  | some s =>
    cases filter with
    | none => exact ⟨rfl, rfl, rfl, rfl, rfl⟩
    | some f => exact ⟨rfl, rfl, rfl, rfl, rfl⟩

theorem finite_partMembers (r : SearchRequest) {scope filter : Option Json}
    (hscope : ∀ j, scope = some j → j.Finite) (hfilter : ∀ j, filter = some j → j.Finite) :
    (Json.object (r.partMembers scope filter)).Finite := by
  rw [Json.Finite, Json.finiteMembers_iff]
  intro m hm
  rcases List.mem_append.1 hm with hm | hm
  · rcases List.mem_append.1 hm with hm | hm
    · obtain ⟨j, hj, rfl⟩ := Option.map_eq_some_iff.1 (Option.mem_toList.1 hm)
      exact hscope j hj
    · obtain ⟨j, hj, rfl⟩ := Option.map_eq_some_iff.1 (Option.mem_toList.1 hm)
      exact hfilter j hj
  · simp only [List.mem_cons, List.not_mem_nil, or_false] at hm
    rcases hm with rfl | rfl | rfl
    · trivial
    · trivial
    · trivial

end SearchRequest

theorem SortKey.name_inj {k k' : SortKey} (h : k.name = k'.name) : k = k' := by
  have hname (s : SortKey) : ofName s.name = s := by cases s <;> rfl
  rw [← hname k, h, hname]

theorem SortOrder.name_inj {o o' : SortOrder} (h : o.name = o'.name) : o = o' := by
  have hname (s : SortOrder) : ofName s.name = s := by cases s <;> rfl
  rw [← hname o, h, hname]

namespace SearchRequest

theorem finite_texts (ts : List String) : (Json.list (ts.map Json.text)).Finite := by
  rw [Json.Finite, Json.finiteAll_iff]
  intro j hj
  obtain ⟨t, -, rfl⟩ := List.mem_map.1 hj
  trivial

/-- What is so of every value that a field of a scope may have. -/
theorem forall_scopeFields {s : Scope} {P : Value → Prop} (htext : ∀ t, P (.text t))
    (hbool : ∀ b, P (.bool b)) (htexts : ∀ ts, P (textsValue ts)) {name : String} {v : Value}
    (h : (name, some v) ∈ s.fields) : P v := by
  have hfield {α : Type} {f : α → Value} (hf : ∀ x, P (f x)) {a : Option α}
      (hv : some v = a.map f) : P v := by
    obtain ⟨x, -, rfl⟩ := Option.map_eq_some_iff.1 hv.symm
    exact hf x
  simp only [Scope.fields, List.mem_cons, Prod.mk.injEq, List.not_mem_nil, or_false] at h
  rcases h with ⟨-, hv⟩ | ⟨-, hv⟩ | ⟨-, hv⟩ | ⟨-, hv⟩
  · exact hfield htext hv
  · exact hfield hbool hv
  · exact hfield htexts hv
  · exact hfield htext hv

/-- What is so of every value that a field of a filter may have, with the properties and the times
that the filter has. -/
theorem forall_filterFields {f : Filter} {P : Value → Prop} (hint : ∀ n, P (.int n))
    (htext : ∀ t, P (.text t)) (htexts : ∀ ts, P (textsValue ts))
    (hproperties : ∀ p, f.propertiesAny = some p ∨ f.propertiesAll = some p → P (.ofProperties p))
    (hstamp : ∀ s, f.createdAfter = some s ∨ f.createdBefore = some s ∨ f.updatedAfter = some s ∨
      f.updatedBefore = some s → P s.toValue)
    {name : String} {v : Value} (h : (name, some v) ∈ filterFields f) : P v := by
  have hfield {α : Type} {g : α → Value} {a : Option α} (hg : ∀ x, a = some x → P (g x))
      (hv : some v = a.map g) : P v := by
    obtain ⟨x, hx, rfl⟩ := Option.map_eq_some_iff.1 hv.symm
    exact hg x hx
  simp only [filterFields, Filter.fields, List.map_cons, List.map_nil, List.mem_cons,
    Prod.mk.injEq, List.not_mem_nil, or_false] at h
  rcases h with ⟨-, hv⟩ | ⟨-, hv⟩ | ⟨-, hv⟩ | ⟨-, hv⟩ | ⟨-, hv⟩ | ⟨-, hv⟩ | ⟨-, hv⟩ | ⟨-, hv⟩ |
    ⟨-, hv⟩ | ⟨-, hv⟩ | ⟨-, hv⟩ | ⟨-, hv⟩ | ⟨-, hv⟩ | ⟨-, hv⟩ | ⟨-, hv⟩
  · exact hfield (fun n _ ↦ hint n) hv
  · exact hfield (fun n _ ↦ hint n) hv
  · exact hfield (fun p hp ↦ hproperties p (.inl hp)) hv
  · exact hfield (fun p hp ↦ hproperties p (.inr hp)) hv
  · exact hfield (fun ts _ ↦ htexts ts) hv
  · exact hfield (fun ts _ ↦ htexts ts) hv
  · exact hfield (fun s hs ↦ hstamp s (.inl hs)) hv
  · exact hfield (fun s hs ↦ hstamp s (.inr (.inl hs))) hv
  · exact hfield (fun s hs ↦ hstamp s (.inr (.inr (.inl hs)))) hv
  · exact hfield (fun s hs ↦ hstamp s (.inr (.inr (.inr hs)))) hv
  · exact hfield (fun t _ ↦ htext t) hv
  · exact hfield (fun t _ ↦ htext t) hv
  · exact hfield (fun t _ ↦ htext t) hv
  · exact hfield (fun t _ ↦ htext t) hv
  · exact hfield (fun t _ ↦ htext t) hv

/-- The document of a value is finite, if it has one. -/
def FiniteField (v : Value) : Prop := ∀ j, fieldDocument v = .ok j → j.Finite

theorem finiteField_of_eq {v : Value} {j : Json} (hv : fieldDocument v = .ok j) (hj : j.Finite) :
    FiniteField v := by
  intro j' hj'
  obtain rfl := Except.ok.inj (hv.symm.trans hj')
  exact hj

theorem finiteField_text (t : String) : FiniteField (.text t) :=
  finiteField_of_eq (j := .text t) rfl trivial

theorem finiteField_texts (ts : List String) : FiniteField (textsValue ts) :=
  finiteField_of_eq (fieldDocument_texts ts) (finite_texts ts)

/-- The fields of a scope have finite documents. -/
theorem finite_scopeField {s : Scope} {name : String} {v : Value} {j : Json}
    (hmem : (name, some v) ∈ s.fields) (hj : fieldDocument v = .ok j) : j.Finite :=
  forall_scopeFields finiteField_text (fun b ↦ finiteField_of_eq (j := .bool b) rfl trivial)
    finiteField_texts hmem j hj

/-- The fields of a plain filter have finite documents. -/
theorem finite_filterField {f : Filter} (hf : f.Plain) {name : String} {v : Value} {j : Json}
    (hmem : (name, some v) ∈ filterFields f) (hj : fieldDocument v = .ok j) : j.Finite := by
  refine forall_filterFields (P := FiniteField) (fun n ↦ finiteField_of_eq (j := .int n) rfl trivial)
    finiteField_text finiteField_texts (fun p hp ↦ ?_) (fun s hs ↦ ?_) hmem j hj
  · obtain ⟨members, hmembers, rfl⟩ := hp.elim (hf.propertiesAny p) (hf.propertiesAll p)
    exact finiteField_of_eq (fieldDocument_properties hmembers) hmembers.finite
  · refine finiteField_of_eq (fieldDocument_stamp s) ?_
    rcases hs with hs | hs | hs | hs
    · exact hf.createdAfter s hs
    · exact hf.createdBefore s hs
    · exact hf.updatedAfter s hs
    · exact hf.updatedBefore s hs

theorem WrittenPart.scope_eq {s s' : Option Scope} {j j' : Option Json}
    (h : WrittenPart Scope.fields s j) (h' : WrittenPart Scope.fields s' j')
    (hj : j.map Json.sortNames = j'.map Json.sortNames) : s = s' := by
  cases h with
  | absent =>
    cases h' with
    | absent => rfl
    | present h' => cases hj
  | present h =>
    cases h' with
    | absent => cases hj
    | present h' => rw [scope_inj h h' (Option.some.inj hj)]

theorem WrittenPart.filter_alike {f f' : Option Filter} {j j' : Option Json}
    (h : WrittenPart filterFields f j) (h' : WrittenPart filterFields f' j')
    (hf : ∀ g, f = some g → g.Plain) (hf' : ∀ g, f' = some g → g.Plain)
    (hj : j.map Json.sortNames = j'.map Json.sortNames) : Filter.AlikeOption f f' := by
  cases h with
  | absent =>
    cases h' with
    | absent => exact .absent
    | present h' => cases hj
  | present h =>
    cases h' with
    | absent => cases hj
    | present h' =>
      exact .present (SearchRequest.filter_alike (hf _ rfl) (hf' _ rfl) h h' (Option.some.inj hj))

/-- Requests with plain filters under one key are alike when the digest tells the texts of their
shapes apart. -/
theorem alike_of_cacheKey {r r' : SearchRequest} {key : String} (hkey : r.cacheKey = .ok key)
    (hkey' : r'.cacheKey = .ok key) (hplain : ∀ f, r.filter = some f → f.Plain)
    (hplain' : ∀ f, r'.filter = some f → f.Plain)
    (hdigest : ∀ t t', r.shapeText = .ok t → r'.shapeText = .ok t' → digest t = digest t' → t = t') :
    r.Alike r' := by
  obtain ⟨members, hmembers, hparts⟩ := cacheKey_eq_ok hkey
  obtain ⟨members', hmembers', hparts'⟩ := cacheKey_eq_ok hkey'
  obtain ⟨hquery, htarget, hlimit, hshape⟩ := Cache.queryKey_inj (colon_not_mem_digest _)
    (colon_not_mem_digest _) (hparts.symm.trans hparts')
  have htext := hdigest _ _ (by rw [shapeText, hmembers]; rfl) (by rw [shapeText, hmembers']; rfl)
    hshape
  obtain ⟨scope, filter, rfl, hscope, hfilter⟩ := shapeMembers_eq_ok hmembers
  obtain ⟨scope', filter', rfl, hscope', hfilter'⟩ := shapeMembers_eq_ok hmembers'
  have hfinite := finite_partMembers r (hscope.finite fun _ _ _ _ _ ↦ finite_scopeField)
    (hfilter.finite fun f hf _ _ _ ↦ finite_filterField (hplain f hf))
  have hfinite' := finite_partMembers r' (hscope'.finite fun _ _ _ _ _ ↦ finite_scopeField)
    (hfilter'.finite fun f hf _ _ _ ↦ finite_filterField (hplain' f hf))
  have halike := Json.alike_of_write_eq hfinite hfinite' htext
  have hmember (name : String) := halike.member? (nodup_partMembers r scope filter)
    (nodup_partMembers r' scope' filter') name
  obtain ⟨hs, hf, hsort, horder, hstrict⟩ := member?_partMembers r scope filter
  obtain ⟨hs', hf', hsort', horder', hstrict'⟩ := member?_partMembers r' scope' filter'
  have hscopes := hmember "scope"
  have hfilters := hmember "filter"
  have hsorts := hmember "sort"
  have horders := hmember "order"
  have hstricts := hmember "strict"
  rw [hs, hs'] at hscopes
  rw [hf, hf'] at hfilters
  rw [hsort, hsort'] at hsorts
  rw [horder, horder'] at horders
  rw [hstrict, hstrict'] at hstricts
  exact ⟨hquery, htarget, hlimit, hscope.scope_eq hscope' hscopes,
    hfilter.filter_alike hfilter' hplain hplain' hfilters,
    SortKey.name_inj (Json.text.inj (Option.some.inj hsorts)),
    SortOrder.name_inj (Json.text.inj (Option.some.inj horders)),
    Json.bool.inj (Option.some.inj hstricts)⟩

end SearchRequest

end OutlineSearch
