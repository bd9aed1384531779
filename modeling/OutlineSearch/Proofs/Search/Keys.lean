import OutlineSearch.Proofs.Search.Finding
import OutlineSearch.Proofs.Search.Shape

/-!
# Keys of requests

Arguments that are a JSON document stay one while they are settled. So what a filter wants of
properties are the members of objects, which have documents themselves, and a request that is read
from such arguments can be answered: its cursor is a place, and it has a key.
-/

namespace OutlineSearch

open OutlineSearch.Schema OutlineSearch.Search

/-! ### Documents of documents -/

namespace Json

mutual

/-- What a document stands for has a document again. -/
theorem exists_document : (j : Json) → ∃ d, j.toValue.document = .ok d
  | null => ⟨_, rfl⟩
  | bool _ => ⟨_, rfl⟩
  | int _ => ⟨_, rfl⟩
  | float _ => ⟨_, rfl⟩
  | text _ => ⟨_, rfl⟩
  | list items => by
    obtain ⟨ds, hds⟩ := exists_documents items
    exact ⟨.list ds, by rw [toValue, Value.document, hds]; rfl⟩
  | object members => by
    obtain ⟨ms, hms⟩ := exists_memberDocuments members []
    exact ⟨.object ms, by rw [toValue, Value.document, hms]; rfl⟩

theorem exists_documents : (items : List Json) → ∃ ds, Value.documents (toValues items) = .ok ds
  | [] => ⟨[], rfl⟩
  | j :: rest => by
    obtain ⟨d, hd⟩ := exists_document j
    obtain ⟨ds, hds⟩ := exists_documents rest
    exact ⟨d :: ds, by rw [toValues, Value.documents, hd, hds]; rfl⟩

theorem exists_memberDocuments : (members : List (String × Json)) →
    (written : List (String × Json)) →
    ∃ ms, Value.memberDocuments written (toEntries members) = .ok ms
  | [], written => ⟨written, rfl⟩
  | (name, j) :: rest, written => by
    obtain ⟨d, hd⟩ := exists_document j
    obtain ⟨ms, hms⟩ := exists_memberDocuments rest (putMember name d written)
    exact ⟨ms, by rw [toEntries, Value.memberDocuments, hd]; exact hms⟩

end

end Json

/-! ### Settled arguments -/

namespace Value

/-- A value that a document stands for. -/
def IsDocument (v : Value) : Prop := ∃ j : Json, j.toValue = v

/-- Entries that the members of an object stand for. -/
def AreMembers (es : List (Value × Value)) : Prop :=
  ∀ e ∈ es, ∃ name v, e = (text name, v) ∧ v.IsDocument

theorem areMembers_toEntries (members : List (String × Json)) :
    AreMembers (Json.toEntries members) := by
  rw [toEntries_eq]
  intro e he
  obtain ⟨m, -, rfl⟩ := List.mem_map.1 he
  exact ⟨m.1, _, rfl, m.2, rfl⟩

theorem AreMembers.exists_toEntries {es : List (Value × Value)} (h : AreMembers es) :
    ∃ members, es = Json.toEntries members := by
  induction es with
  | nil => exact ⟨[], rfl⟩
  | cons e rest ih =>
    rw [AreMembers, List.forall_mem_cons] at h
    obtain ⟨⟨name, _, rfl, j, rfl⟩, hrest⟩ := h
    obtain ⟨members, rfl⟩ := ih hrest
    exact ⟨(name, j) :: members, rfl⟩

theorem isDocument_map {es : List (Value × Value)} : (map es).IsDocument ↔ AreMembers es := by
  constructor
  · rintro ⟨j, hj⟩
    cases j with
    | object members =>
      obtain rfl := Value.map.inj hj
      exact areMembers_toEntries members
    | _ => cases hj
  · intro h
    obtain ⟨members, rfl⟩ := h.exists_toEntries
    exact ⟨.object members, rfl⟩

variable {es : List (Value × Value)}

theorem AreMembers.get (h : AreMembers es) (name : String) : (get es name).IsDocument := by
  obtain ⟨members, rfl⟩ := h.exists_toEntries
  unfold Value.get
  cases hlookup : lookup name (Json.toEntries members) with
  | none => exact ⟨.null, rfl⟩
  | some v =>
    obtain ⟨m, -, rfl⟩ := Json.exists_of_lookup_toEntries hlookup
    exact ⟨m.2, rfl⟩

theorem AreMembers.put (h : AreMembers es) (name : String) {v : Value} (hv : v.IsDocument) :
    AreMembers (putText name v es) := by
  unfold putText
  induction es with
  | nil => exact List.forall_mem_singleton.2 ⟨name, v, rfl, hv⟩
  | cons e rest ih =>
    rw [AreMembers, List.forall_mem_cons] at h
    obtain ⟨⟨name', v', rfl, hv'⟩, hrest⟩ := h
    rw [Value.put]
    split
    · exact List.forall_mem_cons.2 ⟨⟨name', v, rfl, hv⟩, hrest⟩
    · exact List.forall_mem_cons.2 ⟨⟨name', v', rfl, hv'⟩, ih hrest⟩

end Value

namespace SearchRequest

open Value

variable {v : Value} {es : List (Value × Value)}

theorem isDocument_unwrap (h : v.IsDocument) : (unwrap v).IsDocument := by
  unfold unwrap
  split
  · next s =>
    cases Json.read? s.toList with
    | none => exact h
    | some j => exact ⟨j, rfl⟩
  · exact h

theorem isDocument_unwrapWithin (keys : List String) (h : v.IsDocument) :
    (unwrapWithin keys v).IsDocument := by
  unfold unwrapWithin
  split
  · rw [isDocument_map] at h ⊢
    intro e he
    obtain ⟨e, hmem, rfl⟩ := List.mem_map.1 he
    obtain ⟨name, v, rfl, hv⟩ := h e hmem
    dsimp only
    split
    · exact ⟨name, _, rfl, isDocument_unwrap hv⟩
    · exact ⟨name, v, rfl, hv⟩
  · exact h

theorem isDocument_limitOf {l : Limits} (h : AreMembers es) (hv : limitOf l es = .valid v) :
    v.IsDocument := by
  have hlimit := h.get "limit"
  unfold limitOf at hv
  split at hv
  · obtain rfl := Checked.valid.inj hv
    cases l.default with
    | none => exact ⟨.null, rfl⟩
    | some n => exact ⟨.int n, rfl⟩
  · split at hv
    · split at hv
      · obtain rfl := Checked.valid.inj hv
        exact ⟨.int _, rfl⟩
      · cases hv
    · obtain rfl := Checked.valid.inj hv
      exact ⟨.text _, rfl⟩
  · obtain rfl := Checked.valid.inj hv
    exact hlimit

theorem isDocument_cursorOf (h : AreMembers es) : (cursorOf es).IsDocument := by
  unfold cursorOf
  split
  · exact ⟨.text _, rfl⟩
  · exact ⟨.text _, rfl⟩
  · exact h.get "cursor"

/-- The members of an object stay members while they are settled. -/
theorem areMembers_settle {l : Limits} {settled : List (Value × Value)} (h : AreMembers es)
    (hsettled : settle l es = .valid settled) : AreMembers settled := by
  obtain ⟨limit, hlimit, rfl⟩ := Checked.map_eq_valid.1 hsettled
  have hfilter := h.put "filter"
    (isDocument_unwrapWithin ["tags_all", "tags_any"] (isDocument_unwrap (h.get "filter")))
  have hscope := hfilter.put "scope"
    (isDocument_unwrapWithin ["page_titles"] (isDocument_unwrap (h.get "scope")))
  have hput := (hscope.put "limit" (isDocument_limitOf h hlimit)).put "cursor"
    (isDocument_cursorOf h)
  exact fun e he ↦ hput e (List.mem_of_mem_filter he)

end SearchRequest

/-! ### Keys -/

/-- A filter that is read from documents. -/
abbrev Filter.Documented (f : Filter) : Prop := f.ReadFrom fun _ ↦ True

namespace SearchRequest

/-- A value that is written as the field of a document. -/
def HasField (v : Value) : Prop := ∃ j, fieldDocument v = .ok j

theorem hasField_text (t : String) : HasField (.text t) := ⟨.text t, rfl⟩

theorem hasField_texts (ts : List String) : HasField (textsValue ts) := ⟨_, fieldDocument_texts ts⟩

theorem hasField_properties {j : Json} {p : Properties} (h : namedValues j.toValue = .valid p) :
    HasField (Value.ofProperties p) := by
  obtain ⟨members, rfl, rfl⟩ := Properties.exists_of_read h
  rw [ofProperties_members]
  exact Json.exists_document (.object members)

theorem hasField_scope {s : Scope} {name : String} {v : Value} (h : (name, some v) ∈ s.fields) :
    HasField v :=
  forall_scopeFields hasField_text (fun b ↦ ⟨.bool b, rfl⟩) hasField_texts h

theorem hasField_filter {f : Filter} (hf : f.Documented) {name : String} {v : Value}
    (h : (name, some v) ∈ filterFields f) : HasField v := by
  refine forall_filterFields (fun n ↦ ⟨.int n, rfl⟩) hasField_text hasField_texts (fun p hp ↦ ?_)
    (fun s _ ↦ ⟨_, fieldDocument_stamp s⟩) h
  obtain ⟨j, -, hread⟩ := hp.elim (hf.propertiesAny p) (hf.propertiesAll p)
  exact hasField_properties hread

theorem exists_memberDocuments {fields : List (String × Option Value)}
    (h : ∀ name v, (name, some v) ∈ fields → HasField v) :
    ∃ members, memberDocuments (present fields) = .ok members := by
  induction fields with
  | nil => exact ⟨[], rfl⟩
  | cons field rest ih =>
    obtain ⟨name, v⟩ := field
    obtain ⟨members, hmembers⟩ := ih fun name v hmem ↦ h name v (.tail _ hmem)
    cases v with
    | none => exact ⟨members, hmembers⟩
    | some v =>
      obtain ⟨j, hj⟩ := h name v (.head _)
      refine ⟨(name, j) :: members, ?_⟩
      change memberDocuments ((name, some v) :: present rest) = _
      rw [memberDocuments, Option.map_some, Option.getD_some, hj, hmembers]
      rfl

theorem exists_partDocument {α : Type} {fields : α → List (String × Option Value)} {part : Option α}
    (h : ∀ a, part = some a → ∀ name v, (name, some v) ∈ fields a → HasField v) :
    ∃ j, partDocument (fun a => present (fields a)) part = .ok j := by
  cases part with
  | none => exact ⟨.null, rfl⟩
  | some a =>
    obtain ⟨members, hmembers⟩ := exists_memberDocuments (h a rfl)
    refine ⟨.object members, ?_⟩
    change (memberDocuments (present (fields a))).map Json.object = _
    rw [hmembers]
    rfl

/-- A request whose filter is read from documents has a key. -/
theorem exists_cacheKey {r : SearchRequest} (hr : ∀ f, r.filter = some f → f.Documented) :
    ∃ key, r.cacheKey = .ok key := by
  obtain ⟨scope, hscope⟩ : ∃ j, partDocument (fun s : Scope => present s.fields) r.scope = .ok j :=
    exists_partDocument fun _ _ _ _ hmem ↦ hasField_scope hmem
  obtain ⟨filter, hfilter⟩ :
      ∃ j, partDocument (fun f : Filter => present (filterFields f)) r.filter = .ok j :=
    exists_partDocument fun f hf _ _ hmem ↦ hasField_filter (hr f hf) hmem
  have hmembers : ∃ members, r.shapeMembers = .ok members := by
    unfold shapeMembers
    change ∃ members, ((partDocument (fun s : Scope => present s.fields) r.scope).bind fun scope =>
      (partDocument (fun f : Filter => present (filterFields f)) r.filter).bind fun filter => _) =
        Except.ok members
    rw [hscope, hfilter]
    exact ⟨_, rfl⟩
  obtain ⟨members, hmembers⟩ := hmembers
  rw [cacheKey, shapeDigest_eq, shapeText, hmembers]
  exact ⟨_, rfl⟩

/-- Every cursor is a place. -/
theorem exists_offset (r : SearchRequest) : ∃ offset, r.offset = .ok offset := by
  unfold offset SearchResult.offset
  cases r.cursor with
  | none => exact ⟨_, rfl⟩
  | some s =>
    rw [Option.map_some, Option.getD_some, SearchResult.cursorInteger]
    split <;> exact ⟨_, rfl⟩

/-- A request that is read from a document can be answered. -/
theorem exists_prepared {l : Limits} {j : Json} {r : SearchRequest}
    (h : ofArguments l j.toValue = .ok r) :
    ∃ offset key, prepared (ofArguments l j.toValue) = .ok (r, offset, key) := by
  have hfilter : ∀ f, r.filter = some f → f.Documented := by
    have hread := read_of_ofArguments h
    cases j with
    | object members =>
      obtain ⟨settled, hsettled, hfields⟩ := Checked.bind_eq_valid.1 hread
      obtain ⟨members', rfl⟩ :=
        (areMembers_settle (Value.areMembers_toEntries members) hsettled).exists_toEntries
      intro f hf
      obtain ⟨m, -, hread⟩ := exists_of_filter hfields f hf
      exact Filter.readFrom_of_read (fun _ _ _ _ ↦ trivial) hread
    | _ => cases hread
  obtain ⟨offset, hoffset⟩ := r.exists_offset
  obtain ⟨key, hkey⟩ := exists_cacheKey hfilter
  refine ⟨offset, key, ?_⟩
  rw [h, prepared_of_offset hoffset, hkey]
  rfl

end SearchRequest

end OutlineSearch
