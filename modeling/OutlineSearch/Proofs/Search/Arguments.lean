import OutlineSearch.Proofs.Value.Plain
import OutlineSearch.Search.Request

/-!
# Requests from plain arguments

The properties and the time stamps of a filter come from the arguments of the request. When these
are plain, so are the properties, and the time stamps are finite.
-/

namespace OutlineSearch

open OutlineSearch.Schema

namespace Checked

variable {α β : Type}

theorem map_eq_valid {f : α → β} {c : Checked α} {b : β} :
    map f c = valid b ↔ ∃ a, c = valid a ∧ f a = b := by
  cases c <;> simp [map]

theorem bind_eq_valid {c : Checked α} {f : α → Checked β} {b : β} :
    bind c f = valid b ↔ ∃ a, c = valid a ∧ f a = valid b := by
  cases c <;> simp [bind]

theorem under_eq_valid {name : String} {c : Checked α} {a : α} :
    under name c = valid a ↔ c = valid a := by
  cases c <;> simp [under]

theorem apply_eq_valid {f : Checked (α → β)} {c : Checked α} {b : β} :
    apply f c = valid b ↔ ∃ g a, f = valid g ∧ c = valid a ∧ g a = b := by
  cases f <;> cases c <;> simp [apply]

theorem functorMap_eq (f : α → β) (c : Checked α) : f <$> c = map f c := rfl

theorem seq_eq (f : Checked (α → β)) (c : Checked α) : f <*> c = apply f c := rfl

end Checked

namespace Schema

variable {α : Type}

/-- A field is its default, or is read from an entry. -/
theorem field_eq_valid {es : List (Value × Value)} {names : List String} {default a : α}
    {read : Value → Checked α} (h : field es names default read = .valid a) :
    a = default ∨ ∃ name v, Value.lookup name es = some v ∧ read v = .valid a := by
  unfold field at h
  cases hpresent : present? es names with
  | none =>
    rw [hpresent] at h
    exact .inl (Checked.valid.inj h).symm
  | some found =>
    obtain ⟨name, v⟩ := found
    rw [hpresent] at h
    obtain ⟨n, -, hlookup⟩ := List.exists_of_findSome?_eq_some hpresent
    obtain ⟨v', hv', heq⟩ := Option.map_eq_some_iff.1 hlookup
    obtain ⟨rfl, rfl⟩ := Prod.mk.inj heq
    exact .inr ⟨n, v', hv', Checked.under_eq_valid.1 h⟩

theorem optional_eq_some {read : Value → Checked α} {v : Value} {a : α}
    (h : optional read v = .valid (some a)) : read v = .valid a := by
  cases v with
  | null => cases h
  | _ =>
    obtain ⟨b, hb, heq⟩ := Checked.map_eq_valid.1 h
    rwa [Option.some.inj heq] at hb

end Schema

namespace Json

/-- What stands under a name in the entries of an object is the value of a member. -/
theorem exists_of_lookup_toEntries {members : List (String × Json)} {name : String} {v : Value}
    (h : Value.lookup name (toEntries members) = some v) :
    ∃ m ∈ members, v = m.2.toValue := by
  unfold Value.lookup at h
  obtain ⟨e, hfind, rfl⟩ := Option.map_eq_some_iff.1 h
  have hmem := List.mem_of_find?_eq_some hfind
  clear hfind h
  induction members with
  | nil => cases hmem
  | cons m members ih =>
    obtain ⟨k, j⟩ := m
    rw [toEntries] at hmem
    rcases List.mem_cons.1 hmem with rfl | hmem
    · exact ⟨(k, j), .head _, rfl⟩
    · obtain ⟨m, hm, hv⟩ := ih hmem
      exact ⟨m, .tail _ hm, hv⟩

/-- An optional field of an object is read from the value of a member. -/
theorem exists_of_field {α : Type} {P : Json → Prop} {members : List (String × Json)}
    (hmembers : ∀ m ∈ members, P m.2) {names : List String} {read : Value → Checked α} {a : α}
    (h : field (toEntries members) names none (optional read) = .valid (some a)) :
    ∃ j : Json, P j ∧ read j.toValue = .valid a := by
  rcases field_eq_valid h with hnone | ⟨name, v, hlookup, hread⟩
  · cases hnone
  · obtain ⟨m, hm, rfl⟩ := exists_of_lookup_toEntries hlookup
    exact ⟨m.2, hmembers m hm, optional_eq_some hread⟩

end Json

/-- Properties are plain when they are the members of a plain object. -/
def Properties.Plain (p : Properties) : Prop :=
  ∃ members, (Json.object members).Plain ∧ p = members.map fun m => (m.1, m.2.toValue)

/-- A filter is plain when its properties are and its time stamps are finite. -/
structure Filter.Plain (f : Filter) : Prop where
  propertiesAny : ∀ p, f.propertiesAny = some p → Properties.Plain p
  propertiesAll : ∀ p, f.propertiesAll = some p → Properties.Plain p
  createdAfter : ∀ s, f.createdAfter = some s → s.document.Finite
  createdBefore : ∀ s, f.createdBefore = some s → s.document.Finite
  updatedAfter : ∀ s, f.updatedAfter = some s → s.document.Finite
  updatedBefore : ∀ s, f.updatedBefore = some s → s.document.Finite

theorem entries_toEntries (members : List (String × Json)) :
    Schema.entries (Json.toEntries members) = .valid (members.map fun m => (m.1, m.2.toValue)) := by
  induction members with
  | nil => rfl
  | cons m members ih =>
    obtain ⟨k, j⟩ := m
    rw [Json.toEntries, Schema.entries, ih]
    rfl

/-- Properties that are read from a document are the members of an object. -/
theorem Properties.exists_of_read {j : Json} {p : Properties}
    (h : namedValues j.toValue = .valid p) :
    ∃ members, j = .object members ∧ p = members.map fun m => (m.1, m.2.toValue) := by
  cases j with
  | object members =>
    rw [Json.toValue, namedValues, entries_toEntries] at h
    exact ⟨members, rfl, (Checked.valid.inj h).symm⟩
  | _ => cases h

theorem Stamp.finite_of_read {j : Json} (hj : j.Plain) {s : Stamp}
    (h : Stamp.read j.toValue = .valid s) : s.document.Finite := by
  cases j with
  | int n =>
    obtain rfl := Checked.valid.inj h
    trivial
  | float x =>
    obtain rfl := Checked.valid.inj h
    exact hj.finite
  | text t =>
    obtain rfl := Checked.valid.inj h
    trivial
  | bool b =>
    obtain rfl := Checked.valid.inj h
    trivial
  | null => cases h
  | list items => cases h
  | object members => cases h

/-- The properties and the time stamps of a filter are read from documents of a kind. -/
structure Filter.ReadFrom (P : Json → Prop) (f : Filter) : Prop where
  propertiesAny : ∀ p, f.propertiesAny = some p → ∃ j, P j ∧ namedValues j.toValue = .valid p
  propertiesAll : ∀ p, f.propertiesAll = some p → ∃ j, P j ∧ namedValues j.toValue = .valid p
  createdAfter : ∀ s, f.createdAfter = some s → ∃ j, P j ∧ Stamp.read j.toValue = .valid s
  createdBefore : ∀ s, f.createdBefore = some s → ∃ j, P j ∧ Stamp.read j.toValue = .valid s
  updatedAfter : ∀ s, f.updatedAfter = some s → ∃ j, P j ∧ Stamp.read j.toValue = .valid s
  updatedBefore : ∀ s, f.updatedBefore = some s → ∃ j, P j ∧ Stamp.read j.toValue = .valid s

/-- A filter that is read from a document is read from the members of an object. -/
theorem Filter.readFrom_of_read {P : Json → Prop} {j : Json}
    (hj : ∀ members, j = .object members → ∀ m ∈ members, P m.2) {f : Filter}
    (h : Filter.read j.toValue = .valid f) : f.ReadFrom P := by
  cases j with
  | object members =>
    have hmembers := hj members rfl
    change Filter.readFields (Json.toEntries members) = .valid f at h
    simp only [readFields, Checked.functorMap_eq, Checked.seq_eq, Checked.apply_eq_valid,
      Checked.map_eq_valid] at h
    obtain ⟨_, _, ⟨_, _, ⟨_, _, ⟨_, _, ⟨_, _, h, -, rfl⟩, -, rfl⟩, -, rfl⟩, -, rfl⟩, -, rfl⟩ := h
    obtain ⟨_, updatedBefore, h, hupdatedBefore, rfl⟩ := h
    obtain ⟨_, updatedAfter, h, hupdatedAfter, rfl⟩ := h
    obtain ⟨_, createdBefore, h, hcreatedBefore, rfl⟩ := h
    obtain ⟨_, createdAfter, h, hcreatedAfter, rfl⟩ := h
    obtain ⟨_, _, ⟨_, _, h, -, rfl⟩, -, rfl⟩ := h
    obtain ⟨_, propertiesAll, h, hpropertiesAll, rfl⟩ := h
    obtain ⟨_, propertiesAny, h, hpropertiesAny, rfl⟩ := h
    obtain ⟨_, _, ⟨_, -, rfl⟩, -, rfl⟩ := h
    have hfield {α : Type} {read : Value → Checked α} (names : List String) (o : Option α)
        (hread : field (Json.toEntries members) names none (optional read) = .valid o) :
        ∀ a, o = some a → ∃ j, P j ∧ read j.toValue = .valid a := by
      rintro a rfl
      exact Json.exists_of_field hmembers hread
    exact ⟨hfield _ _ hpropertiesAny, hfield _ _ hpropertiesAll, hfield _ _ hcreatedAfter,
      hfield _ _ hcreatedBefore, hfield _ _ hupdatedAfter, hfield _ _ hupdatedBefore⟩
  | _ => cases h

/-- A filter that is read from plain documents is plain. -/
theorem Filter.ReadFrom.plain {f : Filter} (h : f.ReadFrom Json.Plain) : f.Plain := by
  have hproperties {p : Properties} (hread : ∃ j : Json, j.Plain ∧ namedValues j.toValue = .valid p) :
      Properties.Plain p := by
    obtain ⟨j, hj, hread⟩ := hread
    obtain ⟨members, rfl, rfl⟩ := Properties.exists_of_read hread
    exact ⟨members, hj, rfl⟩
  have hstamp {s : Stamp} (hread : ∃ j : Json, j.Plain ∧ Stamp.read j.toValue = .valid s) :
      s.document.Finite := by
    obtain ⟨j, hj, hread⟩ := hread
    exact Stamp.finite_of_read hj hread
  exact ⟨fun p hp ↦ hproperties (h.propertiesAny p hp), fun p hp ↦ hproperties (h.propertiesAll p hp),
    fun s hs ↦ hstamp (h.createdAfter s hs), fun s hs ↦ hstamp (h.createdBefore s hs),
    fun s hs ↦ hstamp (h.updatedAfter s hs), fun s hs ↦ hstamp (h.updatedBefore s hs)⟩

/-- A request is read field by field. -/
theorem SearchRequest.readFields_eq_valid {l : Limits} {es : List (Value × Value)}
    {r : SearchRequest} :
    readFields l es = .valid r ↔
      field es ["query"] none (optional string) = .valid r.query ∧
      field es ["target"] .both (choice Target.named) = .valid r.target ∧
      field es ["scope"] none (optional Scope.read) = .valid r.scope ∧
      field es ["filter"] none (optional Filter.read) = .valid r.filter ∧
      field es ["sort"] .relevance (choice SortKey.named) = .valid r.sort ∧
      field es ["order"] .descending (choice SortOrder.named) = .valid r.order ∧
      field es ["limit"] 20 (fun v => (integer v).bind l.check) = .valid r.limit ∧
      field es ["cursor"] none (optional string) = .valid r.cursor ∧
      field es ["strict"] false truth = .valid r.strict := by
  simp only [readFields, Checked.functorMap_eq, Checked.seq_eq, Checked.apply_eq_valid,
    Checked.map_eq_valid]
  constructor
  · rintro ⟨_, strict, ⟨_, cursor, ⟨_, limit, ⟨_, order, ⟨_, sort, h, hsort, rfl⟩, horder, rfl⟩,
      hlimit, rfl⟩, hcursor, rfl⟩, hstrict, rfl⟩
    obtain ⟨_, filter, ⟨_, scope, ⟨_, target, ⟨query, hquery, rfl⟩, htarget, rfl⟩, hscope, rfl⟩,
      hfilter, rfl⟩ := h
    exact ⟨hquery, htarget, hscope, hfilter, hsort, horder, hlimit, hcursor, hstrict⟩
  · rintro ⟨hquery, htarget, hscope, hfilter, hsort, horder, hlimit, hcursor, hstrict⟩
    exact ⟨_, _, ⟨_, _, ⟨_, _, ⟨_, _, ⟨_, _, ⟨_, _, ⟨_, _, ⟨_, _, ⟨_, hquery, rfl⟩, htarget, rfl⟩,
      hscope, rfl⟩, hfilter, rfl⟩, hsort, rfl⟩, horder, rfl⟩, hlimit, rfl⟩, hcursor, rfl⟩, hstrict,
      rfl⟩

/-- The filter of a request that is read from the members of an object is read from one of them. -/
theorem SearchRequest.exists_of_filter {l : Limits} {members : List (String × Json)}
    {r : SearchRequest} (h : readFields l (Json.toEntries members) = .valid r) :
    ∀ f, r.filter = some f → ∃ m ∈ members, Filter.read m.2.toValue = .valid f := by
  obtain ⟨-, -, -, hfilter, -⟩ := readFields_eq_valid.1 h
  intro f hf
  rw [hf] at hfilter
  obtain ⟨j, ⟨m, hm, rfl⟩, hread⟩ :=
    Json.exists_of_field (P := fun j ↦ ∃ m ∈ members, m.2 = j) (fun m hm ↦ ⟨m, hm, rfl⟩) hfilter
  exact ⟨m, hm, hread⟩

theorem SearchRequest.read_of_ofArguments {l : Limits} {arguments : Value} {r : SearchRequest}
    (h : ofArguments l arguments = .ok r) : SearchRequest.read l arguments = .valid r := by
  unfold ofArguments at h
  split at h
  · next r' hr' => rwa [Except.ok.inj h] at hr'
  · cases h
  · cases h

/-- Arguments whose settled form is that of a plain object. -/
def SearchRequest.PlainArguments (l : Limits) (arguments : Value) : Prop :=
  ∀ es settled, arguments = .map es → SearchRequest.settle l es = .valid settled →
    ∃ members, (Json.object members).Plain ∧ settled = Json.toEntries members

/-- The filter of a request that is read from plain arguments is plain. -/
theorem SearchRequest.plain_filter {l : Limits} {arguments : Value} {r : SearchRequest}
    (hplain : PlainArguments l arguments) (h : ofArguments l arguments = .ok r) :
    ∀ f, r.filter = some f → f.Plain := by
  have hread := read_of_ofArguments h
  cases arguments with
  | map es =>
    obtain ⟨settled, hsettled, hfields⟩ := Checked.bind_eq_valid.1 hread
    obtain ⟨members, hmembers, rfl⟩ := hplain es settled rfl hsettled
    intro f hf
    obtain ⟨m, hm, hread⟩ := exists_of_filter hfields f hf
    have hmember := hmembers.member hm
    exact (Filter.readFrom_of_read (fun members hobject m hm ↦ (hobject ▸ hmember).member hm)
      hread).plain
  | _ => cases hread

end OutlineSearch
