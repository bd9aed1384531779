import OutlineSearch.Proofs.Outline.Faults
import OutlineSearch.Proofs.Search.RoundTrip

/-!
# What can be told

A value can be told unless it holds bytes that are no text, or an integer with too many digits to be
written, as a key or as a part. A page of results is told as a text when the properties of its
records can be told; otherwise the only fault is that of writing the one or the other.
-/

namespace OutlineSearch

open OutlineSearch.Number OutlineSearch.Engine

/-- The fault of writing bytes that are no text, or an integer with too many digits. -/
inductive Fault.OfWriting : Fault → Prop where
  | undecodable (text : String) : OfWriting (.undecodable text)
  | tooLong : OfWriting (.badValue tooLongToWrite)

/-! ### Values -/

namespace Value

mutual

/-- Whether a value can be told. -/
def isTellable : Value → Bool
  | int n => (Json.int n).isShort
  | bytes data => (bytesDocument data).isOk
  | list items | tuple items | set items => areTellable items
  | map entries => areTellableEntries entries
  | _ => true

/-- Whether the items of a collection can be told. -/
def areTellable : List Value → Bool
  | [] => true
  | v :: rest => isTellable v && areTellable rest

/-- Whether the entries of a map can be told. -/
def areTellableEntries : List (Value × Value) → Bool
  | [] => true
  | (k, v) :: rest => isTellable k && isTellable v && areTellableEntries rest

end

mutual

/-- A value that can be told is written as a key. -/
theorem exists_keyDocument : (v : Value) → v.isTellable = true → ∃ name, v.keyDocument = .ok name
  | .bytes data, h => Outline.isOk_iff.1 h
  | .tuple items, h => by
    obtain ⟨parts, hparts⟩ := exists_keyDocuments items h
    exact ⟨",".intercalate parts, by rw [keyDocument, hparts]; rfl⟩
  | .float x, _ => by cases x <;> exact ⟨_, rfl⟩
  | .null, _ | .bool _, _ | .int _, _ | .text _, _ | .list _, _ | .set _, _ | .map _, _ | .date _, _
  | .moment _, _ => ⟨_, rfl⟩

theorem exists_keyDocuments : (items : List Value) → areTellable items = true →
    ∃ parts, keyDocuments items = .ok parts
  | [], _ => ⟨[], rfl⟩
  | v :: rest, h => by
    rw [areTellable, Bool.and_eq_true] at h
    obtain ⟨name, hname⟩ := exists_keyDocument v h.1
    obtain ⟨parts, hparts⟩ := exists_keyDocuments rest h.2
    exact ⟨name :: parts, by rw [keyDocuments, hname, hparts]; rfl⟩

end

theorem areShortMembers_putMember {key : String} {j : Json} {members : List (String × Json)}
    (hj : j.isShort = true) (h : Json.areShortMembers members = true) :
    Json.areShortMembers (Json.putMember key j members) = true := by
  induction members with
  | nil => rw [Json.putMember, Json.areShortMembers, hj]; rfl
  | cons m members ih =>
    obtain ⟨k, j'⟩ := m
    rw [Json.areShortMembers, Bool.and_eq_true] at h
    rw [Json.putMember]
    split
    · rw [Json.areShortMembers, hj, h.2]; rfl
    · rw [Json.areShortMembers, h.1, ih h.2]; rfl

mutual

/-- A value that can be told has a document, and the integers of it are short. -/
theorem exists_tellable : (v : Value) → v.isTellable = true →
    ∃ j, v.document = .ok j ∧ j.isShort = true
  | .int n, h => ⟨.int n, rfl, h⟩
  | .float x, _ => ⟨_, rfl, by split <;> rfl⟩
  | .null, _ | .bool _, _ | .text _, _ | .date _, _ | .moment _, _ => ⟨_, rfl, rfl⟩
  | .bytes data, h => by
    obtain ⟨s, hs⟩ := Outline.isOk_iff.1 h
    exact ⟨.text s, by rw [document, hs]; rfl, rfl⟩
  | .list items, h => by
    obtain ⟨js, hjs, hshort⟩ := exists_tellables items h
    exact ⟨.list js, by rw [document, hjs]; rfl, hshort⟩
  | .tuple items, h => by
    obtain ⟨js, hjs, hshort⟩ := exists_tellables items h
    exact ⟨.list js, by rw [document, hjs]; rfl, hshort⟩
  | .set items, h => by
    obtain ⟨js, hjs, hshort⟩ := exists_tellables items h
    exact ⟨.list js, by rw [document, hjs]; rfl, hshort⟩
  | .map entries, h => by
    obtain ⟨members, hmembers, hshort⟩ := exists_tellableMembers entries [] h rfl
    exact ⟨.object members, by rw [document, hmembers]; rfl, hshort⟩

theorem exists_tellables : (items : List Value) → areTellable items = true →
    ∃ js, documents items = .ok js ∧ Json.areShort js = true
  | [], _ => ⟨[], rfl, rfl⟩
  | v :: rest, h => by
    rw [areTellable, Bool.and_eq_true] at h
    obtain ⟨j, hj, hshort⟩ := exists_tellable v h.1
    obtain ⟨js, hjs, hrest⟩ := exists_tellables rest h.2
    refine ⟨j :: js, by rw [documents, hj, hjs]; rfl, ?_⟩
    rw [Json.areShort, hshort, hrest]
    rfl

theorem exists_tellableMembers : (entries : List (Value × Value)) →
    (written : List (String × Json)) → areTellableEntries entries = true →
    Json.areShortMembers written = true →
    ∃ members, memberDocuments written entries = .ok members ∧ Json.areShortMembers members = true
  | [], written, _, hwritten => ⟨written, rfl, hwritten⟩
  | (k, v) :: rest, written, h, hwritten => by
    rw [areTellableEntries, Bool.and_eq_true, Bool.and_eq_true] at h
    obtain ⟨name, hname⟩ := exists_keyDocument k h.1.1
    obtain ⟨j, hj, hshort⟩ := exists_tellable v h.1.2
    obtain ⟨members, hmembers, hall⟩ := exists_tellableMembers rest (Json.putMember name j written)
      h.2 (areShortMembers_putMember hshort hwritten)
    exact ⟨members, by rw [memberDocuments, hname, hj]; exact hmembers, hall⟩

end

/-! ### Faults of writing -/

end Value

namespace Outcome

variable {α β : Type}

/-- The outcome is no fault but that of bytes that are no text. -/
def Decodes (o : Outcome α) : Prop := ∀ fault, o = .error fault → ∃ text, fault = .undecodable text

theorem decodes_ok (a : α) : Decodes (.ok a) := fun _ h ↦ nomatch h

theorem Decodes.bind {o : Outcome α} {f : α → Outcome β} (ho : o.Decodes)
    (hf : ∀ a, (f a).Decodes) : Decodes (o >>= f) := by
  cases o with
  | ok a => exact hf a
  | error fault =>
    intro fault' h
    cases h
    exact ho fault rfl

theorem Decodes.map {o : Outcome α} (ho : o.Decodes) (f : α → β) : Decodes (o.map f) := by
  cases o with
  | ok a => exact decodes_ok (f a)
  | error fault =>
    intro fault' h
    cases h
    exact ho fault rfl

end Outcome

open Outcome

namespace Value

theorem decodes_bytesDocument (data : List UInt8) : (bytesDocument data).Decodes := by
  intro fault h
  unfold bytesDocument at h
  split at h
  · cases h
  · cases h
    exact ⟨_, rfl⟩

mutual

theorem decodes_keyDocument : (v : Value) → v.keyDocument.Decodes
  | .bytes data => decodes_bytesDocument data
  | .tuple items => (decodes_keyDocuments items).map _
  | .float x => by cases x <;> exact decodes_ok _
  | .null | .bool _ | .int _ | .text _ | .list _ | .set _ | .map _ | .date _ | .moment _ =>
    decodes_ok _

theorem decodes_keyDocuments : (items : List Value) → (keyDocuments items).Decodes
  | [] => decodes_ok _
  | v :: rest => by
    rw [keyDocuments]
    exact (decodes_keyDocument v).bind fun _ ↦ (decodes_keyDocuments rest).bind fun _ ↦ decodes_ok _

end

mutual

/-- Only bytes that are no text have no document. -/
theorem decodes_document : (v : Value) → v.document.Decodes
  | .bytes data => (decodes_bytesDocument data).map _
  | .list items | .tuple items | .set items => (decodes_documents items).map _
  | .map entries => (decodes_memberDocuments entries []).map _
  | .null | .bool _ | .int _ | .float _ | .text _ | .date _ | .moment _ => decodes_ok _

theorem decodes_documents : (items : List Value) → (documents items).Decodes
  | [] => decodes_ok _
  | v :: rest => by
    rw [documents]
    exact (decodes_document v).bind fun _ ↦ (decodes_documents rest).bind fun _ ↦ decodes_ok _

theorem decodes_memberDocuments : (entries : List (Value × Value)) →
    (written : List (String × Json)) → (memberDocuments written entries).Decodes
  | [], _ => decodes_ok _
  | (k, v) :: rest, written => by
    rw [memberDocuments]
    exact (decodes_keyDocument k).bind fun _ ↦ (decodes_document v).bind fun _ ↦
      decodes_memberDocuments rest _

end

end Value

/-! ### Properties and records -/

/-- Whether all properties can be told. -/
def Properties.areTellable (p : Properties) : Bool := p.all fun entry => entry.2.isTellable

theorem Properties.exists_tellable {p : Properties} (h : p.areTellable = true) :
    ∃ j, Value.propertiesDocument p = .ok j ∧ j.isShort = true := by
  refine Value.exists_tellable (Value.ofProperties p) ?_
  change Value.areTellableEntries (p.map fun m => (Value.text m.1, m.2)) = true
  induction p with
  | nil => rfl
  | cons entry p ih =>
    rw [areTellable, List.all_cons, Bool.and_eq_true] at h
    rw [List.map_cons, Value.areTellableEntries, h.1, ih h.2]
    rfl

/-- What a record has beside the fields of all records can be told. -/
def Detail.Tellable : Detail → Prop
  | .page _ journalDay _ => ∀ day, journalDay = some day → (Json.int day).isShort = true
  | .property _ _ _ value => value.isTellable = true
  | _ => True

/-- A record can be told. -/
structure Record.Tellable (r : Record) : Prop where
  properties : r.properties.areTellable = true
  created : ∀ s, r.created = some s → s.document.isShort = true
  updated : ∀ s, r.updated = some s → s.document.isShort = true
  detail : r.detail.Tellable

namespace Record

theorem areShortMembers_iff {members : List (String × Json)} :
    Json.areShortMembers members = true ↔ ∀ m ∈ members, m.2.isShort = true := by
  induction members with
  | nil => exact ⟨fun _ ↦ List.forall_mem_nil _, fun _ ↦ rfl⟩
  | cons m members ih => rw [Json.areShortMembers, Bool.and_eq_true, ih, List.forall_mem_cons]

theorem areShort_iff {items : List Json} :
    Json.areShort items = true ↔ ∀ j ∈ items, j.isShort = true := by
  induction items with
  | nil => exact ⟨fun _ ↦ List.forall_mem_nil _, fun _ ↦ rfl⟩
  | cons j items ih => rw [Json.areShort, Bool.and_eq_true, ih, List.forall_mem_cons]

/-- The integers of what a field holds are short. -/
def IsShort (f : Field) : Prop := ∀ j, f.2 = some j → j.isShort = true

theorem isShort_texts (items : List String) : (Json.list (items.map .text)).isShort = true :=
  areShort_iff.2 (List.forall_mem_map.2 fun _ _ ↦ rfl)

theorem isShort_some {j : Json} (h : j.isShort = true) (name : String) :
    IsShort (name, some j) := by
  intro j' hj
  rwa [← Option.some.inj hj]

theorem isShort_none (name : String) : IsShort (name, none) := by
  intro j hj
  cases hj

theorem isShort_map {α : Type} {o : Option α} {write : α → Json}
    (h : ∀ a, o = some a → (write a).isShort = true) (name : String) :
    IsShort (name, o.map write) := by
  intro j hj
  obtain ⟨a, ha, rfl⟩ := Option.map_eq_some_iff.1 hj
  exact h a ha

/-- The own part of a record that can be told is written, and its integers are short. -/
theorem exists_detailFields {d : Detail} (h : d.Tellable) :
    ∃ own, detailFields d = .ok own ∧ ∀ f ∈ own, IsShort f := by
  cases d with
  | page journal journalDay reason =>
    refine ⟨_, rfl, ?_⟩
    simp only [List.forall_mem_cons]
    exact ⟨isShort_some rfl _, isShort_map h _, isShort_map (fun _ _ ↦ rfl) _,
      List.forall_mem_nil _⟩
  | block page parent children =>
    refine ⟨_, rfl, ?_⟩
    simp only [List.forall_mem_cons]
    exact ⟨isShort_some rfl _, isShort_map (fun _ _ ↦ rfl) _, isShort_some (isShort_texts _) _,
      List.forall_mem_nil _⟩
  | template templateType placeholders =>
    refine ⟨_, rfl, ?_⟩
    simp only [List.forall_mem_cons]
    exact ⟨isShort_some rfl _, isShort_some (isShort_texts _) _, List.forall_mem_nil _⟩
  | task page status scheduled deadline =>
    refine ⟨_, rfl, ?_⟩
    simp only [List.forall_mem_cons]
    exact ⟨isShort_some rfl _, isShort_some rfl _, isShort_map (fun _ _ ↦ rfl) _,
      isShort_map (fun _ _ ↦ rfl) _, List.forall_mem_nil _⟩
  | property owner page key value =>
    obtain ⟨j, hj, hshort⟩ := Value.exists_tellable value h
    refine ⟨_, by rw [detailFields, hj]; rfl, ?_⟩
    simp only [List.forall_mem_cons]
    refine ⟨isShort_some rfl _, isShort_some rfl _, isShort_some rfl _, ?_, List.forall_mem_nil _⟩
    split
    · exact isShort_none _
    · exact isShort_some hshort _

/-- A record that can be told has a document, and the integers of it are short. -/
theorem exists_briefDocument {r : Record} (h : r.Tellable) :
    ∃ j, r.briefDocument = .ok j ∧ j.isShort = true := by
  obtain ⟨properties, hproperties, hshort⟩ := Properties.exists_tellable h.properties
  obtain ⟨own, hown, hownShort⟩ := exists_detailFields h.detail
  have hfields : ∀ f ∈ shared r properties ++ own, IsShort f := by
    rw [List.forall_mem_append]
    refine ⟨?_, hownShort⟩
    simp only [shared, List.forall_mem_cons]
    exact ⟨isShort_some rfl _, isShort_some rfl _, isShort_some rfl _, isShort_some hshort _,
      isShort_some (isShort_texts _) _, isShort_map h.created _, isShort_map h.updated _,
      isShort_some rfl _, isShort_some rfl _, List.forall_mem_nil _⟩
  refine ⟨.object (present (shared r properties ++ own)), ?_, ?_⟩
  · rw [briefDocument, fields_eq hproperties hown]
    rfl
  · exact areShortMembers_iff.2 fun m hm ↦ hfields _ (mem_present.1 hm) m.2 rfl

theorem decodes_briefDocument (r : Record) : r.briefDocument.Decodes := by
  have hdetail : (detailFields r.detail).Decodes := by
    cases r.detail with
    | property owner page key value =>
      exact (Value.decodes_document value).bind fun _ ↦ decodes_ok _
    | _ => exact decodes_ok _
  have hfields : r.fields.Decodes := (Value.decodes_document (Value.ofProperties r.properties)).bind
    fun _ ↦ hdetail.bind fun _ ↦ decodes_ok _
  exact hfields.bind fun _ ↦ decodes_ok _

end Record

/-! ### Pages of results -/

namespace SearchResult

open OutlineSearch.Record

variable {page : SearchResult}

theorem exists_shortDocuments {records : List Record} (h : ∀ x ∈ records, x.Tellable) :
    ∃ documents, recordDocuments Record.briefDocument records = .ok documents ∧
      (Json.list documents).isShort = true := by
  induction records with
  | nil => exact ⟨[], rfl, rfl⟩
  | cons x records ih =>
    rw [List.forall_mem_cons] at h
    obtain ⟨j, hj, hshort⟩ := exists_briefDocument h.1
    obtain ⟨documents, hdocuments, hrest⟩ := ih h.2
    refine ⟨j :: documents, by rw [recordDocuments, hj, hdocuments]; rfl, ?_⟩
    rw [Json.isShort] at hrest ⊢
    rw [Json.areShort, hshort, hrest]
    rfl

/-- A page whose records can be told, and whose number of records is short, is told. -/
theorem exists_searchText (h : ∀ x ∈ page.results, x.Tellable)
    (htotal : (Json.int page.totalFound).isShort = true) :
    ∃ text, searchText (.ok page) = .ok text := by
  obtain ⟨documents, hdocuments, hshort⟩ := exists_shortDocuments h
  have hfields : ∀ f ∈ fieldsOf page documents, IsShort f := by
    simp only [fieldsOf, List.forall_mem_cons]
    exact ⟨isShort_some hshort _, isShort_some htotal _, isShort_some rfl _,
      isShort_map (fun _ _ ↦ rfl) _, List.forall_mem_nil _⟩
  rw [searchText, resultText, briefDocument_eq hdocuments]
  exact ⟨_, if_pos (areShortMembers_iff.2 fun m hm ↦ hfields _ (mem_present.1 hm) m.2 rfl)⟩

/-- A page that is not told fails with the fault of writing it. -/
theorem ofWriting_searchText {fault : Fault} (h : searchText (.ok page) = .error fault) :
    fault.OfWriting := by
  have hrecords (records : List Record) :
      (recordDocuments Record.briefDocument records).Decodes := by
    induction records with
    | nil => exact decodes_ok _
    | cons x records ih => exact (decodes_briefDocument x).bind fun _ ↦ ih.bind fun _ ↦ decodes_ok _
  have hpage : page.briefDocument.Decodes := (hrecords page.results).bind fun _ ↦ decodes_ok _
  rw [searchText, resultText] at h
  cases hdocument : page.briefDocument with
  | error fault' =>
    rw [hdocument] at h
    obtain ⟨text, rfl⟩ := hpage fault' hdocument
    cases h
    exact .undecodable text
  | ok j =>
    rw [hdocument] at h
    change Json.written Json.indented j = .error fault at h
    unfold Json.written at h
    split at h
    · cases h
    · cases h
      exact .tooLong

end SearchResult

end OutlineSearch
