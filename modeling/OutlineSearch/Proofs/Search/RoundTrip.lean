import OutlineSearch.Engine.Answer
import OutlineSearch.Proofs.Json.Reading
import OutlineSearch.Proofs.Number.Adding
import OutlineSearch.Proofs.Search.Arguments
import OutlineSearch.Proofs.Value.Wanted

/-!
# Results are read from what callers are told

A page of results is told as the text of a document. When its records hold nothing but what JSON can
hold, and no integer with too many digits, the text is read as that document, and the page is read
from the document field by field. A field that is null is not written; it is read as its default.
-/

namespace OutlineSearch

open OutlineSearch.Schema OutlineSearch.Engine

/-! ### What can be written -/

/-- A document that is read again from its text. -/
structure Json.Writable (j : Json) : Prop where
  plain : j.Plain
  short : j.isShort = true

/-- A value that is a document which is read again from its text. -/
def Value.Writable (v : Value) : Prop := ∃ j : Json, j.Writable ∧ v = j.toValue

/-- Properties whose values are such documents. -/
def Properties.Writable (p : Properties) : Prop :=
  ∃ members, (Json.object members).Writable ∧ p = members.map fun m => (m.1, m.2.toValue)

/-- What a record has beside the fields of all records can be written. -/
def Detail.Writable : Detail → Prop
  | .page _ journalDay _ => ∀ day, journalDay = some day → (Json.int day).Writable
  | .property _ _ _ value => value.Writable
  | _ => True

/-- A record can be written. -/
structure Record.Writable (r : Record) : Prop where
  properties : Properties.Writable r.properties
  created : ∀ s, r.created = some s → s.document.Writable
  updated : ∀ s, r.updated = some s → s.document.Writable
  score : (Json.float r.score).Writable
  detail : r.detail.Writable

/-- A page of results can be written. -/
structure SearchResult.Writable (r : SearchResult) : Prop where
  results : ∀ x ∈ r.results, x.Writable
  totalFound : (Json.int r.totalFound).Writable

namespace Json

theorem writable_bool (b : Bool) : (bool b).Writable := ⟨⟨trivial, trivial⟩, rfl⟩

theorem writable_text (s : String) : (text s).Writable := ⟨⟨trivial, trivial⟩, rfl⟩

theorem writable_list {items : List Json} (h : ∀ j ∈ items, j.Writable) : (list items).Writable := by
  have hall : FiniteAll items ∧ DistinctAll items ∧ areShort items = true := by
    induction items with
    | nil => exact ⟨trivial, trivial, rfl⟩
    | cons j items ih =>
      rw [List.forall_mem_cons] at h
      obtain ⟨hfinite, hdistinct, hshort⟩ := ih h.2
      refine ⟨⟨h.1.plain.finite, hfinite⟩, ⟨h.1.plain.distinct, hdistinct⟩, ?_⟩
      rw [areShort, h.1.short, hshort]
      rfl
  exact ⟨⟨hall.1, hall.2.1⟩, hall.2.2⟩

theorem writable_object {members : List (String × Json)} (hnodup : (members.map Prod.fst).Nodup)
    (h : ∀ m ∈ members, m.2.Writable) : (object members).Writable := by
  have hall : FiniteMembers members ∧ DistinctMembers members ∧ areShortMembers members = true := by
    clear hnodup
    induction members with
    | nil => exact ⟨trivial, trivial, rfl⟩
    | cons m members ih =>
      obtain ⟨k, j⟩ := m
      rw [List.forall_mem_cons] at h
      obtain ⟨hfinite, hdistinct, hshort⟩ := ih h.2
      refine ⟨⟨h.1.plain.finite, hfinite⟩, ⟨h.1.plain.distinct, hdistinct⟩, ?_⟩
      rw [areShortMembers, h.1.short, hshort]
      rfl
  exact ⟨⟨hall.1, hnodup, hall.2.1⟩, hall.2.2⟩

end Json

/-! ### Fields -/

namespace Record

/-- The members that fields become: those that are not null. -/
def present (fields : List Field) : List (String × Json) :=
  fields.filterMap fun (name, j) => j.map fun j => (name, j)

/-- The document in a field. -/
def inField (fields : List Field) (name : String) : Option Json :=
  (fields.find? (·.1 == name)).bind (·.2)

variable {fields own : List Field} {name : String} {j : Json}

theorem mem_present {m : String × Json} : m ∈ present fields ↔ (m.1, some m.2) ∈ fields := by
  rw [present, List.mem_filterMap]
  constructor
  · rintro ⟨⟨k, v⟩, hmem, heq⟩
    obtain ⟨j, hj, rfl⟩ := Option.map_eq_some_iff.1 heq
    obtain rfl : v = some j := hj
    exact hmem
  · exact fun hmem ↦ ⟨_, hmem, rfl⟩

theorem sublist_present (fields : List Field) :
    ((present fields).map Prod.fst).Sublist (fields.map Prod.fst) := by
  induction fields with
  | nil => exact .slnil
  | cons f fields ih =>
    obtain ⟨k, v⟩ := f
    cases v with
    | none => exact ih.cons k
    | some j => exact ih.cons_cons k

/-- What a field holds can be written. -/
def CanWrite (f : Field) : Prop := ∀ j, f.2 = some j → j.Writable

theorem canWrite_some (hj : j.Writable) (name : String) : CanWrite (name, some j) := by
  intro j' h
  rwa [← Option.some.inj h]

theorem canWrite_map {α : Type} {o : Option α} {write : α → Json}
    (h : ∀ a, o = some a → (write a).Writable) (name : String) :
    CanWrite (name, o.map write) := by
  intro j hj
  obtain ⟨a, ha, rfl⟩ := Option.map_eq_some_iff.1 hj
  exact h a ha

theorem writable_present (hnodup : (fields.map Prod.fst).Nodup) (h : ∀ f ∈ fields, CanWrite f) :
    (Json.object (present fields)).Writable :=
  Json.writable_object (hnodup.sublist (sublist_present fields))
    fun m hm ↦ h _ (mem_present.1 hm) m.2 rfl

theorem inField_cons (k : String) (v : Option Json) (fields : List Field) (name : String) :
    inField ((k, v) :: fields) name = if k = name then v else inField fields name := by
  rw [inField, List.find?_cons]
  by_cases h : k = name
  · rw [if_pos h, h, beq_self_eq_true]
    rfl
  · rw [if_neg h, beq_false_of_ne h]
    rfl

theorem lookup_toEntries_cons (k : String) (j : Json) (members : List (String × Json))
    (name : String) :
    Value.lookup name (Json.toEntries ((k, j) :: members)) =
      if k = name then some j.toValue else Value.lookup name (Json.toEntries members) := by
  rw [Json.toEntries, Value.lookup, List.find?_cons]
  dsimp only
  by_cases h : k = name
  · rw [if_pos h, h, beq_self_eq_true]
    rfl
  · rw [if_neg h, beq_false_of_ne h]
    rfl

theorem lookup_toEntries_of_not_mem {members : List (String × Json)}
    (h : name ∉ members.map Prod.fst) : Value.lookup name (Json.toEntries members) = none := by
  induction members with
  | nil => rfl
  | cons m members ih =>
    obtain ⟨k, j⟩ := m
    rw [List.map_cons, List.mem_cons, not_or] at h
    rw [lookup_toEntries_cons, if_neg (Ne.symm h.1), ih h.2]

/-- What stands under the name of a field is what the field holds. -/
theorem lookup_present (hnodup : (fields.map Prod.fst).Nodup) (name : String) :
    Value.lookup name (Json.toEntries (present fields)) =
      (inField fields name).map Json.toValue := by
  induction fields with
  | nil => rfl
  | cons f fields ih =>
    obtain ⟨k, v⟩ := f
    obtain ⟨hk, hrest⟩ := List.nodup_cons.1 hnodup
    rw [inField_cons]
    cases v with
    | none =>
      change Value.lookup name (Json.toEntries (present fields)) = _
      split
      · next h => exact lookup_toEntries_of_not_mem fun hmem ↦ hk ((sublist_present _).subset (h ▸ hmem))
      · exact ih hrest
    | some j =>
      change Value.lookup name (Json.toEntries ((k, j) :: present fields)) = _
      rw [lookup_toEntries_cons]
      split
      · rfl
      · exact ih hrest

section

variable {α : Type} {read : Value → Checked α} {a : α}

theorem required_of_some (hnodup : (fields.map Prod.fst).Nodup) (name : String)
    (hj : inField fields name = some j) (hread : read j.toValue = .valid a) :
    required (Json.toEntries (present fields)) [name] read = .valid a := by
  rw [required, present?, List.findSome?_singleton, lookup_present hnodup, hj]
  exact congrArg (Checked.under name) hread

theorem field_of_some (hnodup : (fields.map Prod.fst).Nodup) (name : String)
    (hj : inField fields name = some j) (hread : read j.toValue = .valid a) (default : α) :
    field (Json.toEntries (present fields)) [name] default read = .valid a := by
  rw [field, present?, List.findSome?_singleton, lookup_present hnodup, hj]
  exact congrArg (Checked.under name) hread

theorem field_of_none (hnodup : (fields.map Prod.fst).Nodup) (name : String)
    (hnone : inField fields name = none) (default : α) :
    field (Json.toEntries (present fields)) [name] default read = .valid default := by
  rw [field, present?, List.findSome?_singleton, lookup_present hnodup, hnone]
  rfl

/-- A field that may be null is read as what was written. -/
theorem field_of_map {o : Option α} {write : α → Json} (hnodup : (fields.map Prod.fst).Nodup)
    (name : String) (ho : inField fields name = o.map write)
    (hread : ∀ a, optional read (write a).toValue = .valid (some a)) :
    field (Json.toEntries (present fields)) [name] none (optional read) = .valid o := by
  cases o with
  | none => exact field_of_none hnodup name ho none
  | some a => exact field_of_some hnodup name ho (hread a) none

end

theorem isNull_toValue (h : j.toValue.isNull = true) : j.toValue = Value.null := by
  cases j with
  | null => rfl
  | _ => cases h

/-- A field of any kind is read as what was written. -/
theorem field_of_document (hnodup : (fields.map Prod.fst).Nodup) (name : String)
    (hj : inField fields name = if j.toValue.isNull then none else some j) :
    field (Json.toEntries (present fields)) [name] Value.null .valid = .valid j.toValue := by
  by_cases hnull : j.toValue.isNull = true
  · rw [isNull_toValue hnull]
    exact field_of_none hnodup name (hj.trans (if_pos hnull)) Value.null
  · exact field_of_some hnodup name (hj.trans (if_neg hnull)) rfl Value.null

theorem string_text (s : String) : string (Json.text s).toValue = .valid s := rfl

theorem truth_bool (b : Bool) : truth (Json.bool b).toValue = .valid b := rfl

theorem integer_int (n : Int) : integer (Json.int n).toValue = .valid n := rfl

theorem real_float (x : Binary64) : real (Json.float x).toValue = .valid x := rfl

theorem optional_string (s : String) :
    optional string (Json.text s).toValue = .valid (some s) := rfl

theorem optional_integer (n : Int) : optional integer (Json.int n).toValue = .valid (some n) := rfl

theorem optional_stamp (s : Stamp) :
    optional Stamp.read s.document.toValue = .valid (some s) := by
  cases s <;> rfl

theorem items_string (items : List String) (index : Nat) :
    Checked.items string index (Json.toValues (items.map .text)) = .valid items := by
  induction items generalizing index with
  | nil => rfl
  | cons s items ih =>
    rw [List.map_cons, Json.toValues, Checked.items, ih]
    rfl

theorem list_string (items : List String) :
    list string (Json.list (items.map .text)).toValue = .valid items := by
  rw [Json.toValue]
  exact items_string items 0

/-! ### Records -/

/-- The fields of all records. -/
def shared (r : Record) (properties : Json) : List Field :=
  [("id", some (.text r.id)), ("name", some (.text r.name)), ("content", some (.text r.content)),
    ("properties", some properties), ("tags", some (.list (r.tags.map .text))),
    ("created", r.created.map Stamp.document), ("updated", r.updated.map Stamp.document),
    ("relevance_score", some (.float r.score)), ("type", some (.text r.detail.kindName))]

theorem optional_choice (owner : Owner) :
    choice Owner.named (Json.text owner.name).toValue = .valid owner := by
  cases owner <;> rfl

/-- The fields of a record are those of all records and its own. -/
theorem fields_eq {r : Record} {properties : Json} {own : List Field}
    (hproperties : Value.propertiesDocument r.properties = .ok properties)
    (hown : detailFields r.detail = .ok own) : r.fields = .ok (shared r properties ++ own) := by
  rw [fields, hproperties, hown]
  rfl

/-- A record is read from its fields, given that its own part is. -/
theorem readFields_present {r : Record} {properties : Json} {own : List Field}
    (hnodup : ((shared r properties ++ own).map Prod.fst).Nodup)
    (hproperties : namedValues properties.toValue = .valid r.properties) :
    readFields (Json.toEntries (present (shared r properties ++ own))) (.valid r.detail) =
      .valid r := by
  have hid := required_of_some hnodup "id" (by simp [shared, inField_cons]) (string_text r.id)
  have hname := field_of_some hnodup "name" (by simp [shared, inField_cons]) (string_text r.name) ""
  have hcontent := field_of_some hnodup "content" (by simp [shared, inField_cons])
    (string_text r.content) ""
  have hproperties := field_of_some hnodup "properties" (by simp [shared, inField_cons])
    hproperties []
  have htags := field_of_some hnodup "tags" (by simp [shared, inField_cons]) (list_string r.tags) []
  have hcreated := field_of_map (o := r.created) hnodup "created" (by simp [shared, inField_cons])
    optional_stamp
  have hupdated := field_of_map (o := r.updated) hnodup "updated" (by simp [shared, inField_cons])
    optional_stamp
  have hscore := field_of_some hnodup "relevance_score" (by simp [shared, inField_cons])
    (real_float r.score) (.finite 0)
  rw [readFields, hid, hname, hcontent, hproperties, htags, hcreated, hupdated, hscore]
  rfl

theorem writable_texts (items : List String) : (Json.list (items.map .text)).Writable :=
  Json.writable_list (List.forall_mem_map.2 fun s _ ↦ Json.writable_text s)

theorem nodup_names {r : Record} {own : List Field} (properties : Json)
    (hown : detailFields r.detail = .ok own) :
    ((shared r properties ++ own).map Prod.fst).Nodup := by
  rw [List.map_append, shared]
  cases hdetail : r.detail with
  | property owner page key value =>
    rw [hdetail] at hown
    cases hvalue : value.document with
    | error fault =>
      rw [detailFields, hvalue] at hown
      cases hown
    | ok j =>
      rw [detailFields, hvalue] at hown
      cases hown
      simp only [List.map_cons, List.map_nil]
      decide
  | _ =>
    rw [hdetail] at hown
    cases hown
    simp only [List.map_cons, List.map_nil]
    decide

/-- The own part of a record is written as some fields, and is read from them. -/
structure Owns (r : Record) (properties : Json) (own : List Field) : Prop where
  fields : detailFields r.detail = .ok own
  canWrite : ∀ f ∈ own, CanWrite f
  read : (details (Json.toEntries (present (shared r properties ++ own)))).find?
      (fun (name, _) => name == r.detail.kindName) = some (r.detail.kindName, .valid r.detail)

section

variable {r : Record} (properties : Json)

theorem canWrite_text (name : String) (s : String) : CanWrite (name, some (.text s)) :=
  canWrite_some (Json.writable_text s) name

theorem canWrite_texts (name : String) (items : List String) :
    CanWrite (name, some (.list (items.map .text))) :=
  canWrite_some (writable_texts items) name

theorem canWrite_optional (name : String) (o : Option String) : CanWrite (name, o.map .text) :=
  canWrite_map (fun s _ ↦ Json.writable_text s) name

theorem exists_owns_page {journal : Bool} {journalDay : Option Int} {matchReason : Option String}
    (hdetail : r.detail = .page journal journalDay matchReason)
    (h : ∀ day, journalDay = some day → (Json.int day).Writable) : ∃ own, r.Owns properties own := by
  have hfields := congrArg detailFields hdetail
  have hnodup := nodup_names properties hfields
  refine ⟨_, hfields, ?_, ?_⟩
  · simp only [List.forall_mem_cons]
    exact ⟨canWrite_some (Json.writable_bool journal) _, canWrite_map h _,
      canWrite_optional _ matchReason, List.forall_mem_nil _⟩
  · have hjournal := field_of_some hnodup "journal" (by simp [shared, inField_cons])
      (truth_bool journal) false
    have hday := field_of_map (o := journalDay) hnodup "journal_day"
      (by simp [shared, inField_cons]) optional_integer
    have hreason := field_of_map (o := matchReason) hnodup "match_reason"
      (by simp [shared, inField_cons]) optional_string
    rw [details, hjournal, hday, hreason, hdetail]
    rfl

theorem exists_owns_block {page : String} {parent : Option String} {children : List String}
    (hdetail : r.detail = .block page parent children) : ∃ own, r.Owns properties own := by
  have hfields := congrArg detailFields hdetail
  have hnodup := nodup_names properties hfields
  refine ⟨_, hfields, ?_, ?_⟩
  · simp only [List.forall_mem_cons]
    exact ⟨canWrite_text _ page, canWrite_optional _ parent, canWrite_texts _ children,
      List.forall_mem_nil _⟩
  · have hpage := field_of_some hnodup "page" (by simp [shared, inField_cons]) (string_text page) ""
    have hparent := field_of_map (o := parent) hnodup "parent" (by simp [shared, inField_cons])
      optional_string
    have hchildren := field_of_some hnodup "children" (by simp [shared, inField_cons]; rfl)
      (list_string children) []
    rw [details, hpage, hparent, hchildren, hdetail]
    rfl

theorem exists_owns_template {templateType : String} {placeholders : List String}
    (hdetail : r.detail = .template templateType placeholders) : ∃ own, r.Owns properties own := by
  have hfields := congrArg detailFields hdetail
  have hnodup := nodup_names properties hfields
  refine ⟨_, hfields, ?_, ?_⟩
  · simp only [List.forall_mem_cons]
    exact ⟨canWrite_text _ templateType, canWrite_texts _ placeholders, List.forall_mem_nil _⟩
  · have htype := field_of_some hnodup "template_type" (by simp [shared, inField_cons])
      (string_text templateType) "page"
    have hplaceholders := field_of_some hnodup "placeholders" (by simp [shared, inField_cons]; rfl)
      (list_string placeholders) []
    rw [details, htype, hplaceholders, hdetail]
    rfl

theorem exists_owns_task {page status : String} {scheduled deadline : Option String}
    (hdetail : r.detail = .task page status scheduled deadline) :
    ∃ own, r.Owns properties own := by
  have hfields := congrArg detailFields hdetail
  have hnodup := nodup_names properties hfields
  refine ⟨_, hfields, ?_, ?_⟩
  · simp only [List.forall_mem_cons]
    exact ⟨canWrite_text _ page, canWrite_text _ status, canWrite_optional _ scheduled,
      canWrite_optional _ deadline, List.forall_mem_nil _⟩
  · have hpage := field_of_some hnodup "page" (by simp [shared, inField_cons]) (string_text page) ""
    have hstatus := field_of_some hnodup "status" (by simp [shared, inField_cons])
      (string_text status) "TODO"
    have hscheduled := field_of_map (o := scheduled) hnodup "scheduled"
      (by simp [shared, inField_cons]) optional_string
    have hdeadline := field_of_map (o := deadline) hnodup "deadline"
      (by simp [shared, inField_cons]) optional_string
    rw [details, hpage, hstatus, hscheduled, hdeadline, hdetail]
    rfl

theorem exists_owns_property {owner : Owner} {page key : String} {value : Value}
    (hdetail : r.detail = .property owner page key value) (h : value.Writable) :
    ∃ own, r.Owns properties own := by
  obtain ⟨j, hj, rfl⟩ := h
  have hown : detailFields (.property owner page key j.toValue) = .ok
      [("owner", some (.text owner.name)), ("page", some (.text page)), ("key", some (.text key)),
        ("value", if j.toValue.isNull then none else some j)] := by
    rw [detailFields, Json.document_toValue hj.plain.finite hj.plain.distinct]
    rfl
  have hfields := (congrArg detailFields hdetail).trans hown
  have hnodup := nodup_names properties hfields
  refine ⟨_, hfields, ?_, ?_⟩
  · simp only [List.forall_mem_cons]
    refine ⟨canWrite_text _ owner.name, canWrite_text _ page, canWrite_text _ key, ?_,
      List.forall_mem_nil _⟩
    split
    · intro j' h
      cases h
    · exact canWrite_some hj _
  · have howner := field_of_some hnodup "owner" (by simp [shared, inField_cons])
      (optional_choice owner) .page
    have hpage := field_of_some hnodup "page" (by simp [shared, inField_cons]) (string_text page) ""
    have hkey := field_of_some hnodup "key" (by simp [shared, inField_cons]) (string_text key) ""
    have hvalue := field_of_document (j := j) hnodup "value" (by simp [shared, inField_cons])
    rw [details, howner, hpage, hkey, hvalue, hdetail]
    rfl

/-- The own part of a record of any kind can be written, and is read from its fields. -/
theorem exists_owns (h : r.detail.Writable) : ∃ own, r.Owns properties own := by
  cases hdetail : r.detail with
  | page => exact exists_owns_page properties hdetail (by rwa [hdetail] at h)
  | block => exact exists_owns_block properties hdetail
  | template => exact exists_owns_template properties hdetail
  | task => exact exists_owns_task properties hdetail
  | property => exact exists_owns_property properties hdetail (by rwa [hdetail] at h)

end

/-- A record is written, and read again from the document without its null fields. -/
theorem read_briefDocument {r : Record} (h : r.Writable) :
    ∃ j, r.briefDocument = .ok j ∧ j.Writable ∧ Record.read j.toValue = .valid r := by
  obtain ⟨members, hmembers, hproperties⟩ := h.properties
  obtain ⟨own, hown, hownWritable, hfind⟩ := exists_owns (.object members) h.detail
  have hdocument : Value.propertiesDocument r.properties = .ok (.object members) := by
    rw [Value.propertiesDocument, Value.ofProperties, hproperties, List.map_map]
    exact (congrArg (Value.document <| Value.map ·) (Value.toEntries_eq members).symm).trans
      (Json.document_toValue hmembers.plain.finite hmembers.plain.distinct)
  have hread : namedValues (Json.object members).toValue = .valid r.properties := by
    rw [Json.toValue, namedValues, entries_toEntries, ← hproperties]
  have hnodup := nodup_names (.object members) hown
  have hwritable : ∀ f ∈ shared r (.object members) ++ own, CanWrite f := by
    rw [List.forall_mem_append]
    refine ⟨?_, hownWritable⟩
    simp only [shared, List.forall_mem_cons]
    exact ⟨canWrite_text _ r.id, canWrite_text _ r.name, canWrite_text _ r.content,
      canWrite_some hmembers _, canWrite_texts _ r.tags, canWrite_map h.created _,
      canWrite_map h.updated _, canWrite_some h.score _, canWrite_text _ r.detail.kindName,
      List.forall_mem_nil _⟩
  refine ⟨.object (present (shared r (.object members) ++ own)), ?_,
    writable_present hnodup hwritable, ?_⟩
  · rw [briefDocument, fields_eq hdocument hown]
    rfl
  · have htype : Value.lookup "type" (Json.toEntries (present (shared r (.object members) ++ own))) =
        some (.text r.detail.kindName) := by
      rw [lookup_present hnodup]
      simp [shared, inField_cons, Json.toValue]
    rw [Json.toValue, Record.read, htype]
    dsimp only
    rw [hfind]
    exact congrArg (Checked.under _) (readFields_present hnodup hread)

end Record

/-! ### Pages of results -/

namespace SearchResult

open OutlineSearch.Record

/-- The fields of a page of results as they are read: the records, the number of records in all,
whether there are more, and the cursor of the next page. -/
def readFields (es : List (Value × Value)) :
    Checked (List Record × Int × Bool × Option String) :=
  (fun records total more cursor => (records, total, more, cursor))
    <$> required es ["results"] Record.readAll
    <*> required es ["total_found"] integer
    <*> required es ["has_more"] truth
    <*> field es ["next_cursor"] none (optional string)

/-- Reads a page of results. -/
def read : Value → Checked (List Record × Int × Bool × Option String) :=
  record "SearchResult" readFields

theorem exists_recordDocuments {records : List Record} (h : ∀ x ∈ records, x.Writable) :
    ∃ documents, recordDocuments Record.briefDocument records = .ok documents ∧
      (∀ j ∈ documents, j.Writable) ∧
      ∀ index, Checked.items Record.read index (Json.toValues documents) = .valid records := by
  induction records with
  | nil => exact ⟨[], rfl, List.forall_mem_nil _, fun _ ↦ rfl⟩
  | cons x records ih =>
    rw [List.forall_mem_cons] at h
    obtain ⟨j, hj, hwritable, hread⟩ := read_briefDocument h.1
    obtain ⟨documents, hdocuments, hall, hreads⟩ := ih h.2
    refine ⟨j :: documents, ?_, List.forall_mem_cons.2 ⟨hwritable, hall⟩, fun index ↦ ?_⟩
    · rw [recordDocuments, hj, hdocuments]
      rfl
    · rw [Json.toValues, Checked.items, hread, hreads]
      rfl

/-- The fields of a page whose records have documents. -/
def fieldsOf (r : SearchResult) (documents : List Json) : List Field :=
  [("results", some (.list documents)), ("total_found", some (.int r.totalFound)),
    ("has_more", some (.bool r.hasMore)), ("next_cursor", r.nextCursor.map .text)]

theorem briefDocument_eq {r : SearchResult} {documents : List Json}
    (h : recordDocuments Record.briefDocument r.results = .ok documents) :
    r.briefDocument = .ok (.object (present (fieldsOf r documents))) := by
  rw [briefDocument, h, fieldsOf]
  cases r.nextCursor <;> rfl

/-- A page of results is told, the text of it is read as a document, and the page is read from the
document field by field: the same records in the same order, the same totals and the same cursor. -/
theorem read_searchText {r : SearchResult} (h : r.Writable) :
    ∃ text j, searchText (.ok r) = .ok text ∧ Json.read? text.toList = some j ∧
      SearchResult.read j.toValue =
        .valid (r.results, (r.totalFound : Int), r.hasMore, r.nextCursor) := by
  obtain ⟨documents, hdocuments, hall, hreads⟩ := exists_recordDocuments h.results
  have hnodup : ((fieldsOf r documents).map Prod.fst).Nodup := by
    simp only [fieldsOf, List.map_cons, List.map_nil]
    decide
  have hwritable : (Json.object (present (fieldsOf r documents))).Writable := by
    refine writable_present hnodup ?_
    simp only [fieldsOf, List.forall_mem_cons]
    exact ⟨canWrite_some (Json.writable_list hall) _, canWrite_some h.totalFound _,
      canWrite_some (Json.writable_bool _) _, canWrite_optional _ r.nextCursor,
      List.forall_mem_nil _⟩
  refine ⟨_, _, ?_, Json.read?_write Json.separates_indented hwritable.plain hwritable.short, ?_⟩
  · rw [searchText, resultText, briefDocument_eq hdocuments]
    exact if_pos hwritable.short
  · have hrecords : readAll (Json.list documents).toValue = .valid r.results := by
      rw [Json.toValue]
      exact hreads 0
    have hresults := required_of_some hnodup "results" (by simp [fieldsOf, inField_cons]) hrecords
    have htotal := required_of_some hnodup "total_found" (by simp [fieldsOf, inField_cons])
      (integer_int r.totalFound)
    have hmore := required_of_some hnodup "has_more" (by simp [fieldsOf, inField_cons])
      (truth_bool r.hasMore)
    have hcursor := field_of_map (o := r.nextCursor) hnodup "next_cursor"
      (by simp [fieldsOf, inField_cons]) optional_string
    rw [Json.toValue]
    change readFields _ = _
    rw [readFields, hresults, htotal, hmore, hcursor]
    rfl

/-- A page of a journal with nested properties and a property of a block, with more behind them. -/
def mixedResult : SearchResult where
  results :=
    [{ id := "1", name := "a \"quoted\" name", updated := some (.int 5)
       properties := [("x", .list [.null, .map [(.text "\u00e9", .bool true)]])]
       detail := .page true (some 20240115) none },
      { id := "2", tags := ["t"], detail := .property .block "a" "k" (.float .negativeZero) }]
  totalFound := 3
  hasMore := true
  nextCursor := some "2"

theorem writable_zero : (Json.float (.finite 0)).Writable :=
  ⟨⟨Binary64.isSteps_zero, trivial⟩, rfl⟩

theorem writable_mixedResult : mixedResult.Writable := by
  have hint (n : Int) (h : (Json.int n).isShort = true) : (Json.int n).Writable :=
    ⟨⟨trivial, trivial⟩, h⟩
  have hnone : ∀ s : Stamp, none = some s → s.document.Writable := fun _ h ↦ by cases h
  refine ⟨List.forall_mem_cons.2 ⟨?_, List.forall_mem_singleton.2 ?_⟩, hint 3 (by decide)⟩
  · refine ⟨⟨[("x", .list [.null, .object [("\u00e9", .bool true)]])], ?_, rfl⟩, hnone, ?_,
      writable_zero, ?_⟩
    · refine Json.writable_object (by decide) (List.forall_mem_singleton.2 (Json.writable_list ?_))
      refine List.forall_mem_cons.2 ⟨⟨⟨trivial, trivial⟩, rfl⟩, List.forall_mem_singleton.2 ?_⟩
      exact Json.writable_object (by decide) (List.forall_mem_singleton.2 (Json.writable_bool true))
    · rintro s ⟨⟩
      exact hint 5 (by decide)
    · rintro day ⟨⟩
      exact hint 20240115 (by decide)
  · exact ⟨⟨[], Json.writable_object .nil (List.forall_mem_nil _), rfl⟩, hnone, hnone,
      writable_zero, .float .negativeZero, ⟨⟨trivial, trivial⟩, rfl⟩, rfl⟩

theorem mixedResult_read : mixedResult.Writable ∧
    ∃ text j, searchText (.ok mixedResult) = .ok text ∧ Json.read? text.toList = some j ∧
      SearchResult.read j.toValue = .valid (mixedResult.results, 3, true, some "2") :=
  ⟨writable_mixedResult, read_searchText writable_mixedResult⟩

/-! ### An integer with too many digits -/

theorem length_toDigits_pow (n : Nat) : (Nat.toDigits 10 (10 ^ n)).length = n + 1 := by
  induction n with
  | zero => rfl
  | succ n ih =>
    rw [Nat.toDigits_eq_if (by decide), if_neg (Nat.not_lt.2 (Nat.le_self_pow (by omega) 10)),
      List.length_append, Nat.pow_succ, Nat.mul_div_cancel _ (by decide), ih]
    rfl

/-- One page whose properties hold an integer. -/
def counted (n : Int) : Record where
  id := "1"
  name := "a"
  properties := [("x", .int n)]
  detail := .page false none none

theorem briefDocument_counted (n : Int) : (counted n).briefDocument =
    .ok (.object [("id", .text "1"), ("name", .text "a"), ("content", .text ""),
      ("properties", .object [("x", .int n)]), ("tags", .list []),
      ("relevance_score", .float (.finite 0)), ("type", .text "page"),
      ("journal", .bool false)]) := rfl

theorem searchText_counted {n : Int} (h : Number.digitLimit < (Nat.toDigits 10 n.natAbs).length) :
    searchText (.ok { results := [counted n], totalFound := 1, hasMore := false }) =
      .error (.badValue Number.tooLongToWrite) := by
  rw [searchText, resultText, briefDocument, recordDocuments, briefDocument_counted]
  refine if_neg ?_
  simp [Json.isShort, Json.areShort, Json.areShortMembers, Nat.not_le.2 h]

/-- What is found is plain and yet is not told, with the least integer that has too many digits. -/
theorem not_told_long :
    Properties.Plain (counted (10 ^ Number.digitLimit : Nat)).properties ∧
    (Json.float (counted (10 ^ Number.digitLimit : Nat)).score).Plain ∧
    ∀ text, searchText (.ok { results := [counted (10 ^ Number.digitLimit : Nat)]
                              totalFound := 1, hasMore := false }) ≠ .ok text := by
  refine ⟨⟨[("x", .int (10 ^ Number.digitLimit : Nat))], ⟨⟨trivial, trivial⟩, ?_⟩, rfl⟩,
    writable_zero.plain, fun text h ↦ ?_⟩
  · exact ⟨List.pairwise_singleton _ _, trivial, trivial⟩
  · rw [searchText_counted] at h
    · cases h
    · rw [Int.natAbs_natCast, length_toDigits_pow]
      exact Nat.lt_succ_self _

end SearchResult

end OutlineSearch
