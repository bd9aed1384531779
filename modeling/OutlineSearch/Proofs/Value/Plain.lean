import OutlineSearch.Proofs.Json.Sorting
import OutlineSearch.Value.Document
import OutlineSearch.Stamp

/-!
# Plain documents

A document is plain when its numbers are finite and no object has two members of one name. The
value that such a document stands for is written as that document again.
-/

namespace OutlineSearch.Json

mutual

/-- Whether the members of the objects of a document have different names. -/
def Distinct : Json → Prop
  | list items => DistinctAll items
  | object members => (members.map Prod.fst).Nodup ∧ DistinctMembers members
  | _ => True

/-- Whether the objects of some documents have members with different names. -/
def DistinctAll : List Json → Prop
  | [] => True
  | j :: rest => Distinct j ∧ DistinctAll rest

/-- Whether the objects in the values of some members have members with different names. -/
def DistinctMembers : List (String × Json) → Prop
  | [] => True
  | (_, j) :: rest => Distinct j ∧ DistinctMembers rest

end

/-- A document without a number that is not finite and without two members of one name. -/
structure Plain (j : Json) : Prop where
  finite : j.Finite
  distinct : j.Distinct

theorem distinctMembers_iff (members : List (String × Json)) :
    DistinctMembers members ↔ ∀ m ∈ members, m.2.Distinct := by
  induction members with
  | nil => simp [DistinctMembers]
  | cons m members ih =>
    obtain ⟨k, j⟩ := m
    rw [DistinctMembers, ih, List.forall_mem_cons]

/-- The members of a plain object are plain. -/
theorem Plain.member {members : List (String × Json)} (h : (object members).Plain)
    {m : String × Json} (hm : m ∈ members) : m.2.Plain := by
  obtain ⟨hfinite, hdistinct⟩ := h
  rw [Finite, finiteMembers_iff] at hfinite
  rw [Distinct, distinctMembers_iff] at hdistinct
  exact ⟨hfinite m hm, hdistinct.2 m hm⟩

theorem Plain.nodup {members : List (String × Json)} (h : (object members).Plain) :
    (members.map Prod.fst).Nodup := by
  obtain ⟨-, hdistinct⟩ := h
  rw [Distinct] at hdistinct
  exact hdistinct.1

theorem isFinite_of_isDouble {x : Binary64} (h : x.IsDouble) : x.isFinite = true := by
  cases x with
  | nan => exact h.elim
  | infinite negative => exact h.elim
  | negativeZero => rfl
  | finite s => rfl

/-- A member under a new name is put behind the others. -/
theorem putMember_new {key : String} {members : List (String × Json)}
    (h : key ∉ members.map Prod.fst) (value : Json) :
    putMember key value members = members ++ [(key, value)] := by
  induction members with
  | nil => rfl
  | cons m members ih =>
    obtain ⟨k, v⟩ := m
    rw [List.map_cons, List.mem_cons, not_or] at h
    rw [putMember, if_neg (by simpa using fun hk ↦ h.1 hk.symm), ih h.2, List.cons_append]

mutual

/-- The value of a plain document is written as the document. -/
theorem document_toValue : ∀ {j : Json}, j.Finite → j.Distinct → j.toValue.document = .ok j
  | null, _, _ => rfl
  | bool b, _, _ => rfl
  | int n, _, _ => rfl
  | text s, _, _ => rfl
  | float x, hfinite, _ => by
    rw [Finite] at hfinite
    rw [toValue, Value.document, if_pos (isFinite_of_isDouble hfinite)]
  | list items, hfinite, hdistinct => by
    rw [Finite] at hfinite
    rw [Distinct] at hdistinct
    rw [toValue, Value.document, documents_toValues hfinite hdistinct]
    rfl
  | object members, hfinite, hdistinct => by
    rw [Finite] at hfinite
    rw [Distinct] at hdistinct
    rw [toValue, Value.document,
      memberDocuments_toEntries [] hfinite hdistinct.2 hdistinct.1]
    rfl

theorem documents_toValues : ∀ {items : List Json}, FiniteAll items → DistinctAll items →
    Value.documents (toValues items) = .ok items
  | [], _, _ => rfl
  | j :: items, hfinite, hdistinct => by
    rw [FiniteAll] at hfinite
    rw [DistinctAll] at hdistinct
    rw [toValues, Value.documents, document_toValue hfinite.1 hdistinct.1,
      documents_toValues hfinite.2 hdistinct.2]
    rfl

theorem memberDocuments_toEntries : ∀ {members : List (String × Json)}
    (written : List (String × Json)), FiniteMembers members → DistinctMembers members →
      ((written ++ members).map Prod.fst).Nodup →
        Value.memberDocuments written (toEntries members) = .ok (written ++ members)
  | [], written, _, _, _ => by
    rw [toEntries, Value.memberDocuments, List.append_nil]
  | (k, j) :: members, written, hfinite, hdistinct, hnodup => by
    rw [FiniteMembers] at hfinite
    rw [DistinctMembers] at hdistinct
    have hnew : k ∉ written.map Prod.fst := by
      rw [List.map_append, List.map_cons, List.nodup_append] at hnodup
      exact fun hk ↦ hnodup.2.2 k hk k (.head _) rfl
    have hmore := memberDocuments_toEntries (written ++ [(k, j)]) hfinite.2 hdistinct.2
      (by rwa [List.append_assoc])
    rw [List.append_assoc] at hmore
    rw [toEntries, Value.memberDocuments, document_toValue hfinite.1 hdistinct.1, Value.keyDocument]
    exact (congrArg (Value.memberDocuments · _) (putMember_new hnew j)).trans hmore

end

end OutlineSearch.Json
