import OutlineSearch.Proofs.Json.Writing
import Mathlib.Data.List.Basic

/-!
# Documents with sorted names

Sorting the names of the members of an object changes neither what stands under a name nor the
numbers of a document.
-/

namespace OutlineSearch.Json

theorem finiteAll_iff (items : List Json) : FiniteAll items ↔ ∀ j ∈ items, j.Finite := by
  induction items with
  | nil => simp [FiniteAll]
  | cons j items ih => rw [FiniteAll, ih, List.forall_mem_cons]

theorem finiteMembers_iff (members : List (String × Json)) :
    FiniteMembers members ↔ ∀ m ∈ members, m.2.Finite := by
  induction members with
  | nil => simp [FiniteMembers]
  | cons m members ih =>
    obtain ⟨k, j⟩ := m
    rw [FiniteMembers, ih, List.forall_mem_cons]

theorem sortNamesAll_eq (items : List Json) : sortNamesAll items = items.map sortNames := by
  induction items with
  | nil => rw [sortNamesAll, List.map_nil]
  | cons j items ih => rw [sortNamesAll, ih, List.map_cons]

theorem sortNamesMembers_eq (members : List (String × Json)) :
    sortNamesMembers members = members.map fun m => (m.1, sortNames m.2) := by
  induction members with
  | nil => rw [sortNamesMembers, List.map_nil]
  | cons m members ih =>
    obtain ⟨k, j⟩ := m
    rw [sortNamesMembers, ih, List.map_cons]

/-- The members of an object whose names are sorted, in any order. -/
theorem sortNames_object (members : List (String × Json)) :
    ∃ sorted, sortNames (object members) = object sorted ∧
      sorted.Perm (members.map fun m => (m.1, sortNames m.2)) := by
  refine ⟨_, rfl, ?_⟩
  rw [← sortNamesMembers_eq]
  exact List.mergeSort_perm _ _

mutual

theorem finite_sortNames : ∀ {j : Json}, j.Finite → (sortNames j).Finite
  | null, h => h
  | bool b, h => h
  | int n, h => h
  | float x, h => h
  | text s, h => h
  | list items, h => by
    rw [Finite] at h
    rw [sortNames, Finite, sortNamesAll_eq]
    exact finiteAll_sortNames h
  | object members, h => by
    rw [Finite] at h
    obtain ⟨sorted, hsorted, hperm⟩ := sortNames_object members
    have hmembers := (finiteMembers_iff _).1 (finiteMembers_sortNames h)
    rw [hsorted, Finite, finiteMembers_iff]
    exact fun m hm ↦ hmembers m (hperm.mem_iff.1 hm)

theorem finiteAll_sortNames : ∀ {items : List Json}, FiniteAll items →
    FiniteAll (items.map sortNames)
  | [], _ => trivial
  | j :: items, h => by
    rw [FiniteAll] at h
    rw [List.map_cons, FiniteAll]
    exact ⟨finite_sortNames h.1, finiteAll_sortNames h.2⟩

theorem finiteMembers_sortNames : ∀ {members : List (String × Json)}, FiniteMembers members →
    FiniteMembers (members.map fun m => (m.1, sortNames m.2))
  | [], _ => trivial
  | (k, j) :: members, h => by
    rw [FiniteMembers] at h
    rw [List.map_cons, FiniteMembers]
    exact ⟨finite_sortNames h.1, finiteMembers_sortNames h.2⟩

end

/-- Documents that have one text once their names are sorted. -/
def Alike (j j' : Json) : Prop := sortNames j = sortNames j'

theorem alike_of_write_eq {j j' : Json} (hj : j.Finite) (hj' : j'.Finite)
    (h : write spaced (sortNames j) = write spaced (sortNames j')) : Alike j j' :=
  write_inj (finite_sortNames hj) (finite_sortNames hj') h

/-! ### What stands under a name -/

/-- What stands under a name does not depend on the order of members with different names. -/
theorem find?_perm {members members' : List (String × Json)} (h : members.Perm members')
    (hnodup : (members.map Prod.fst).Nodup) (name : String) :
    members.find? (·.1 == name) = members'.find? (·.1 == name) := by
  induction h with
  | nil => rfl
  | cons m h ih =>
    rw [List.map_cons, List.nodup_cons] at hnodup
    rw [List.find?_cons, List.find?_cons, ih hnodup.2]
  | swap a b members =>
    rw [List.map_cons, List.map_cons, List.nodup_cons] at hnodup
    have hne : b.1 ≠ a.1 := fun h ↦ hnodup.1 (by rw [h]; exact .head _)
    rw [List.find?_cons, List.find?_cons, List.find?_cons, List.find?_cons]
    by_cases hb : b.1 = name
    · have ha : (a.1 == name) = false := beq_false_of_ne fun ha ↦ hne (hb.trans ha.symm)
      rw [ha]
    · rw [beq_false_of_ne hb]
  | trans h h' ih ih' =>
    exact (ih hnodup).trans (ih' ((h.map Prod.fst).nodup_iff.1 hnodup))

theorem member?_sortNames {members : List (String × Json)} (hnodup : (members.map Prod.fst).Nodup)
    (name : String) :
    (sortNames (object members)).member? name = ((object members).member? name).map sortNames := by
  obtain ⟨sorted, hsorted, hperm⟩ := sortNames_object members
  have hnames : ((members.map fun m => (m.1, sortNames m.2)).map Prod.fst).Nodup := by
    rwa [List.map_map]
  rw [hsorted, member?, member?, ← find?_perm hperm.symm hnames, List.find?_map, Option.map_map,
    Option.map_map]
  rfl

/-- Alike objects have alike members under each name. -/
theorem Alike.member? {members members' : List (String × Json)}
    (h : Alike (object members) (object members')) (hnodup : (members.map Prod.fst).Nodup)
    (hnodup' : (members'.map Prod.fst).Nodup) (name : String) :
    ((object members).member? name).map sortNames =
      ((object members').member? name).map sortNames := by
  rw [← member?_sortNames hnodup, ← member?_sortNames hnodup', h]

end OutlineSearch.Json
