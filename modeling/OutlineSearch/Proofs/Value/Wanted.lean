import OutlineSearch.Proofs.Json.Sorting
import OutlineSearch.Search.PropertyMatch

/-!
# Wanted values that differ in the order of names

Whether a property value is the wanted one does not depend on the order in which the members of the
objects in the wanted value are written.
-/

namespace OutlineSearch.Value

/-- The equation of matching, the members taken without the proofs that they are smaller. -/
theorem matchesWanted_eq (item wanted : Value) : item.matchesWanted wanted =
    if wanted.isTrue then .ok (!item.isNull)
    else if item.isNull then .ok wanted.isNull
    else
      match item.members?, wanted.members? with
      | some items, some wishes =>
        .any (items.flatMap fun i => wishes.map fun w => i.matchesWanted w)
      | some items, none => .any (items.map fun i => i.matchesWanted wanted)
      | none, some wishes => .any (wishes.map fun w => item.matchesWanted w)
      | none, none => matchesScalar item wanted := by
  rw [matchesWanted]
  split
  · rfl
  split
  · rfl
  split
  · next hi hw => simp [hi, hw]
  · next hi hw => simp [hi, hw]
  · next hi hw => simp [hi, hw]
  · next hi hw => simp [hi, hw]

/-! ### Documents as values -/

theorem toValues_eq (items : List Json) : Json.toValues items = items.map Json.toValue := by
  induction items with
  | nil => rw [Json.toValues, List.map_nil]
  | cons j items ih => rw [Json.toValues, ih, List.map_cons]

theorem toEntries_eq (members : List (String × Json)) :
    Json.toEntries members = members.map fun m => (text m.1, m.2.toValue) := by
  induction members with
  | nil => rw [Json.toEntries, List.map_nil]
  | cons m members ih =>
    obtain ⟨k, j⟩ := m
    rw [Json.toEntries, ih, List.map_cons]

/-! ### Equality -/

theorem allEntriesAmong_eq (es fs : List (Value × Value)) :
    allEntriesAmong es fs = es.all fun e => fs.any fun f => equals e.1 f.1 && equals e.2 f.2 := by
  induction es with
  | nil => rw [allEntriesAmong, List.all_nil]
  | cons e es ih =>
    obtain ⟨k, v⟩ := e
    rw [allEntriesAmong, ih, List.all_cons]

theorem equals_list (item : Value) (items : List Value) : item.equals (list items) =
    match item with
    | list as => equalLists as items
    | _ => false := by
  cases item <;> simp [equals, number?]

theorem equals_map (item : Value) (entries : List (Value × Value)) : item.equals (map entries) =
    match item with
    | map es => es.length == entries.length && allEntriesAmong es entries
    | _ => false := by
  cases item <;> simp [equals, number?]

mutual

/-- Equality with a document does not depend on the order of its names. -/
theorem equals_sortNames : ∀ (j : Json) (item : Value),
    item.equals j.sortNames.toValue = item.equals j.toValue
  | .null, item => rfl
  | .bool b, item => rfl
  | .int n, item => rfl
  | .float x, item => rfl
  | .text s, item => rfl
  | .list items, item => by
    rw [Json.sortNames, Json.toValue, Json.toValue, equals_list, equals_list, Json.sortNamesAll_eq,
      toValues_eq, toValues_eq, List.map_map]
    split
    · exact equalLists_sortNames items _
    · rfl
  | .object members, item => by
    obtain ⟨sorted, hsorted, hperm⟩ := Json.sortNames_object members
    have hany (e : Value × Value) :
        ((Json.toEntries sorted).any fun f => equals e.1 f.1 && equals e.2 f.2) =
          (Json.toEntries members).any fun f => equals e.1 f.1 && equals e.2 f.2 := by
      rw [toEntries_eq, toEntries_eq, List.any_map, List.any_map, hperm.any_eq, List.any_map]
      exact any_sortNames members e.1 e.2
    have hlength : (Json.toEntries sorted).length = (Json.toEntries members).length := by
      rw [toEntries_eq, toEntries_eq, List.length_map, List.length_map, hperm.length_eq,
        List.length_map]
    rw [hsorted, Json.toValue, Json.toValue, equals_map, equals_map]
    split
    · next es => simp only [hlength, allEntriesAmong_eq, hany]
    · rfl

theorem equalLists_sortNames : ∀ (items : List Json) (as : List Value),
    equalLists as (items.map (Json.toValue ∘ Json.sortNames)) = equalLists as (items.map Json.toValue)
  | [], as => rfl
  | j :: items, [] => by simp [equalLists]
  | j :: items, a :: as => by
    rw [List.map_cons, List.map_cons, equalLists, equalLists, equalLists_sortNames items as,
      Function.comp_apply, equals_sortNames j a]

theorem any_sortNames : ∀ (members : List (String × Json)) (k v : Value),
    (members.any fun m => equals k (text m.1) && equals v m.2.sortNames.toValue) =
      members.any fun m => equals k (text m.1) && equals v m.2.toValue
  | [], k, v => rfl
  | (name, j) :: members, k, v => by
    rw [List.any_cons, List.any_cons, any_sortNames members k v, equals_sortNames j v]

end

/-! ### Matching -/

theorem matchesScalar_map (item : Value) (entries : List (Value × Value)) :
    matchesScalar item (map entries) = .ok (item.equals (map entries)) := by
  cases item <;> rfl

theorem matchesWanted_list (item : Value) (wishes : List Value) :
    item.matchesWanted (list wishes) =
      if item.isNull then .ok false
      else
        match item.members? with
        | some items => .any (items.flatMap fun i => wishes.map fun w => i.matchesWanted w)
        | none => .any (wishes.map fun w => item.matchesWanted w) := by
  rw [matchesWanted_eq, if_neg (show ¬(list wishes).isTrue = true from Bool.false_ne_true)]
  cases item.members? with
  | none => rfl
  | some items => rfl

theorem matchesWanted_map (item : Value) (entries : List (Value × Value)) :
    item.matchesWanted (map entries) =
      if item.isNull then .ok false
      else
        match item.members? with
        | some items => .any (items.map fun i => i.matchesWanted (map entries))
        | none => .ok (item.equals (map entries)) := by
  rw [matchesWanted_eq, if_neg (show ¬(map entries).isTrue = true from Bool.false_ne_true),
    ← matchesScalar_map]
  cases item.members? with
  | none => rfl
  | some items => rfl

/-- Whether a value is the wanted one does not depend on the order of the names in the wanted one. -/
theorem matchesWanted_sortNames (item : Value) (j : Json) :
    item.matchesWanted j.sortNames.toValue = item.matchesWanted j.toValue := by
  cases j with
  | list wishes =>
    have hwishes (i : Value) (hi : sizeOf i ≤ sizeOf item) :
        ((wishes.map Json.sortNames).map Json.toValue).map (fun w => i.matchesWanted w) =
          (wishes.map Json.toValue).map fun w => i.matchesWanted w := by
      rw [List.map_map, List.map_map, List.map_map]
      refine List.map_congr_left fun w hw ↦ ?_
      have hsize := List.sizeOf_lt_of_mem hw
      exact matchesWanted_sortNames i w
    rw [Json.sortNames, Json.toValue, Json.toValue, Json.sortNamesAll_eq, toValues_eq, toValues_eq,
      matchesWanted_list, matchesWanted_list]
    cases hmembers : item.members? with
    | none => simp only [hwishes item (Nat.le_refl _)]
    | some items =>
      have hall : (items.flatMap fun i =>
          ((wishes.map Json.sortNames).map Json.toValue).map fun w => i.matchesWanted w) =
          items.flatMap fun i => (wishes.map Json.toValue).map fun w => i.matchesWanted w := by
        refine List.flatMap_congr fun i hi ↦ hwishes i ?_
        have hsize := List.sizeOf_lt_of_mem hi
        have hitem := sizeOf_members hmembers
        omega
      simp only [hall]
  | object members =>
    have hequals := equals_sortNames (.object members) item
    have hitems (items : List Value) (hmembers : item.members? = some items) :
        (items.map fun i => i.matchesWanted (Json.object members).sortNames.toValue) =
          items.map fun i => i.matchesWanted (Json.object members).toValue := by
      refine List.map_congr_left fun i hi ↦ ?_
      have hsize := List.sizeOf_lt_of_mem hi
      have hitem := sizeOf_members hmembers
      exact matchesWanted_sortNames i (.object members)
    rw [Json.sortNames, Json.toValue, Json.toValue] at hequals hitems ⊢
    rw [matchesWanted_map, matchesWanted_map]
    cases hmembers : item.members? with
    | none => simp only [hequals]
    | some items => simp only [hitems items hmembers]
  | _ => rfl
termination_by sizeOf item + sizeOf j

end OutlineSearch.Value
