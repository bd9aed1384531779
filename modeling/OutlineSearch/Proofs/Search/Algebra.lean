import OutlineSearch.Search.Algebra

/-!
# The algebra of record sets

An intersection is a part of its first set. A union has every identity of its sets once, in the order
in which the identities are met, and for each the record that is met first.
-/

namespace OutlineSearch.Search

theorem hasId_iff {id : String} {records : List Record} :
    hasId id records = true ↔ id ∈ records.map Record.id := by
  simp [hasId]

/-! ### Intersections -/

/-- An identity is in an intersection when it is in all of its sets, and there are some. -/
theorem mem_ids_intersect {id : String} {sets : List (List Record)} :
    id ∈ (intersect sets).map Record.id ↔
      sets ≠ [] ∧ ∀ records ∈ sets, id ∈ records.map Record.id := by
  cases sets with
  | nil => simp [intersect]
  | cons first others =>
    simp only [intersect, List.mem_map, List.mem_filter, List.all_eq_true, hasId_iff, ne_eq,
      reduceCtorEq, not_false_eq_true, true_and, List.forall_mem_cons]
    constructor
    · rintro ⟨r, ⟨hr, hothers⟩, rfl⟩
      exact ⟨⟨r, hr, rfl⟩, hothers⟩
    · rintro ⟨⟨r, hr, rfl⟩, hothers⟩
      exact ⟨r, ⟨hr, hothers⟩, rfl⟩

/-! ### Unions -/

/-- Some records are those of a list that are the first of their identity, in the order of the list. -/
structure FirstSeen (all kept : List Record) : Prop where
  ids : kept.map Record.id = (all.map Record.id).eraseDups
  nodup : (kept.map Record.id).Nodup
  first : ∀ r ∈ kept, all.find? (fun s => s.id == r.id) = some r

theorem addRecords_cons (known : List Record) (r : Record) (rest : List Record) :
    addRecords known (r :: rest) =
      if hasId r.id known then addRecords known rest else addRecords (known ++ [r]) rest := by
  rw [addRecords, List.foldl_cons]
  split <;> rfl

theorem hasId_append (id : String) (records more : List Record) :
    hasId id (records ++ more) = (hasId id records || hasId id more) :=
  List.any_append

/-- The identities that are added are those that are new, each once. -/
theorem map_id_addRecords (known records : List Record) :
    (addRecords known records).map Record.id =
      known.map Record.id ++
        ((records.map Record.id).filter fun id => !hasId id known).eraseDups := by
  induction records generalizing known with
  | nil => simp [addRecords]
  | cons r rest ih =>
    rw [addRecords_cons, List.map_cons]
    by_cases hr : hasId r.id known = true
    · rw [if_pos hr, ih, List.filter_cons_of_neg (by simp [hr])]
    · have hnew (id : String) :
          (!hasId id (known ++ [r])) = (!(id == r.id) && !hasId id known) := by
        rw [hasId_append, Bool.not_or, Bool.and_comm]
        congr 2
        simp [hasId, Bool.beq_comm]
      rw [if_neg hr, ih, List.filter_cons_of_pos (by simpa using hr), List.eraseDups_cons,
        List.filter_filter, List.map_append, List.append_assoc]
      simp only [hnew]
      rfl

theorem nodup_addRecords {known : List Record} (h : (known.map Record.id).Nodup)
    (records : List Record) : ((addRecords known records).map Record.id).Nodup := by
  induction records generalizing known with
  | nil => exact h
  | cons r rest ih =>
    rw [addRecords_cons]
    split
    · exact ih h
    · next hr =>
      refine ih ?_
      rw [List.map_append, List.nodup_append]
      refine ⟨h, List.pairwise_singleton .., fun a ha b hb ↦ ?_⟩
      obtain rfl := List.mem_singleton.1 hb
      rintro rfl
      exact hr (hasId_iff.2 ha)

/-- The records that are known and those that are added are the first of their identities in a list,
if the known ones are and the identities that are not known are first met among those to add. -/
theorem first_addRecords {all known records : List Record}
    (hknown : ∀ r ∈ known, all.find? (fun s => s.id == r.id) = some r)
    (hrecords : ∀ id, hasId id known = false →
      all.find? (fun s => s.id == id) = records.find? fun s => s.id == id) :
    ∀ r ∈ addRecords known records, all.find? (fun s => s.id == r.id) = some r := by
  induction records generalizing known with
  | nil => exact hknown
  | cons r rest ih =>
    rw [addRecords_cons]
    split
    · next hr =>
      refine ih hknown fun id hid ↦ ?_
      have hne : (r.id == id) = false := by
        refine beq_false_of_ne ?_
        rintro rfl
        cases hr.symm.trans hid
      rw [hrecords id hid, List.find?_cons_of_neg (by simp [hne])]
    · next hr =>
      refine ih (fun s hs ↦ ?_) fun id hid ↦ ?_
      · rcases List.mem_append.1 hs with hs | hs
        · exact hknown s hs
        · obtain rfl := List.mem_singleton.1 hs
          rw [hrecords s.id (by simpa using hr), List.find?_cons_of_pos (by simp)]
      · simp only [hasId_append, Bool.or_eq_false_iff] at hid
        have hne : (r.id == id) = false := by simpa [hasId] using hid.2
        rw [hrecords id hid.1, List.find?_cons_of_neg (by simp [hne])]

theorem union_eq (sets : List (List Record)) : union sets = addRecords [] sets.flatten := by
  rw [union, addRecords, List.foldl_flatten]
  rfl

/-- A union keeps the first record of every identity of its sets. -/
theorem firstSeen_union (sets : List (List Record)) : FirstSeen sets.flatten (union sets) := by
  have hnone : ([].map Record.id).Nodup := List.Pairwise.nil
  rw [union_eq]
  refine ⟨?_, nodup_addRecords hnone _, first_addRecords (List.forall_mem_nil _) fun _ _ ↦ rfl⟩
  rw [map_id_addRecords, List.map_nil, List.nil_append]
  exact congrArg List.eraseDups (List.filter_eq_self.2 fun _ _ ↦ rfl)

/-- An identity is in a union when it is in one of its sets. -/
theorem mem_ids_union {id : String} {sets : List (List Record)} :
    id ∈ (union sets).map Record.id ↔ ∃ records ∈ sets, id ∈ records.map Record.id := by
  rw [(firstSeen_union sets).ids, List.mem_eraseDups]
  simp only [List.mem_map, List.mem_flatten]
  constructor
  · rintro ⟨r, ⟨records, hrecords, hr⟩, rfl⟩
    exact ⟨records, hrecords, r, hr, rfl⟩
  · rintro ⟨records, hrecords, r, hr, rfl⟩
    exact ⟨r, ⟨records, hrecords, hr⟩, rfl⟩

end OutlineSearch.Search
