import OutlineSearch.Proofs.Outline.Faults
import OutlineSearch.Proofs.Search.Overflow

/-!
# Collections as their leaves

Collections may be nested to any depth on both sides of a comparison. What counts are the scalars in
them, their leaves: a value is the wanted one exactly when one of its leaves is one of the leaves of
the wanted one. So a collection may be rearranged in any way that keeps its leaves.
-/

namespace OutlineSearch

namespace Outcome

/-- The outcome answers a question: it does not fail, and it is yes exactly when this is so. -/
def Decides (o : Outcome Bool) (P : Prop) : Prop := ∃ answer, o = .ok answer ∧ (answer = true ↔ P)

theorem Decides.eq_ok_true_iff {o : Outcome Bool} {P : Prop} (h : o.Decides P) :
    o = .ok true ↔ P := by
  obtain ⟨answer, rfl, hanswer⟩ := h
  rw [← hanswer, Except.ok.injEq]

/-- A question has one answer. -/
theorem Decides.eq {o o' : Outcome Bool} {P : Prop} (h : o.Decides P) (h' : o'.Decides P) :
    o = o' := by
  obtain ⟨answer, rfl, hanswer⟩ := h
  obtain ⟨answer', rfl, hanswer'⟩ := h'
  exact congrArg Except.ok (Bool.eq_iff_iff.2 (hanswer.trans hanswer'.symm))

theorem Decides.congr {o : Outcome Bool} {P Q : Prop} (h : o.Decides P) (hPQ : P ↔ Q) :
    o.Decides Q := by
  rwa [← propext hPQ]

theorem decides_any {α : Type} {answer : α → Outcome Bool} {P : α → Prop} {items : List α}
    (h : ∀ x ∈ items, (answer x).Decides (P x)) :
    (any (items.map answer)).Decides (∃ x ∈ items, P x) := by
  induction items with
  | nil => exact ⟨false, rfl, by simp⟩
  | cons x items ih =>
    rw [List.forall_mem_cons] at h
    obtain ⟨⟨first, hfirst, hx⟩, hitems⟩ := h
    rw [List.map_cons, hfirst]
    cases first with
    | true => exact ⟨true, rfl, by simp [← hx]⟩
    | false => exact (ih hitems).congr (by simp [← hx])

end Outcome

open Outcome

namespace Value

/-! ### Leaves -/

mutual

/-- The scalars of a value: those of its members if it is a collection, or else the value itself. -/
def leaves : Value → List Value
  | list items => leavesOf items
  | tuple items => leavesOf items
  | set items => leavesOf items
  | v => [v]

/-- The scalars of some values. -/
def leavesOf : List Value → List Value
  | [] => []
  | v :: rest => leaves v ++ leavesOf rest

end

variable {v w item wanted a : Value}

theorem leavesOf_eq (items : List Value) : leavesOf items = items.flatMap leaves := by
  induction items with
  | nil => rw [leavesOf, List.flatMap_nil]
  | cons v items ih => rw [leavesOf, ih, List.flatMap_cons]

/-- The members of a collection, or the value itself. -/
def parts (v : Value) : List Value := v.members?.getD [v]

theorem leaves_of_scalar (h : v.members? = none) : v.leaves = [v] := by
  cases v with
  | list | tuple | set => cases h
  | _ => rw [leaves] <;> simp

theorem mem_leaves_self (h : v.members? = none) : v ∈ v.leaves := by
  rw [leaves_of_scalar h]
  exact List.mem_singleton_self v

/-- The leaves of a value are those of its parts. -/
theorem mem_leaves_iff : a ∈ v.leaves ↔ ∃ i ∈ v.parts, a ∈ i.leaves := by
  rw [← List.mem_flatMap, ← leavesOf_eq]
  cases v with
  | list | tuple | set => rw [leaves]; rfl
  | _ => simp [parts, members?, leavesOf]

theorem mem_leaves_list {items : List Value} :
    a ∈ (list items).leaves ↔ ∃ i ∈ items, a ∈ i.leaves :=
  mem_leaves_iff

/-! ### Comparing parts -/

theorem comparisons?_eq_none_iff :
    comparisons? item wanted = none ↔ item.members? = none ∧ wanted.members? = none := by
  unfold comparisons?
  cases item.members? <;> cases wanted.members? <;> simp

/-- In a comparison with a collection every part is compared with every wanted part. -/
theorem mem_comparisons_iff {pairs : List (Value × Value)} {p : Value × Value}
    (h : comparisons? item wanted = some pairs) :
    p ∈ pairs ↔ p.1 ∈ item.parts ∧ p.2 ∈ wanted.parts := by
  obtain ⟨i, w⟩ := p
  unfold comparisons? at h
  unfold parts
  generalize item.members? = items at h ⊢
  generalize wanted.members? = wishes at h ⊢
  cases items with
  | none =>
    cases wishes with
    | none => cases h
    | some wishes =>
      cases h
      simp [and_comm, eq_comm]
  | some items =>
    cases wishes with
    | none =>
      cases h
      simp [eq_comm]
    | some wishes =>
      cases h
      simp

theorem sizeOf_parts (h : w ∈ v.parts) :
    sizeOf w < sizeOf v ∨ v.members? = none ∧ sizeOf w = sizeOf v := by
  unfold parts at h
  cases hv : v.members? with
  | none =>
    rw [hv] at h
    exact .inr ⟨rfl, by rw [List.mem_singleton.1 h]⟩
  | some items =>
    rw [hv] at h
    exact .inl (Nat.lt_trans (List.sizeOf_lt_of_mem h) (sizeOf_members hv))

/-- What is so of two values when it is so of all the parts that they are compared by is so of all
values. -/
theorem comparisons_induction {motive : Value → Value → Prop}
    (h : ∀ item wanted, (∀ pairs, comparisons? item wanted = some pairs →
      ∀ p ∈ pairs, motive p.1 p.2) → motive item wanted) (item wanted : Value) :
    motive item wanted := by
  refine h item wanted fun pairs hpairs p hp ↦ ?_
  have hsize : sizeOf p.1 + sizeOf p.2 < sizeOf item + sizeOf wanted := by
    obtain ⟨hi, hw⟩ := (mem_comparisons_iff hpairs).1 hp
    have hsome : ¬(item.members? = none ∧ wanted.members? = none) := by
      rw [← comparisons?_eq_none_iff, hpairs]
      simp
    rcases sizeOf_parts hi with hi | ⟨hnone, hi⟩ <;> rcases sizeOf_parts hw with hw | ⟨hnone', hw⟩
    · omega
    · omega
    · omega
    · exact absurd ⟨hnone, hnone'⟩ hsome
  exact comparisons_induction h p.1 p.2
termination_by sizeOf item + sizeOf wanted

/-! ### Comparing leaves -/

/-- One of the leaves of a value is one of those of the wanted one. -/
def SharesLeaf (item wanted : Value) : Prop :=
  ∃ a ∈ item.leaves, ∃ b ∈ wanted.leaves, a.matchesWanted b = .ok true

/-- Collections share a leaf when they have parts that do. -/
theorem sharesLeaf_iff {pairs : List (Value × Value)} (h : comparisons? item wanted = some pairs) :
    SharesLeaf item wanted ↔ ∃ p ∈ pairs, SharesLeaf p.1 p.2 := by
  simp only [SharesLeaf, mem_comparisons_iff h]
  constructor
  · rintro ⟨a, ha, b, hb, hab⟩
    obtain ⟨i, hi, ha⟩ := mem_leaves_iff.1 ha
    obtain ⟨w, hw, hb⟩ := mem_leaves_iff.1 hb
    exact ⟨(i, w), ⟨hi, hw⟩, a, ha, b, hb, hab⟩
  · rintro ⟨p, ⟨hi, hw⟩, a, ha, b, hb, hab⟩
    exact ⟨a, mem_leaves_iff.2 ⟨_, hi, ha⟩, b, mem_leaves_iff.2 ⟨_, hw, hb⟩, hab⟩

/-- Two values that are compared by their leaves: no leaf of the first one is null, no wanted leaf
asks for any value at all, and no comparison of a leaf with a wanted leaf fails. -/
structure Comparable (item wanted : Value) : Prop where
  notNull : ∀ a ∈ item.leaves, a ≠ .null
  notTrue : ∀ b ∈ wanted.leaves, b ≠ .bool true
  answers : ∀ a ∈ item.leaves, ∀ b ∈ wanted.leaves, ∃ answer, a.matchesWanted b = .ok answer

namespace Comparable

/-- Only the leaves matter. -/
theorem mono (h : Comparable item wanted) (hv : ∀ a ∈ v.leaves, a ∈ item.leaves)
    (hw : ∀ b ∈ w.leaves, b ∈ wanted.leaves) : Comparable v w where
  notNull a ha := h.notNull a (hv a ha)
  notTrue b hb := h.notTrue b (hw b hb)
  answers a ha b hb := h.answers a (hv a ha) b (hw b hb)

theorem isTrue_eq_false (h : Comparable item wanted) : wanted.isTrue = false := by
  cases wanted with
  | bool b =>
    cases b with
    | true => exact absurd rfl (h.notTrue _ (mem_leaves_self rfl))
    | false => rfl
  | _ => rfl

theorem isNull_eq_false (h : Comparable item wanted) : item.isNull = false := by
  cases item with
  | null => exact absurd rfl (h.notNull _ (mem_leaves_self rfl))
  | _ => rfl

/-- Values that can be compared by their leaves are. -/
theorem decides_matchesWanted (h : Comparable item wanted) :
    (item.matchesWanted wanted).Decides (SharesLeaf item wanted) := by
  induction item, wanted using comparisons_induction with
  | h item wanted ih =>
    cases hpairs : comparisons? item wanted with
    | none =>
      obtain ⟨hitem, hwanted⟩ := comparisons?_eq_none_iff.1 hpairs
      obtain ⟨answer, hanswer⟩ :=
        h.answers _ (mem_leaves_self hitem) _ (mem_leaves_self hwanted)
      refine ⟨answer, hanswer, ?_⟩
      simp [SharesLeaf, leaves_of_scalar hitem, leaves_of_scalar hwanted, hanswer]
    | some pairs =>
      have hparts (p : Value × Value) (hp : p ∈ pairs) : Comparable p.1 p.2 := by
        obtain ⟨hi, hw⟩ := (mem_comparisons_iff hpairs).1 hp
        exact h.mono (fun a ha ↦ mem_leaves_iff.2 ⟨_, hi, ha⟩)
          fun b hb ↦ mem_leaves_iff.2 ⟨_, hw, hb⟩
      rw [matchesWanted_of_comparisons h.isTrue_eq_false h.isNull_eq_false hpairs]
      exact (decides_any fun p hp ↦ ih pairs hpairs p hp (hparts p hp)).congr
        (sharesLeaf_iff hpairs).symm

end Comparable

/-! ### Rearranging -/

/-- Two values the second of which is the first one with its collections rearranged. -/
inductive Rearranged : Value → Value → Prop where
  | reordered {items items' : List Value} (h : items.Perm items') :
    Rearranged (list items) (list items')
  | repeated {i : Value} {items : List Value} (h : i ∈ items) :
    Rearranged (list items) (list (i :: items))
  | wrapped (v : Value) : Rearranged v (list [v])
  | flattened (front inner back : List Value) :
    Rearranged (list (front ++ list inner :: back)) (list (front ++ inner ++ back))
  | collected {v : Value} {items : List Value} (h : v.members? = some items) :
    Rearranged v (list items)
  | within {i i' : Value} (front back : List Value) (h : Rearranged i i') :
    Rearranged (list (front ++ i :: back)) (list (front ++ i' :: back))
  | refl (v : Value) : Rearranged v v
  | symm {v w : Value} (h : Rearranged v w) : Rearranged w v
  | trans {u v w : Value} (h : Rearranged u v) (h' : Rearranged v w) : Rearranged u w

/-- To rearrange a value keeps its leaves. -/
theorem Rearranged.mem_leaves_iff (h : Rearranged v w) : a ∈ v.leaves ↔ a ∈ w.leaves := by
  induction h with
  | reordered h => simp only [mem_leaves_list, h.mem_iff]
  | @repeated i items h =>
    simp only [mem_leaves_list, List.exists_mem_cons_iff]
    exact ⟨.inr, fun ha ↦ ha.elim (fun ha ↦ ⟨i, h, ha⟩) id⟩
  | wrapped v => simp [mem_leaves_list]
  | flattened front inner back =>
    simp only [mem_leaves_list, List.mem_append, List.mem_cons, or_and_right, exists_or,
      exists_eq_left, or_assoc]
  | collected h => rw [mem_leaves_list, Value.mem_leaves_iff, parts, h, Option.getD_some]
  | within front back _ ih =>
    simp only [mem_leaves_list, List.mem_append, List.mem_cons, or_and_right, exists_or,
      exists_eq_left, ih]
  | refl v => rfl
  | symm _ ih => exact ih.symm
  | trans _ _ ih ih' => exact ih.trans ih'

/-- A value, however deep its lists are nested, is the wanted one exactly when one of its leaves is
one of the wanted leaves. So the answer stays the same when lists on either side are rearranged. -/
theorem matchesWanted_leaves {item wanted : Value} (h : Comparable item wanted) :
    (item.matchesWanted wanted).Decides
      (∃ a ∈ item.leaves, ∃ b ∈ wanted.leaves, a.matchesWanted b = .ok true) ∧
    ∀ item' wanted', item.Rearranged item' → wanted.Rearranged wanted' →
      item'.matchesWanted wanted' = item.matchesWanted wanted := by
  refine ⟨h.decides_matchesWanted, fun item' wanted' hitem hwanted ↦ ?_⟩
  have h' : Comparable item' wanted' :=
    h.mono (fun a ha ↦ hitem.mem_leaves_iff.2 ha) fun b hb ↦ hwanted.mem_leaves_iff.2 hb
  refine h'.decides_matchesWanted.eq (h.decides_matchesWanted.congr ?_)
  simp only [SharesLeaf, hitem.mem_leaves_iff, hwanted.mem_leaves_iff]

/-- A tag, and a number and nothing in a list of their own. -/
def nestedTags : Value := list [text "work", list [int 3, list []]]

/-- Two tags, one of them in a list of its own. -/
def wantedTags : Value := list [list [text "open"], text " Work"]

theorem comparable_nestedTags : Comparable nestedTags wantedTags where
  notNull := by simp [nestedTags, leaves, leavesOf]
  notTrue := by simp [wantedTags, leaves, leavesOf]
  answers a ha b hb := by
    have hanswers : ∀ a ∈ nestedTags.leaves, ∀ b ∈ wantedTags.leaves,
        (a.matchesWanted b).isOk = true := by decide +kernel
    exact Outline.isOk_iff.1 (hanswers a ha b hb)

/-- One of the tags is wanted, also when the number comes first and the inner lists are gone. -/
theorem nestedTags_matchesWanted : nestedTags.matchesWanted wantedTags = .ok true ∧
    (list [int 3, text "work"]).matchesWanted wantedTags = .ok true := by
  obtain ⟨hdecides, hrearranged⟩ := matchesWanted_leaves comparable_nestedTags
  have hsame : (text "work").matchesWanted (text " Work") = .ok true := by decide +kernel
  have hanswer : nestedTags.matchesWanted wantedTags = .ok true :=
    hdecides.eq_ok_true_iff.2 ⟨text "work", by simp [nestedTags, leaves, leavesOf],
      text " Work", by simp [wantedTags, leaves, leavesOf], hsame⟩
  have hflat : nestedTags.Rearranged (list [int 3, text "work"]) :=
    (Rearranged.flattened [text "work"] [int 3, list []] []).trans
      ((Rearranged.flattened [text "work", int 3] [] []).trans (.reordered (.swap _ _ _)))
  exact ⟨hanswer, (hrearranged _ _ hflat (.refl _)).trans hanswer⟩

end Value

end OutlineSearch
