import OutlineSearch.Proofs.Number.Range
import OutlineSearch.Proofs.Value.Wanted
import OutlineSearch.Search.Execute

/-!
# Integers out of range

To filter and to sort records fails in one way only: an integer beyond the numbers of 64 bits is
made one of them. This happens where such an integer is compared with a number as a property value,
or stands as a time stamp that is compared or sorted by, and it fails for all records when it does
for one.
-/

namespace OutlineSearch

open OutlineSearch.Binary64

/-- The fault of making an integer out of range a number of 64 bits. -/
def overflowFault : Fault := .overflow "int too large to convert to float"

namespace Outcome

variable {α β : Type} {P Q : Prop}

/-- An outcome that fails under a condition, and in one way only. -/
inductive OverflowsWhen : Outcome α → Prop → Prop where
  | fails {P : Prop} (h : P) : OverflowsWhen (.error overflowFault) P
  | returns {P : Prop} (a : α) (h : ¬P) : OverflowsWhen (.ok a) P

theorem overflowsWhen_ok (a : α) : OverflowsWhen (.ok a) False := .returns a id

theorem OverflowsWhen.congr {o : Outcome α} (h : o.OverflowsWhen P) (hPQ : P ↔ Q) :
    o.OverflowsWhen Q := by
  rwa [← propext hPQ]

/-- This is the only fault, and it occurs exactly under the condition. -/
theorem OverflowsWhen.error_iff {o : Outcome α} (h : o.OverflowsWhen P) (fault : Fault) :
    o = .error fault ↔ fault = overflowFault ∧ P := by
  cases h with
  | fails h => simp [h, eq_comm]
  | returns a h => simp [h]

theorem OverflowsWhen.exists_ok_iff {o : Outcome α} (h : o.OverflowsWhen P) :
    (∃ a, o = .ok a) ↔ ¬P := by
  cases h with
  | fails h => simp [h]
  | returns a h => simp [h]

/-- An outcome that fails in this way only. -/
theorem OverflowsWhen.self {o : Outcome α} (h : o.OverflowsWhen P) :
    o.OverflowsWhen (o = .error overflowFault) := by
  cases h with
  | fails h => exact .fails rfl
  | returns a h => exact .returns a (by simp)

theorem OverflowsWhen.map {o : Outcome α} (h : o.OverflowsWhen P) (f : α → β) :
    OverflowsWhen (o.map f) P := by
  cases h with
  | fails h => exact .fails h
  | returns a h => exact .returns (f a) h

/-- Of two outcomes one after the other, the second one counts when the first one is given. -/
theorem OverflowsWhen.bind {o : Outcome α} {f : α → Outcome β} {R : α → Prop}
    (ho : o.OverflowsWhen P) (hf : ∀ a, (f a).OverflowsWhen (R a)) :
    OverflowsWhen (o >>= f) (P ∨ ∃ a, o = .ok a ∧ R a) := by
  cases ho with
  | fails h => exact .fails (.inl h)
  | returns a h =>
    change (f a).OverflowsWhen _
    exact (hf a).congr (by simp [h])

/-- Of two outcomes one after the other, the second one of which fails whatever the first one is. -/
theorem OverflowsWhen.bind_or {o : Outcome α} {f : α → Outcome β} (ho : o.OverflowsWhen P)
    (hf : ∀ a, (f a).OverflowsWhen Q) : OverflowsWhen (o >>= f) (P ∨ Q) := by
  refine (ho.bind hf).congr ?_
  have hgiven := ho.exists_ok_iff
  by_cases hP : P
  · simp [hP]
  · obtain ⟨a, ha⟩ := hgiven.2 hP
    simp [hP, ha]

/-- A member of a list is reached when those before it all have one answer. -/
def Reaches (answer : α → Outcome Bool) (skip : Bool) (R : α → Prop) (items : List α) : Prop :=
  ∃ front a back, items = front ++ a :: back ∧ (∀ x ∈ front, answer x = .ok skip) ∧ R a

section

variable {answer : α → Outcome Bool} {skip : Bool} {R : α → Prop} {items : List α}

theorem not_reaches_nil : ¬Reaches answer skip R [] := by
  rintro ⟨front, a, back, h, -⟩
  simp at h

theorem reaches_cons {a : α} :
    Reaches answer skip R (a :: items) ↔
      R a ∨ answer a = .ok skip ∧ Reaches answer skip R items := by
  constructor
  · rintro ⟨front, b, back, hsplit, hfront, hb⟩
    cases front with
    | nil =>
      obtain ⟨rfl, -⟩ := List.cons.inj hsplit
      exact .inl hb
    | cons x front =>
      obtain ⟨rfl, rfl⟩ := List.cons.inj hsplit
      rw [List.forall_mem_cons] at hfront
      exact .inr ⟨hfront.1, front, b, back, rfl, hfront.2, hb⟩
  · rintro (ha | ⟨hskip, front, b, back, rfl, hfront, hb⟩)
    · exact ⟨[], a, items, rfl, List.forall_mem_nil _, ha⟩
    · exact ⟨a :: front, b, back, rfl, List.forall_mem_cons.2 ⟨hskip, hfront⟩, hb⟩

/-- What is reached stands at a place before which all members are passed over. -/
theorem reaches_iff_getElem? : Reaches answer skip R items ↔
    ∃ k a, items[k]? = some a ∧ (∀ x ∈ items.take k, answer x = .ok skip) ∧ R a := by
  constructor
  · rintro ⟨front, a, back, rfl, hfront, ha⟩
    refine ⟨front.length, a, ?_, ?_, ha⟩
    · rw [List.getElem?_append_right (Nat.le_refl _), Nat.sub_self, List.getElem?_cons_zero]
    · rwa [List.take_left]
  · rintro ⟨k, a, hk, hfront, ha⟩
    obtain ⟨hlt, rfl⟩ := List.getElem?_eq_some_iff.1 hk
    refine ⟨items.take k, _, items.drop (k + 1), ?_, hfront, ha⟩
    rw [List.getElem_cons_drop, List.take_append_drop]

/-- Whether one of some answers is yes fails at the first that is not no. -/
theorem overflowsWhen_any (h : ∀ a ∈ items, (answer a).OverflowsWhen (R a)) :
    (any (items.map answer)).OverflowsWhen (Reaches answer false R items) := by
  induction items with
  | nil => exact .returns false not_reaches_nil
  | cons a items ih =>
    obtain ⟨ha, hitems⟩ := List.forall_mem_cons.1 h
    generalize hanswer : answer a = o at ha
    rw [List.map_cons, hanswer]
    cases ha with
    | fails hR => exact .fails (reaches_cons.2 (.inl hR))
    | returns b hR =>
      cases b with
      | true =>
        exact .returns true fun hreaches ↦ (reaches_cons.1 hreaches).elim hR (by simp [hanswer])
      | false => exact (ih hitems).congr (by simp [reaches_cons, hanswer, hR])

/-- Whether all of some answers are yes fails at the first that is not yes. -/
theorem overflowsWhen_all (h : ∀ a ∈ items, (answer a).OverflowsWhen (R a)) :
    (all (items.map answer)).OverflowsWhen (Reaches answer true R items) := by
  induction items with
  | nil => exact .returns true not_reaches_nil
  | cons a items ih =>
    obtain ⟨ha, hitems⟩ := List.forall_mem_cons.1 h
    generalize hanswer : answer a = o at ha
    rw [List.map_cons, hanswer]
    cases ha with
    | fails hR => exact .fails (reaches_cons.2 (.inl hR))
    | returns b hR =>
      cases b with
      | true => exact (ih hitems).congr (by simp [reaches_cons, hanswer, hR])
      | false =>
        exact .returns false fun hreaches ↦ (reaches_cons.1 hreaches).elim hR (by simp [hanswer])

/-- To filter a list fails when the test fails for a member. -/
theorem overflowsWhen_filter {test : α → Outcome Bool} (h : ∀ a, (test a).OverflowsWhen (R a))
    (items : List α) : (filter test items).OverflowsWhen (∃ a ∈ items, R a) := by
  induction items with
  | nil => exact (overflowsWhen_ok []).congr (by simp)
  | cons a items ih =>
    refine ((h a).bind_or fun _ ↦ ih.bind_or fun _ ↦ overflowsWhen_ok _).congr ?_
    simp only [List.exists_mem_cons_iff, or_false]

end

end Outcome

open Outcome

/-! ### Values -/

namespace Value

/-- An integer out of range. -/
def Beyond (v : Value) : Prop := ∃ n, v = .int n ∧ OutOfRange n

/-- A value that is or spells a number. -/
def Spells (v : Value) : Prop := ∃ x, v.toFloat? = .ok (some x)

/-- A wanted value that is compared as a number. -/
def IsNumber (v : Value) : Prop := (∃ n, v = .int n) ∨ ∃ x, v = .float x

/-- Two values, neither of them a collection, whose comparison fails: the second one is a number,
and one of them is out of range, the second one only if the first one is a number too. -/
def Clashes (item wanted : Value) : Prop :=
  wanted.IsNumber ∧ (item.Beyond ∨ item.Spells ∧ wanted.Beyond)

/-- The comparisons of members that a comparison with a collection stands for, in their order. -/
def comparisons? (item wanted : Value) : Option (List (Value × Value)) :=
  match item.members?, wanted.members? with
  | some items, some wishes => some (items.flatMap fun i => wishes.map fun w => (i, w))
  | some items, none => some (items.map fun i => (i, wanted))
  | none, some wishes => some (wishes.map fun w => (item, w))
  | none, none => none

/-- Two values whose comparison fails: they clash, or two members do so that are come to, no pair of
members before them being the same. -/
inductive Overflows : Value → Value → Prop where
  | scalar {item wanted : Value} (h : comparisons? item wanted = none)
    (hclash : item.Clashes wanted) : Overflows item wanted
  | among {item wanted : Value} (htrue : wanted.isTrue = false) (hnull : item.isNull = false)
    {front back : List (Value × Value)} {i w : Value}
    (h : comparisons? item wanted = some (front ++ (i, w) :: back))
    (hfront : ∀ p ∈ front, p.1.matchesWanted p.2 = .ok false) (hlast : Overflows i w) :
    Overflows item wanted

/-- To make an integer a number of 64 bits fails when it is out of range. The conversion is a
variable here, since it does not end on an integer that is one. -/
theorem overflowsWhen_conversion {nearest? : Int → Option Binary64}
    (hnone : ∀ n, nearest? n = none ↔ OutOfRange n) (n : Int) :
    OverflowsWhen (match nearest? n with
      | some x => .ok (some x)
      | none => .error overflowFault) (int n).Beyond := by
  cases hn : nearest? n with
  | some x =>
    refine .returns _ ?_
    rintro ⟨m, hm, hbeyond⟩
    obtain rfl := int.inj hm
    rw [← hnone, hn] at hbeyond
    cases hbeyond
  | none => exact .fails ⟨n, rfl, (hnone n).1 hn⟩

/-- What reads a value that is no integer does not fail. -/
theorem overflowsWhen_of_ne_int {v : Value} {o : Option Binary64} (hv : ∀ n, v ≠ .int n) :
    OverflowsWhen (.ok o) v.Beyond :=
  .returns o fun ⟨n, hn, _⟩ ↦ hv n hn

/-- An integer is made a number of 64 bits, or is out of range. -/
theorem overflowsWhen_toFloat? (v : Value) : v.toFloat?.OverflowsWhen v.Beyond := by
  have hnone (n : Int) := ofInt?_eq_none_iff (n := n)
  obtain ⟨nearest?, hnearest⟩ : ∃ f, f = ofInt? := ⟨_, rfl⟩
  rw [toFloat?.eq_def]
  rw [← hnearest] at hnone ⊢
  cases v with
  | int n => exact overflowsWhen_conversion hnone n
  | _ => exact overflowsWhen_of_ne_int (by simp)

theorem overflowsWhen_sameAsNumber (item wanted : Value) :
    (sameAsNumber item wanted).OverflowsWhen (item.Beyond ∨ item.Spells ∧ wanted.Beyond) := by
  refine OverflowsWhen.congr (.bind (R := fun x ↦ x.isSome = true ∧ wanted.Beyond)
    (overflowsWhen_toFloat? item) fun x ↦ ?_) ?_
  · cases x with
    | none => exact (overflowsWhen_ok false).congr (by simp)
    | some x =>
      refine ((overflowsWhen_toFloat? wanted).bind_or (Q := False) fun y ↦ ?_).congr ?_
      · cases y with
        | none => exact overflowsWhen_ok false
        | some y => exact overflowsWhen_ok (x.equals y)
      · simp
  · simp only [Spells, Option.isSome_iff_exists]
    constructor
    · rintro (h | ⟨_, ho, ⟨x, rfl⟩, h⟩)
      · exact .inl h
      · exact .inr ⟨⟨x, ho⟩, h⟩
    · rintro (h | ⟨⟨x, ho⟩, h⟩)
      · exact .inl h
      · exact .inr ⟨_, ho, ⟨x, rfl⟩, h⟩

theorem overflowsWhen_matchesScalar (item wanted : Value) :
    (matchesScalar item wanted).OverflowsWhen (item.Clashes wanted) := by
  have hnumber (hwanted : wanted.IsNumber) :
      (sameAsNumber item wanted).OverflowsWhen (item.Clashes wanted) :=
    (overflowsWhen_sameAsNumber item wanted).congr (by simp [Clashes, hwanted])
  have hother {b : Bool} (hwanted : ¬wanted.IsNumber) :
      OverflowsWhen (.ok b) (item.Clashes wanted) :=
    .returns b fun hclash ↦ hwanted hclash.1
  cases wanted with
  | int n => cases item <;> exact hnumber (.inl ⟨n, rfl⟩)
  | float x => cases item <;> exact hnumber (.inr ⟨x, rfl⟩)
  | _ => cases item <;> exact hother (by simp [IsNumber])

theorem not_overflows_of_isTrue {item wanted : Value} (h : wanted.isTrue = true) :
    ¬Overflows item wanted := by
  intro hoverflows
  cases hoverflows with
  | scalar _ hclash =>
    obtain ⟨⟨n, rfl⟩ | ⟨x, rfl⟩, -⟩ := hclash <;> cases h
  | among htrue => rw [h] at htrue; cases htrue

theorem not_overflows_of_isNull {item wanted : Value} (h : item.isNull = true) :
    ¬Overflows item wanted := by
  intro hoverflows
  cases hoverflows with
  | scalar _ hclash =>
    cases item with
    | null =>
      obtain ⟨-, ⟨n, hn, -⟩ | ⟨⟨x, hx⟩, -⟩⟩ := hclash
      · cases hn
      · cases hx
    | _ => cases h
  | among _ hnull => rw [h] at hnull; cases hnull

/-- Comparisons with a collection are made one after the other. -/
theorem overflows_iff_reaches {item wanted : Value} {pairs : List (Value × Value)}
    (htrue : wanted.isTrue = false) (hnull : item.isNull = false)
    (h : comparisons? item wanted = some pairs) : Overflows item wanted ↔
      Reaches (fun p : Value × Value ↦ p.1.matchesWanted p.2) false (fun p ↦ Overflows p.1 p.2)
        pairs := by
  constructor
  · intro hoverflows
    cases hoverflows with
    | scalar hnone => rw [h] at hnone; cases hnone
    | among _ _ hsome hfront hlast =>
      rw [h] at hsome
      exact ⟨_, _, _, Option.some.inj hsome, hfront, hlast⟩
  · rintro ⟨front, ⟨i, w⟩, back, rfl, hfront, hlast⟩
    exact .among htrue hnull h hfront hlast

/-- A comparison with a collection asks whether one of its members is the wanted one. -/
theorem matchesWanted_of_comparisons {item wanted : Value} {pairs : List (Value × Value)}
    (htrue : wanted.isTrue = false) (hnull : item.isNull = false)
    (h : comparisons? item wanted = some pairs) :
    item.matchesWanted wanted = any (pairs.map fun p => p.1.matchesWanted p.2) := by
  rw [matchesWanted_eq, htrue, hnull, if_neg Bool.false_ne_true, if_neg Bool.false_ne_true]
  unfold comparisons? at h
  generalize item.members? = items at h ⊢
  generalize wanted.members? = wishes at h ⊢
  cases items with
  | none =>
    cases wishes with
    | none => cases h
    | some wishes =>
      cases h
      rw [List.map_map]
      rfl
  | some items =>
    cases wishes with
    | none =>
      cases h
      rw [List.map_map]
      rfl
    | some wishes =>
      cases h
      simp only [List.map_flatMap, List.map_map, Function.comp_def]

theorem overflowsWhen_of_comparisons {item wanted : Value} {pairs : List (Value × Value)}
    (htrue : wanted.isTrue = false) (hnull : item.isNull = false)
    (h : comparisons? item wanted = some pairs)
    (hall : ∀ p ∈ pairs, (p.1.matchesWanted p.2).OverflowsWhen (Overflows p.1 p.2)) :
    (item.matchesWanted wanted).OverflowsWhen (Overflows item wanted) := by
  rw [matchesWanted_of_comparisons htrue hnull h]
  exact (overflowsWhen_any hall).congr (overflows_iff_reaches htrue hnull h).symm

/-- To ask for a property value fails exactly for two values whose comparison fails. -/
theorem overflowsWhen_matchesWanted (item wanted : Value) :
    (item.matchesWanted wanted).OverflowsWhen (Overflows item wanted) := by
  induction item, wanted using matchesWanted.induct with
  | case1 item wanted htrue =>
    rw [matchesWanted_eq, if_pos htrue]
    exact .returns _ (not_overflows_of_isTrue htrue)
  | case2 item wanted htrue hnull =>
    rw [matchesWanted_eq, if_neg htrue, if_pos hnull]
    exact .returns _ (not_overflows_of_isNull hnull)
  | case3 item wanted htrue hnull items wishes hitems hwishes ih =>
    refine overflowsWhen_of_comparisons (Bool.eq_false_of_not_eq_true htrue)
      (Bool.eq_false_of_not_eq_true hnull) (by rw [comparisons?, hitems, hwishes]) fun p hp ↦ ?_
    obtain ⟨i, hi, hp⟩ := List.mem_flatMap.1 hp
    obtain ⟨w, hw, rfl⟩ := List.mem_map.1 hp
    exact ih i hi w hw
  | case4 item wanted htrue hnull items hitems hwishes ih =>
    refine overflowsWhen_of_comparisons (Bool.eq_false_of_not_eq_true htrue)
      (Bool.eq_false_of_not_eq_true hnull) (by rw [comparisons?, hitems, hwishes]) fun p hp ↦ ?_
    obtain ⟨i, hi, rfl⟩ := List.mem_map.1 hp
    exact ih i hi
  | case5 item wanted htrue hnull wishes hitems hwishes ih =>
    refine overflowsWhen_of_comparisons (Bool.eq_false_of_not_eq_true htrue)
      (Bool.eq_false_of_not_eq_true hnull) (by rw [comparisons?, hitems, hwishes]) fun p hp ↦ ?_
    obtain ⟨w, hw, rfl⟩ := List.mem_map.1 hp
    exact ih w hw
  | case6 item wanted htrue hnull hitems hwishes =>
    have hnone : comparisons? item wanted = none := by rw [comparisons?, hitems, hwishes]
    rw [matchesWanted_eq, if_neg htrue, if_neg hnull]
    simp only [hitems, hwishes]
    refine (overflowsWhen_matchesScalar item wanted).congr ⟨.scalar hnone, fun hoverflows ↦ ?_⟩
    cases hoverflows with
    | scalar _ hclash => exact hclash
    | among _ _ hsome => rw [hnone] at hsome; cases hsome

/-- An integer that a value is, or that stands in a member of it. -/
inductive Holds (n : Int) : Value → Prop where
  | self : Holds n (.int n)
  | member {v i : Value} {items : List Value} (h : v.members? = some items) (hi : i ∈ items)
    (hn : Holds n i) : Holds n v

/-- A value without an integer out of range. -/
def InRange (v : Value) : Prop := ∀ n, v.Holds n → ¬OutOfRange n

theorem Beyond.not_inRange {v : Value} (h : v.Beyond) : ¬v.InRange := by
  obtain ⟨n, rfl, hn⟩ := h
  exact fun hrange ↦ hrange n .self hn

theorem InRange.member {v i : Value} {items : List Value} (h : v.InRange)
    (hitems : v.members? = some items) (hi : i ∈ items) : i.InRange :=
  fun n hn ↦ h n (.member hitems hi hn)

/-- Values that are compared are the two values or members of them. -/
theorem inRange_of_comparisons {item wanted : Value} {pairs : List (Value × Value)}
    {p : Value × Value} (h : comparisons? item wanted = some pairs) (hp : p ∈ pairs)
    (hitem : item.InRange) (hwanted : wanted.InRange) : p.1.InRange ∧ p.2.InRange := by
  unfold comparisons? at h
  split at h
  · next items wishes hitems hwishes =>
    cases h
    obtain ⟨i, hi, hp⟩ := List.mem_flatMap.1 hp
    obtain ⟨w, hw, rfl⟩ := List.mem_map.1 hp
    exact ⟨hitem.member hitems hi, hwanted.member hwishes hw⟩
  · next items hitems _ =>
    cases h
    obtain ⟨i, hi, rfl⟩ := List.mem_map.1 hp
    exact ⟨hitem.member hitems hi, hwanted⟩
  · next wishes _ hwishes =>
    cases h
    obtain ⟨w, hw, rfl⟩ := List.mem_map.1 hp
    exact ⟨hitem, hwanted.member hwishes hw⟩
  · cases h

theorem not_overflows_of_inRange {item wanted : Value} (hitem : item.InRange)
    (hwanted : wanted.InRange) : ¬Overflows item wanted := by
  intro h
  induction h with
  | scalar _ hclash =>
    obtain ⟨-, hbeyond | ⟨-, hbeyond⟩⟩ := hclash
    · exact hbeyond.not_inRange hitem
    · exact hbeyond.not_inRange hwanted
  | among _ _ hpairs _ _ ih =>
    have hp := inRange_of_comparisons hpairs (List.mem_append_right _ (.head _)) hitem hwanted
    exact ih hp.1 hp.2

theorem inRange_null : null.InRange := by
  intro n h
  cases h with
  | member h => cases h

end Value

/-! ### Time stamps -/

/-- A time stamp that is an integer out of range. -/
def Stamp.Beyond (s : Option Stamp) : Prop := ∃ n, s = some (.int n) ∧ OutOfRange n

theorem Spelling.overflowsWhen_millis (v : Value) : (millis v).OverflowsWhen v.Beyond := by
  have hnone (n : Int) := ofInt?_eq_none_iff (n := n)
  obtain ⟨nearest?, hnearest⟩ : ∃ f, f = ofInt? := ⟨_, rfl⟩
  rw [millis.eq_def]
  rw [← hnearest] at hnone ⊢
  cases v with
  | int n => exact Value.overflowsWhen_conversion hnone n
  | text s =>
    dsimp only
    split
    · exact Value.overflowsWhen_of_ne_int (by simp)
    · split <;> exact Value.overflowsWhen_of_ne_int (by simp)
  | _ => exact Value.overflowsWhen_of_ne_int (by simp)

theorem Stamp.beyond_valueOf (s : Option Stamp) : (valueOf s).Beyond ↔ Beyond s := by
  cases s with
  | none => simp [valueOf, Value.Beyond, Beyond]
  | some s => cases s <;> simp [valueOf, toValue, Value.Beyond, Beyond]

/-! ### Filters -/

namespace Filter

variable {f : Filter} {r : Record}

/-- One of some wishes is come to whose comparison with the property of a record fails. -/
def WishOverflows (r : Record) (skip : Bool) (wishes : Properties) : Prop :=
  Reaches (fun w : String × Value ↦ hasProperty r w.1 w.2) skip
    (fun w ↦ ((r.properties.findValue? w.1).getD .null).Overflows w.2) wishes

/-- The comparison of a time with a bound fails: one of them is out of range. -/
def TimeOverflows (value bound : Option Stamp) : Prop :=
  bound ≠ none ∧ (Stamp.Beyond value ∨ Stamp.Beyond bound)

/-- The first clauses of a filter hold for a record. -/
def Passes (f : Filter) (r : Record) (count : Nat) : Prop :=
  ∀ o ∈ (f.clauses r).take count, o = .ok true

/-- A filter fails for a record: a clause fails, and those before it hold. -/
inductive Overflows (f : Filter) (r : Record) : Prop where
  | allProperties (hpasses : f.Passes r 2)
    (h : WishOverflows r true (f.propertiesAll.getD []))
  | anyProperty (hpasses : f.Passes r 3)
    (h : WishOverflows r false (f.propertiesAny.getD []))
  | createdAfter (hpasses : f.Passes r 6) (h : TimeOverflows r.created f.createdAfter)
  | createdBefore (hpasses : f.Passes r 7) (h : TimeOverflows r.created f.createdBefore)
  | updatedAfter (hpasses : f.Passes r 8) (h : TimeOverflows r.updated f.updatedAfter)
  | updatedBefore (hpasses : f.Passes r 9) (h : TimeOverflows r.updated f.updatedBefore)

theorem overflowsWhen_keepsAllProperties (wanted : Option Properties) (r : Record) :
    (keepsAllProperties wanted r).OverflowsWhen (WishOverflows r true (wanted.getD [])) :=
  overflowsWhen_all fun _ _ ↦ Value.overflowsWhen_matchesWanted _ _

theorem overflowsWhen_keepsAnyProperty (wanted : Option Properties) (r : Record) :
    (keepsAnyProperty wanted r).OverflowsWhen (WishOverflows r false (wanted.getD [])) := by
  unfold keepsAnyProperty
  split
  · next hnone =>
    rw [hnone]
    exact .returns true not_reaches_nil
  · exact overflowsWhen_any fun _ _ ↦ Value.overflowsWhen_matchesWanted _ _

theorem overflowsWhen_compareTimes (test : Binary64 → Binary64 → Bool)
    (value bound : Option Stamp) :
    (compareTimes test value bound).OverflowsWhen (TimeOverflows value bound) := by
  cases bound with
  | none => exact .returns true fun h ↦ h.1 rfl
  | some b =>
    have hbound : (Spelling.millis b.toValue).OverflowsWhen (Stamp.Beyond (some b)) :=
      (Spelling.overflowsWhen_millis _).congr (Stamp.beyond_valueOf (some b))
    have hvalue : (Spelling.millis (Stamp.valueOf value)).OverflowsWhen (Stamp.Beyond value) :=
      (Spelling.overflowsWhen_millis _).congr (Stamp.beyond_valueOf value)
    refine (hvalue.bind_or fun x ↦ hbound.bind_or (Q := False) fun y ↦ ?_).congr ?_
    · split
      · exact overflowsWhen_ok _
      · exact overflowsWhen_ok _
    · simp [TimeOverflows]

/-- Of the clauses of a filter only six can fail. -/
theorem reaches_clauses_iff (f : Filter) (r : Record) :
    Reaches id true (· = .error overflowFault) (f.clauses r) ↔ f.Overflows r := by
  have hall := (overflowsWhen_keepsAllProperties f.propertiesAll r).error_iff overflowFault
  have hany := (overflowsWhen_keepsAnyProperty f.propertiesAny r).error_iff overflowFault
  have htime (test : Binary64 → Binary64 → Bool) (value bound : Option Stamp) :=
    (overflowsWhen_compareTimes test value bound).error_iff overflowFault
  simp only [true_and] at hall hany htime
  rw [reaches_iff_getElem?]
  constructor
  · rintro ⟨k, o, hk, hpasses, rfl⟩
    match k, hk, hpasses with
    | 2, hk, hpasses => exact .allProperties hpasses (hall.1 (Option.some.inj hk))
    | 3, hk, hpasses => exact .anyProperty hpasses (hany.1 (Option.some.inj hk))
    | 6, hk, hpasses => exact .createdAfter hpasses ((htime _ _ _).1 (Option.some.inj hk))
    | 7, hk, hpasses => exact .createdBefore hpasses ((htime _ _ _).1 (Option.some.inj hk))
    | 8, hk, hpasses => exact .updatedAfter hpasses ((htime _ _ _).1 (Option.some.inj hk))
    | 9, hk, hpasses => exact .updatedBefore hpasses ((htime _ _ _).1 (Option.some.inj hk))
    | 0, hk, _ | 1, hk, _ | 4, hk, _ | 5, hk, _ | 10, hk, _ | 11, hk, _ | 12, hk, _ => cases hk
    | k + 13, hk, _ => cases hk
  · intro h
    cases h with
    | allProperties hpasses h => exact ⟨2, _, rfl, hpasses, hall.2 h⟩
    | anyProperty hpasses h => exact ⟨3, _, rfl, hpasses, hany.2 h⟩
    | createdAfter hpasses h => exact ⟨6, _, rfl, hpasses, (htime _ _ _).2 h⟩
    | createdBefore hpasses h => exact ⟨7, _, rfl, hpasses, (htime _ _ _).2 h⟩
    | updatedAfter hpasses h => exact ⟨8, _, rfl, hpasses, (htime _ _ _).2 h⟩
    | updatedBefore hpasses h => exact ⟨9, _, rfl, hpasses, (htime _ _ _).2 h⟩

/-- A filter fails for a record exactly when a clause fails and those before it hold. -/
theorem overflowsWhen_keeps (f : Filter) (r : Record) :
    (f.keeps r).OverflowsWhen (f.Overflows r) := by
  have hclauses : ∀ o ∈ f.clauses r, o.OverflowsWhen (o = .error overflowFault) := by
    simp only [clauses, List.forall_mem_cons]
    exact ⟨(overflowsWhen_ok _).self, (overflowsWhen_ok _).self,
      (overflowsWhen_keepsAllProperties _ r).self, (overflowsWhen_keepsAnyProperty _ r).self,
      (overflowsWhen_ok _).self, (overflowsWhen_ok _).self,
      (overflowsWhen_compareTimes _ _ _).self, (overflowsWhen_compareTimes _ _ _).self,
      (overflowsWhen_compareTimes _ _ _).self, (overflowsWhen_compareTimes _ _ _).self,
      (overflowsWhen_ok _).self, (overflowsWhen_ok _).self, (overflowsWhen_ok _).self,
      List.forall_mem_nil _⟩
  have hkeeps : (all ((f.clauses r).map id)).OverflowsWhen
      (Reaches id true (· = .error overflowFault) (f.clauses r)) := overflowsWhen_all hclauses
  rw [List.map_id] at hkeeps
  exact hkeeps.congr (reaches_clauses_iff f r)

/-- To filter records fails exactly when the filter fails for one of them. -/
theorem overflowsWhen_apply (filter : Option Filter) (records : List Record) :
    (apply filter records).OverflowsWhen (∃ f, filter = some f ∧ ∃ r ∈ records, f.Overflows r) := by
  cases filter with
  | none => exact (overflowsWhen_ok records).congr (by simp)
  | some f => exact (overflowsWhen_filter (overflowsWhen_keeps f) records).congr (by simp)

end Filter

/-! ### Sorting -/

namespace Record

/-- A record cannot be ranked: the time it is sorted by is out of range. -/
def RankOverflows (key : SortKey) (r : Record) : Prop :=
  key = .created ∧ Stamp.Beyond r.created ∨ key = .updated ∧ Stamp.Beyond r.updated

theorem overflowsWhen_rank (key : SortKey) (r : Record) :
    (r.rank key).OverflowsWhen (r.RankOverflows key) := by
  have htime (s : Option Stamp) : (timeRank (Stamp.valueOf s)).OverflowsWhen (Stamp.Beyond s) :=
    ((Spelling.overflowsWhen_millis _).congr (Stamp.beyond_valueOf s)).map _
  have htext (s : Option String) : (timeRank (textValue s)).OverflowsWhen False := by
    refine ((Spelling.overflowsWhen_millis _).congr ?_).map _
    cases s <;> simp [textValue, Value.Beyond]
  cases key with
  | created => exact (htime r.created).congr (by simp [RankOverflows])
  | updated => exact (htime r.updated).congr (by simp [RankOverflows])
  | deadline =>
    refine OverflowsWhen.congr (P := False) ?_ (by simp [RankOverflows])
    unfold rank deadlineValue
    cases r.detail with
    | task page status scheduled deadline => exact htext deadline
    | _ => exact htext none
  | scheduled =>
    refine OverflowsWhen.congr (P := False) ?_ (by simp [RankOverflows])
    unfold rank scheduledValue
    cases r.detail with
    | task page status scheduled deadline => exact htext scheduled
    | _ => exact htext none
  | _ => exact (overflowsWhen_ok _).congr (by simp [RankOverflows])

theorem overflowsWhen_ranked (key : SortKey) (records : List Record) :
    (ranked key records).OverflowsWhen (∃ r ∈ records, r.RankOverflows key) := by
  induction records with
  | nil => exact (overflowsWhen_ok []).congr (by simp)
  | cons r rest ih =>
    have hcons := (overflowsWhen_rank key r).bind_or fun k ↦
      ih.bind_or fun more ↦ overflowsWhen_ok ((k, r) :: more)
    exact hcons.congr (by simp only [List.exists_mem_cons_iff, or_false])

/-- To sort records fails exactly when one of them cannot be ranked. -/
theorem overflowsWhen_sorted (query : String) (key : SortKey) (order : SortOrder)
    (records : List Record) :
    (sorted query key order records).OverflowsWhen (∃ r ∈ records, r.RankOverflows key) := by
  have hsorted := (overflowsWhen_ranked key (records.map (scored query))).bind_or fun ranks ↦
    overflowsWhen_ok ((ranks.mergeSort (inOrder order)).map (·.2))
  refine hsorted.congr ?_
  simp only [List.mem_map, exists_exists_and_eq_and, or_false, RankOverflows, scored]

end Record

/-! ### Numbers in range -/

/-- A record without an integer out of range in its properties and its times. -/
structure Record.InRange (r : Record) : Prop where
  properties : ∀ p ∈ r.properties, p.2.InRange
  created : ¬Stamp.Beyond r.created
  updated : ¬Stamp.Beyond r.updated

/-- A filter without an integer out of range in the wanted properties and its times. -/
structure Filter.InRange (f : Filter) : Prop where
  propertiesAny : ∀ p ∈ f.propertiesAny.getD [], p.2.InRange
  propertiesAll : ∀ p ∈ f.propertiesAll.getD [], p.2.InRange
  createdAfter : ¬Stamp.Beyond f.createdAfter
  createdBefore : ¬Stamp.Beyond f.createdBefore
  updatedAfter : ¬Stamp.Beyond f.updatedAfter
  updatedBefore : ¬Stamp.Beyond f.updatedBefore

theorem Properties.mem_of_findValue? {p : Properties} {key : String} {v : Value}
    (h : p.findValue? key = some v) : ∃ e ∈ p, e.2 = v := by
  have hfind {test : String × Value → Bool} (h : (p.find? test).map (·.2) = some v) :
      ∃ e ∈ p, e.2 = v := by
    obtain ⟨e, he, rfl⟩ := Option.map_eq_some_iff.1 h
    exact ⟨e, List.mem_of_find?_eq_some he, rfl⟩
  unfold findValue? at h
  split at h
  · next w hw =>
    cases h
    exact hfind hw
  · exact hfind h

theorem Record.InRange.property {r : Record} (h : r.InRange) (key : String) :
    ((r.properties.findValue? key).getD .null).InRange := by
  cases hfind : r.properties.findValue? key with
  | none => exact Value.inRange_null
  | some v =>
    obtain ⟨e, he, rfl⟩ := Properties.mem_of_findValue? hfind
    exact h.properties e he

/-- With all numbers in range a filter does not fail. -/
theorem Filter.not_overflows_of_inRange {f : Filter} {r : Record} (hf : f.InRange)
    (hr : r.InRange) : ¬f.Overflows r := by
  have hwish {skip : Bool} {wishes : Properties} (hwishes : ∀ p ∈ wishes, p.2.InRange) :
      ¬WishOverflows r skip wishes := by
    rintro ⟨front, w, back, rfl, -, hw⟩
    exact Value.not_overflows_of_inRange (hr.property w.1)
      (hwishes w (List.mem_append_right _ (.head _))) hw
  have htime {value bound : Option Stamp} (hvalue : ¬Stamp.Beyond value)
      (hbound : ¬Stamp.Beyond bound) : ¬TimeOverflows value bound :=
    fun h ↦ h.2.elim hvalue hbound
  intro h
  cases h with
  | allProperties _ h => exact hwish hf.propertiesAll h
  | anyProperty _ h => exact hwish hf.propertiesAny h
  | createdAfter _ h => exact htime hr.created hf.createdAfter h
  | createdBefore _ h => exact htime hr.created hf.createdBefore h
  | updatedAfter _ h => exact htime hr.updated hf.updatedAfter h
  | updatedBefore _ h => exact htime hr.updated hf.updatedBefore h

theorem Record.InRange.not_rankOverflows {r : Record} (h : r.InRange) (key : SortKey) :
    ¬r.RankOverflows key := by
  rintro (⟨-, hcreated⟩ | ⟨-, hupdated⟩)
  · exact h.created hcreated
  · exact h.updated hupdated

/-! ### Searches -/

/-- To arrange the records of a request fails exactly when its filter fails for one of the records
in its scope, or one that the filter keeps cannot be ranked. -/
theorem SearchRequest.overflowsWhen_arrange (r : SearchRequest) (records : List Record) :
    (r.arrange records).OverflowsWhen
      ((∃ f, r.filter = some f ∧ ∃ x ∈ Scope.apply r.scope records, f.Overflows x) ∨
        ∃ kept, Filter.apply r.filter (Scope.apply r.scope records) = .ok kept ∧
          ∃ x ∈ kept, x.RankOverflows r.sort) :=
  (Filter.overflowsWhen_apply r.filter _).bind fun kept ↦ Record.overflowsWhen_sorted _ _ _ kept

/-- To filter and to sort records return, unless the filter fails for a record or a record cannot be
ranked; this does not happen while all numbers are in range. There is no other fault, and a search
that meets it is told to have failed. -/
theorem arranging_returns_iff (filter : Option Filter) (query : String) (key : SortKey)
    (order : SortOrder) (records : List Record) :
    ((∃ kept, Filter.apply filter records = .ok kept) ↔
      ∀ f, filter = some f → ∀ r ∈ records, ¬f.Overflows r) ∧
    ((∃ sorted, Record.sorted query key order records = .ok sorted) ↔
      ∀ r ∈ records, ¬r.RankOverflows key) ∧
    ((∀ f, filter = some f → f.InRange) → (∀ r ∈ records, r.InRange) →
      (∃ kept, Filter.apply filter records = .ok kept) ∧
      ∃ sorted, Record.sorted query key order records = .ok sorted) ∧
    (∀ fault, Filter.apply filter records = .error fault ∨
      Record.sorted query key order records = .error fault → fault = overflowFault) ∧
    ∀ (request : SearchRequest) (fault : Fault),
      (request.arrange records).mapError SearchRequest.toldFault = .error fault →
        fault = .internal "Search failed: int too large to convert to float" := by
  have happly := Filter.overflowsWhen_apply filter records
  have hsorted := Record.overflowsWhen_sorted query key order records
  have hkept : (∃ kept, Filter.apply filter records = .ok kept) ↔
      ∀ f, filter = some f → ∀ r ∈ records, ¬f.Overflows r := by
    rw [happly.exists_ok_iff]
    simp only [not_exists, not_and]
  have hranked : (∃ sorted, Record.sorted query key order records = .ok sorted) ↔
      ∀ r ∈ records, ¬r.RankOverflows key := by
    rw [hsorted.exists_ok_iff]
    simp only [not_exists, not_and]
  refine ⟨hkept, hranked, fun hfilter hrecords ↦ ⟨hkept.2 ?_, hranked.2 ?_⟩, ?_, ?_⟩
  · exact fun f hf r hr ↦ Filter.not_overflows_of_inRange (hfilter f hf) (hrecords r hr)
  · exact fun r hr ↦ (hrecords r hr).not_rankOverflows key
  · rintro fault (h | h)
    · exact ((happly.error_iff fault).1 h).1
    · exact ((hsorted.error_iff fault).1 h).1
  · intro request fault h
    have harrange := request.overflowsWhen_arrange records
    generalize request.arrange records = o at harrange h
    cases harrange with
    | fails hoverflows => exact (Except.error.inj h).symm
    | returns arranged hreturns => cases h

/-- A page whose property and whose time are one integer. -/
def countedPage (n : Int) : Record where
  id := "1"
  name := "a"
  properties := [("k", .int n)]
  created := some (.int n)
  detail := .page false none none

/-- A filter for pages with a small number. -/
def smallFilter : Filter where
  propertiesAll := some [("k", .int 1)]

/-- An integer out of range, the four hundredth power of ten. -/
def farInteger : Int := (Nat.pow 10 200 * Nat.pow 10 200 : Nat)

theorem outOfRange_farInteger : OutOfRange farInteger := by
  change rangeLimit ≤ Nat.pow 10 200 * Nat.pow 10 200
  decide +kernel

theorem smallFilter_overflows {n : Int} (h : OutOfRange n) :
    smallFilter.Overflows (countedPage n) := by
  refine .allProperties (by simp [Filter.Passes, Filter.clauses, smallFilter]) ?_
  refine ⟨[], ("k", .int 1), [], rfl, List.forall_mem_nil _, .scalar rfl ⟨.inl ⟨1, rfl⟩, .inl ?_⟩⟩
  exact ⟨n, rfl, h⟩

/-- The filter and the page are read from arguments and from a document. With them neither the
filter returns, nor a sort by the time. -/
theorem not_arranging_returns :
    Filter.read (.map [(.text "properties_all", .map [(.text "k", .int 1)])]) = .valid smallFilter ∧
    Record.read (.map [(.text "id", .text "1"), (.text "name", .text "a"),
      (.text "type", .text "page"), (.text "properties", .map [(.text "k", .int farInteger)]),
      (.text "created", .int farInteger)]) = .valid (countedPage farInteger) ∧
    ¬((∃ kept, Filter.apply (some smallFilter) [countedPage farInteger] = .ok kept) ∨
      ∃ sorted, Record.sorted "" .created .ascending [countedPage farInteger] = .ok sorted) := by
  have hfar := outOfRange_farInteger
  generalize farInteger = n at hfar ⊢
  refine ⟨rfl, rfl, ?_⟩
  rintro (h | h)
  · refine (Filter.overflowsWhen_apply _ _).exists_ok_iff.1 h ⟨_, rfl, _, .head _, ?_⟩
    exact smallFilter_overflows hfar
  · refine (Record.overflowsWhen_sorted _ _ _ _).exists_ok_iff.1 h ⟨_, .head _, .inl ⟨rfl, ?_⟩⟩
    exact ⟨n, rfl, hfar⟩

end OutlineSearch
