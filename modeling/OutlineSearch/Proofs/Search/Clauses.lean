import OutlineSearch.Proofs.Outline.Faults
import OutlineSearch.Search.Filter
import OutlineSearch.Search.Scope

/-!
# Independent clauses

The parts of a filter are clauses that know nothing of one another, and so are those of a scope. A
filter with the parts of two others, which set none in common, keeps what both of them keep. To
apply it is to apply the one and then the other, in either order. A part that is not set asks
nothing, so a filter with one part answers as that part does.
-/

namespace OutlineSearch

/-! ### Answers that decide -/

namespace Outcome

@[simp] theorem all_ok_true (xs : List (Outcome Bool)) : all (.ok true :: xs) = all xs := rfl

@[simp] theorem all_ok_false (xs : List (Outcome Bool)) : all (.ok false :: xs) = .ok false := rfl

@[simp] theorem all_error (fault : Fault) (xs : List (Outcome Bool)) :
    all (.error fault :: xs) = .error fault := rfl

@[simp] theorem all_singleton (o : Outcome Bool) : all [o] = o := by
  cases o with
  | error fault => rfl
  | ok b => cases b <;> rfl

@[simp] theorem any_ok_false (xs : List (Outcome Bool)) : any (.ok false :: xs) = any xs := rfl

@[simp] theorem any_ok_true (xs : List (Outcome Bool)) : any (.ok true :: xs) = .ok true := rfl

@[simp] theorem any_error (fault : Fault) (xs : List (Outcome Bool)) :
    any (.error fault :: xs) = .error fault := rfl

theorem eq_true_of_all {xs : List (Outcome Bool)} (h : all xs = .ok true) :
    ∀ x ∈ xs, x = .ok true := by
  induction xs with
  | nil => exact List.forall_mem_nil _
  | cons x xs ih =>
    cases x with
    | error fault => cases h
    | ok b =>
      cases b with
      | false => cases h
      | true => exact List.forall_mem_cons.2 ⟨rfl, ih h⟩

/-- What answers come to, unless all are yes, is one of them. -/
theorem all_mem {xs : List (Outcome Bool)} (h : all xs ≠ .ok true) : all xs ∈ xs := by
  induction xs with
  | nil => exact absurd rfl h
  | cons x xs ih =>
    cases x with
    | error fault => exact .head _
    | ok b =>
      cases b with
      | false => exact .head _
      | true => exact .tail _ (ih h)

theorem false_mem_of_all {xs : List (Outcome Bool)} (h : all xs = .ok false) : .ok false ∈ xs :=
  h ▸ all_mem (by simp [h])

/-- Answers that are all yes but for one come to this one. -/
theorem all_eq_of_forall {xs : List (Outcome Bool)} {o : Outcome Bool} (ho : o ∈ xs)
    (h : ∀ x ∈ xs, x = .ok true ∨ x = o) : all xs = o := by
  by_cases hyes : all xs = .ok true
  · rw [hyes, eq_true_of_all hyes o ho]
  · exact (h _ (all_mem hyes)).resolve_left hyes

theorem eq_false_of_any {xs : List (Outcome Bool)} (h : any xs = .ok false) :
    ∀ x ∈ xs, x = .ok false := by
  induction xs with
  | nil => exact List.forall_mem_nil _
  | cons x xs ih =>
    cases x with
    | error fault => cases h
    | ok b =>
      cases b with
      | true => cases h
      | false => exact List.forall_mem_cons.2 ⟨rfl, ih h⟩

theorem true_mem_of_any {xs : List (Outcome Bool)} (h : any xs = .ok true) : .ok true ∈ xs := by
  induction xs with
  | nil => cases h
  | cons x xs ih =>
    cases x with
    | error fault => cases h
    | ok b =>
      cases b with
      | true => exact .head _
      | false => exact .tail _ (ih h)

/-! ### Answers joined one by one -/

/-- Whether two answers are yes; the first one that is not decides. -/
def and : Outcome Bool → Outcome Bool → Outcome Bool
  | .ok true, o => o
  | other, _ => other

theorem and_ok_true (o : Outcome Bool) : o.and (.ok true) = o := by
  cases o with
  | error fault => rfl
  | ok b => cases b <;> rfl

theorem and_ok (b b' : Bool) : and (.ok b) (.ok b') = .ok (b && b') := by
  cases b <;> rfl

theorem and_eq_ok_true_iff {o o' : Outcome Bool} :
    o.and o' = .ok true ↔ o = .ok true ∧ o' = .ok true := by
  cases o with
  | error fault => simp [and]
  | ok b => cases b <;> simp [and]

theorem all_cons (o : Outcome Bool) (answers : List (Outcome Bool)) :
    all (o :: answers) = o.and (all answers) := by
  cases o with
  | error fault => rfl
  | ok b => cases b <;> rfl

/-- Each answer of a list is that of one list and that of another one. -/
inductive Joined :
    List (Outcome Bool) → List (Outcome Bool) → List (Outcome Bool) → Prop where
  | nil : Joined [] [] []
  | cons {o o' joint : Outcome Bool} {answers answers' joints : List (Outcome Bool)}
    (h : joint = o.and o') (hrest : Joined answers answers' joints) :
    Joined (o :: answers) (o' :: answers') (joint :: joints)

namespace Joined

variable {answers answers' joints : List (Outcome Bool)}

/-- Joined answers are all yes when those of both lists are, whatever fails in them. -/
theorem all_eq_ok_true_iff (h : Joined answers answers' joints) :
    all joints = .ok true ↔ all answers = .ok true ∧ all answers' = .ok true := by
  induction h with
  | nil => simp
  | cons h _ ih =>
    subst h
    simp only [all_cons, and_eq_ok_true_iff, ih]
    exact and_and_and_comm

/-- What joined answers come to when those of either list do not fail before they are settled. -/
theorem all_eq_ok (h : Joined answers answers' joints) {b b' : Bool} (hall : all answers = .ok b)
    (hall' : all answers' = .ok b') : all joints = .ok (b && b') := by
  induction h generalizing b b' with
  | nil =>
    cases hall
    exact hall'
  | @cons o o' joint answers answers' joints h _ ih =>
    subst h
    rw [all_cons] at hall hall' ⊢
    -- neither of the first answers fails, and one that is no settles its list
    cases o with
    | error fault => cases hall
    | ok first =>
      cases o' with
      | error fault => cases hall'
      | ok first' =>
        cases first with
        | false =>
          cases hall
          rfl
        | true =>
          cases first' with
          | false =>
            cases hall'
            rw [Bool.and_false]
            rfl
          | true => exact ih hall hall'

end Joined

/-- To filter with a test that does not fail is to filter with its answers. -/
theorem filter_eq_ok {α : Type} {test : α → Outcome Bool} {p : α → Bool} {items : List α}
    (h : ∀ a ∈ items, test a = .ok (p a)) : filter test items = .ok (items.filter p) := by
  induction items with
  | nil => rfl
  | cons a items ih =>
    rw [List.forall_mem_cons] at h
    rw [filter, h.1, ih h.2, List.filter_cons]
    rfl

end Outcome

open Outcome

/-! ### Parts that are not set -/

namespace Filter

@[simp] theorem keepsAllProperties_none (r : Record) : keepsAllProperties none r = .ok true := rfl

@[simp] theorem keepsAnyProperty_none (r : Record) : keepsAnyProperty none r = .ok true := rfl

@[simp] theorem keepsAnyTag_none (r : Record) : keepsAnyTag none r = true := rfl

@[simp] theorem after_none (value : Option Stamp) : after value none = .ok true := rfl

@[simp] theorem before_none (value : Option Stamp) : before value none = .ok true := rfl

@[simp] theorem ifSpoken_none (test : String → Bool) : ifSpoken none test = true := rfl

theorem keepsTask_of_none {f : Filter} (hstate : f.todoState = none)
    (hscheduled : f.scheduledOn = none) (hdeadlined : f.deadlinedOn = none) (r : Record) :
    f.keepsTask r = true := by
  unfold keepsTask
  split <;> simp [hstate, hscheduled, hdeadlined]

/-- A filter all of whose clauses but one ask nothing of a record answers as this clause does. -/
theorem keeps_eq_of_forall {f : Filter} {r : Record} {o : Outcome Bool} (ho : o ∈ f.clauses r)
    (h : ∀ x ∈ f.clauses r, x = .ok true ∨ x = o) : f.keeps r = o :=
  all_eq_of_forall ho h

end Filter

/-! ### Parts that are set apart -/

/-- A part that one of two filters does not set. -/
abbrev SetOnce {α : Type} (a b : Option α) : Prop := a = none ∨ b = none

namespace SetOnce

variable {α : Type} {a b : Option α}

/-- A clause that a part not set does not ask for is that of one filter and that of the other. -/
theorem clause (h : SetOnce a b) (clause : Option α → Outcome Bool)
    (hnone : clause none = .ok true) : clause (a.or b) = (clause a).and (clause b) := by
  rcases h with rfl | rfl
  · rw [hnone, Option.none_or]
    rfl
  · rw [hnone, Option.or_none, and_ok_true]

theorem test (h : SetOnce a b) (test : Option α → Bool) (hnone : test none = true) :
    test (a.or b) = (test a && test b) := by
  rcases h with rfl | rfl
  · rw [hnone, Option.none_or, Bool.true_and]
  · rw [hnone, Option.or_none, Bool.and_true]

end SetOnce

/-! ### Filters -/

namespace Filter

/-- Two filters that set no part in common. -/
structure Apart (f g : Filter) : Prop where
  lengthMin : SetOnce f.lengthMin g.lengthMin
  lengthMax : SetOnce f.lengthMax g.lengthMax
  propertiesAny : SetOnce f.propertiesAny g.propertiesAny
  propertiesAll : SetOnce f.propertiesAll g.propertiesAll
  tagsAny : SetOnce f.tagsAny g.tagsAny
  tagsAll : SetOnce f.tagsAll g.tagsAll
  createdAfter : SetOnce f.createdAfter g.createdAfter
  createdBefore : SetOnce f.createdBefore g.createdBefore
  updatedAfter : SetOnce f.updatedAfter g.updatedAfter
  updatedBefore : SetOnce f.updatedBefore g.updatedBefore
  contains : SetOnce f.contains g.contains
  exclude : SetOnce f.exclude g.exclude
  todoState : SetOnce f.todoState g.todoState
  scheduledOn : SetOnce f.scheduledOn g.scheduledOn
  deadlinedOn : SetOnce f.deadlinedOn g.deadlinedOn

/-- The filter with the parts of two filters; of a part that both set, that of the first. -/
def both (f g : Filter) : Filter where
  lengthMin := f.lengthMin.or g.lengthMin
  lengthMax := f.lengthMax.or g.lengthMax
  propertiesAny := f.propertiesAny.or g.propertiesAny
  propertiesAll := f.propertiesAll.or g.propertiesAll
  tagsAny := f.tagsAny.or g.tagsAny
  tagsAll := f.tagsAll.or g.tagsAll
  createdAfter := f.createdAfter.or g.createdAfter
  createdBefore := f.createdBefore.or g.createdBefore
  updatedAfter := f.updatedAfter.or g.updatedAfter
  updatedBefore := f.updatedBefore.or g.updatedBefore
  contains := f.contains.or g.contains
  exclude := f.exclude.or g.exclude
  todoState := f.todoState.or g.todoState
  scheduledOn := f.scheduledOn.or g.scheduledOn
  deadlinedOn := f.deadlinedOn.or g.deadlinedOn

variable {f g : Filter}

theorem keepsTask_both (h : f.Apart g) (r : Record) :
    (f.both g).keepsTask r = (f.keepsTask r && g.keepsTask r) := by
  unfold keepsTask
  cases r.detail with
  | task page status scheduled deadline =>
    have htest (test : String → Bool) {s t : Option String} (hs : SetOnce s t) :
        ifSpoken (s.or t) test = (ifSpoken s test && ifSpoken t test) :=
      hs.test (fun s ↦ ifSpoken s test) rfl
    simp only [both, htest _ h.todoState, htest _ h.scheduledOn, htest _ h.deadlinedOn]
    ac_rfl
  | _ => rfl

/-- Every clause of the joint filter is that of one filter and that of the other. -/
theorem joined_clauses (h : f.Apart g) (r : Record) :
    Joined (f.clauses r) (g.clauses r) ((f.both g).clauses r) := by
  have hspoken (test : String → Bool) {s t : Option String} (hst : SetOnce s t) :=
    hst.clause (fun s ↦ .ok (ifSpoken s test)) rfl
  have htask : (.ok ((f.both g).keepsTask r) : Outcome Bool) =
      and (.ok (f.keepsTask r)) (.ok (g.keepsTask r)) := by
    rw [and_ok, keepsTask_both h]
  exact .cons (h.lengthMin.clause (fun n ↦ .ok (n.all _)) rfl) <|
    .cons (h.lengthMax.clause (fun n ↦ .ok (n.all _)) rfl) <|
    .cons (h.propertiesAll.clause (keepsAllProperties · r) rfl) <|
    .cons (h.propertiesAny.clause (keepsAnyProperty · r) rfl) <|
    .cons (h.tagsAll.clause (fun tags ↦ .ok ((tags.getD []).all (hasTag r))) rfl) <|
    .cons (h.tagsAny.clause (fun tags ↦ .ok (keepsAnyTag tags r)) rfl) <|
    .cons (h.createdAfter.clause (after r.created) rfl) <|
    .cons (h.createdBefore.clause (before r.created) rfl) <|
    .cons (h.updatedAfter.clause (after r.updated) rfl) <|
    .cons (h.updatedBefore.clause (before r.updated) rfl) <|
    .cons (hspoken _ h.contains) <|
    .cons (hspoken _ h.exclude) <|
    .cons htask .nil

theorem keeps_both_eq_ok_true_iff (h : f.Apart g) (r : Record) :
    (f.both g).keeps r = .ok true ↔ f.keeps r = .ok true ∧ g.keeps r = .ok true :=
  (joined_clauses h r).all_eq_ok_true_iff

/-- The filter answers for a record: none of the comparisons that it comes to fails. -/
def Answers (f : Filter) (r : Record) : Prop := ∃ b, f.keeps r = .ok b

/-- The filter answers that it keeps a record. -/
def admits (f : Filter) (r : Record) : Bool := (f.keeps r).toOption.getD false

theorem Answers.keeps_eq {r : Record} (h : f.Answers r) : f.keeps r = .ok (f.admits r) := by
  obtain ⟨b, hb⟩ := h
  rw [admits, hb]
  rfl

theorem Answers.keeps_both {r : Record} (hfg : f.Apart g) (hf : f.Answers r) (hg : g.Answers r) :
    (f.both g).keeps r = .ok (f.admits r && g.admits r) :=
  (joined_clauses hfg r).all_eq_ok hf.keeps_eq hg.keeps_eq

section

variable {records : List Record}

theorem apply_eq_filter (h : ∀ r ∈ records, f.Answers r) :
    apply (some f) records = .ok (records.filter f.admits) :=
  filter_eq_ok fun r hr ↦ (h r hr).keeps_eq

theorem apply_both (hfg : f.Apart g) (hf : ∀ r ∈ records, f.Answers r)
    (hg : ∀ r ∈ records, g.Answers r) :
    apply (some (f.both g)) records = .ok (records.filter fun r => f.admits r && g.admits r) :=
  filter_eq_ok fun r hr ↦ (hf r hr).keeps_both hfg (hg r hr)

/-- To apply one filter and then another one. -/
theorem apply_apply (hf : ∀ r ∈ records, f.Answers r) (hg : ∀ r ∈ records, g.Answers r) :
    (apply (some f) records >>= apply (some g)) =
      .ok (records.filter fun r => g.admits r && f.admits r) := by
  rw [apply_eq_filter hf, ← List.filter_filter]
  exact apply_eq_filter fun r hr ↦ hg r (List.mem_filter.1 hr).1

end

end Filter

/-! ### Scopes -/

namespace Scope

/-- Two scopes that set no part in common. -/
structure Apart (s t : Scope) : Prop where
  namespaceName : SetOnce s.namespaceName t.namespaceName
  journal : SetOnce s.journal t.journal
  pageTitles : SetOnce s.pageTitles t.pageTitles
  tag : SetOnce s.tag t.tag

/-- The scope with the parts of two scopes; of a part that both set, that of the first. -/
def both (s t : Scope) : Scope where
  namespaceName := s.namespaceName.or t.namespaceName
  journal := s.journal.or t.journal
  pageTitles := s.pageTitles.or t.pageTitles
  tag := s.tag.or t.tag

variable {s t : Scope}

theorem keeps_both (h : s.Apart t) (r : Record) :
    (s.both t).keeps r = (s.keeps r && t.keeps r) := by
  have hname : (s.both t).keepsNamespace r = (s.keepsNamespace r && t.keepsNamespace r) :=
    h.namespaceName.test
      (fun name ↦ (spoken name).all fun space => inNamespace r.scopeName space) rfl
  have hpage : (s.both t).keepsPage r = (s.keepsPage r && t.keepsPage r) :=
    h.pageTitles.test (fun titles ↦ titles.all _) rfl
  have hjournal : (s.both t).keepsJournal r = (s.keepsJournal r && t.keepsJournal r) :=
    h.journal.test (fun journal ↦ journal.all _) rfl
  have htag : (s.both t).keepsTag r = (s.keepsTag r && t.keepsTag r) :=
    h.tag.test
      (fun tag ↦ (spoken tag).all fun tag => r.tags.contains (Outline.normalizeTag tag)) rfl
  rw [keeps, hname, hpage, hjournal, htag, keeps, keeps]
  ac_rfl

theorem apply_both (h : s.Apart t) (records : List Record) :
    apply (some (s.both t)) records = records.filter fun r => s.keeps r && t.keeps r :=
  List.filter_congr fun r _ ↦ keeps_both h r

theorem apply_apply (s t : Scope) (records : List Record) :
    apply (some t) (apply (some s) records) = records.filter fun r => t.keeps r && s.keeps r :=
  List.filter_filter

end Scope

/-- Filters that set no part in common are independent: the filter with the parts of both keeps a
record when both keep it, and where they answer for all records it leaves of these what one leaves
of what the other leaves, in their order. So a further part never adds a record. The same holds of
scopes. -/
theorem clauses_independent {f g : Filter} (hfg : f.Apart g) {s t : Scope} (hst : s.Apart t) :
    (∀ r, (f.both g).keeps r = .ok true ↔ f.keeps r = .ok true ∧ g.keeps r = .ok true) ∧
    (∀ r b b', f.keeps r = .ok b → g.keeps r = .ok b' → (f.both g).keeps r = .ok (b && b')) ∧
    (∀ records, (∀ r ∈ records, f.Answers r) → (∀ r ∈ records, g.Answers r) →
      ∃ kept wider, Filter.apply (some (f.both g)) records = .ok kept ∧
        (Filter.apply (some f) records >>= Filter.apply (some g)) = .ok kept ∧
        (Filter.apply (some g) records >>= Filter.apply (some f)) = .ok kept ∧
        Filter.apply (some f) records = .ok wider ∧
        kept.Sublist wider ∧ wider.Sublist records) ∧
    (∀ r, (s.both t).keeps r = (s.keeps r && t.keeps r)) ∧
    ∀ records, Scope.apply (some t) (Scope.apply (some s) records) =
        Scope.apply (some (s.both t)) records ∧
      Scope.apply (some s) (Scope.apply (some t) records) =
        Scope.apply (some (s.both t)) records ∧
      (Scope.apply (some (s.both t)) records).Sublist (Scope.apply (some s) records) ∧
      (Scope.apply (some s) records).Sublist records := by
  refine ⟨Filter.keeps_both_eq_ok_true_iff hfg,
    fun r b b' hb hb' ↦ (Filter.joined_clauses hfg r).all_eq_ok hb hb', fun records hf hg ↦ ?_,
    Scope.keeps_both hst, fun records ↦ ?_⟩
  · refine ⟨records.filter fun r => f.admits r && g.admits r, records.filter f.admits,
      Filter.apply_both hfg hf hg, ?_, Filter.apply_apply hg hf, Filter.apply_eq_filter hf, ?_,
      List.filter_sublist⟩
    · rw [Filter.apply_apply hf hg]
      simp only [Bool.and_comm]
    · simp only [Bool.and_comm (f.admits _), ← List.filter_filter]
      exact List.filter_sublist
  · rw [Scope.apply_apply, Scope.apply_apply, Scope.apply_both hst]
    refine ⟨?_, rfl, ?_, List.filter_sublist⟩
    · simp only [Bool.and_comm]
    · simp only [Bool.and_comm (s.keeps _), ← List.filter_filter]
      exact List.filter_sublist

/-! ### Two filters for tasks -/

/-- What has an open status, is not empty and is from 2024 or later; any tags will do. -/
def openRecently : Filter where
  lengthMin := some 1
  propertiesAny := some [("status", .text "Open")]
  tagsAll := some []
  createdAfter := some (.text "2024-01-01")

/-- What is short, has a tag, speaks of milk and is to be done if it is a task. -/
def milkToDo : Filter where
  lengthMax := some 20
  tagsAny := some ["#Home"]
  contains := some "milk"
  todoState := some " todo "

/-- A task of some status from March 2024. -/
def milkTask (id status : String) : Record where
  id := id
  content := "Buy Milk"
  properties := [("Status", .text "open")]
  tags := ["home"]
  created := some (.int 1709251200000)
  detail := .task "lists/today" status none none

/-- A page whose time cannot be read. -/
def milkPage : Record where
  id := "3"
  name := "milk"
  properties := [("status", .list [.text "new", .text "OPEN "])]
  tags := ["home"]
  created := some (.text "some day")
  detail := .page true none none

/-- An open task, a task that is done and a page. -/
def milkRecords : List Record := [milkTask "1" "TODO", milkTask "2" "DONE", milkPage]

/-- The pages of a namespace. -/
def listPages : Scope where
  namespaceName := some "/Lists"

/-- What has a tag and is no page of the journal. -/
def homeNotes : Scope where
  journal := some false
  tag := some "#home"

/-- Of an open task, a task that is done and a page, two filters leave the first and the last one in
either order, and two scopes leave the two tasks. -/
theorem milk_independent :
    openRecently.Apart milkToDo ∧ listPages.Apart homeNotes ∧
    (∃ kept, kept.map Record.id = ["1", "3"] ∧
      (Filter.apply (some openRecently) milkRecords >>= Filter.apply (some milkToDo)) = .ok kept ∧
      (Filter.apply (some milkToDo) milkRecords >>= Filter.apply (some openRecently)) = .ok kept) ∧
    (Scope.apply (some listPages) (Scope.apply (some homeNotes) milkRecords)).map Record.id =
      ["1", "2"] := by
  have hfilters : openRecently.Apart milkToDo := by constructor <;> decide
  have hscopes : listPages.Apart homeNotes := by constructor <;> decide
  obtain ⟨-, -, happly, -, hscope⟩ := clauses_independent hfilters hscopes
  have hopen : ∀ r ∈ milkRecords, (openRecently.keeps r).isOk = true := by decide +kernel
  have hmilk : ∀ r ∈ milkRecords, (milkToDo.keeps r).isOk = true := by decide +kernel
  obtain ⟨kept, wider, hkept, hthen, hthen', -⟩ := happly milkRecords
    (fun r hr ↦ Outline.isOk_iff.1 (hopen r hr)) (fun r hr ↦ Outline.isOk_iff.1 (hmilk r hr))
  have hids : ((Filter.apply (some (openRecently.both milkToDo)) milkRecords).toOption.getD []).map
      Record.id = ["1", "3"] := by decide +kernel
  rw [hkept] at hids
  refine ⟨hfilters, hscopes, ⟨kept, hids, hthen, hthen'⟩, ?_⟩
  rw [(hscope milkRecords).2.1]
  decide +kernel

end OutlineSearch
