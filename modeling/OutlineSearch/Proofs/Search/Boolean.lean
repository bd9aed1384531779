import OutlineSearch.Proofs.Search.Algebra
import OutlineSearch.Proofs.Search.Listing

/-!
# What boolean queries find

On a graph that stands still a conjunction finds what all its operands find and a disjunction what one
of them finds, to any depth. Whether an expression finds a record does not depend on the order of its
operands.
-/

namespace OutlineSearch

open OutlineSearch.Task OutlineSearch.Search OutlineSearch.Text

namespace Expr

mutual

/-- The atomic filters of an expression. -/
def leaves : Expr → List String
  | .atom text => [text]
  | .all operands => leavesOf operands
  | .any operands => leavesOf operands

/-- The atomic filters of some expressions. -/
def leavesOf : List Expr → List String
  | [] => []
  | operand :: rest => leaves operand ++ leavesOf rest

end

mutual

/-- The records of an expression, given those of atomic filters. -/
def records (leaf : String → List Record) : Expr → List Record
  | .atom text => leaf text
  | .all operands => intersect (sets leaf operands)
  | .any operands => union (sets leaf operands)

/-- The record sets of some expressions. -/
def sets (leaf : String → List Record) : List Expr → List (List Record)
  | [] => []
  | operand :: rest => records leaf operand :: sets leaf rest

end

mutual

/-- An expression denotes an identity, given those that atomic filters denote: a conjunction those of
all its operands, if it has any, and a disjunction those of its operands together. -/
def Denotes (leaf : String → String → Prop) (id : String) : Expr → Prop
  | .atom text => leaf text id
  | .all operands => operands ≠ [] ∧ AllDenote leaf id operands
  | .any operands => SomeDenotes leaf id operands

/-- All of some expressions denote an identity. -/
def AllDenote (leaf : String → String → Prop) (id : String) : List Expr → Prop
  | [] => True
  | operand :: rest => Denotes leaf id operand ∧ AllDenote leaf id rest

/-- One of some expressions denotes an identity. -/
def SomeDenotes (leaf : String → String → Prop) (id : String) : List Expr → Prop
  | [] => False
  | operand :: rest => Denotes leaf id operand ∨ SomeDenotes leaf id rest

end

/-- An expression with the operands in it, at any depth, in another order. -/
inductive Reordered : Expr → Expr → Prop where
  | all {operands operands' : List Expr} (h : operands.Perm operands') :
    Reordered (.all operands) (.all operands')
  | any {operands operands' : List Expr} (h : operands.Perm operands') :
    Reordered (.any operands) (.any operands')
  | inAll (front back : List Expr) {operand operand' : Expr} (h : Reordered operand operand') :
    Reordered (.all (front ++ operand :: back)) (.all (front ++ operand' :: back))
  | inAny (front back : List Expr) {operand operand' : Expr} (h : Reordered operand operand') :
    Reordered (.any (front ++ operand :: back)) (.any (front ++ operand' :: back))
  | refl (expr : Expr) : Reordered expr expr
  | trans {a b c : Expr} (h : Reordered a b) (h' : Reordered b c) : Reordered a c

section

variable {leaf : String → List Record} {denoted : String → String → Prop} {id : String}

theorem sets_eq_map (operands : List Expr) : sets leaf operands = operands.map (records leaf) := by
  induction operands with
  | nil => rfl
  | cons operand rest ih => rw [sets, ih, List.map_cons]

theorem allDenote_iff {operands : List Expr} :
    AllDenote denoted id operands ↔ ∀ operand ∈ operands, operand.Denotes denoted id := by
  induction operands with
  | nil => simp [AllDenote]
  | cons operand rest ih => simp [AllDenote, ih]

theorem someDenotes_iff {operands : List Expr} :
    SomeDenotes denoted id operands ↔ ∃ operand ∈ operands, operand.Denotes denoted id := by
  induction operands with
  | nil => simp [SomeDenotes]
  | cons operand rest ih => simp [SomeDenotes, ih]

mutual

/-- The records of an expression have the identities that it denotes. -/
theorem mem_ids_records : (expr : Expr) → (id ∈ (expr.records leaf).map Record.id ↔
    expr.Denotes (fun text id => id ∈ (leaf text).map Record.id) id)
  | .atom text => by rw [records, Denotes]
  | .all operands => by
    rw [records, Denotes, mem_ids_intersect, sets_eq_map, ne_eq, List.map_eq_nil_iff,
      List.forall_mem_map, allDenote_iff]
    exact and_congr_right fun _ ↦ forall₂_congr (mem_ids_sets operands)
  | .any operands => by
    rw [records, Denotes, mem_ids_union, sets_eq_map, someDenotes_iff]
    simp only [List.mem_map (l := operands), exists_exists_and_eq_and]
    exact exists_congr fun operand ↦ and_congr_right (mem_ids_sets operands operand)

theorem mem_ids_sets : (operands : List Expr) → ∀ operand ∈ operands,
    (id ∈ (operand.records leaf).map Record.id ↔
      operand.Denotes (fun text id => id ∈ (leaf text).map Record.id) id)
  | [] => List.forall_mem_nil _
  | operand :: rest => List.forall_mem_cons.2 ⟨mem_ids_records operand, mem_ids_sets rest⟩

end

/-- What an expression denotes does not depend on the order of operands. -/
theorem Reordered.denotes_iff {a b : Expr} (h : a.Reordered b) :
    a.Denotes denoted id ↔ b.Denotes denoted id := by
  induction h with
  | all h =>
    simp only [Denotes, allDenote_iff, h.mem_iff, ne_eq, ← List.length_eq_zero_iff, h.length_eq]
  | any h => simp only [Denotes, someDenotes_iff, h.mem_iff]
  | inAll front back h ih => simp [Denotes, allDenote_iff, or_imp, forall_and, ih]
  | inAny front back h ih => simp [Denotes, someDenotes_iff, or_and_right, exists_or, ih]
  | refl expr => rfl
  | trans _ _ ih ih' => exact ih.trans ih'

end

/-- The records of expressions follow the algebra of sets: by their identities, and by which records
of the operands stand for them in which order. -/
structure Algebraic (leaf : String → List Record) (found : Expr → List Record) : Prop where
  atom : ∀ text, found (.atom text) = leaf text
  ids : ∀ expr id, id ∈ (found expr).map Record.id ↔
    expr.Denotes (fun text id => id ∈ (leaf text).map Record.id) id
  allNone : found (.all []) = []
  all : ∀ first others, found (.all (first :: others)) =
    (found first).filter fun r => others.all fun operand => hasId r.id (found operand)
  anyNone : found (.any []) = []
  any : ∀ operands, FirstSeen (operands.flatMap found) (found (.any operands))
  reordered : ∀ expr expr', expr.Reordered expr' →
    ∀ id, id ∈ (found expr).map Record.id ↔ id ∈ (found expr').map Record.id

theorem algebraic_records (leaf : String → List Record) : Algebraic leaf (records leaf) where
  atom text := by rw [records]
  ids expr id := mem_ids_records expr
  allNone := by rw [records, sets, intersect]
  all first others := by
    rw [records, sets, intersect, sets_eq_map]
    simp only [List.all_map, Function.comp_def]
  anyNone := by rw [records, sets]; rfl
  any operands := by
    rw [records, sets_eq_map, List.flatMap_def]
    exact firstSeen_union _
  reordered expr expr' h id := by
    rw [mem_ids_records, mem_ids_records, h.denotes_iff]

end Expr

/-! ### Evaluating on a graph -/

/-- The faults that are passed over where an atomic filter is evaluated. -/
def Fault.PassedOver : Fault → Prop
  | .badQuery _ | .provider _ => True
  | _ => False

theorem Script.run_rescue {α : Type} (g : Graph) (handler : Fault → Outcome α) (s : Script α) :
    (s.rescue handler).run g = match s.run g with
      | .ok a => .ok a
      | .error fault => handler fault := by
  induction s with
  | done r => cases r <;> rfl
  | pages next ih => exact ih _
  | templates next ih => exact ih _
  | blocks page next ih => exact ih _
  | trees names next ih => exact ih _

namespace Evaluator

variable {e : Evaluator} {g : Graph} {target : Target} {scope : Option Scope} {expr : Expr}

/-- What an atomic filter ends with on a graph before its faults are passed over. -/
def leafOutcome (e : Evaluator) (g : Graph) (target : Target) (scope : Option Scope)
    (text : String) : Outcome (List Record) :=
  if isBlankString text then .ok [] else (e.dispatch (trimmed text) target scope).run g

/-- What an atomic filter finds: nothing when it is malformed or the provider fails. -/
def leafRecords (e : Evaluator) (g : Graph) (target : Target) (scope : Option Scope)
    (text : String) : List Record :=
  match e.leafOutcome g target scope text with
  | .ok records => records
  | .error _ => []

/-- No atomic filter of an expression fails with anything but a fault that is passed over. -/
def LeavesPass (e : Evaluator) (g : Graph) (target : Target) (scope : Option Scope)
    (expr : Expr) : Prop :=
  ∀ text ∈ expr.leaves, ∀ fault, e.leafOutcome g target scope text = .error fault →
    fault.PassedOver

/-- What an expression is answered with: only a strict atomic filter tells that it is malformed. -/
def answered (e : Evaluator) (g : Graph) (target : Target) (scope : Option Scope) (strict : Bool) :
    Expr → Outcome (List Record)
  | .atom text =>
    match e.leafOutcome g target scope text with
    | .error (.badQuery message) =>
      if strict then .error (.badQuery message) else .ok []
    | _ => .ok (e.leafRecords g target scope text)
  | expr => .ok (expr.records (e.leafRecords g target scope))

theorem run_atom (strict : Bool) {text : String} (h : ∀ fault,
    e.leafOutcome g target scope text = .error fault → fault.PassedOver) :
    run e g target scope strict (.atom text) = e.answered g target scope strict (.atom text) := by
  rw [run, atom, answered, leafRecords]
  unfold leafOutcome at h ⊢
  by_cases hblank : isBlankString text
  · simp only [if_pos hblank]
    rfl
  · simp only [if_neg hblank] at h ⊢
    rw [Script.run_rescue]
    cases houtcome : (e.dispatch (trimmed text) target scope).run g with
    | ok records => rfl
    | error fault =>
      have hpassed := h fault houtcome
      cases fault with
      | badQuery message => rfl
      | provider message => rfl
      | _ => exact hpassed.elim

theorem answered_false (expr : Expr) : e.answered g target scope false expr =
    .ok (expr.records (e.leafRecords g target scope)) := by
  cases expr with
  | atom text =>
    rw [answered, Expr.records, leafRecords]
    split
    · next h => rw [h]; rfl
    · rfl
  | all operands => rfl
  | any operands => rfl

theorem exists_of_answered_error {strict : Bool} {fault : Fault}
    (h : e.answered g target scope strict expr = .error fault) :
    ∃ message, fault = .badQuery message := by
  cases expr with
  | atom text =>
    rw [answered] at h
    split at h
    · next message _ =>
      split at h
      · exact ⟨message, (Except.error.inj h).symm⟩
      · cases h
    · cases h
  | all operands => cases h
  | any operands => cases h

mutual

/-- On a graph an expression finds what it is answered with. -/
theorem run_eq_answered : (expr : Expr) → (strict : Bool) → e.LeavesPass g target scope expr →
    run e g target scope strict expr = e.answered g target scope strict expr
  | .atom text, strict, h => run_atom strict (h text (List.mem_singleton_self _))
  | .all operands, strict, h => by
    rw [run, runAll_eq_sets operands h]
    rfl
  | .any operands, strict, h => by
    rw [run, runAll_eq_sets operands h]
    rfl

theorem runAll_eq_sets : (operands : List Expr) →
    (∀ text ∈ Expr.leavesOf operands, ∀ fault, e.leafOutcome g target scope text = .error fault →
      fault.PassedOver) →
    runAll e g target scope operands = .ok (Expr.sets (e.leafRecords g target scope) operands)
  | [], _ => rfl
  | operand :: rest, h => by
    have hoperand : e.LeavesPass g target scope operand := fun text htext ↦
      h text (List.mem_append_left _ htext)
    rw [runAll, run_eq_answered operand false hoperand, answered_false,
      runAll_eq_sets rest fun text htext ↦ h text (List.mem_append_right _ htext)]
    rfl

end

end Evaluator

namespace Search

open Engine Evaluator

variable {w : World} {g : Graph} {target : Target} {scope : Option Scope} {expr : Expr}

/-- An expression is answered with its records, whatever its operands do side by side, and records of
expressions follow the algebra of sets. -/
theorem evaluate_algebraic (hg : g.Regular) (hp : w.provider.Serves g) (hw : (w.lore g).Holds w)
    (hflights : w.flights = []) (strict : Bool)
    (hleaves : w.evaluator.LeavesPass g.told target scope expr) :
    Returns w (.evaluate expr target strict scope) ∧
      (∀ reply, MayReturn w (.evaluate expr target strict scope) reply →
        reply = (w.evaluator.answered g.told target scope strict expr).map .records) ∧
      Expr.Algebraic (w.evaluator.leafRecords g.told target scope)
        (Expr.records (w.evaluator.leafRecords g.told target scope)) := by
  have hL : (w.lore g).Fair := Lore.fair_exactly hg hp
  have hexact : (w.lore g).Exact g.told := Lore.exact_exactly ..
  have hrun := run_eq_answered expr strict hleaves
  have hsound : Sound (w.lore g).contract failed
      (· = (w.evaluator.answered g.told target scope strict expr).map .records) .none
      ((Operation.evaluate expr target strict scope).job .finish) w := by
    refine .look (safe_job hL w.evaluator target scope expr strict (fun found hfound ↦ ?_) w hw)
    refine Lore.safe_finish ?_
    rcases hfound.eq_run hL hexact with rfl | ⟨fault, fault', rfl, hfault, -, hother⟩
    · rw [hrun]
    · obtain ⟨message, rfl⟩ := exists_of_answered_error (hrun.symm.trans hfault)
      cases hother
  have hsettles := settles_asked hw hflights hsound
  exact ⟨hsettles.mono fun l ⟨r, hr, _⟩ ↦ ⟨r, hr⟩, fun r hr ↦ MayReturn.of_settles hsettles hr,
    Expr.algebraic_records _⟩

/-! ### A graph with one page -/

/-- The world around a graph with one page. -/
def lonePageWorld : World := .around (.ofPage lonePage) (.ofInt 1000) someDay

/-- With a fresh corpus a world keeps to what any graph holds. -/
theorem holds_around (g : MemoryGraph) (clock : Binary64) (today : Date)
    (graph : Graph) :
    ((World.around g clock today).lore graph).Holds (.around g clock today) :=
  (World.around g clock today).holds_fresh graph

/-- Every page or a malformed filter, and a text. -/
def nestedExpr : Expr := .all [.any [.atom "*", .atom "property:"], .atom "a"]

theorem leavesPass_nestedExpr :
    lonePageWorld.evaluator.LeavesPass (Graph.ofPage lonePage).told .pages none nestedExpr := by
  intro text htext fault hfault
  simp only [nestedExpr, Expr.leaves, Expr.leavesOf, List.append_nil, List.mem_cons,
    List.not_mem_nil, or_false, List.cons_append, List.nil_append] at htext
  rcases htext with rfl | rfl | rfl
  · have hall : lonePageWorld.evaluator.leafOutcome (Graph.ofPage lonePage).told .pages none "*" =
        .ok [Record.ofPage lonePage none] := rfl
    cases hfault.symm.trans hall
  · obtain ⟨message, hmalformed⟩ : ∃ message, lonePageWorld.evaluator.leafOutcome
        (Graph.ofPage lonePage).told .pages none "property:" = .error (.badQuery message) :=
      ⟨_, rfl⟩
    obtain rfl := Except.error.inj (hfault.symm.trans hmalformed)
    trivial
  · have hok : (lonePageWorld.evaluator.leafOutcome (Graph.ofPage lonePage).told .pages none
        "a").isOk = true := by decide +kernel
    rw [hfault] at hok
    cases hok

/-- The malformed filter finds nothing, and the page is found for the others. -/
theorem lonePage_evaluated :
    Returns lonePageWorld (.evaluate nestedExpr .pages true none) ∧
      ∃ records, records.map Record.id = ["1"] ∧
        ∀ reply, MayReturn lonePageWorld (.evaluate nestedExpr .pages true none) reply →
          reply = .ok (.records records) := by
  obtain ⟨hreturns, hreply, -⟩ := evaluate_algebraic (Graph.regular_ofPage lonePage)
    (Provider.serves_ofPage lonePage) (holds_around ..) rfl true leavesPass_nestedExpr
  exact ⟨hreturns, nestedExpr.records (lonePageWorld.evaluator.leafRecords
    (Graph.ofPage lonePage).told .pages none), by decide +kernel, hreply⟩

end Search

end OutlineSearch
