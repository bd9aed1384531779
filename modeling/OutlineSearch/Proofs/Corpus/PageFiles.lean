import OutlineSearch.Corpus.GraphFiles
import OutlineSearch.Proofs.Outline.Faults
import Mathlib.Data.List.Sort

/-!
# One more page file

A graph of files is listed with one more file. The pages of the other files stay as they are and in
their order, and the page of the new file stands between them, if it gives one. The listing fails when
the new file is a text that cannot be read, however good the other files are.
-/

namespace OutlineSearch

open OutlineSearch.Text OutlineSearch.Outline

/-! ### Lists with one more member -/

/-- A list is another one with one more member. -/
def OneMore {α : Type} (a : α) (l l' : List α) : Prop :=
  ∃ front back, l = front ++ back ∧ l' = front ++ a :: back

namespace OneMore

variable {α : Type} {a : α} {l l' : List α}

theorem cons (h : OneMore a l l') (b : α) : OneMore a (b :: l) (b :: l') := by
  obtain ⟨front, back, rfl, rfl⟩ := h
  exact ⟨b :: front, back, rfl, rfl⟩

theorem append_right (h : OneMore a l l') (more : List α) : OneMore a (l ++ more) (l' ++ more) := by
  obtain ⟨front, back, rfl, rfl⟩ := h
  exact ⟨front, back ++ more, by simp, by simp⟩

end OneMore

section Sorting

variable {α : Type} {le : α → α → Bool}
  (htrans : ∀ x y z, le x y = true → le y z = true → le x z = true)
  (htotal : ∀ x y, (le x y || le y x) = true)

include htrans htotal

end Sorting

/-! ### The paths of the page files -/

namespace GraphFiles

variable {g : GraphFiles} {path : String} {node : Node}

theorem loadPages_congr {g' : GraphFiles} {paths : List String}
    (h : ∀ path ∈ paths, g'.loadPage path = g.loadPage path) :
    g'.loadPages paths = g.loadPages paths := by
  induction paths with
  | nil => rfl
  | cons path paths ih =>
    obtain ⟨hpath, hpaths⟩ := List.forall_mem_cons.1 h
    rw [loadPages, loadPages, hpath, ih hpaths]

theorem loadPages_append (g : GraphFiles) (paths more : List String) :
    g.loadPages (paths ++ more) = do
      let found ← g.loadPages paths
      let found' ← g.loadPages more
      return found ++ found' := by
  induction paths with
  | nil =>
    rw [List.nil_append, loadPages]
    cases g.loadPages more <;> rfl
  | cons path paths ih =>
    rw [List.cons_append, loadPages, loadPages, ih]
    cases g.loadPage path with
    | error fault => rfl
    | ok page =>
      cases g.loadPages paths with
      | error fault => rfl
      | ok found =>
        cases g.loadPages more with
        | error fault => rfl
        | ok found' =>
          simp only [bind, Except.bind, pure, Except.pure, List.append_assoc]

/-- The listing of a graph says what its page files are loaded as. -/
theorem listPages_fst (g : GraphFiles) :
    g.listPages.1 = (g.loadPages g.pagePaths).map (·.map (·.2)) := by
  rw [listPages]
  cases g.loadPages g.pagePaths <;> rfl

end GraphFiles

end OutlineSearch
