import OutlineSearch.Fault

/-!
# Checking a value against a schema

A check either yields what was read or every place where the value breaks the schema, in the order
of the fields. Two checks side by side report the issues of both. A check can also be broken off by
a fault that is no matter of the schema; then nothing else is reported.
-/

namespace OutlineSearch

/-- The result of a check. -/
inductive Checked (α : Type) where
  | valid (a : α)
  | invalid (issues : List Issue)
  | broken (fault : Fault)
deriving Repr, Inhabited

namespace Checked

variable {α β : Type}

/-- The check with its result put through a function. -/
def map (f : α → β) : Checked α → Checked β
  | valid a => valid (f a)
  | invalid issues => invalid issues
  | broken fault => broken fault

/-- Two checks side by side. -/
def apply : Checked (α → β) → Checked α → Checked β
  | broken fault, _ => broken fault
  | _, broken fault => broken fault
  | valid f, valid a => valid (f a)
  | valid _, invalid issues => invalid issues
  | invalid issues, valid _ => invalid issues
  | invalid issues, invalid more => invalid (issues ++ more)

instance : Functor Checked := ⟨map, fun a c => map (fun _ => a) c⟩

instance : Applicative Checked where
  pure := valid
  seq f a := apply f (a ())

/-- A single issue at the value itself. -/
def refuse (message : String) : Checked α := invalid [⟨[], message⟩]

/-- The check with its issues placed under a name. -/
def under (name : String) : Checked α → Checked α
  | valid a => valid a
  | invalid issues => invalid (issues.map fun i => { i with path := name :: i.path })
  | broken fault => broken fault

/-- A further check of what was read. -/
def bind (c : Checked α) (f : α → Checked β) : Checked β :=
  match c with
  | valid a => f a
  | invalid issues => invalid issues
  | broken fault => broken fault

/-- The outcome of a check. -/
def outcome : Checked α → Outcome α
  | valid a => .ok a
  | invalid issues => .error (.invalid issues)
  | broken fault => .error fault

/-- Checks of the items of a list side by side, each placed under its index. -/
def items (check : α → Checked β) (index : Nat) : List α → Checked (List β)
  | [] => valid []
  | a :: rest =>
    apply (map List.cons ((check a).under (toString index))) (items check (index + 1) rest)

@[simp] theorem map_valid (f : α → β) (a : α) : map f (valid a) = valid (f a) := rfl

@[simp] theorem apply_valid (f : α → β) (a : α) : apply (valid f) (valid a) = valid (f a) := rfl

@[simp] theorem under_valid (name : String) (a : α) : under name (valid a) = valid a := rfl

end Checked

end OutlineSearch
