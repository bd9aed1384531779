import OutlineSearch.Number.Binary64

/-!
# Stores with lifetimes

A store keeps values under keys, each for a lifetime. A value that is out of date is dropped when it
is asked for and not before.
-/

namespace OutlineSearch

/-- A value in a store. -/
structure StoreEntry (α : Type) where
  key : String
  value : α
  writtenAt : Binary64
  lifetime : Binary64
deriving Repr

/-- Whether a value is still up to date at a time. -/
def StoreEntry.isFresh {α : Type} (e : StoreEntry α) (now : Binary64) : Bool :=
  now.atMost (e.writtenAt.add e.lifetime)

/-- A store. -/
structure Store (α : Type) where
  entries : List (StoreEntry α) := []
deriving Repr

namespace Store

variable {α : Type}

/-- A store without values. -/
def empty : Store α := ⟨[]⟩

/-- The number of values that a store keeps, those out of date included. -/
def size (s : Store α) : Nat := s.entries.length

/-- The entry under a key. -/
def find? (s : Store α) (key : String) : Option (StoreEntry α) :=
  s.entries.find? fun e => e.key == key

/-- The store without the value under a key. -/
def erase (s : Store α) (key : String) : Store α := ⟨s.entries.filter fun e => e.key != key⟩

/-- The value under a key at a time, and the store without it if it is out of date. -/
def get (s : Store α) (now : Binary64) (key : String) : Option α × Store α :=
  match s.find? key with
  | none => (none, s)
  | some e => if e.isFresh now then (some e.value, s) else (none, s.erase key)

/-- The store with a value put under a key at a time. -/
def put (s : Store α) (now lifetime : Binary64) (key : String) (value : α) : Store α :=
  ⟨⟨key, value, now, lifetime⟩ :: (s.erase key).entries⟩

/-- A store that has lost all its values. -/
def clear (_ : Store α) : Store α := empty

end Store

end OutlineSearch
